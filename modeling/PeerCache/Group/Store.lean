/-
Module: PeerCache.Group.Store
Purpose: The views that a node keeps of one group.
Main exports:
  Store, Store.find?, Store.insert, Store.erase
-/
import PeerCache.View

/-!
A store holds at most one view for each key.  Each operation is stated by what it does
to a look-up: `find?_insert` and `find?_erase`.
-/

namespace PeerCache

theorem lookup_filter_ne {β : Type} (entries : List (String × β)) (key other : String) :
    (entries.filter fun entry => entry.1 ≠ key).lookup other =
      if other = key then none else entries.lookup other := by
  induction entries with
  | nil => split <;> rfl
  | cons entry rest hyp =>
      obtain ⟨name, value⟩ := entry
      by_cases wanted : other = name
      · by_cases same : name = key
        · subst same wanted
          simpa using hyp
        · subst wanted
          simp [same]
      · have differs : (other == name) = false := by simp [wanted]
        by_cases same : name = key
        · subst same
          simpa [List.lookup_cons, differs] using hyp
        · simpa [same, List.lookup_cons, differs] using hyp

/-- Views by key. -/
structure Store where
  entries : List (String × View)
deriving Repr, DecidableEq, Inhabited

namespace Store

/-- The store without entries. -/
def empty : Store := ⟨[]⟩

/-- The view kept for a key. -/
def find? (store : Store) (key : String) : Option View :=
  store.entries.lookup key

/-- Forgets the view of a key. -/
def erase (store : Store) (key : String) : Store :=
  ⟨store.entries.filter fun entry => entry.1 ≠ key⟩

/-- Keeps a view for a key, in place of an earlier one. -/
def insert (store : Store) (key : String) (view : View) : Store :=
  ⟨(key, view) :: (store.erase key).entries⟩

/-- The number of keys with a view. -/
def size (store : Store) : Nat :=
  store.entries.length

@[simp] theorem find?_empty (key : String) : empty.find? key = none := rfl

theorem find?_erase (store : Store) (key other : String) :
    (store.erase key).find? other = if other = key then none else store.find? other :=
  lookup_filter_ne store.entries key other

@[simp] theorem find?_erase_self (store : Store) (key : String) :
    (store.erase key).find? key = none := by
  rw [find?_erase, if_pos rfl]

theorem erase_of_find?_eq_none {store : Store} {key : String} (absent : store.find? key = none) :
    store.erase key = store := by
  obtain ⟨entries⟩ := store
  rw [find?, List.lookup_eq_none_iff] at absent
  have kept : ∀ entry ∈ entries, decide (entry.1 ≠ key) = true := fun entry member => by
    have differs : entry.1 ≠ key := fun same => absurd (absent entry member) (by simp [same])
    exact decide_eq_true differs
  rw [erase, List.filter_eq_self.mpr kept]

theorem find?_insert (store : Store) (key other : String) (view : View) :
    (store.insert key view).find? other =
      if other = key then some view else store.find? other := by
  have kept := find?_erase store key other
  by_cases wanted : other = key
  · simp [find?, insert, wanted]
  · have differs : (other == key) = false := by simp [wanted]
    simpa [find?, insert, wanted, List.lookup_cons, differs] using kept

end Store

end PeerCache
