/-
Module: PeerCache.Proofs.Ring.ClosedForm
Purpose: What a ring is, said without how it was made.
Main exports:
  Ring.Taken, Ring.SitsLast, Ring.MetFirst, Ring.added_closed_form
-/
import PeerCache.Proofs.Ring.Ownership

/-!
A ring is made by putting points on it, one after another, where a later point takes over the
place of an earlier one.  What comes of this is said here by the peers alone.  A place is taken
if some copy of some peer sits there (`Taken`), and it belongs to the last peer of the list that
has a copy there (`SitsLast`).  A key belongs to whoever has the taken place that is met first on
the way around the ring (`MetFirst`): the least at or after the key's own, or the least of all if
none is ahead.

It makes no difference whether the peers are added at once or in several calls.
-/

namespace PeerCache

namespace Ring

/-- Some copy of one of the peers has its place here. -/
def Taken (hash : RingHash) (replicas : Nat) (peers : List String) (place : UInt32) : Prop :=
  ∃ peer ∈ peers, ∃ index < replicas, placeOf hash peer index = place

/-- The peer has a copy at the place, and none of the peers after it in the list has. -/
def SitsLast (hash : RingHash) (replicas : Nat) (peers : List String) (place : UInt32)
    (peer : String) : Prop :=
  ∃ before after, peers = before ++ peer :: after ∧
    (∃ index < replicas, placeOf hash peer index = place) ∧ ¬ Taken hash replicas after place

/-- The taken place that is met first on the way around the ring from a place on: the least at or
after it; or the least of all, if none is ahead. -/
inductive MetFirst (taken : UInt32 → Prop) (start place : UInt32) : Prop where
  | ahead (isTaken : taken place) (reached : start ≤ place)
      (least : ∀ other, taken other → start ≤ other → place ≤ other)
  | around (isTaken : taken place) (none_ahead : ∀ other, taken other → ¬ start ≤ other)
      (least : ∀ other, taken other → place ≤ other)

variable {hash : RingHash} {replicas : Nat} {peers : List String} {place : UInt32} {peer : String}

/-! ## Places -/

theorem sitsAt_eq_true_iff :
    sitsAt hash replicas place peer = true ↔
      ∃ index < replicas, placeOf hash peer index = place := by
  simp [sitsAt]

/-- The last peer with a copy at a place is followed by none that has one there. -/
theorem lastAt?_eq_some_iff :
    lastAt? hash replicas peers place = some peer ↔ SitsLast hash replicas peers place peer := by
  have nobody (after : List String) :
      after.filter (sitsAt hash replicas place) = [] ↔ ¬ Taken hash replicas after place := by
    simp [List.filter_eq_nil_iff, Taken, sitsAt_eq_true_iff]
  rw [lastAt?, List.getLast?_eq_some_iff]
  constructor
  · rintro ⟨earlier, split⟩
    obtain ⟨before, rest, rfl, -, tail⟩ := List.filter_eq_append_iff.mp split
    obtain ⟨between, after, rfl, -, here, empty⟩ := List.filter_eq_cons_iff.mp tail
    exact ⟨before ++ between, after, (List.append_assoc ..).symm, sitsAt_eq_true_iff.mp here,
      (nobody after).mp empty⟩
  · rintro ⟨before, after, rfl, here, free⟩
    refine ⟨before.filter (sitsAt hash replicas place), ?_⟩
    rw [List.filter_append, List.filter_cons_of_pos (sitsAt_eq_true_iff.mpr here),
      (nobody after).mpr free]

/-- A place is taken just if somebody is the last to sit there. -/
theorem exists_sitsLast_iff :
    (∃ peer, SitsLast hash replicas peers place peer) ↔ Taken hash replicas peers place := by
  simp only [← lastAt?_eq_some_iff, exists_lastAt?_iff, sitsAt_eq_true_iff, Taken]

/-! ## Points -/

/-- Only without copies or without peers does a key belong to nobody. -/
theorem owner?_added_eq_none_iff {key : String} :
    ((empty replicas hash).add peers).owner? key = none ↔ replicas = 0 ∨ peers = [] := by
  constructor
  · intro nobody
    rcases Nat.eq_zero_or_pos replicas with no_replica | some_replica
    · exact Or.inl no_replica
    · cases peers with
      | nil => exact Or.inr rfl
      | cons first rest =>
          obtain ⟨owner, found⟩ := exists_owner some_replica (List.cons_ne_nil first rest) key
          rw [nobody] at found
          cases found
  · intro no_copy
    rw [owner?_eq_none_iff, List.eq_nil_iff_forall_not_mem]
    rintro ⟨place, peer⟩ member
    obtain ⟨listed, here⟩ := mem_of_lastAt? (mem_points_add_iff.mp member)
    obtain ⟨index, below, -⟩ := sitsAt_eq_true_iff.mp here
    rcases no_copy with rfl | rfl
    · exact Nat.not_lt_zero index below
    · cases listed

/-- A point serves a place just if its own place is the first of all points' that is met. -/
theorem serves_iff_metFirst {points : List RingPoint} {start : UInt32} {point : RingPoint} :
    Serves points start point ↔ point ∈ points ∧
      MetFirst (fun place => ∃ peer, ⟨place, peer⟩ ∈ points) start point.place := by
  constructor
  · intro serves
    refine ⟨serves.member, ?_⟩
    cases serves with
    | ahead member reached nearest =>
        exact .ahead ⟨point.peer, member⟩ reached fun other ⟨_, there⟩ => nearest _ there
    | around member past first =>
        exact .around ⟨point.peer, member⟩
          (fun other ⟨_, there⟩ => UInt32.not_le.mpr (past _ there))
          fun other ⟨_, there⟩ => first _ there
  · rintro ⟨member, met⟩
    cases met with
    | ahead _ reached least =>
        exact .ahead member reached fun other there => least other.place ⟨other.peer, there⟩
    | around _ none_ahead least =>
        exact .around member
          (fun other there => UInt32.not_le.mp (none_ahead other.place ⟨other.peer, there⟩))
          fun other there => least other.place ⟨other.peer, there⟩

/-- Lists that are added one after another are added as one. -/
theorem foldl_add (ring : Ring) (added : List (List String)) :
    added.foldl add ring = ring.add added.flatten := by
  rw [add, List.foldl_flatten]
  rfl

/-- What a ring is after peers were added to it, all at once or in several calls.

Its points are in order, no two in one place; there is one just in the places where some copy of
some peer sits, and it belongs to the last peer that has a copy there.  A key belongs to whoever
has the taken place that is met first from the key's own place on.  It belongs to nobody just if
there are no copies or no peers, and otherwise to one of the peers. -/
theorem added_closed_form (hash : RingHash) (replicas : Nat) (added : List (List String)) :
    let ring := added.foldl add (empty replicas hash)
    let peers := added.flatten
    Ordered ring.points ∧
    (∀ place, (∃ peer, ⟨place, peer⟩ ∈ ring.points) ↔ Taken hash replicas peers place) ∧
    (∀ place peer, ⟨place, peer⟩ ∈ ring.points ↔ SitsLast hash replicas peers place peer) ∧
    (∀ key peer, ring.owner? key = some peer ↔
      ∃ place, MetFirst (Taken hash replicas peers) (hash (Bytes.ofString key)) place ∧
        SitsLast hash replicas peers place peer) ∧
    (∀ key, ring.owner? key = none ↔ replicas = 0 ∨ peers = []) ∧
    (∀ key, ∀ peer ∈ ring.owner? key, peer ∈ peers) := by
  intro ring peers
  have made : ring = (empty replicas hash).add peers := foldl_add _ added
  have holds (place : UInt32) (peer : String) :
      ⟨place, peer⟩ ∈ ring.points ↔ SitsLast hash replicas peers place peer := by
    rw [made, mem_points_add_iff, lastAt?_eq_some_iff]
  have places (place : UInt32) :
      (∃ peer, ⟨place, peer⟩ ∈ ring.points) ↔ Taken hash replicas peers place := by
    simp only [holds, exists_sitsLast_iff]
  refine ⟨made ▸ ordered_added hash replicas peers, places, holds, ?_, ?_, ?_⟩
  · intro key peer
    rw [made, owner?_eq_some_iff, ← made]
    simp only [serves_iff_metFirst, holds, exists_sitsLast_iff]
    exact exists_congr fun place => and_comm
  · intro key
    rw [made]
    exact owner?_added_eq_none_iff
  · intro key peer found
    rw [made] at found
    exact owner_mem found

/-- Three peers with three places each, between 2 and 26: past the last place the ring starts over,
until a peer comes that has a place after that. -/
example :
    ((empty 3 .numeral).add ["6", "4", "2"]).owner? "11" = some "2" ∧
    ((empty 3 .numeral).add ["6", "4", "2"]).owner? "27" = some "2" ∧
    (((empty 3 .numeral).add ["6", "4", "2"]).add ["8"]).owner? "27" = some "8" := by
  decide +kernel

end Ring

end PeerCache
