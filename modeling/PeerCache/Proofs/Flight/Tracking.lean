/-
Module: PeerCache.Proofs.Flight.Tracking
Purpose: The entries of a flight are the calls under way, one for each key.
Main exports:
  Flight.Running, Flight.Tracks, Flight.Tracks.begin, Flight.Tracks.settle,
  Flight.Tracks.find?_eq_some_iff
-/
import PeerCache.Flight

/-!
A flight tracks a list of live calls if its entries name exactly these calls, each under
the key it is for, and no key twice, and if no other call is running.  Beginning a call
for a free key adds it to the live calls, and ending a live call takes it out.

Ending a call looks its key up and frees it only if the entry is still the call's own.
For a live call it always is: `Tracks.find?_of_live`.
-/

namespace PeerCache

section Lists

/-- In a list without a repeated key, an entry is what the look-up of its key finds. -/
theorem lookup_eq_some_iff_mem {β : Type} {entries : List (String × β)} {key : String} {value : β}
    (keys : (entries.map Prod.fst).Nodup) :
    entries.lookup key = some value ↔ (key, value) ∈ entries := by
  induction entries with
  | nil => simp
  | cons entry rest hyp =>
      obtain ⟨name, stored⟩ := entry
      rw [List.map_cons, List.nodup_cons] at keys
      rw [List.lookup_cons, List.mem_cons]
      by_cases same : key = name
      · subst same
        have absent : (key, value) ∉ rest := by
          intro member
          exact keys.1 (List.mem_map.mpr ⟨_, member, rfl⟩)
        simp [absent, eq_comm]
      · have differs : (key == name) = false := by simpa using same
        simp [differs, same, hyp keys.2]

/-- Without a repeated key, all but the entry of one key are those of other keys. -/
theorem perm_cons_filter_key {β : Type} {entries : List (String × β)} {key : String} {value : β}
    (keys : (entries.map Prod.fst).Nodup) (member : (key, value) ∈ entries) :
    entries.Perm ((key, value) :: entries.filter fun entry => entry.1 ≠ key) := by
  induction entries with
  | nil => cases member
  | cons entry rest hyp =>
      rw [List.map_cons, List.nodup_cons] at keys
      rcases List.mem_cons.mp member with here | later
      · subst here
        have others : (rest.filter fun entry => decide (entry.1 ≠ key)) = rest := by
          rw [List.filter_eq_self]
          intro other inRest
          have apart : other.1 ≠ key := by
            intro same
            exact keys.1 (List.mem_map.mpr ⟨other, inRest, same⟩)
          simpa using apart
        simp only [ne_eq, decide_not] at others
        simp [others]
      · have apart : entry.1 ≠ key := by
          intro same
          apply keys.1
          rw [same]
          exact List.mem_map_of_mem later
        rw [List.filter_cons_of_pos (by simpa using apart)]
        exact ((hyp keys.2 later).cons entry).trans (List.Perm.swap _ _ _)

/-- A list with one element replaced: what the elements give, given that all the others
give stays. -/
theorem flatMap_set_perm {β γ : Type} (give : β → List γ) {list : List β} {index : Nat}
    {element : β} (at_ : list[index]? = some element) :
    ∃ others, (list.flatMap give).Perm (give element ++ others) ∧
      ∀ next, ((list.set index next).flatMap give).Perm (give next ++ others) := by
  induction list generalizing index with
  | nil => simp at at_
  | cons first rest hyp =>
      cases index with
      | zero =>
          rw [List.getElem?_cons_zero, Option.some.injEq] at at_
          subst at_
          exact ⟨rest.flatMap give, by simp, fun next => by simp⟩
      | succ index =>
          rw [List.getElem?_cons_succ] at at_
          obtain ⟨others, now, after⟩ := hyp at_
          refine ⟨give first ++ others, ?_, fun next => ?_⟩
          · rw [List.flatMap_cons]
            exact (now.append_left _).trans (List.perm_append_comm_assoc _ _ _)
          · rw [List.set_cons_succ, List.flatMap_cons]
            exact ((after next).append_left _).trans (List.perm_append_comm_assoc _ _ _)

end Lists

namespace Flight

variable {α : Type} {flight : Flight α} {live : List CallId} {id : CallId} {key : String}

/-- A call that was begun for a key and has not ended. -/
def Running (flight : Flight α) (id : CallId) (key : String) : Prop :=
  ∃ call, flight.calls[id]? = some call ∧ call.key = key ∧ call.state = .running

/-- A call that was begun for a key, whether or not it has ended. -/
def IsFor (flight : Flight α) (id : CallId) (key : String) : Prop :=
  ∃ call, flight.calls[id]? = some call ∧ call.key = key

/-- The entries of the flight are the live calls, and these are the running ones. -/
structure Tracks (flight : Flight α) (live : List CallId) : Prop where
  /-- Each live call has one entry, and no other call has one. -/
  ids : (flight.entries.map Prod.snd).Perm live
  /-- No key has two entries. -/
  keys : (flight.entries.map Prod.fst).Nodup
  /-- An entry is for the key of its call, and the calls with entries are those running. -/
  mem_entries_iff : ∀ key id, (key, id) ∈ flight.entries ↔ flight.Running id key

/-! ## What beginning and ending a call do to the calls that are running -/

theorem Running.lt_length (running : flight.Running id key) : id < flight.calls.length := by
  obtain ⟨call, found, -, -⟩ := running
  exact (List.getElem?_eq_some_iff.mp found).1

theorem Running.isFor (running : flight.Running id key) : flight.IsFor id key := by
  obtain ⟨call, found, same, -⟩ := running
  exact ⟨call, found, same⟩

theorem IsFor.key_unique {other : String} (one : flight.IsFor id key)
    (two : flight.IsFor id other) : key = other := by
  obtain ⟨call, found, rfl⟩ := one
  obtain ⟨call', found', rfl⟩ := two
  rw [found, Option.some.injEq] at found'
  rw [found']

theorem Running.answer?_eq_none (running : flight.Running id key) :
    flight.answer? id = none := by
  obtain ⟨⟨label, name, created, state⟩, found, -, isRunning⟩ := running
  simp only at isRunning
  simp only [answer?, found, isRunning]

/-- A call that answers nothing yet has not ended. -/
theorem IsFor.running (known : flight.IsFor id key) (unanswered : flight.answer? id = none) :
    flight.Running id key := by
  obtain ⟨⟨label, name, created, state⟩, found, same⟩ := known
  refine ⟨_, found, same, ?_⟩
  simp only [answer?, found] at unanswered
  match state with
  | .running => rfl
  | .ended (some result) => cases unanswered
  | .ended none => cases unanswered

@[simp] theorem calls_begin (flight : Flight α) (label key : String) (now : Instant) :
    (flight.begin label key now).2.calls = flight.calls ++ [⟨label, key, now, .running⟩] := rfl

@[simp] theorem entries_begin (flight : Flight α) (label key : String) (now : Instant) :
    (flight.begin label key now).2.entries = flight.entries ++ [(key, flight.calls.length)] := rfl

theorem running_begin_iff {label name : String} {now : Instant} :
    (flight.begin label name now).2.Running id key ↔
      flight.Running id key ∨ id = flight.calls.length ∧ key = name := by
  unfold Running
  rw [calls_begin, List.getElem?_append]
  constructor
  · rintro ⟨call, found, rfl, running⟩
    split at found
    case isTrue => exact Or.inl ⟨call, found, rfl, running⟩
    case isFalse late =>
        rw [List.getElem?_singleton] at found
        split at found
        case isTrue last =>
            rw [Option.some.injEq] at found
            subst found
            have same : id = flight.calls.length :=
              Nat.le_antisymm (Nat.sub_eq_zero_iff_le.mp last) (Nat.le_of_not_lt late)
            exact Or.inr ⟨same, rfl⟩
        case isFalse => cases found
  · rintro (⟨call, found, rfl, running⟩ | ⟨rfl, rfl⟩)
    · have bound := (List.getElem?_eq_some_iff.mp found).1
      exact ⟨call, by rw [if_pos bound]; exact found, rfl, running⟩
    · exact ⟨_, by simp; rfl, rfl, rfl⟩

/-- Ending a call does nothing to the entries but free the key of the call. -/
theorem settle_of_call {call : Call α} {result : Option (Result α)}
    (found : flight.calls[id]? = some call) :
    flight.settle id result =
      release { flight with calls := flight.calls.set id { call with state := .ended result } }
        call.key id := by
  simp only [settle, found]

@[simp] theorem calls_release (flight : Flight α) (key : String) (id : CallId) :
    (flight.release key id).calls = flight.calls := by
  unfold release
  split <;> rfl

theorem calls_settle {call : Call α} {result : Option (Result α)}
    (found : flight.calls[id]? = some call) :
    (flight.settle id result).calls =
      flight.calls.set id { call with state := .ended result } := by
  rw [settle_of_call found, calls_release]

theorem lt_length_of_answer? {result : Result α} (answered : flight.answer? id = some result) :
    id < flight.calls.length := by
  cases found : flight.calls[id]? with
  | none => simp only [answer?, found, reduceCtorEq] at answered
  | some call => exact (List.getElem?_eq_some_iff.mp found).1

theorem answer?_congr {other : Flight α} (same : other.calls[id]? = flight.calls[id]?) :
    other.answer? id = flight.answer? id := by
  rw [answer?, same, answer?]

/-- A call that has just begun answers nothing yet. -/
theorem answer?_begin (flight : Flight α) (label key : String) (now : Instant) (id : CallId) :
    (flight.begin label key now).2.answer? id = flight.answer? id := by
  by_cases known : id < flight.calls.length
  · exact answer?_congr (List.getElem?_append_left known)
  · have late := Nat.le_of_not_lt known
    rw [answer?, answer?, calls_begin, List.getElem?_append_right late,
      List.getElem?_eq_none late, List.getElem?_singleton]
    by_cases new : id - flight.calls.length = 0
    · rw [if_pos new]
    · rw [if_neg new]

/-- An answer after a call was ended was there before, or is what followers of this call get. -/
theorem answer?_settle_cases {other : CallId} {result : Option (Result α)} {answer : Result α}
    (answered : (flight.settle other result).answer? id = some answer) :
    flight.answer? id = some answer ∨
      other = id ∧ answer = result.getD (.error .leaderFailed) := by
  cases found : flight.calls[other]? with
  | none =>
      rw [settle, found] at answered
      exact Or.inl answered
  | some call =>
      by_cases same : other = id
      · subst same
        have bound := (List.getElem?_eq_some_iff.mp found).1
        rw [answer?, calls_settle found, List.getElem?_set_self bound] at answered
        cases result with
        | none => exact Or.inr ⟨rfl, (Option.some.inj answered).symm⟩
        | some given => exact Or.inr ⟨rfl, (Option.some.inj answered).symm⟩
      · left
        rw [← answered]
        apply answer?_congr
        rw [calls_settle found, List.getElem?_set_ne same]

/-- What followers of a call get, once its leader has ended it. -/
theorem Running.answer?_settle (running : flight.Running id key) (result : Option (Result α)) :
    (flight.settle id result).answer? id = some (result.getD (.error .leaderFailed)) := by
  have bound := running.lt_length
  obtain ⟨call, found, -, -⟩ := running
  rw [answer?, calls_settle found, List.getElem?_set_self bound]
  cases result <;> rfl

theorem length_calls_settle (flight : Flight α) (id : CallId) (result : Option (Result α)) :
    (flight.settle id result).calls.length = flight.calls.length := by
  cases found : flight.calls[id]? with
  | none => simp only [settle, found]
  | some call => rw [calls_settle found, List.length_set]

/-- Beginning a call changes none of the keys that calls are for. -/
theorem IsFor.begin (known : flight.IsFor id key) (label name : String) (now : Instant) :
    (flight.begin label name now).2.IsFor id key := by
  obtain ⟨call, found, same⟩ := known
  have bound := (List.getElem?_eq_some_iff.mp found).1
  exact ⟨call, (List.getElem?_append_left bound).trans found, same⟩

/-- Ending a call changes none of the keys that calls are for. -/
theorem IsFor.settle (known : flight.IsFor id key) (other : CallId)
    (result : Option (Result α)) : (flight.settle other result).IsFor id key := by
  cases found : flight.calls[other]? with
  | none => simpa only [Flight.settle, found] using known
  | some ended =>
      obtain ⟨call, at_, same⟩ := known
      unfold IsFor
      rw [calls_settle found, List.getElem?_set]
      by_cases here : other = id
      · subst here
        have bound := (List.getElem?_eq_some_iff.mp found).1
        rw [found, Option.some.injEq] at at_
        refine ⟨{ ended with state := .ended result }, by rw [if_pos rfl, if_pos bound], ?_⟩
        rw [← same, ← at_]
      · exact ⟨call, by rw [if_neg here, at_], same⟩

theorem running_settle_iff {other : CallId} {result : Option (Result α)} :
    (flight.settle id result).Running other key ↔ flight.Running other key ∧ other ≠ id := by
  cases found : flight.calls[id]? with
  | none =>
      have absent : flight.Running other key → other ≠ id := by
        rintro ⟨call, foundOther, -, -⟩ rfl
        rw [found] at foundOther
        cases foundOther
      simp only [settle, found]
      exact ⟨fun running => ⟨running, absent running⟩, And.left⟩
  | some call =>
      unfold Running
      rw [calls_settle found, List.getElem?_set]
      by_cases same : other = id
      · subst same
        have bound := (List.getElem?_eq_some_iff.mp found).1
        simp [bound]
      · have apart : ¬ id = other := by
          intro equal
          exact same equal.symm
        simp [apart, same]

namespace Tracks

theorem empty : (Flight.empty : Flight α).Tracks [] where
  ids := List.Perm.refl _
  keys := List.Pairwise.nil
  mem_entries_iff key id := by simp [Flight.empty, Running]

theorem perm {other : List CallId} (tracks : flight.Tracks live) (same : live.Perm other) :
    flight.Tracks other where
  ids := tracks.ids.trans same
  keys := tracks.keys
  mem_entries_iff := tracks.mem_entries_iff

/-- What is under way for a key is the running call for it. -/
theorem find?_eq_some_iff (tracks : flight.Tracks live) :
    flight.find? key = some id ↔ flight.Running id key := by
  rw [find?, lookup_eq_some_iff_mem tracks.keys, tracks.mem_entries_iff]

theorem mem_live_iff (tracks : flight.Tracks live) :
    id ∈ live ↔ ∃ key, flight.Running id key := by
  rw [← tracks.ids.mem_iff, List.mem_map]
  constructor
  · rintro ⟨⟨key, _⟩, member, rfl⟩
    exact ⟨key, (tracks.mem_entries_iff key _).mp member⟩
  · rintro ⟨key, running⟩
    exact ⟨(key, id), (tracks.mem_entries_iff key id).mpr running, rfl⟩

/-- A live call is what its key's entry names. -/
theorem find?_of_live (tracks : flight.Tracks live) (member : id ∈ live) :
    ∃ key, flight.Running id key ∧ flight.find? key = some id := by
  obtain ⟨key, running⟩ := tracks.mem_live_iff.mp member
  exact ⟨key, running, tracks.find?_eq_some_iff.mpr running⟩

/-- No call is live twice: the two entries would be for one key. -/
theorem nodup (tracks : flight.Tracks live) : live.Nodup := by
  apply tracks.ids.nodup
  have keyOf : ∀ entry ∈ flight.entries,
      (flight.calls[entry.2]?.map Call.key) = some entry.1 := by
    rintro ⟨key, id⟩ member
    obtain ⟨call, found, rfl, -⟩ := (tracks.mem_entries_iff key id).mp member
    simp only [found, Option.map_some]
  have keys : ((flight.entries.map Prod.snd).map fun id => flight.calls[id]?.map Call.key) =
      (flight.entries.map Prod.fst).map some := by
    rw [List.map_map, List.map_map]
    exact List.map_congr_left keyOf
  have apart : ((flight.entries.map Prod.fst).map some).Nodup :=
    List.Pairwise.map some (fun _ _ differ same => differ (Option.some.inj same)) tracks.keys
  rw [← keys] at apart
  exact List.Pairwise.of_map _ (fun _ _ differ same => differ (same ▸ rfl)) apart

/-- The number of keys with a call under way is the number of live calls. -/
theorem count_eq (tracks : flight.Tracks live) : flight.count = live.length := by
  rw [count, ← tracks.ids.length_eq, List.length_map]

theorem begin (tracks : flight.Tracks live) (label : String) (now : Instant)
    (free : flight.find? key = none) :
    (flight.begin label key now).2.Tracks (flight.calls.length :: live) where
  ids := by
    rw [entries_begin, List.map_append]
    exact (List.perm_append_singleton _ _).trans (tracks.ids.cons _)
  keys := by
    have absent : key ∉ flight.entries.map Prod.fst := by
      intro member
      obtain ⟨⟨name, id⟩, inEntries, rfl⟩ := List.mem_map.mp member
      rw [find?, List.lookup_eq_none_iff] at free
      simpa using free _ inEntries
    rw [entries_begin, List.map_append]
    exact ((List.perm_append_singleton _ _).nodup_iff).mpr
      (List.nodup_cons.mpr ⟨absent, tracks.keys⟩)
  mem_entries_iff other id := by
    rw [entries_begin, List.mem_append, List.mem_singleton, running_begin_iff,
      tracks.mem_entries_iff, Prod.mk.injEq, and_comm (a := other = key)]

/-- Ending a live call frees its key and nothing else. -/
theorem entries_settle (tracks : flight.Tracks live) (running : flight.Running id key)
    (result : Option (Result α)) :
    (flight.settle id result).entries = flight.entries.filter fun entry => entry.1 ≠ key := by
  have entered : flight.entries.lookup key = some id := tracks.find?_eq_some_iff.mpr running
  obtain ⟨call, found, rfl, -⟩ := running
  rw [settle_of_call found]
  simp only [release, find?, entered, if_true]

theorem settle (tracks : flight.Tracks (id :: live)) (result : Option (Result α)) :
    (flight.settle id result).Tracks live := by
  obtain ⟨key, running, -⟩ := tracks.find?_of_live (List.mem_cons_self ..)
  have member := (tracks.mem_entries_iff key id).mpr running
  have split := perm_cons_filter_key tracks.keys member
  have entries := tracks.entries_settle running result
  constructor
  · rw [entries]
    exact ((split.map Prod.snd).symm.trans tracks.ids).cons_inv
  · rw [entries]
    exact (tracks.keys).sublist (List.filter_sublist.map Prod.fst)
  · intro other id'
    rw [entries, List.mem_filter, tracks.mem_entries_iff, running_settle_iff, decide_eq_true_iff]
    apply and_congr_right
    intro runningOther
    apply not_congr
    constructor
    · rintro rfl
      have one := tracks.find?_eq_some_iff.mpr running
      have two := tracks.find?_eq_some_iff.mpr runningOther
      exact Option.some.inj (two.symm.trans one)
    · rintro rfl
      exact runningOther.isFor.key_unique running.isFor

end Tracks

end Flight

end PeerCache
