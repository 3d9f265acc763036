/-
Module: PeerCache.Proofs.Group.Fallback
Purpose: When a group loads a key itself although another peer owns it.
Main exports:
  Group.failedAsk?, Group.failedAsks, Group.LoadsHere, Group.FallsBack,
  Group.run_fallsBack, Group.loadsHere_of_calledLoader, Group.loading_unique
-/
import PeerCache.Proofs.Group.Origins

/-!
As long as its surroundings pick the same peers, a group that has missed a key asks the peer
that is picked for it.  So it calls its own loader, and comes to hold a view, only for keys
for which nobody is picked, and for keys for which the peer that was asked has failed
(`Group.failedAsks`).

`FallsBack` is the invariant behind this; it says for every caller that stands at a peer or
at the loader why it stands there.
-/

namespace PeerCache

variable {P : Type}

namespace Group

/-- The key for which a move brings the failure of the peer that was asked. -/
def failedAsk? (group : Group P) : Move → Option String
  | .peerReplied caller (.returned (.error _)) =>
      match group.callers[caller]? with
      | some ⟨_, key, .askingPeer _ _⟩ => some key
      | _ => none
  | _ => none

/-- The keys for which peers that were asked have failed, in order. -/
def failedAsks [PeerHandle P] (group : Group P) : List (Surroundings P × Move) → List String
  | [] => []
  | (near, move) :: rest =>
      (group.failedAsk? move).toList ++ (group.step near move).1.failedAsks rest

/-- Why a key may be loaded here: nobody is picked for it, or the peer that was has failed. -/
def LoadsHere (pick : String → Option P) (failed : List String) (key : String) : Prop :=
  pick key = none ∨ key ∈ failed

theorem LoadsHere.append {pick : String → Option P} {failed : List String} {key : String}
    (here : LoadsHere pick failed key) (more : List String) :
    LoadsHere pick (failed ++ more) key :=
  here.imp_right fun member => List.mem_append_left more member

/-- Why a caller stands at the peer or at the loader, if it does. -/
def Grounded (pick : String → Option P) (failed : List String) (key : String) : Place P → Prop
  | .askingPeer _ peer => pick key = some peer
  | .loading _ => LoadsHere pick failed key
  | _ => True

theorem Grounded.append {pick : String → Option P} {failed : List String} {key : String}
    {place : Place P} (grounded : Grounded pick failed key place) (more : List String) :
    Grounded pick (failed ++ more) key place := by
  cases place with
  | askingPeer call peer => exact grounded
  | loading call => exact LoadsHere.append grounded more
  | _ => trivial

/-- Every caller stands where it stands for a reason. -/
def AllGrounded (pick : String → Option P) (failed : List String)
    (callers : List (GroupCaller P)) : Prop :=
  ∀ entry ∈ callers, Grounded pick failed entry.key entry.place

namespace AllGrounded

variable {pick : String → Option P} {failed : List String} {callers : List (GroupCaller P)}

theorem append (grounded : AllGrounded pick failed callers) (more : List String) :
    AllGrounded pick (failed ++ more) callers :=
  fun entry member => (grounded entry member).append more

theorem arrive (grounded : AllGrounded pick failed callers) {entry : GroupCaller P}
    (new : Grounded pick failed entry.key entry.place) :
    AllGrounded pick failed (callers ++ [entry]) :=
  forall_arrive grounded new

theorem moveTo (grounded : AllGrounded pick failed callers) {index : Nat} {was : GroupCaller P}
    (at_ : callers[index]? = some was) {place : Place P}
    (new : Grounded pick failed was.key place) :
    AllGrounded pick failed (callers.modify index fun other => { other with place }) :=
  forall_moveTo grounded at_ new

end AllGrounded

/-- A group whose surroundings have always picked the same peers, and the keys for which the
peer that was asked has failed. -/
structure FallsBack (group : Group P) (pick : String → Option P) (failed : List String) :
    Prop where
  callers : AllGrounded pick failed group.callers
  store : ∀ key view, group.store.find? key = some view → LoadsHere pick failed key

theorem fallsBack_new (pick : String → Option P) (name : String) :
    (new name).FallsBack pick [] := by
  constructor
  · intro entry member
    exact absurd member List.not_mem_nil
  · intro key view kept
    simp [new] at kept

section Steps

variable [PeerHandle P] {near : Surroundings P} {group after : Group P} {move : Move}
  {events : List (Event P)} {failed : List String}

/-- A removal that tells the other peers does not call the loader. -/
theorem not_calledLoader_of_announce {owner : Option P} {index caller : Nat}
    {key name : String} : Event.calledLoader caller name ∉ announce near owner index key := by
  simp [announce]

/-- The loader is called for a key for which nobody is picked, or the peer fails just then. -/
theorem Transition.calledLoader_cases (transition : Transition near group move after events)
    {caller : Nat} {key : String} (called : Event.calledLoader caller key ∈ events) :
    near.pick? key = none ∨ group.failedAsk? move = some key := by
  cases transition with
  | callLoader context name misses free picked =>
      obtain ⟨rfl, rfl⟩ : caller = _ ∧ key = name := by simpa using called
      exact Or.inl picked
  | peerFailed index context name call peer error at_ =>
      obtain ⟨rfl, rfl⟩ : caller = index ∧ key = name := by simpa using called
      exact Or.inr (by simp [failedAsk?, at_])
  | askPeer => simp at called
  | askOwner => simp at called
  | leadToPeer => simp at called
  | leadToLoader index context name call at_ misses picked =>
      obtain ⟨rfl, rfl⟩ : caller = index ∧ key = name := by simpa using called
      exact Or.inl picked
  | removeHere | ownerRemoved => exact absurd called not_calledLoader_of_announce
  | _ => cases called

/-- Whoever comes to stand at the peer or at the loader does so for a reason. -/
theorem Transition.grounded (transition : Transition near group move after events)
    (before : AllGrounded near.pick? failed group.callers) :
    AllGrounded near.pick? (failed ++ (group.failedAsk? move).toList) after.callers := by
  have stays := before.append (group.failedAsk? move).toList
  cases transition with
  | askPeer context key peer misses free picked => exact stays.arrive picked
  | callLoader context key misses free picked => exact stays.arrive (Or.inl picked)
  | peerFailed caller context key call peer error at_ =>
      apply stays.moveTo at_
      exact Or.inr (by simp [failedAsk?, at_])
  | leadToPeer caller context key call peer at_ misses picked => exact stays.moveTo at_ picked
  | leadToLoader caller context key call at_ misses picked =>
      exact stays.moveTo at_ (Or.inl picked)
  | hit | joinLoad | lateLoad | startHit | startMiss | joinRemoval | lateRemoval | askOwner
  | removeHere => exact stays.arrive trivial
  | removeLocally | lookMissed | serve | idle => exact stays
  | _ => exact stays.moveTo ‹_› trivial

theorem step_fallsBack (near : Surroundings P) (move : Move)
    (holds : group.FallsBack near.pick? failed) :
    (group.step near move).1.FallsBack near.pick?
      (failed ++ (group.failedAsk? move).toList) := by
  have transition := step_transition near group move
  refine ⟨transition.grounded holds.callers, ?_⟩
  intro key view kept
  rcases transition.store_cases key with
    ⟨name, call, given, -, ⟨caller, context, at_⟩, -, store⟩ | ⟨-, gone | same⟩
  · rw [store] at kept
    split at kept
    case isTrue here =>
        subst here
        have loads : LoadsHere near.pick? failed key :=
          holds.callers _ (List.mem_of_getElem? at_)
        exact loads.append _
    case isFalse => exact (holds.store key view kept).append _
  · rw [gone] at kept
    cases kept
  · exact (holds.store key view (same ▸ kept)).append _

end Steps

section Runs

variable [PeerHandle P] {pick : String → Option P} {failed : List String} {group : Group P}

theorem run_fallsBack (holds : group.FallsBack pick failed)
    (moves : List (Surroundings P × Move)) (picks : ∀ timed ∈ moves, timed.1.pick? = pick) :
    (group.run moves).1.FallsBack pick (failed ++ group.failedAsks moves) := by
  induction moves generalizing group failed with
  | nil => simpa [run, failedAsks] using holds
  | cons timed rest hyp =>
      obtain ⟨near, move⟩ := timed
      obtain rfl : near.pick? = pick := picks _ List.mem_cons_self
      have next := hyp (step_fallsBack near move holds)
        fun timed later => picks timed (List.mem_cons_of_mem _ later)
      rw [List.append_assoc] at next
      exact next

/-- The loader of a group is called for keys for which nobody is picked or the peer that was
asked has failed. -/
theorem loadsHere_of_calledLoader (moves : List (Surroundings P × Move))
    (picks : ∀ timed ∈ moves, timed.1.pick? = pick) {caller : Nat} {key : String}
    (called : Event.calledLoader caller key ∈ (group.run moves).2) :
    LoadsHere pick (group.failedAsks moves) key := by
  induction moves generalizing group with
  | nil => cases called
  | cons timed rest hyp =>
      obtain ⟨near, move⟩ := timed
      obtain rfl : near.pick? = pick := picks _ List.mem_cons_self
      rcases List.mem_append.mp called with now | later
      · refine LoadsHere.append ?_ _
        exact ((step_transition near group move).calledLoader_cases now).imp_right
          fun failed => by simp [failed]
      · have next := hyp (fun timed more => picks timed (List.mem_cons_of_mem _ more)) later
        exact next.imp_right fun member => List.mem_append_right _ member

end Runs

/-! ## One load at a time -/

/-- Two callers that load one key in an orderly group are the same. -/
theorem loading_unique {group : Group P} (orderly : group.Orderly) {one two : Nat}
    {first second : GroupCaller P} {call other : CallId}
    (first_at : group.callers[one]? = some first) (second_at : group.callers[two]? = some second)
    (first_loads : first.place = .loading call) (second_loads : second.place = .loading other)
    (same : first.key = second.key) : one = two := by
  have first_leads : first.place.load? = some (.leads call) := by rw [first_loads]; rfl
  have second_leads : second.place.load? = some (.leads other) := by rw [second_loads]; rfl
  have first_runs := orderly.loads.running_of_leads first_at first_leads
  have second_runs := orderly.loads.running_of_leads second_at second_leads
  rw [same] at first_runs
  have first_found := orderly.loads.tracks.find?_eq_some_iff.mpr first_runs
  have second_found := orderly.loads.tracks.find?_eq_some_iff.mpr second_runs
  obtain rfl := Option.some.inj (first_found.symm.trans second_found)
  exact leader_unique orderly.loads.tracks.nodup first_at second_at first_leads second_leads

end Group

end PeerCache
