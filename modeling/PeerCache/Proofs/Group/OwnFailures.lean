/-
Module: PeerCache.Proofs.Group.OwnFailures
Purpose: With which failures the gets of a group can end, in whatever state it is.
Main exports:
  CacheError.IsOwn, Place.FailsByItself, Group.FailsByItself, Group.Move.brings_own,
  Group.Yields.failsByItself, Group.step_yields_own
-/
import PeerCache.Proofs.Group.Results

/-!
What a get comes to is what replies bring (`Group.Yields`).  No reply brings a failure but that of
the group's own loader, and a get that is lost leaves one of its own to those who follow it
(`Group.Move.brings_own`): a peer's failure ends with the reply that brings it.
-/

namespace PeerCache

/-- A failure of the node's own making: its loader has failed, or a load has lost its leader. -/
inductive CacheError.IsOwn : CacheError → Prop where
  | load (cause : Chain) : IsOwn (.load cause)
  | leaderFailed : IsOwn .leaderFailed

/-- A failure of the node's own making is no fault of the request. -/
theorem CacheError.IsOwn.status_eq {error : CacheError} (own : error.IsOwn) :
    error.status = .internalServerError := by
  cases own <;> rfl

/-- A result that is a view or a failure of the node's own making. -/
def IsOwnResult : Result View → Prop
  | .ok _ => True
  | .error error => error.IsOwn

/-- A place at which a get has not ended with a failure from elsewhere. -/
def Place.FailsByItself {P : Type} : Place P → Prop
  | .got result => IsOwnResult result
  | _ => True

/-- A flight whose followers hear of no failure from elsewhere. -/
def Flight.FailsByItself (flight : Flight View) : Prop :=
  ∀ call result, flight.answer? call = some result → IsOwnResult result

namespace Group

variable {P : Type}

/-- No get of the group has ended with a failure from elsewhere, and none is about to. -/
structure FailsByItself (group : Group P) : Prop where
  callers : ∀ entry ∈ group.callers, entry.place.FailsByItself
  loads : group.loads.FailsByItself

/-- No reply brings a failure from elsewhere: a peer's failure ends with the reply that brings
it. -/
theorem Move.brings_own (move : Move) : move.Brings IsOwnResult where
  gives result given := by
    cases move with
    | peerReplied caller reply =>
        rcases reply with (_ | _) | _ <;> cases given
        trivial
    | loaderReplied caller reply =>
        rcases reply with (cause | _) | _ <;> cases given
        · exact CacheError.IsOwn.load cause
        · trivial
    | _ => cases given
  loses _ := CacheError.IsOwn.leaderFailed

/-- A group that has nothing but views and failures of its own fails by itself. -/
theorem Yields.failsByItself {group : Group P} (yields : group.Yields fun _ => IsOwnResult) :
    group.FailsByItself where
  callers entry member := by
    have own := yields.callers entry member
    generalize entry.place = place at own ⊢
    cases place with
    | got result => exact own
    | _ => trivial
  loads call result answered := by
    obtain ⟨_, -, own⟩ := yields.loads call result answered
    exact own

theorem step_yields_own [PeerHandle P] {group : Group P} (near : Surroundings P) (move : Move)
    (before : group.Orderly ∧ group.Yields fun _ => IsOwnResult) :
    (group.step near move).1.Orderly ∧ (group.step near move).1.Yields fun _ => IsOwnResult :=
  ⟨step_orderly near move before.1,
    step_yields near move before.1 before.2 fun _ _ _ _ => move.brings_own⟩

end Group

end PeerCache
