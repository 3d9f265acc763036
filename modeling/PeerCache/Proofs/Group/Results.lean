/-
Module: PeerCache.Proofs.Group.Results
Purpose: That gets come to nothing but what replies bring for their key.
Main exports:
  Group.Move.isLoss, Group.Move.Brings, Place.Yields, Store.Yields, Flight.Yields, Group.Yields,
  Group.yields_new, Group.step_yields
-/
import PeerCache.Proofs.Group.LoadCourse

/-!
A reply brings a result for the key of the caller that it is for, or loses the caller
(`Group.Move.Brings`).  From there the result goes to three places: to the caller, to the load that
it leads, and, if it is a view of the loader, into the store.  Whatever a key may come to, by the
replies alone, is all that is ever in one of these places for the key (`Group.Yields`): a load is
one for the key of its leader, and those who follow it have come for the same key.
-/

namespace PeerCache

variable {P : Type}

namespace Group

/-- Whether the move is the end of the caller that hears it, without a result. -/
def Move.isLoss : Move → Bool
  | .peerReplied _ (.panicked _) => true
  | .loaderReplied _ (.panicked _) => true
  | .ownerReplied _ (.panicked _) => true
  | .drop _ => true
  | _ => false

/-- The move brings a get that hears it only what may be.  A get that is lost is the failure of a
leader for all who follow it. -/
structure Move.Brings (may : Result View → Prop) (move : Move) : Prop where
  gives : ∀ result, move.gives? = some result → may result
  loses : move.isLoss = true → may (.error .leaderFailed)

section Moves

variable {may : Result View → Prop} {move : Move} {result : Result View}

theorem Move.Brings.of_none (gives : move.gives? = none) (stays : move.isLoss = false) :
    move.Brings may where
  gives result given := by
    rw [gives] at given
    cases given
  loses lost := by
    rw [stays] at lost
    cases lost

theorem Move.Brings.of_some (gives : move.gives? = some result) (stays : move.isLoss = false)
    (allowed : may result) : move.Brings may where
  gives other given := by
    rw [gives] at given
    exact Option.some.inj given ▸ allowed
  loses lost := by
    rw [stays] at lost
    cases lost

end Moves

end Group

variable {may : String → Result View → Prop} {key : String}

/-- If a get has ended at the place, or has what it is about to return, that is what may be. -/
def Place.Yields (may : Result View → Prop) : Place P → Prop
  | .found _ view => may (.ok view)
  | .got result => may result
  | .panicked _ => may (.error .leaderFailed)
  | .dropped => may (.error .leaderFailed)
  | _ => True

/-- The store has views for keys that may come to them. -/
def Store.Yields (may : String → Result View → Prop) (store : Store) : Prop :=
  ∀ key view, store.find? key = some view → may key (.ok view)

/-- The loads have ended with what may be for their keys. -/
def Flight.Yields (may : String → Result View → Prop) (flight : Flight View) : Prop :=
  ∀ call result, flight.answer? call = some result → ∃ key, flight.IsFor call key ∧ may key result

namespace Store.Yields

variable {store : Store}

theorem erase (yields : store.Yields may) (key : String) : (store.erase key).Yields may := by
  intro other view found
  rw [find?_erase] at found
  split at found
  case isTrue => cases found
  case isFalse => exact yields other view found

theorem insert (yields : store.Yields may) {view : View} (allowed : may key (.ok view)) :
    (store.insert key view).Yields may := by
  intro other kept found
  rw [find?_insert] at found
  split at found
  case isTrue same =>
      cases found
      exact same ▸ allowed
  case isFalse => exact yields other kept found

end Store.Yields

namespace Flight.Yields

variable {flight : Flight View} {call : CallId} {result : Result View}

theorem begin (yields : flight.Yields may) (label key : String) (now : Instant) :
    (flight.begin label key now).2.Yields may := by
  intro call result answered
  rw [answer?_begin] at answered
  obtain ⟨about, isFor, allowed⟩ := yields call result answered
  exact ⟨about, isFor.begin label key now, allowed⟩

theorem settle (yields : flight.Yields may) (isFor : flight.IsFor call key)
    {result : Option (Result View)} (allowed : may key (result.getD (.error .leaderFailed))) :
    (flight.settle call result).Yields may := by
  intro other answer answered
  rcases answer?_settle_cases answered with before | ⟨rfl, rfl⟩
  · obtain ⟨about, isForAbout, allowedAbout⟩ := yields other answer before
    exact ⟨about, isForAbout.settle call result, allowedAbout⟩
  · exact ⟨key, isFor.settle call result, allowed⟩

/-- Whoever has a stake in a load for a key hears what may be for this key. -/
theorem of_answer? (yields : flight.Yields may) (isFor : flight.IsFor call key)
    (answered : flight.answer? call = some result) : may key result := by
  obtain ⟨about, isForAbout, allowed⟩ := yields call result answered
  exact isForAbout.key_unique isFor ▸ allowed

end Flight.Yields

namespace Group

/-- Whatever the group has for a key is what the key may come to. -/
structure Yields (may : String → Result View → Prop) (group : Group P) : Prop where
  callers : ∀ entry ∈ group.callers, entry.place.Yields (may entry.key)
  loads : group.loads.Yields may
  store : group.store.Yields may

theorem yields_new (may : String → Result View → Prop) (name : String) :
    (new name : Group P).Yields may := by
  refine ⟨?_, ?_, ?_⟩
  · intro entry member
    cases member
  · intro call result answered
    cases answered
  · intro key view found
    cases found

section Steps

variable [PeerHandle P] {near : Surroundings P} {group after : Group P} {move : Move}
  {events : List (Event P)}

theorem Transition.yields (transition : Transition near group move after events)
    (orderly : group.Orderly) (before : group.Yields may)
    (brings : ∀ caller entry, move.caller? = some caller → group.callers[caller]? = some entry →
      move.Brings (may entry.key)) : after.Yields may := by
  obtain ⟨callers, loads, store⟩ := before
  -- a leader ends a load for its own key
  have leads {caller : Nat} {entry : GroupCaller P} {call : CallId}
      (at_ : group.callers[caller]? = some entry)
      (leading : entry.place.load? = some (.leads call)) : group.loads.IsFor call entry.key :=
    (orderly.loads.running_of_leads at_ leading).isFor
  cases transition with
  | hit context key view kept valid =>
      exact ⟨forall_arrive callers (store key view kept), loads, store⟩
  | joinLoad context key | startMiss context key =>
      exact ⟨forall_arrive callers trivial, loads, store.erase key⟩
  | startHit context key view kept valid =>
      exact ⟨forall_arrive callers (store key view kept), loads, store⟩
  | enterLate caller context key call result at_ found answered =>
      have isFor := (orderly.loads.running_of_find? found).isFor
      exact ⟨forall_moveTo callers at_ (loads.of_answer? isFor answered), loads, store⟩
  | enterLead caller context key at_ =>
      exact ⟨forall_moveTo callers at_ trivial, loads.begin key key near.now, store⟩
  | findAgain caller context key call view at_ kept =>
      exact ⟨forall_moveTo callers at_ (store key view kept), loads, store⟩
  | leadToPeer caller context key call peer at_ | leadToLoader caller context key call at_
  | ownerRemoved caller context key call owner at_ =>
      exact ⟨forall_moveTo callers at_ trivial, loads, store.erase key⟩
  | endFound caller context key call view at_ =>
      have allowed : may key (.ok view) := callers _ (List.mem_of_getElem? at_)
      exact ⟨forall_moveTo callers at_ allowed, loads.settle (leads at_ rfl) allowed, store⟩
  | lateLoad context key call result misses found answered =>
      have isFor := (orderly.loads.running_of_find? found).isFor
      exact ⟨forall_arrive callers (loads.of_answer? isFor answered), loads, store.erase key⟩
  | askPeer context key | callLoader context key =>
      exact ⟨forall_arrive callers trivial, loads.begin key key near.now, store.erase key⟩
  | peerGave caller context key call peer response at_ =>
      have allowed := (brings caller _ rfl at_).gives _ rfl
      exact ⟨forall_moveTo callers at_ allowed, loads.settle (leads at_ rfl) allowed, store⟩
  | loaderGave caller context key call view at_ =>
      have allowed := (brings caller _ rfl at_).gives _ rfl
      exact ⟨forall_moveTo callers at_ allowed, loads.settle (leads at_ rfl) allowed,
        store.insert allowed⟩
  | loaderFailed caller context key call cause at_ =>
      have allowed := (brings caller _ rfl at_).gives _ rfl
      exact ⟨forall_moveTo callers at_ allowed, loads.settle (leads at_ rfl) allowed, store⟩
  | peerPanicked caller context key call peer message at_
  | loaderPanicked caller context key call message at_
  | dropAskingPeer caller context key call peer at_ | dropLoading caller context key call at_ =>
      have lost := (brings caller _ rfl at_).loses rfl
      exact ⟨forall_moveTo callers at_ lost, loads.settle (leads at_ rfl) lost, store⟩
  | ownerPanicked caller context key call owner message at_ | dropGet caller context key call at_
  | dropRemove caller context key call at_ | dropAskingOwner caller context key call owner at_
  | dropBroadcasting caller context key call awaited failure at_ =>
      exact ⟨forall_moveTo callers at_ ((brings caller _ rfl at_).loses rfl), loads, store⟩
  | hearLoad caller context key call result at_ answered =>
      have isFor := orderly.loads.isFor caller _ _ at_ rfl
      exact ⟨forall_moveTo callers at_ (loads.of_answer? isFor answered), loads, store⟩
  | joinRemoval | lateRemoval | askOwner => exact ⟨forall_arrive callers trivial, loads, store⟩
  | removeHere context key => exact ⟨forall_arrive callers trivial, loads, store.erase key⟩
  | removeLocally key | lookMissed key => exact ⟨callers, loads, store.erase key⟩
  | serve | idle => exact ⟨callers, loads, store⟩
  | enterJoin | peerFailed | ownerFailed | peerRemoved | hearRemoval =>
      exact ⟨forall_moveTo callers ‹_› trivial, loads, store⟩
  | endBroadcast caller context key call failure at_ =>
      rw [endRemoval_eq]
      exact ⟨forall_moveTo callers at_ trivial, loads, store⟩

/-- A move that brings its caller what may be leaves nothing else in the group. -/
theorem step_yields (near : Surroundings P) (move : Move) (orderly : group.Orderly)
    (before : group.Yields may)
    (brings : ∀ caller entry, move.caller? = some caller → group.callers[caller]? = some entry →
      move.Brings (may entry.key)) : (group.step near move).1.Yields may :=
  (step_transition near group move).yields orderly before brings

end Steps

end Group

end PeerCache
