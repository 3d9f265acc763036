/-
Module: PeerCache.Proofs.Group.Dialogue
Purpose: What one caller of a group asks and hears, and how it goes on from that.
Main exports:
  Place.hears, Group.heard, Group.asked, Group.Goes, Group.step_goes, Group.Lasting,
  Group.follow_run, Group.exists_of_heard
-/
import PeerCache.Proofs.Group.Leaders

/-!
A caller asks peers, owners and the loader, and waits for replies.  `Group.asked` picks the
events of one caller out of those of a run, and `Group.heard` the moves that reach it where it
stands, with what the group saw around it.  A caller that is dropped hears that too; a poll is
not heard, nor is going on with one's own work, as they bring nothing.

`Group.Goes` lists what a move can come to for a caller that is there, in the order of the
places that it may stand at; `Group.step_goes` says that the list is complete.  What a caller
goes through is then followed along a run (`Group.follow_run`) without another look at the
moves of other callers.
-/

namespace PeerCache

variable {P : Type}

/-- Whether a caller at this place goes on when the move is made for it. -/
def Place.hears : Place P → Group.Move → Bool
  | .askingPeer _ _, .peerReplied _ _ => true
  | .loading _, .loaderReplied _ _ => true
  | .askingOwner _ _, .ownerReplied _ _ => true
  | .broadcasting _ awaited _, .broadcastEnded _ number _ => awaited.contains number
  | place, .drop _ => place.isWaiting && !place.isAtWork
  | _, _ => false

namespace Group

/-- Who asks. -/
def Event.caller : Event P → Nat
  | .askedPeer caller _ _ => caller
  | .calledLoader caller _ => caller
  | .askedOwner caller _ _ => caller
  | .broadcast caller _ _ _ => caller

/-- What a caller asks for, in order. -/
def asked (caller : Nat) (events : List (Event P)) : List (Event P) :=
  events.filter fun event => event.caller = caller

/-- Whether the move reaches the caller where it stands. -/
def reaches (group : Group P) (caller : Nat) (move : Move) : Bool :=
  decide (move.caller? = some caller) &&
    (group.callers[caller]?).any fun entry => entry.place.hears move

/-- What a caller hears of one move. -/
def heardOf (near : Surroundings P) (group : Group P) (caller : Nat) (move : Move) :
    List (Surroundings P × Move) :=
  if group.reaches caller move then [(near, move)] else []

/-- What a caller hears, in order. -/
def heard [PeerHandle P] (group : Group P) (caller : Nat) :
    List (Surroundings P × Move) → List (Surroundings P × Move)
  | [] => []
  | (near, move) :: rest =>
      heardOf near group caller move ++ (group.step near move).1.heard caller rest

/-- What a removal returns whose peers have all ended, by the failure that was noted. -/
def removalResult : Option CacheError → Result Unit
  | none => .ok ()
  | some error => .error error

theorem endRemoval_eq (group : Group P) (call : CallId) (failure : Option CacheError) :
    group.endRemoval call failure = (.removed (removalResult failure),
      group.settleRemoval call (some (removalResult failure))) := by
  cases failure <;> rfl

theorem asked_append (caller : Nat) (before later : List (Event P)) :
    asked caller (before ++ later) = asked caller before ++ asked caller later :=
  List.filter_append ..

theorem asked_self (event : Event P) : asked event.caller [event] = [event] := by
  simp [asked]

theorem asked_announce_self [PeerHandle P] (near : Surroundings P) (owner : Option P)
    (caller : Nat) (key : String) :
    asked caller (announce near owner caller key) = announce near owner caller key := by
  apply List.filter_eq_self.mpr
  intro event member
  obtain ⟨entry, -, rfl⟩ := List.mem_map.mp member
  exact decide_eq_true rfl

theorem asked_announce_other [PeerHandle P] (near : Surroundings P) (owner : Option P)
    {caller other : Nat} (apart : other ≠ caller) (key : String) :
    asked caller (announce near owner other key) = [] := by
  apply List.filter_eq_nil_iff.mpr
  intro event member
  obtain ⟨entry, -, rfl⟩ := List.mem_map.mp member
  simp [Event.caller, apart]

/-- What a move can come to for a caller that stands at a place: what it hears, what it asks
for, and where it stands then.  The calls that it leads end when it leaves them. -/
inductive Goes [PeerHandle P] (near : Surroundings P) (group after : Group P) (caller : Nat)
    (key : String) :
    Place P → List (Surroundings P × Move) → List (Event P) → Place P → Prop where
  | stays (place : Place P) : Goes near group after caller key place [] [] place
  | enterJoin (call : CallId) (found : group.loads.find? key = some call) :
      Goes near group after caller key .missed [] [] (.joinedLoad call)
  | enterLate (call : CallId) (result : Result View) (found : group.loads.find? key = some call)
      (answered : group.loads.answer? call = some result) :
      Goes near group after caller key .missed [] [] (.got result)
  | enterLead (free : group.loads.find? key = none) :
      Goes near group after caller key .missed [] [] (.leading group.loads.calls.length)
  | findAgain (call : CallId) (view : View) (kept : group.store.find? key = some view)
      (valid : view.isExpiredAt near.now = false) :
      Goes near group after caller key (.leading call) [] [] (.found call view)
  | leadToPeer (call : CallId) (peer : P) (misses : group.Misses near.now key)
      (picked : near.pick? key = some peer) :
      Goes near group after caller key (.leading call) [] [.askedPeer caller key peer]
        (.askingPeer call peer)
  | leadToLoader (call : CallId) (misses : group.Misses near.now key)
      (picked : near.pick? key = none) :
      Goes near group after caller key (.leading call) [] [.calledLoader caller key]
        (.loading call)
  | endFound (call : CallId) (view : View)
      (ends : after.loads = group.loads.settle call (some (.ok view))) :
      Goes near group after caller key (.found call view) [] [] (.got (.ok view))
  | peerGave (call : CallId) (peer : P) (response : Response)
      (ends : after.loads = group.loads.settle call (some (.ok (.ofResponse response)))) :
      Goes near group after caller key (.askingPeer call peer)
        [(near, .peerReplied caller (.returned (.ok response)))] []
        (.got (.ok (.ofResponse response)))
  | peerFailed (call : CallId) (peer : P) (error : CacheError) :
      Goes near group after caller key (.askingPeer call peer)
        [(near, .peerReplied caller (.returned (.error error)))] [.calledLoader caller key]
        (.loading call)
  | peerPanicked (call : CallId) (peer : P) (message : String)
      (ends : after.loads = group.loads.settle call none) :
      Goes near group after caller key (.askingPeer call peer)
        [(near, .peerReplied caller (.panicked message))] [] (.panicked message)
  | loaderGave (call : CallId) (view : View)
      (ends : after.loads = group.loads.settle call (some (.ok view))) :
      Goes near group after caller key (.loading call)
        [(near, .loaderReplied caller (.returned (.ok view)))] [] (.got (.ok view))
  | loaderFailed (call : CallId) (cause : Chain)
      (ends : after.loads = group.loads.settle call (some (.error (.load cause)))) :
      Goes near group after caller key (.loading call)
        [(near, .loaderReplied caller (.returned (.error cause)))] []
        (.got (.error (.load cause)))
  | loaderPanicked (call : CallId) (message : String)
      (ends : after.loads = group.loads.settle call none) :
      Goes near group after caller key (.loading call)
        [(near, .loaderReplied caller (.panicked message))] [] (.panicked message)
  | ownerRemoved (call : CallId) (owner : P)
      (erased : after.store = group.store.erase key) :
      Goes near group after caller key (.askingOwner call owner)
        [(near, .ownerReplied caller (.returned (.ok ())))]
        (announce near (some owner) caller key)
        (.broadcasting call ((broadcastTo near (some owner)).map Prod.snd) none)
  | ownerFailed (call : CallId) (owner : P) (error : CacheError)
      (ends : after.removals = group.removals.settle call (some (.error error))) :
      Goes near group after caller key (.askingOwner call owner)
        [(near, .ownerReplied caller (.returned (.error error)))] [] (.removed (.error error))
  | ownerPanicked (call : CallId) (owner : P) (message : String)
      (ends : after.removals = group.removals.settle call none) :
      Goes near group after caller key (.askingOwner call owner)
        [(near, .ownerReplied caller (.panicked message))] [] (.panicked message)
  | peerRemoved (call : CallId) (awaited : List Nat) (failure : Option CacheError)
      (number : Nat) (reply : Reply CacheError Unit) (expected : number ∈ awaited) :
      Goes near group after caller key (.broadcasting call awaited failure)
        [(near, .broadcastEnded caller number reply)] []
        (.broadcasting call (awaited.filter (· ≠ number)) (noteFailure failure reply))
  | endBroadcast (call : CallId) (failure : Option CacheError)
      (ends : after.removals = group.removals.settle call (some (removalResult failure))) :
      Goes near group after caller key (.broadcasting call [] failure) [] []
        (.removed (removalResult failure))
  | hearLoad (call : CallId) (result : Result View)
      (answered : group.loads.answer? call = some result) :
      Goes near group after caller key (.joinedLoad call) [] [] (.got result)
  | hearRemoval (call : CallId) (result : Result Unit)
      (answered : group.removals.answer? call = some result) :
      Goes near group after caller key (.joinedRemoval call) [] [] (.removed result)
  | dropped (place : Place P) (waiting : place.isWaiting = true) (rests : place.isAtWork = false)
      (loads : ∀ call, place.load? = some (.leads call) →
        after.loads = group.loads.settle call none)
      (removals : ∀ call, place.removal? = some (.leads call) →
        after.removals = group.removals.settle call none) :
      Goes near group after caller key place [(near, .drop caller)] [] .dropped

/-- A caller goes on from a place when the move is made. -/
def GoesOn [PeerHandle P] (near : Surroundings P) (group : Group P) (caller : Nat)
    (context : CallContext) (key : String) (place : Place P) (move : Move) : Prop :=
  ∃ next, (group.step near move).1.callers[caller]? = some ⟨context, key, next⟩ ∧
    Goes near group (group.step near move).1 caller key place (heardOf near group caller move)
      (asked caller (group.step near move).2) next

/-- A caller that has ended hears nothing any more, and stays where it is. -/
theorem Goes.stays_of_ended [PeerHandle P] {near : Surroundings P} {group after : Group P}
    {caller : Nat} {key : String} {place next : Place P} {heard : List (Surroundings P × Move)}
    {asked : List (Event P)} (goes : Goes near group after caller key place heard asked next)
    (ended : place.isWaiting = false) : next = place ∧ heard = [] ∧ asked = [] := by
  cases goes with
  | stays => exact ⟨rfl, rfl, rfl⟩
  | dropped _ waiting =>
      rw [ended] at waiting
      cases waiting
  | _ => cases ended

/-! ## The list is complete -/

section Complete

variable [PeerHandle P] {near : Surroundings P} {group after : Group P} {move : Move}
  {events : List (Event P)} {caller : Nat} {context : CallContext} {key : String}
  {place : Place P}

/-- Nobody asks for anything in another caller's move. -/
theorem Transition.asked_other (transition : Transition near group move after events)
    (here : caller < group.callers.length) (other : move.caller? ≠ some caller) :
    asked caller events = [] := by
  have arrived : group.callers.length ≠ caller := Nat.ne_of_gt here
  cases transition with
  | askPeer | callLoader | askOwner => simp [asked, Event.caller, arrived]
  | leadToPeer index context key call peer at_ | leadToLoader index context key call at_ =>
      have apart : index ≠ caller := fun same => other (congrArg some same)
      simp [asked, Event.caller, apart]
  | peerFailed index context key call peer error at_ =>
      have apart : index ≠ caller := fun same => other (congrArg some same)
      simp [asked, Event.caller, apart]
  | removeHere context key => exact asked_announce_other near none arrived key
  | ownerRemoved index context key call owner at_ =>
      have apart : index ≠ caller := fun same => other (congrArg some same)
      exact asked_announce_other near (some owner) apart key
  | _ => rfl

omit [PeerHandle P] in
theorem reaches_of_hears (at_ : group.callers[caller]? = some ⟨context, key, place⟩)
    (named : move.caller? = some caller) (hears : place.hears move = true) :
    group.reaches caller move = true := by
  simp [reaches, named, at_, hears]

omit [PeerHandle P] in
/-- A move that a caller hears where it stands is what it hears of this move. -/
theorem heardOf_of_hears (near : Surroundings P)
    (at_ : group.callers[caller]? = some ⟨context, key, place⟩)
    (named : move.caller? = some caller) (hears : place.hears move = true) :
    heardOf near group caller move = [(near, move)] :=
  if_pos (reaches_of_hears at_ named hears)

/-- A move of the caller's own that has changed nothing. -/
private theorem goes_still (at_ : group.callers[caller]? = some ⟨context, key, place⟩)
    (still : group.step near move = (group, [])) (missed : place.hears move = false) :
    GoesOn near group caller context key place move := by
  have deaf : heardOf near group caller move = [] := by simp [heardOf, reaches, at_, missed]
  rw [GoesOn, still, deaf]
  exact ⟨place, at_, .stays place⟩

/-- A move of the caller's own that has taken it to another place. -/
private theorem goes_moved {heard : List (Surroundings P × Move)} {more : List (Event P)}
    {next : Place P} (at_ : group.callers[caller]? = some ⟨context, key, place⟩)
    (went : group.step near move = (after.moveTo caller next, events))
    (callers : after.callers = group.callers)
    (hears : heardOf near group caller move = heard) (asks : asked caller events = more)
    (goes : Goes near group (after.moveTo caller next) caller key place heard more next) :
    GoesOn near group caller context key place move := by
  rw [GoesOn, went, hears, asks]
  refine ⟨next, ?_, goes⟩
  have here : after.callers[caller]? = some ⟨context, key, place⟩ := by rw [callers, at_]
  exact getElem?_moveTo here next

private theorem goes_goOn (at_ : group.callers[caller]? = some ⟨context, key, place⟩) :
    GoesOn near group caller context key place (.goOn caller) := by
  have deaf : heardOf near group caller (.goOn caller) = [] := by
    cases place <;> simp [heardOf, reaches, at_, Place.hears]
  have stays := moveTo_same at_
  cases place with
  | missed =>
      cases found : group.loads.find? key with
      | some call =>
          cases answered : group.loads.answer? call with
          | none =>
              exact goes_moved at_ (by simp only [step, at_, goOn, enterLoad, found, answered]; rfl)
                (by rfl) deaf (by rfl) (.enterJoin call found)
          | some result =>
              exact goes_moved at_ (by simp only [step, at_, goOn, enterLoad, found, answered]; rfl)
                (by rfl) deaf (by rfl) (.enterLate call result found answered)
      | none =>
          exact goes_moved at_ (by simp only [step, at_, goOn, enterLoad, found]; rfl) (by rfl)
            deaf (by rfl) (.enterLead found)
  | leading call =>
      rcases group.misses_or_exists near.now key with misses | ⟨view, kept, valid⟩
      · have leads := leadLoad_of_misses near group misses caller call
        cases picked : near.pick? key with
        | none =>
            rw [picked] at leads
            exact goes_moved at_ (by simp only [step, at_, goOn, leads]; rfl) (by rfl) deaf
              (asked_self (.calledLoader caller key)) (.leadToLoader call misses picked)
        | some peer =>
            rw [picked] at leads
            exact goes_moved at_ (by simp only [step, at_, goOn, leads]; rfl) (by rfl) deaf
              (asked_self (.askedPeer caller key peer)) (.leadToPeer call peer misses picked)
      · exact goes_moved at_
          (by simp only [step, at_, goOn, leadLoad, lookUp_of_some kept valid]; rfl) (by rfl) deaf
          (by rfl) (.findAgain call view kept valid)
  | found call view =>
      exact goes_moved at_ (by simp only [step, at_, goOn]; rfl) (by rfl) deaf (by rfl)
        (.endFound call view rfl)
  | _ => exact goes_still at_ (by simp only [step, at_, goOn, stays]) rfl

private theorem goes_peerReplied (at_ : group.callers[caller]? = some ⟨context, key, place⟩)
    (reply : Reply CacheError Response) :
    GoesOn near group caller context key place (.peerReplied caller reply) := by
  cases place with
  | askingPeer call peer =>
      have hears : heardOf near group caller (.peerReplied caller reply) = _ :=
        heardOf_of_hears near at_ rfl rfl
      match reply with
      | .returned (.ok response) =>
          exact goes_moved at_ (by simp only [step, at_]; rfl) (by rfl) hears (by rfl)
            (.peerGave call peer response rfl)
      | .returned (.error error) =>
          exact goes_moved at_ (by simp only [step, at_]; rfl) (by rfl) hears
            (asked_self (.calledLoader caller key)) (.peerFailed call peer error)
      | .panicked message =>
          exact goes_moved at_ (by simp only [step, at_]; rfl) (by rfl) hears (by rfl)
            (.peerPanicked call peer message rfl)
  | _ => exact goes_still at_ (by simp only [step, at_]) rfl

private theorem goes_loaderReplied (at_ : group.callers[caller]? = some ⟨context, key, place⟩)
    (reply : Reply Chain View) :
    GoesOn near group caller context key place (.loaderReplied caller reply) := by
  cases place with
  | loading call =>
      have hears : heardOf near group caller (.loaderReplied caller reply) = _ :=
        heardOf_of_hears near at_ rfl rfl
      match reply with
      | .returned (.ok view) =>
          exact goes_moved at_ (by simp only [step, at_]; rfl) (by rfl) hears (by rfl)
            (.loaderGave call view rfl)
      | .returned (.error cause) =>
          exact goes_moved at_ (by simp only [step, at_]; rfl) (by rfl) hears (by rfl)
            (.loaderFailed call cause rfl)
      | .panicked message =>
          exact goes_moved at_ (by simp only [step, at_]; rfl) (by rfl) hears (by rfl)
            (.loaderPanicked call message rfl)
  | _ => exact goes_still at_ (by simp only [step, at_]) rfl

private theorem goes_ownerReplied (at_ : group.callers[caller]? = some ⟨context, key, place⟩)
    (reply : Reply CacheError Unit) :
    GoesOn near group caller context key place (.ownerReplied caller reply) := by
  cases place with
  | askingOwner call owner =>
      have hears : heardOf near group caller (.ownerReplied caller reply) = _ :=
        heardOf_of_hears near at_ rfl rfl
      match reply with
      | .returned (.ok ()) =>
          exact goes_moved at_ (by simp only [step, at_, afterOwnerReply, afterOwner]; rfl) (by rfl)
            hears (asked_announce_self near (some owner) caller key)
            (.ownerRemoved call owner (by rfl))
      | .returned (.error error) =>
          exact goes_moved at_ (by simp only [step, at_]; rfl) (by rfl) hears (by rfl)
            (.ownerFailed call owner error rfl)
      | .panicked message =>
          exact goes_moved at_ (by simp only [step, at_]; rfl) (by rfl) hears (by rfl)
            (.ownerPanicked call owner message rfl)
  | _ => exact goes_still at_ (by simp only [step, at_]) rfl

private theorem goes_broadcastEnded
    (at_ : group.callers[caller]? = some ⟨context, key, place⟩) (number : Nat)
    (reply : Reply CacheError Unit) :
    GoesOn near group caller context key place (.broadcastEnded caller number reply) := by
  cases place with
  | broadcasting call awaited failure =>
      by_cases expected : number ∈ awaited
      · have listed : awaited.contains number = true := List.contains_iff_mem.mpr expected
        have hears : heardOf near group caller (.broadcastEnded caller number reply) = _ :=
          heardOf_of_hears near at_ rfl listed
        exact goes_moved at_ (by simp only [step, at_, if_pos listed]; rfl) (by rfl) hears (by rfl)
          (.peerRemoved call awaited failure number reply expected)
      · have unlisted : awaited.contains number = false := by simpa using expected
        exact goes_still at_ (by simp [step, at_, expected]) unlisted
  | _ => exact goes_still at_ (by simp only [step, at_]) rfl

private theorem goes_poll (at_ : group.callers[caller]? = some ⟨context, key, place⟩) :
    GoesOn near group caller context key place (.poll caller) := by
  have deaf : heardOf near group caller (.poll caller) = [] := by
    cases place <;> simp [heardOf, reaches, at_, Place.hears]
  have stays := moveTo_same at_
  cases place with
  | joinedLoad call =>
      cases answered : group.loads.answer? call with
      | none => exact goes_still at_ (by simp only [step, at_, pollPlace, answered, stays]) rfl
      | some result =>
          exact goes_moved at_ (by simp only [step, at_, pollPlace, answered]; rfl) (by rfl) deaf
            (by rfl) (.hearLoad call result answered)
  | joinedRemoval call =>
      cases answered : group.removals.answer? call with
      | none => exact goes_still at_ (by simp only [step, at_, pollPlace, answered, stays]) rfl
      | some result =>
          exact goes_moved at_ (by simp only [step, at_, pollPlace, answered]; rfl) (by rfl) deaf
            (by rfl) (.hearRemoval call result answered)
  | broadcasting call awaited failure =>
      cases awaited with
      | nil =>
          have ended := endRemoval_eq group call failure
          exact goes_moved at_ (by simp only [step, at_, pollPlace, ended]; rfl) (by rfl) deaf
            (by rfl) (.endBroadcast call failure (by rfl))
      | cons first rest =>
          exact goes_still at_ (by simp only [step, at_, pollPlace, stays]) rfl
  | _ => exact goes_still at_ (by simp only [step, at_, pollPlace, stays]) rfl

private theorem goes_drop (at_ : group.callers[caller]? = some ⟨context, key, place⟩) :
    GoesOn near group caller context key place (.drop caller) := by
  by_cases waiting : (place.isWaiting && !place.isAtWork) = true
  case neg =>
      have stays := moveTo_same at_
      have deaf : place.hears (.drop caller) = false := by cases place <;> simp_all [Place.hears]
      cases place with
      | missed | leading | found | got | removed | panicked | dropped =>
          exact goes_still at_ (by simp only [step, at_, dropPlace, stays]) deaf
      | _ => exact absurd rfl waiting
  case pos =>
      have told : place.hears (.drop caller) = true := by cases place <;> simp_all [Place.hears]
      have hears := heardOf_of_hears near at_ rfl told
      obtain ⟨waits, rests⟩ := Bool.and_eq_true_iff.mp waiting
      have went : group.step near (.drop caller) =
          ((group.dropPlace place).2.moveTo caller .dropped, []) := by
        cases place with
        | missed | leading | found => cases rests
        | got | removed | panicked | dropped => cases waits
        | _ => simp only [step, at_, dropPlace]
      refine goes_moved at_ went ?_ hears rfl
        (.dropped place waits (by simpa using rests) ?_ ?_)
      · cases place <;> rfl
      · intro call leads
        cases place with
        | askingPeer | loading => cases leads; rfl
        | leading | found => cases rests
        | _ => cases leads
      · intro call leads
        cases place with
        | askingOwner | broadcasting => cases leads; rfl
        | _ => cases leads

/-- Whatever happens, a caller goes on in one of these ways. -/
theorem step_goes (near : Surroundings P) (move : Move)
    (at_ : group.callers[caller]? = some ⟨context, key, place⟩) :
    ∃ next, (group.step near move).1.callers[caller]? = some ⟨context, key, next⟩ ∧
      Goes near group (group.step near move).1 caller key place
        (heardOf near group caller move) (asked caller (group.step near move).2) next := by
  by_cases named : move.caller? = some caller
  case neg =>
      have transition := step_transition near group move
      have here := (List.getElem?_eq_some_iff.mp at_).1
      have deaf : heardOf near group caller move = [] := by simp [heardOf, reaches, named]
      rw [deaf, transition.asked_other here named]
      exact ⟨place, transition.shift.callers_stay at_ named, .stays place⟩
  case pos =>
      cases move with
      | get | startGet | remove | removeLocally | look | serve => cases named
      | goOn index => cases named; exact goes_goOn at_
      | peerReplied index reply => cases named; exact goes_peerReplied at_ reply
      | loaderReplied index reply => cases named; exact goes_loaderReplied at_ reply
      | ownerReplied index reply => cases named; exact goes_ownerReplied at_ reply
      | broadcastEnded index number reply =>
          cases named
          exact goes_broadcastEnded at_ number reply
      | poll index => cases named; exact goes_poll at_
      | drop index => cases named; exact goes_drop at_

end Complete

/-! ## Runs -/

section Runs

variable [PeerHandle P] {caller : Nat} {context : CallContext} {key : String}

theorem asked_run_cons (group : Group P) (caller : Nat) (near : Surroundings P) (move : Move)
    (rest : List (Surroundings P × Move)) :
    asked caller (group.run ((near, move) :: rest)).2 =
      asked caller (group.step near move).2 ++
        asked caller ((group.step near move).1.run rest).2 :=
  asked_append ..

/-- A caller that is there stays there, with its context and its key. -/
theorem exists_place_of_run {group : Group P} {place : Place P}
    (at_ : group.callers[caller]? = some ⟨context, key, place⟩)
    (moves : List (Surroundings P × Move)) :
    ∃ next, (group.run moves).1.callers[caller]? = some ⟨context, key, next⟩ := by
  induction moves generalizing group place with
  | nil => exact ⟨place, at_⟩
  | cons timed rest hyp =>
      obtain ⟨next, there, -⟩ := step_goes timed.1 timed.2 at_
      exact hyp there

/-- A property of a caller that is there, given what it has heard and asked for so far, which
it keeps however it goes on. -/
def Lasting (caller : Nat) (context : CallContext) (key : String)
    (course : Group P → List (Surroundings P × Move) → List (Event P) → Place P → Prop) : Prop :=
  ∀ (near : Surroundings P) (group : Group P) (move : Move) (place next : Place P)
    (heard added : List (Surroundings P × Move)) (asked more : List (Event P)),
    group.Orderly → group.callers[caller]? = some ⟨context, key, place⟩ →
    Goes near group (group.step near move).1 caller key place added more next →
    course group heard asked place →
    course (group.step near move).1 (heard ++ added) (asked ++ more) next

/-- What lasts holds along every run. -/
theorem follow_run
    {course : Group P → List (Surroundings P × Move) → List (Event P) → Place P → Prop}
    (lasting : Lasting caller context key course) {group : Group P} (orderly : group.Orderly)
    {place : Place P} (at_ : group.callers[caller]? = some ⟨context, key, place⟩)
    (told : List (Surroundings P × Move)) (asks : List (Event P))
    (holds : course group told asks place) (moves : List (Surroundings P × Move)) :
    ∃ next, (group.run moves).1.callers[caller]? = some ⟨context, key, next⟩ ∧
      course (group.run moves).1 (told ++ group.heard caller moves)
        (asks ++ asked caller (group.run moves).2) next := by
  induction moves generalizing group place told asks with
  | nil => exact ⟨place, at_, by simpa [heard, run, asked] using holds⟩
  | cons timed rest hyp =>
      obtain ⟨near, move⟩ := timed
      obtain ⟨next, here, goes⟩ := step_goes near move at_
      have onward := lasting near group move place next _ _ _ _ orderly at_ goes holds
      obtain ⟨last, there, ends⟩ := hyp (step_orderly near move orderly) here _ _ onward
      refine ⟨last, there, ?_⟩
      simpa only [heard, run, asked_append, List.append_assoc] using ends

/-- A caller that hears something hears something first, and hears nothing before. -/
theorem exists_of_heard {group : Group P} {moves : List (Surroundings P × Move)}
    {near : Surroundings P} {move : Move} {rest : List (Surroundings P × Move)}
    (hears : group.heard caller moves = (near, move) :: rest) :
    ∃ before later, moves = before ++ (near, move) :: later ∧
      group.heard caller before = [] ∧ (group.run before).1.reaches caller move = true ∧
      ((group.run before).1.step near move).1.heard caller later = rest := by
  induction moves generalizing group with
  | nil => cases hears
  | cons timed others hyp =>
      obtain ⟨first, other⟩ := timed
      by_cases reached : group.reaches caller other = true
      · rw [heard, heardOf, if_pos reached] at hears
        cases hears
        exact ⟨[], others, rfl, rfl, reached, rfl⟩
      · have deaf : heardOf first group caller other = [] := if_neg reached
        rw [heard, deaf] at hears
        obtain ⟨before, later, rfl, quiet, reaches, onward⟩ := hyp hears
        refine ⟨(first, other) :: before, later, rfl, ?_, reaches, onward⟩
        rw [heard, deaf, quiet]
        rfl

end Runs

end Group

end PeerCache
