/-
Module: PeerCache.Proofs.Group.Transition
Purpose: All that a move can do to a group, as one relation.
Main exports:
  Group.Misses, Group.missing, Group.leading, Group.Transition, Group.step_transition,
  Group.step_get_eq_run
-/
import PeerCache.Group

/-!
`Group.Transition` lists what a move can come to, with the conditions under which it does
and the group that it leaves; `Group.step_transition` says that the list is complete.
Facts about every run of a group are proved by cases on it, and no later proof opens the
functions that make up `Group.step`.

A get that runs up to its first wait at once does what it would do by moves of its own
(`Group.step_get_eq_run`).  When it leads a load and looks again it never finds anything, as its
first look has just forgotten an expired view.  It may find something if others have come
between.
-/

namespace PeerCache

namespace Group

variable {P : Type}

/-- The store has no view for the key that still counts. -/
def Misses (group : Group P) (now : Instant) (key : String) : Prop :=
  ∀ view, group.store.find? key = some view → view.isExpiredAt now = true

/-- The group after a get has missed the store. -/
def missing (group : Group P) (key : String) : Group P :=
  ((group.bump .gets).removeLocally key).bump .loads

/-- The group after a load for a key was begun. -/
def entering (group : Group P) (key : String) (now : Instant) : Group P :=
  { group with loads := (group.loads.begin key key now).2 }

/-- The group after a load for a key was begun, and its leader has looked in vain. -/
def leading (group : Group P) (key : String) (now : Instant) : Group P :=
  (group.entering key now).bump .loadsDeduped

/-- The group after the leader of a load has missed the store once more. -/
def missingAgain (group : Group P) (key : String) : Group P :=
  (group.removeLocally key).bump .loadsDeduped

/-- The group after a removal of a key was begun. -/
def removing (group : Group P) (key : String) (now : Instant) : Group P :=
  { group with removals := (group.removals.begin key key now).2 }

theorem lookUp_of_some {group : Group P} {now : Instant} {key : String} {view : View}
    (kept : group.store.find? key = some view) (valid : view.isExpiredAt now = false) :
    group.lookUp now key = (some view, group) := by
  simp [lookUp, kept, valid]

theorem lookUp_of_misses {group : Group P} {now : Instant} {key : String}
    (misses : group.Misses now key) :
    group.lookUp now key = (none, group.removeLocally key) := by
  unfold lookUp removeLocally
  cases kept : group.store.find? key with
  | none => simp only [Store.erase_of_find?_eq_none kept]
  | some view => simp only [misses view kept, if_true]

theorem misses_or_exists (group : Group P) (now : Instant) (key : String) :
    group.Misses now key ∨
      ∃ view, group.store.find? key = some view ∧ view.isExpiredAt now = false := by
  cases kept : group.store.find? key with
  | none => exact Or.inl fun view found => by rw [kept] at found; cases found
  | some view =>
      cases valid : view.isExpiredAt now with
      | false => exact Or.inr ⟨view, rfl, valid⟩
      | true =>
          left
          intro other found
          rw [kept, Option.some.injEq] at found
          rw [← found, valid]

/-- A key that was just removed is missed. -/
theorem misses_of_erased {group : Group P} {key : String}
    (erased : group.store.find? key = none) (now : Instant) : group.Misses now key :=
  fun view found => by rw [erased] at found; cases found

/-- Who comes with a move, and for which key. -/
def Move.arrival? : Move → Option (CallContext × String)
  | .get context key => some (context, key)
  | .startGet context key => some (context, key)
  | .remove context key => some (context, key)
  | _ => none

/-- The caller that a move is for. -/
def Move.caller? : Move → Option Nat
  | .goOn caller => some caller
  | .peerReplied caller _ => some caller
  | .loaderReplied caller _ => some caller
  | .ownerReplied caller _ => some caller
  | .broadcastEnded caller _ _ => some caller
  | .poll caller => some caller
  | .drop caller => some caller
  | _ => none

/-- What a move can come to. -/
inductive Transition [PeerHandle P] (near : Surroundings P) (group : Group P) :
    Move → Group P → List (Event P) → Prop where
  | hit (context : CallContext) (key : String) (view : View)
      (kept : group.store.find? key = some view) (valid : view.isExpiredAt near.now = false) :
      Transition near group (.get context key)
        (((group.bump .gets).bump .cacheHits).arrive context key (.got (.ok view))) []
  | joinLoad (context : CallContext) (key : String) (call : CallId)
      (misses : group.Misses near.now key) (found : group.loads.find? key = some call)
      (unanswered : group.loads.answer? call = none) :
      Transition near group (.get context key)
        ((group.missing key).arrive context key (.joinedLoad call)) []
  | lateLoad (context : CallContext) (key : String) (call : CallId) (result : Result View)
      (misses : group.Misses near.now key) (found : group.loads.find? key = some call)
      (answered : group.loads.answer? call = some result) :
      Transition near group (.get context key)
        ((group.missing key).arrive context key (.got result)) []
  | askPeer (context : CallContext) (key : String) (peer : P)
      (misses : group.Misses near.now key) (free : group.loads.find? key = none)
      (picked : near.pick? key = some peer) :
      Transition near group (.get context key)
        (((group.missing key).leading key near.now).arrive context key
          (.askingPeer group.loads.calls.length peer))
        [.askedPeer group.callers.length key peer]
  | callLoader (context : CallContext) (key : String)
      (misses : group.Misses near.now key) (free : group.loads.find? key = none)
      (picked : near.pick? key = none) :
      Transition near group (.get context key)
        (((group.missing key).leading key near.now).arrive context key
          (.loading group.loads.calls.length))
        [.calledLoader group.callers.length key]
  | startHit (context : CallContext) (key : String) (view : View)
      (kept : group.store.find? key = some view) (valid : view.isExpiredAt near.now = false) :
      Transition near group (.startGet context key)
        (((group.bump .gets).bump .cacheHits).arrive context key (.got (.ok view))) []
  | startMiss (context : CallContext) (key : String) (misses : group.Misses near.now key) :
      Transition near group (.startGet context key)
        ((group.missing key).arrive context key .missed) []
  | enterJoin (caller : Nat) (context : CallContext) (key : String) (call : CallId)
      (at_ : group.callers[caller]? = some ⟨context, key, .missed⟩)
      (found : group.loads.find? key = some call)
      (unanswered : group.loads.answer? call = none) :
      Transition near group (.goOn caller) (group.moveTo caller (.joinedLoad call)) []
  | enterLate (caller : Nat) (context : CallContext) (key : String) (call : CallId)
      (result : Result View) (at_ : group.callers[caller]? = some ⟨context, key, .missed⟩)
      (found : group.loads.find? key = some call)
      (answered : group.loads.answer? call = some result) :
      Transition near group (.goOn caller) (group.moveTo caller (.got result)) []
  | enterLead (caller : Nat) (context : CallContext) (key : String)
      (at_ : group.callers[caller]? = some ⟨context, key, .missed⟩)
      (free : group.loads.find? key = none) :
      Transition near group (.goOn caller)
        ((group.entering key near.now).moveTo caller (.leading group.loads.calls.length)) []
  | findAgain (caller : Nat) (context : CallContext) (key : String) (call : CallId) (view : View)
      (at_ : group.callers[caller]? = some ⟨context, key, .leading call⟩)
      (kept : group.store.find? key = some view) (valid : view.isExpiredAt near.now = false) :
      Transition near group (.goOn caller)
        ((group.bump .cacheHits).moveTo caller (.found call view)) []
  | leadToPeer (caller : Nat) (context : CallContext) (key : String) (call : CallId) (peer : P)
      (at_ : group.callers[caller]? = some ⟨context, key, .leading call⟩)
      (misses : group.Misses near.now key) (picked : near.pick? key = some peer) :
      Transition near group (.goOn caller)
        ((group.missingAgain key).moveTo caller (.askingPeer call peer))
        [.askedPeer caller key peer]
  | leadToLoader (caller : Nat) (context : CallContext) (key : String) (call : CallId)
      (at_ : group.callers[caller]? = some ⟨context, key, .leading call⟩)
      (misses : group.Misses near.now key) (picked : near.pick? key = none) :
      Transition near group (.goOn caller)
        ((group.missingAgain key).moveTo caller (.loading call)) [.calledLoader caller key]
  | endFound (caller : Nat) (context : CallContext) (key : String) (call : CallId) (view : View)
      (at_ : group.callers[caller]? = some ⟨context, key, .found call view⟩) :
      Transition near group (.goOn caller)
        ((group.settleLoad call (some (.ok view))).moveTo caller (.got (.ok view))) []
  | peerGave (caller : Nat) (context : CallContext) (key : String) (call : CallId) (peer : P)
      (response : Response)
      (at_ : group.callers[caller]? = some ⟨context, key, .askingPeer call peer⟩) :
      Transition near group (.peerReplied caller (.returned (.ok response)))
        (((group.bump .peerLoads).settleLoad call (some (.ok (.ofResponse response)))).moveTo
          caller (.got (.ok (.ofResponse response)))) []
  | peerFailed (caller : Nat) (context : CallContext) (key : String) (call : CallId) (peer : P)
      (error : CacheError)
      (at_ : group.callers[caller]? = some ⟨context, key, .askingPeer call peer⟩) :
      Transition near group (.peerReplied caller (.returned (.error error)))
        ((group.bump .peerErrors).moveTo caller (.loading call)) [.calledLoader caller key]
  | peerPanicked (caller : Nat) (context : CallContext) (key : String) (call : CallId) (peer : P)
      (message : String)
      (at_ : group.callers[caller]? = some ⟨context, key, .askingPeer call peer⟩) :
      Transition near group (.peerReplied caller (.panicked message))
        ((group.settleLoad call none).moveTo caller (.panicked message)) []
  | loaderGave (caller : Nat) (context : CallContext) (key : String) (call : CallId) (view : View)
      (at_ : group.callers[caller]? = some ⟨context, key, .loading call⟩) :
      Transition near group (.loaderReplied caller (.returned (.ok view)))
        ((({ group.bump .localLoads with store := group.store.insert key view }).settleLoad call
          (some (.ok view))).moveTo caller (.got (.ok view))) []
  | loaderFailed (caller : Nat) (context : CallContext) (key : String) (call : CallId)
      (cause : Chain) (at_ : group.callers[caller]? = some ⟨context, key, .loading call⟩) :
      Transition near group (.loaderReplied caller (.returned (.error cause)))
        (((group.bump .localLoadErrors).settleLoad call (some (.error (.load cause)))).moveTo
          caller (.got (.error (.load cause)))) []
  | loaderPanicked (caller : Nat) (context : CallContext) (key : String) (call : CallId)
      (message : String) (at_ : group.callers[caller]? = some ⟨context, key, .loading call⟩) :
      Transition near group (.loaderReplied caller (.panicked message))
        ((group.settleLoad call none).moveTo caller (.panicked message)) []
  | joinRemoval (context : CallContext) (key : String) (call : CallId)
      (found : group.removals.find? key = some call)
      (unanswered : group.removals.answer? call = none) :
      Transition near group (.remove context key)
        (group.arrive context key (.joinedRemoval call)) []
  | lateRemoval (context : CallContext) (key : String) (call : CallId) (result : Result Unit)
      (found : group.removals.find? key = some call)
      (answered : group.removals.answer? call = some result) :
      Transition near group (.remove context key) (group.arrive context key (.removed result)) []
  | askOwner (context : CallContext) (key : String) (owner : P)
      (free : group.removals.find? key = none) (picked : near.pick? key = some owner) :
      Transition near group (.remove context key)
        ((group.removing key near.now).arrive context key
          (.askingOwner group.removals.calls.length owner))
        [.askedOwner group.callers.length key owner]
  | removeHere (context : CallContext) (key : String)
      (free : group.removals.find? key = none) (picked : near.pick? key = none) :
      Transition near group (.remove context key)
        (((group.removing key near.now).removeLocally key).arrive context key
          (.broadcasting group.removals.calls.length ((broadcastTo near none).map Prod.snd) none))
        (announce near none group.callers.length key)
  | ownerRemoved (caller : Nat) (context : CallContext) (key : String) (call : CallId) (owner : P)
      (at_ : group.callers[caller]? = some ⟨context, key, .askingOwner call owner⟩) :
      Transition near group (.ownerReplied caller (.returned (.ok ())))
        ((group.removeLocally key).moveTo caller
          (.broadcasting call ((broadcastTo near (some owner)).map Prod.snd) none))
        (announce near (some owner) caller key)
  | ownerFailed (caller : Nat) (context : CallContext) (key : String) (call : CallId) (owner : P)
      (error : CacheError)
      (at_ : group.callers[caller]? = some ⟨context, key, .askingOwner call owner⟩) :
      Transition near group (.ownerReplied caller (.returned (.error error)))
        ((group.settleRemoval call (some (.error error))).moveTo caller (.removed (.error error)))
        []
  | ownerPanicked (caller : Nat) (context : CallContext) (key : String) (call : CallId) (owner : P)
      (message : String)
      (at_ : group.callers[caller]? = some ⟨context, key, .askingOwner call owner⟩) :
      Transition near group (.ownerReplied caller (.panicked message))
        ((group.settleRemoval call none).moveTo caller (.panicked message)) []
  | peerRemoved (caller : Nat) (context : CallContext) (key : String) (call : CallId)
      (awaited : List Nat) (failure : Option CacheError) (number : Nat)
      (reply : Reply CacheError Unit)
      (at_ : group.callers[caller]? = some ⟨context, key, .broadcasting call awaited failure⟩)
      (expected : awaited.contains number = true) :
      Transition near group (.broadcastEnded caller number reply)
        (group.moveTo caller
          (.broadcasting call (awaited.filter (· ≠ number)) (noteFailure failure reply))) []
  | endBroadcast (caller : Nat) (context : CallContext) (key : String) (call : CallId)
      (failure : Option CacheError)
      (at_ : group.callers[caller]? = some ⟨context, key, .broadcasting call [] failure⟩) :
      Transition near group (.poll caller)
        ((group.endRemoval call failure).2.moveTo caller (group.endRemoval call failure).1) []
  | hearLoad (caller : Nat) (context : CallContext) (key : String) (call : CallId)
      (result : Result View)
      (at_ : group.callers[caller]? = some ⟨context, key, .joinedLoad call⟩)
      (answered : group.loads.answer? call = some result) :
      Transition near group (.poll caller) (group.moveTo caller (.got result)) []
  | hearRemoval (caller : Nat) (context : CallContext) (key : String) (call : CallId)
      (result : Result Unit)
      (at_ : group.callers[caller]? = some ⟨context, key, .joinedRemoval call⟩)
      (answered : group.removals.answer? call = some result) :
      Transition near group (.poll caller) (group.moveTo caller (.removed result)) []
  | dropGet (caller : Nat) (context : CallContext) (key : String) (call : CallId)
      (at_ : group.callers[caller]? = some ⟨context, key, .joinedLoad call⟩) :
      Transition near group (.drop caller) (group.moveTo caller .dropped) []
  | dropRemove (caller : Nat) (context : CallContext) (key : String) (call : CallId)
      (at_ : group.callers[caller]? = some ⟨context, key, .joinedRemoval call⟩) :
      Transition near group (.drop caller) (group.moveTo caller .dropped) []
  | dropAskingPeer (caller : Nat) (context : CallContext) (key : String) (call : CallId) (peer : P)
      (at_ : group.callers[caller]? = some ⟨context, key, .askingPeer call peer⟩) :
      Transition near group (.drop caller)
        ((group.settleLoad call none).moveTo caller .dropped) []
  | dropLoading (caller : Nat) (context : CallContext) (key : String) (call : CallId)
      (at_ : group.callers[caller]? = some ⟨context, key, .loading call⟩) :
      Transition near group (.drop caller)
        ((group.settleLoad call none).moveTo caller .dropped) []
  | dropAskingOwner (caller : Nat) (context : CallContext) (key : String) (call : CallId)
      (owner : P) (at_ : group.callers[caller]? = some ⟨context, key, .askingOwner call owner⟩) :
      Transition near group (.drop caller)
        ((group.settleRemoval call none).moveTo caller .dropped) []
  | dropBroadcasting (caller : Nat) (context : CallContext) (key : String) (call : CallId)
      (awaited : List Nat) (failure : Option CacheError)
      (at_ : group.callers[caller]? = some ⟨context, key, .broadcasting call awaited failure⟩) :
      Transition near group (.drop caller)
        ((group.settleRemoval call none).moveTo caller .dropped) []
  | removeLocally (key : String) :
      Transition near group (.removeLocally key) (group.removeLocally key) []
  | lookMissed (key : String) (misses : group.Misses near.now key) :
      Transition near group (.look key) (group.removeLocally key) []
  | serve : Transition near group .serve (group.bump .serverRequests) []
  /-- Nobody waits for what the move brings. -/
  | idle (move : Move) (nobody : move.arrival? = none) : Transition near group move group []

/-- Callers after one of them, of whom it is known where it stands, has moved. -/
theorem modify_place {callers : List (GroupCaller P)} {index : Nat} {entry : GroupCaller P}
    (at_ : callers[index]? = some entry) (place : Place P) :
    callers.modify index (fun other => { other with place }) =
      callers.set index { entry with place } := by
  apply List.ext_getElem?
  intro other
  rw [List.getElem?_modify, List.getElem?_set]
  by_cases same : index = other
  · subst same
    obtain ⟨bound, here⟩ := List.getElem?_eq_some_iff.mp at_
    simp [bound, here]
  · simp [same]

/-- A caller that moves to where it stands changes nothing. -/
theorem moveTo_same {group : Group P} {caller : Nat} {entry : GroupCaller P}
    (at_ : group.callers[caller]? = some entry) : group.moveTo caller entry.place = group := by
  obtain ⟨bound, here⟩ := List.getElem?_eq_some_iff.mp at_
  have callers := modify_place at_ entry.place
  rw [← here, List.set_getElem_self] at callers
  rw [← here, moveTo, callers]

theorem getElem?_moveTo {group : Group P} {caller : Nat} {entry : GroupCaller P}
    (at_ : group.callers[caller]? = some entry) (place : Place P) :
    (group.moveTo caller place).callers[caller]? = some { entry with place } := by
  simp [moveTo, at_]

/-! ## The list is complete -/

section Complete

variable [PeerHandle P] (near : Surroundings P) (group : Group P)

omit [PeerHandle P] in
theorem leadLoad_of_misses {key : String} (misses : group.Misses near.now key)
    (caller : Nat) (call : CallId) :
    leadLoad near group caller key call =
      match near.pick? key with
      | some peer =>
          (.askingPeer call peer, group.missingAgain key, [.askedPeer caller key peer])
      | none => (.loading call, group.missingAgain key, [.calledLoader caller key]) := by
  unfold leadLoad
  simp only [lookUp_of_misses misses]
  rfl

omit [PeerHandle P] in
private theorem beginGet_of_misses {key : String} (misses : group.Misses near.now key) :
    beginGet near group key = (.missed, group.missing key) := by
  have first : (group.bump .gets).lookUp near.now key =
      (none, (group.bump .gets).removeLocally key) :=
    lookUp_of_misses (show (group.bump .gets).Misses near.now key from misses)
  simp only [beginGet, first]
  rfl

omit [PeerHandle P] in
private theorem beginGet_of_some {key : String} {view : View}
    (kept : group.store.find? key = some view) (valid : view.isExpiredAt near.now = false) :
    beginGet near group key = (.got (.ok view), (group.bump .gets).bump .cacheHits) := by
  have hit : (group.bump .gets).lookUp near.now key = (some view, group.bump .gets) :=
    lookUp_of_some (show (group.bump .gets).store.find? key = some view from kept) valid
  simp only [beginGet, hit]

private theorem step_startGet (context : CallContext) (key : String) :
    Transition near group (.startGet context key)
      (group.step near (.startGet context key)).1 (group.step near (.startGet context key)).2 := by
  rcases group.misses_or_exists near.now key with misses | ⟨view, kept, valid⟩
  · simp only [step, beginGet_of_misses near group misses]
    exact .startMiss context key misses
  · simp only [step, beginGet_of_some near group kept valid]
    exact .startHit context key view kept valid

private theorem step_goOn (caller : Nat) :
    Transition near group (.goOn caller)
      (group.step near (.goOn caller)).1 (group.step near (.goOn caller)).2 := by
  simp only [step]
  cases at_ : group.callers[caller]? with
  | none => exact .idle _ rfl
  | some entry =>
      obtain ⟨context, key, place⟩ := entry
      have stays := moveTo_same at_
      cases place with
      | missed =>
          simp only [goOn, enterLoad]
          cases found : group.loads.find? key with
          | some call =>
              cases answered : group.loads.answer? call with
              | none =>
                  simp only [answered]
                  exact .enterJoin caller context key call at_ found answered
              | some result =>
                  simp only [answered]
                  exact .enterLate caller context key call result at_ found answered
          | none => exact .enterLead caller context key at_ found
      | leading call =>
          simp only [goOn]
          rcases group.misses_or_exists near.now key with misses | ⟨view, kept, valid⟩
          · simp only [leadLoad_of_misses near group misses]
            cases picked : near.pick? key with
            | none => exact .leadToLoader caller context key call at_ misses picked
            | some peer => exact .leadToPeer caller context key call peer at_ misses picked
          · simp only [leadLoad, lookUp_of_some kept valid]
            exact .findAgain caller context key call view at_ kept valid
      | found call view => exact .endFound caller context key call view at_
      | _ =>
          simp only [goOn, stays]
          exact .idle _ rfl

omit [PeerHandle P] in
/-- A get that has missed, and with which nothing comes between, never finds its key again. -/
private theorem runGet_of_misses {key : String} (misses : group.Misses near.now key) :
    runGet near group key =
      match group.loads.find? key with
      | some call =>
          match group.loads.answer? call with
          | some result => (.got result, group.missing key, [])
          | none => (.joinedLoad call, group.missing key, [])
      | none =>
          match near.pick? key with
          | some peer =>
              (.askingPeer group.loads.calls.length peer,
                (group.missing key).leading key near.now,
                [.askedPeer group.callers.length key peer])
          | none =>
              (.loading group.loads.calls.length, (group.missing key).leading key near.now,
                [.calledLoader group.callers.length key]) := by
  simp only [runGet, beginGet_of_misses near group misses, goOn, enterLoad]
  have loads : (group.missing key).loads = group.loads := rfl
  rw [loads]
  cases group.loads.find? key with
  | some call =>
      dsimp only
      cases group.loads.answer? call with
      | none => rfl
      | some result => rfl
  | none =>
      have erased : ((group.missing key).entering key near.now).store.find? key = none :=
        group.store.find?_erase_self key
      have second := leadLoad_of_misses near _ (misses_of_erased erased near.now)
        group.callers.length group.loads.calls.length
      have same : ((group.missing key).entering key near.now).missingAgain key =
          (group.missing key).leading key near.now := by
        rw [missingAgain, removeLocally, Store.erase_of_find?_eq_none erased, leading]
      rw [same] at second
      have led : leadLoad near { group.missing key with
          loads := (group.loads.begin key key near.now).2 } group.callers.length key
            (group.loads.begin key key near.now).1 = _ := second
      simp only [led]
      cases near.pick? key with
      | none => rfl
      | some peer => rfl

private theorem step_get (context : CallContext) (key : String) :
    Transition near group (.get context key)
      (group.step near (.get context key)).1 (group.step near (.get context key)).2 := by
  rcases group.misses_or_exists near.now key with misses | ⟨view, kept, valid⟩
  · simp only [step, runGet_of_misses near group misses]
    cases found : group.loads.find? key with
    | some call =>
        cases answered : group.loads.answer? call with
        | none =>
            simp only [answered]
            exact .joinLoad context key call misses found answered
        | some result =>
            simp only [answered]
            exact .lateLoad context key call result misses found answered
    | none =>
        cases picked : near.pick? key with
        | none => exact .callLoader context key misses found picked
        | some peer => exact .askPeer context key peer misses found picked
  · simp only [step, runGet, beginGet_of_some near group kept valid]
    exact .hit context key view kept valid

private theorem step_remove (context : CallContext) (key : String) :
    Transition near group (.remove context key)
      (group.step near (.remove context key)).1 (group.step near (.remove context key)).2 := by
  simp only [step, beginRemove]
  cases found : group.removals.find? key with
  | some call =>
      cases answered : group.removals.answer? call with
      | none =>
          simp only [answered]
          exact .joinRemoval context key call found answered
      | some result =>
          simp only [answered]
          exact .lateRemoval context key call result found answered
  | none =>
      cases picked : near.pick? key with
      | some owner =>
          exact .askOwner context key owner found picked
      | none =>
          exact .removeHere context key found picked

private theorem step_peerReplied (caller : Nat) (reply : Reply CacheError Response) :
    Transition near group (.peerReplied caller reply)
      (group.step near (.peerReplied caller reply)).1
      (group.step near (.peerReplied caller reply)).2 := by
  simp only [step]
  split
  case h_1 context key call peer at_ =>
      match reply with
      | .returned (.ok response) => exact .peerGave caller context key call peer response at_
      | .returned (.error error) => exact .peerFailed caller context key call peer error at_
      | .panicked message => exact .peerPanicked caller context key call peer message at_
  case h_2 => exact .idle _ rfl

private theorem step_loaderReplied (caller : Nat) (reply : Reply Chain View) :
    Transition near group (.loaderReplied caller reply)
      (group.step near (.loaderReplied caller reply)).1
      (group.step near (.loaderReplied caller reply)).2 := by
  simp only [step]
  split
  case h_1 context key call at_ =>
      match reply with
      | .returned (.ok view) => exact .loaderGave caller context key call view at_
      | .returned (.error cause) => exact .loaderFailed caller context key call cause at_
      | .panicked message => exact .loaderPanicked caller context key call message at_
  case h_2 => exact .idle _ rfl

private theorem step_ownerReplied (caller : Nat) (reply : Reply CacheError Unit) :
    Transition near group (.ownerReplied caller reply)
      (group.step near (.ownerReplied caller reply)).1
      (group.step near (.ownerReplied caller reply)).2 := by
  simp only [step]
  split
  case h_1 context key call owner at_ =>
      match reply with
      | .returned (.ok ()) => exact .ownerRemoved caller context key call owner at_
      | .returned (.error error) => exact .ownerFailed caller context key call owner error at_
      | .panicked message => exact .ownerPanicked caller context key call owner message at_
  case h_2 => exact .idle _ rfl

private theorem step_broadcastEnded (caller number : Nat) (reply : Reply CacheError Unit) :
    Transition near group (.broadcastEnded caller number reply)
      (group.step near (.broadcastEnded caller number reply)).1
      (group.step near (.broadcastEnded caller number reply)).2 := by
  simp only [step]
  split
  case h_1 context key call awaited failure at_ =>
      by_cases expected : awaited.contains number = true
      · rw [if_pos expected]
        exact .peerRemoved caller context key call awaited failure number reply at_ expected
      · rw [if_neg expected]
        exact .idle _ rfl
  case h_2 => exact .idle _ rfl

/-- A caller that stays where it is has made no move. -/
private theorem idle_of_same {move : Move} (nobody : move.arrival? = none) {caller : Nat}
    {entry : GroupCaller P} (at_ : group.callers[caller]? = some entry) :
    Transition near group move (group.moveTo caller entry.place) [] := by
  rw [moveTo_same at_]
  exact .idle move nobody

private theorem step_poll (caller : Nat) :
    Transition near group (.poll caller)
      (group.step near (.poll caller)).1 (group.step near (.poll caller)).2 := by
  simp only [step]
  cases at_ : group.callers[caller]? with
  | none => exact .idle _ rfl
  | some entry =>
      obtain ⟨context, key, place⟩ := entry
      have stays := idle_of_same near group (show (Move.poll caller).arrival? = none from rfl) at_
      simp only [pollPlace]
      split
      case h_1 call =>
          cases answered : group.loads.answer? call with
          | none => exact stays
          | some result => exact .hearLoad caller context key call result at_ answered
      case h_2 call =>
          cases answered : group.removals.answer? call with
          | none => exact stays
          | some result => exact .hearRemoval caller context key call result at_ answered
      case h_3 call failure => exact .endBroadcast caller context key call failure at_
      case h_4 => exact stays

private theorem step_drop (caller : Nat) :
    Transition near group (.drop caller)
      (group.step near (.drop caller)).1 (group.step near (.drop caller)).2 := by
  simp only [step]
  cases at_ : group.callers[caller]? with
  | none => exact .idle _ rfl
  | some entry =>
      obtain ⟨context, key, place⟩ := entry
      have stays := idle_of_same near group (show (Move.drop caller).arrival? = none from rfl) at_
      cases place with
      | missed => exact stays
      | leading call => exact stays
      | found call view => exact stays
      | joinedLoad call => exact .dropGet caller context key call at_
      | joinedRemoval call => exact .dropRemove caller context key call at_
      | askingPeer call peer => exact .dropAskingPeer caller context key call peer at_
      | loading call => exact .dropLoading caller context key call at_
      | askingOwner call owner =>
          exact .dropAskingOwner caller context key call owner at_
      | broadcasting call awaited failure =>
          exact .dropBroadcasting caller context key call awaited failure at_
      | got result => exact stays
      | removed result => exact stays
      | panicked message => exact stays
      | dropped => exact stays

private theorem step_look (key : String) :
    Transition near group (.look key)
      (group.step near (.look key)).1 (group.step near (.look key)).2 := by
  rcases group.misses_or_exists near.now key with misses | ⟨view, kept, valid⟩
  · simp only [step, lookUp_of_misses misses]
    exact .lookMissed key misses
  · simp only [step, lookUp_of_some kept valid]
    exact .idle _ rfl

/-- Every step of a group is one of the transitions. -/
theorem step_transition (move : Move) :
    Transition near group move (group.step near move).1 (group.step near move).2 := by
  cases move with
  | get context key => exact step_get near group context key
  | startGet context key => exact step_startGet near group context key
  | goOn caller => exact step_goOn near group caller
  | peerReplied caller reply => exact step_peerReplied near group caller reply
  | loaderReplied caller reply => exact step_loaderReplied near group caller reply
  | remove context key => exact step_remove near group context key
  | ownerReplied caller reply => exact step_ownerReplied near group caller reply
  | broadcastEnded caller number reply => exact step_broadcastEnded near group caller number reply
  | poll caller => exact step_poll near group caller
  | drop caller => exact step_drop near group caller
  | removeLocally key => exact .removeLocally key
  | look key => exact step_look near group key
  | serve => exact .serve

end Complete

/-! ## Gets in one move and in several -/

section Whole

variable (near : Surroundings P) (group : Group P) (context : CallContext) (key : String)

theorem lookUp_arrive (now : Instant) (name : String) (place : Place P) :
    (group.arrive context key place).lookUp now name =
      ((group.lookUp now name).1, (group.lookUp now name).2.arrive context key place) := by
  unfold lookUp arrive
  dsimp only
  split
  · rfl
  · split <;> rfl

/-- What a get does next has nothing to do with who has come. -/
theorem goOn_arrive (caller : Nat) (name : String) (new place : Place P) :
    goOn near (group.arrive context key new) caller name place =
      ((goOn near group caller name place).1,
        (goOn near group caller name place).2.1.arrive context key new,
        (goOn near group caller name place).2.2) := by
  cases place with
  | missed =>
      have loads : (group.arrive context key new).loads = group.loads := rfl
      simp only [goOn, enterLoad, loads]
      cases group.loads.find? name with
      | some call =>
          dsimp only
          cases group.loads.answer? call with
          | none => rfl
          | some result => rfl
      | none => rfl
  | leading call =>
      simp only [goOn, leadLoad, lookUp_arrive]
      rcases group.lookUp near.now name with ⟨view | view, after⟩
      · cases near.pick? name with
        | none => rfl
        | some peer => rfl
      · rfl
  | _ => rfl

theorem callers_goOn (caller : Nat) (name : String) (place : Place P) :
    (goOn near group caller name place).2.1.callers = group.callers := by
  cases place with
  | missed =>
      simp only [goOn, enterLoad]
      cases group.loads.find? name with
      | some call =>
          dsimp only
          cases group.loads.answer? call with
          | none => rfl
          | some result => rfl
      | none => rfl
  | leading call =>
      simp only [goOn, leadLoad]
      rcases group.misses_or_exists near.now name with misses | ⟨view, kept, valid⟩
      · simp only [lookUp_of_misses misses]
        cases near.pick? name with
        | none => rfl
        | some peer => rfl
      · simp only [lookUp_of_some kept valid]
        rfl
  | _ => rfl

/-- Who has just come and goes on at once might have come to stand there. -/
theorem moveTo_arrive {caller : Nat} (last : group.callers.length = caller) (old new : Place P) :
    (group.arrive context key old).moveTo caller new = group.arrive context key new := by
  have at_ : (group.arrive context key old).callers[caller]? = some ⟨context, key, old⟩ :=
    last ▸ List.getElem?_concat_length
  rw [moveTo, modify_place at_]
  simp [arrive, ← last]

variable [PeerHandle P]

theorem step_goOn_arrive {caller : Nat} (last : group.callers.length = caller)
    (place : Place P) :
    (group.arrive context key place).step near (.goOn caller) =
      ((goOn near group caller key place).2.1.arrive context key
          (goOn near group caller key place).1,
        (goOn near group caller key place).2.2) := by
  have at_ : (group.arrive context key place).callers[caller]? = some ⟨context, key, place⟩ :=
    last ▸ List.getElem?_concat_length
  have stays : (goOn near group caller key place).2.1.callers.length = caller := by
    rw [callers_goOn, last]
  simp only [step, at_, goOn_arrive, moveTo_arrive _ _ _ stays]

/-- A get that runs up to its first wait at once is one that looks its key up and goes on three
times, with nothing in between. -/
theorem step_get_eq_run :
    group.step near (.get context key) =
      group.run ((near, .startGet context key) ::
        List.replicate 3 (near, .goOn group.callers.length)) := by
  have first : (beginGet near group key).2.callers.length = group.callers.length := by
    rcases group.misses_or_exists near.now key with misses | ⟨view, kept, valid⟩
    · rw [beginGet_of_misses near group misses]
      rfl
    · rw [beginGet_of_some near group kept valid]
      rfl
  have stays (current : Group P) (place : Place P)
      (last : current.callers.length = group.callers.length) :
      (goOn near current group.callers.length key place).2.1.callers.length =
        group.callers.length := by
    rw [callers_goOn, last]
  have second := stays _ (beginGet near group key).1 first
  have third := stays _ (goOn near (beginGet near group key).2 group.callers.length key
    (beginGet near group key).1).1 second
  have looked : group.step near (.startGet context key) =
      ((beginGet near group key).2.arrive context key (beginGet near group key).1, []) := rfl
  simp only [List.replicate, run, looked, step_goOn_arrive near _ context key first,
    step_goOn_arrive near _ context key second, step_goOn_arrive near _ context key third,
    List.append_nil, List.nil_append]
  rw [← List.append_assoc]
  rfl

end Whole

end Group

end PeerCache
