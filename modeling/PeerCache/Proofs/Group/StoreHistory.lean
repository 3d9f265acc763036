/-
Module: PeerCache.Proofs.Group.StoreHistory
Purpose: What the store of a group holds, by what has happened to each key.
Main exports:
  StoreEvent, StoreEvent.latest?, Group.storeEvent?, Group.storeEvents,
  Group.find?_store_step, Group.store_holds_latest_load
-/
import PeerCache.Proofs.Group.Leaders

/-!
Three things bear on the view that a store has for a key: a run of the loader for the key
gives a view, the key is removed, or a look-up finds its view expired.  `Group.storeEvent?`
reads off a move, and off where its caller stands, whether it is one of them; it does not
look at the store that the move leaves.

The store is what the latest of these left: the view of a key is there exactly when the
latest thing that happened to the key was that the loader gave this view.
-/

namespace PeerCache

variable {P : Type}

/-- What can happen to a key in a store. -/
inductive StoreEvent where
  /-- A run of the loader for the key ended with a view. -/
  | loaded (key : String) (view : View)
  /-- The key was removed from the store. -/
  | removed (key : String)
  /-- A look-up found that the view of the key had expired. -/
  | expired (key : String)
deriving Repr, DecidableEq

namespace StoreEvent

/-- The key that an event is about. -/
def key : StoreEvent → String
  | .loaded key _ => key
  | .removed key => key
  | .expired key => key

/-- The view that the store has for the key after the event. -/
def view? : StoreEvent → Option View
  | .loaded _ view => some view
  | .removed _ => none
  | .expired _ => none

/-- The latest of the events that are about a key. -/
def latest? (key : String) (events : List StoreEvent) : Option StoreEvent :=
  (events.filter fun event => event.key = key).getLast?

@[simp] theorem latest?_nil (key : String) : latest? key [] = none := rfl

theorem latest?_append (key : String) (before later : List StoreEvent) :
    latest? key (before ++ later) = (latest? key later).or (latest? key before) := by
  rw [latest?, List.filter_append, List.getLast?_append]
  rfl

theorem latest?_toList (key : String) (event : Option StoreEvent) :
    latest? key event.toList = event.filter fun event => event.key = key := by
  cases event with
  | none => rfl
  | some event =>
      by_cases here : event.key = key
      · simp [latest?, Option.filter, here]
      · simp [latest?, Option.filter, here]

theorem key_of_latest? {key : String} {events : List StoreEvent} {event : StoreEvent}
    (latest : latest? key events = some event) : event.key = key := by
  have member := List.mem_of_getLast? latest
  simpa using (List.mem_filter.mp member).2

/-- Of the events that are about a key, only a load leaves a view. -/
theorem view?_eq_some_iff {event : StoreEvent} {key : String} {view : View}
    (about : event.key = key) : event.view? = some view ↔ event = .loaded key view := by
  cases event with
  | loaded name other =>
      obtain rfl : name = key := about
      simp [view?]
  | removed name => simp [view?]
  | expired name => simp [view?]

end StoreEvent

namespace Group

/-- What a look-up of a key finds out: that its view has expired. -/
def expiry? (group : Group P) (now : Instant) (key : String) : Option StoreEvent :=
  match group.store.find? key with
  | some view => if view.isExpiredAt now then some (.expired key) else none
  | none => none

/-- What a move is for the store.  A removal is one of this store when it is past the owner:
at once if the key is local, and else when the owner has removed it. -/
def storeEvent? (near : Surroundings P) (group : Group P) : Move → Option StoreEvent
  | .get _ key => group.expiry? near.now key
  | .startGet _ key => group.expiry? near.now key
  | .goOn caller =>
      match group.callers[caller]? with
      | some ⟨_, key, .leading _⟩ => group.expiry? near.now key
      | _ => none
  | .look key => group.expiry? near.now key
  | .loaderReplied caller (.returned (.ok view)) =>
      match group.callers[caller]? with
      | some ⟨_, key, .loading _⟩ => some (.loaded key view)
      | _ => none
  | .removeLocally key => some (.removed key)
  | .remove _ key =>
      match group.removals.find? key, near.pick? key with
      | none, none => some (.removed key)
      | _, _ => none
  | .ownerReplied caller (.returned (.ok ())) =>
      match group.callers[caller]? with
      | some ⟨_, key, .askingOwner _ _⟩ => some (.removed key)
      | _ => none
  | _ => none

/-- The key that a move is for: that of the caller that comes or goes on, or the key named. -/
def keyOf? (group : Group P) : Move → Option String
  | .get _ key => some key
  | .startGet _ key => some key
  | .remove _ key => some key
  | .removeLocally key => some key
  | .look key => some key
  | .serve => none
  | move => (move.caller?.bind fun caller => group.callers[caller]?).map GroupCaller.key

theorem key_of_expiry? {group : Group P} {now : Instant} {key : String} {event : StoreEvent}
    (found : group.expiry? now key = some event) : event.key = key := by
  unfold expiry? at found
  split at found
  case h_1 view kept =>
      split at found
      case isTrue => cases found; rfl
      case isFalse => cases found
  case h_2 => cases found

/-- What a move is for the store concerns the key that the move is for. -/
theorem keyOf?_of_storeEvent? {near : Surroundings P} {group : Group P} {move : Move}
    {event : StoreEvent} (happens : group.storeEvent? near move = some event) :
    group.keyOf? move = some event.key := by
  unfold storeEvent? at happens
  split at happens
  case h_1 context key => exact congrArg some (key_of_expiry? happens).symm
  case h_2 context key => exact congrArg some (key_of_expiry? happens).symm
  case h_3 caller =>
      split at happens
      case h_1 context key call at_ =>
          simp [keyOf?, Move.caller?, at_, key_of_expiry? happens]
      case h_2 => cases happens
  case h_4 key => exact congrArg some (key_of_expiry? happens).symm
  case h_5 caller view =>
      split at happens
      case h_1 context key call at_ =>
          cases happens
          simp [keyOf?, Move.caller?, at_, StoreEvent.key]
      case h_2 => cases happens
  case h_6 key => cases happens; rfl
  case h_7 context key =>
      split at happens
      case h_1 => cases happens; rfl
      case h_2 => cases happens
  case h_8 caller =>
      split at happens
      case h_1 context key call owner at_ =>
          cases happens
          simp [keyOf?, Move.caller?, at_, StoreEvent.key]
      case h_2 => cases happens
  case h_9 => cases happens

/-- The store's view of a key after an event, or after none. -/
def viewAfter (group : Group P) (event : Option StoreEvent) (key : String) : Option View :=
  match event with
  | some event => if event.key = key then event.view? else group.store.find? key
  | none => group.store.find? key

/-- What a list of moves is for the store, in order. -/
def storeEvents [PeerHandle P] (group : Group P) : List (Surroundings P × Move) → List StoreEvent
  | [] => []
  | (near, move) :: rest =>
      (group.storeEvent? near move).toList ++ (group.step near move).1.storeEvents rest

/-- Moves that leave the store alone: a peer replies to a get, a loader or an owner fails, and
callers wait, are dropped or hear of others. -/
def Move.sparesStore : Move → Bool
  | .peerReplied _ _ => true
  | .loaderReplied _ (.returned (.error _)) => true
  | .loaderReplied _ (.panicked _) => true
  | .ownerReplied _ (.returned (.error _)) => true
  | .ownerReplied _ (.panicked _) => true
  | .broadcastEnded _ _ _ => true
  | .poll _ => true
  | .drop _ => true
  | _ => false

/-! ## What one move does to the store -/

section Steps

theorem find?_erase_eq_viewAfter (group : Group P) (name key : String) :
    (group.store.erase name).find? key = group.viewAfter (some (.removed name)) key := by
  rw [Store.find?_erase]
  by_cases same : key = name
  · simp [viewAfter, same, StoreEvent.key, StoreEvent.view?]
  · simp [viewAfter, same, Ne.symm same, StoreEvent.key]

/-- A look-up that finds nothing that counts leaves what an expiry leaves. -/
theorem find?_erase_of_misses {group : Group P} {now : Instant} {name : String}
    (misses : group.Misses now name) (key : String) :
    (group.store.erase name).find? key = group.viewAfter (group.expiry? now name) key := by
  rw [find?_erase_eq_viewAfter, expiry?]
  cases kept : group.store.find? name with
  | none =>
      by_cases same : name = key
      · simp [viewAfter, ← same, kept, StoreEvent.key, StoreEvent.view?]
      · simp [viewAfter, same, StoreEvent.key]
  | some view =>
      simp only [misses view kept, if_true]
      rfl

theorem expiry?_of_valid {group : Group P} {now : Instant} {key : String} {view : View}
    (kept : group.store.find? key = some view) (valid : view.isExpiredAt now = false) :
    group.expiry? now key = none := by
  simp [expiry?, kept, valid]

variable [PeerHandle P] {near : Surroundings P} {group after : Group P} {events : List (Event P)}

private theorem Transition.find?_store_get {context : CallContext} {name : String}
    (transition : Transition near group (.get context name) after events) (key : String) :
    after.store.find? key = group.viewAfter (group.expiry? near.now name) key := by
  cases transition with
  | hit _ _ view kept valid => rw [expiry?_of_valid kept valid]; rfl
  | joinLoad _ _ call misses => exact find?_erase_of_misses misses key
  | lateLoad _ _ call result misses => exact find?_erase_of_misses misses key
  | askPeer _ _ peer misses => exact find?_erase_of_misses misses key
  | callLoader _ _ misses => exact find?_erase_of_misses misses key
  | idle _ nobody => cases nobody

private theorem Transition.find?_store_startGet {context : CallContext} {name : String}
    (transition : Transition near group (.startGet context name) after events) (key : String) :
    after.store.find? key = group.viewAfter (group.expiry? near.now name) key := by
  cases transition with
  | startHit _ _ view kept valid => rw [expiry?_of_valid kept valid]; rfl
  | startMiss _ _ misses => exact find?_erase_of_misses misses key
  | idle _ nobody => cases nobody

private theorem Transition.find?_store_remove {context : CallContext} {name : String}
    (transition : Transition near group (.remove context name) after events) (key : String) :
    after.store.find? key =
      group.viewAfter (group.storeEvent? near (.remove context name)) key := by
  cases transition with
  | joinRemoval _ _ call found => simp only [storeEvent?, found]; rfl
  | lateRemoval _ _ call result found => simp only [storeEvent?, found]; rfl
  | askOwner _ _ owner free picked => simp only [storeEvent?, free, picked]; rfl
  | removeHere _ _ free picked =>
      simp only [storeEvent?, free, picked]
      exact find?_erase_eq_viewAfter group name key
  | idle _ nobody => cases nobody

private theorem Transition.store_same {move : Move}
    (transition : Transition near group move after events) (spares : move.sparesStore = true) :
    after.store = group.store := by
  cases transition with
  | loaderGave caller context key call view at_ => cases spares
  | ownerRemoved caller context key call owner at_ => cases spares
  | _ => first | rfl | cases spares

variable (near group)

private theorem find?_store_loaderReplied (caller : Nat) (view : View) (key : String) :
    (group.step near (.loaderReplied caller (.returned (.ok view)))).1.store.find? key =
      group.viewAfter (group.storeEvent? near (.loaderReplied caller (.returned (.ok view))))
        key := by
  by_cases stands : ∃ context name call,
      group.callers[caller]? = some ⟨context, name, .loading call⟩
  · obtain ⟨context, name, call, at_⟩ := stands
    simp only [step, storeEvent?, at_]
    refine (Store.find?_insert _ _ _ _).trans ?_
    by_cases same : key = name
    · simp [viewAfter, same, StoreEvent.key, StoreEvent.view?]
    · simp [viewAfter, same, Ne.symm same, StoreEvent.key]
  · have idle : group.step near (.loaderReplied caller (.returned (.ok view))) = (group, []) := by
      simp only [step]
      split
      case h_1 context name call at_ => exact absurd ⟨context, name, call, at_⟩ stands
      case h_2 => rfl
    have nothing :
        group.storeEvent? near (.loaderReplied caller (.returned (.ok view))) = none := by
      simp only [storeEvent?]
      split
      case h_1 context name call at_ => exact absurd ⟨context, name, call, at_⟩ stands
      case h_2 => rfl
    rw [idle, nothing]
    rfl

private theorem find?_store_ownerReplied (caller : Nat) (key : String) :
    (group.step near (.ownerReplied caller (.returned (.ok ())))).1.store.find? key =
      group.viewAfter (group.storeEvent? near (.ownerReplied caller (.returned (.ok ())))) key := by
  by_cases stands : ∃ context name call owner,
      group.callers[caller]? = some ⟨context, name, .askingOwner call owner⟩
  · obtain ⟨context, name, call, owner, at_⟩ := stands
    simp only [step, storeEvent?, at_]
    exact find?_erase_eq_viewAfter group name key
  · have idle : group.step near (.ownerReplied caller (.returned (.ok ()))) = (group, []) := by
      simp only [step]
      split
      case h_1 context name call owner at_ =>
          exact absurd ⟨context, name, call, owner, at_⟩ stands
      case h_2 => rfl
    have nothing : group.storeEvent? near (.ownerReplied caller (.returned (.ok ()))) = none := by
      simp only [storeEvent?]
      split
      case h_1 context name call owner at_ =>
          exact absurd ⟨context, name, call, owner, at_⟩ stands
      case h_2 => rfl
    rw [idle, nothing]
    rfl

private theorem find?_store_goOn (caller : Nat) (key : String) :
    (group.step near (.goOn caller)).1.store.find? key =
      group.viewAfter (group.storeEvent? near (.goOn caller)) key := by
  by_cases stands : ∃ context name call,
      group.callers[caller]? = some ⟨context, name, .leading call⟩
  · obtain ⟨context, name, call, at_⟩ := stands
    simp only [storeEvent?, at_]
    rcases group.misses_or_exists near.now name with misses | ⟨view, kept, valid⟩
    · simp only [step, at_, goOn, leadLoad, lookUp_of_misses misses]
      rw [← find?_erase_of_misses misses key]
      cases near.pick? name <;> rfl
    · simp only [step, at_, goOn, leadLoad, lookUp_of_some kept valid, expiry?_of_valid kept valid]
      rfl
  · have nothing : group.storeEvent? near (.goOn caller) = none := by
      simp only [storeEvent?]
      split
      case h_1 context name call at_ => exact absurd ⟨context, name, call, at_⟩ stands
      case h_2 => rfl
    have same : (group.step near (.goOn caller)).1.store = group.store := by
      have transition := step_transition near group (.goOn caller)
      generalize (group.step near (.goOn caller)).1 = after at transition ⊢
      generalize (group.step near (.goOn caller)).2 = events at transition
      cases transition with
      | leadToPeer _ context name call _ at_ => exact absurd ⟨context, name, call, at_⟩ stands
      | leadToLoader _ context name call at_ => exact absurd ⟨context, name, call, at_⟩ stands
      | _ => rfl
    rw [nothing, same]
    rfl

private theorem find?_store_look (name key : String) :
    (group.step near (.look name)).1.store.find? key =
      group.viewAfter (group.expiry? near.now name) key := by
  rcases group.misses_or_exists near.now name with misses | ⟨view, kept, valid⟩
  · simp only [step, lookUp_of_misses misses]
    exact find?_erase_of_misses misses key
  · simp only [step, lookUp_of_some kept valid, expiry?_of_valid kept valid]
    rfl

/-- Every move leaves for each key what it is for the store, and nothing else. -/
theorem find?_store_step (move : Move) (key : String) :
    (group.step near move).1.store.find? key =
      group.viewAfter (group.storeEvent? near move) key := by
  have transition := step_transition near group move
  have same (spares : move.sparesStore = true) :
      (group.step near move).1.store.find? key = group.store.find? key :=
    congrArg (fun store => Store.find? store key) (transition.store_same spares)
  cases move with
  | get context name => exact transition.find?_store_get key
  | startGet context name => exact transition.find?_store_startGet key
  | goOn caller => exact find?_store_goOn near group caller key
  | remove context name => exact transition.find?_store_remove key
  | look name => exact find?_store_look near group name key
  | removeLocally name => exact find?_erase_eq_viewAfter group name key
  | serve => rfl
  | loaderReplied caller reply =>
      match reply with
      | .returned (.ok view) => exact find?_store_loaderReplied near group caller view key
      | .returned (.error cause) => exact same rfl
      | .panicked message => exact same rfl
  | ownerReplied caller reply =>
      match reply with
      | .returned (.ok ()) => exact find?_store_ownerReplied near group caller key
      | .returned (.error error) => exact same rfl
      | .panicked message => exact same rfl
  | peerReplied caller reply => exact same rfl
  | broadcastEnded caller number reply => exact same rfl
  | poll caller => exact same rfl
  | drop caller => exact same rfl

/-- After a run, the latest thing that happened to a key in the store decides; where nothing
did, the store has what it had. -/
theorem find?_store_run (moves : List (Surroundings P × Move)) (key : String) :
    (group.run moves).1.store.find? key =
      match StoreEvent.latest? key (group.storeEvents moves) with
      | some event => event.view?
      | none => group.store.find? key := by
  induction moves generalizing group with
  | nil => rfl
  | cons timed rest hyp =>
      obtain ⟨near, move⟩ := timed
      simp only [run, storeEvents, StoreEvent.latest?_append, StoreEvent.latest?_toList]
      rw [hyp, find?_store_step]
      cases StoreEvent.latest? key ((group.step near move).1.storeEvents rest) with
      | some event => rfl
      | none =>
          cases group.storeEvent? near move with
          | none => rfl
          | some event =>
              by_cases here : event.key = key
              · simp [viewAfter, Option.filter, here]
              · simp [viewAfter, Option.filter, here]

end Steps

/-! ## What is answered from the store -/

/-- The store has the view for the key, and it does not expire until after the given time. -/
def Holds (group : Group P) (now : Instant) (key : String) (view : View) : Prop :=
  group.store.find? key = some view ∧ ∀ expire, view.expire = some expire → now < expire

theorem holds_iff {group : Group P} {now : Instant} {key : String} {view : View} :
    group.Holds now key view ↔
      group.store.find? key = some view ∧ view.isExpiredAt now = false := by
  apply and_congr_right
  intro _
  unfold View.isExpiredAt
  cases view.expire with
  | none => simp
  | some expire =>
      simp only [Option.some.injEq, forall_eq', decide_eq_false_iff_not]
      exact (Int.not_le (a := expire.nanos) (b := now.nanos)).symm

theorem Misses.not_holds {group : Group P} {now : Instant} {key : String}
    (misses : group.Misses now key) (view : View) : ¬ group.Holds now key view := by
  intro holds
  obtain ⟨kept, valid⟩ := holds_iff.mp holds
  rw [misses view kept] at valid
  cases valid

/-- A look-up returns what the store holds. -/
theorem lookUp_eq_some_iff (group : Group P) (now : Instant) (key : String) (view : View) :
    (group.lookUp now key).1 = some view ↔ group.Holds now key view := by
  rcases group.misses_or_exists now key with misses | ⟨other, kept, valid⟩
  · rw [lookUp_of_misses misses]
    exact iff_of_false nofun (misses.not_holds view)
  · rw [lookUp_of_some kept valid, holds_iff, kept, Option.some.injEq]
    constructor
    · rintro rfl
      exact ⟨rfl, valid⟩
    · exact And.left

section Gets

variable [PeerHandle P] {near : Surroundings P} {group after : Group P} {events : List (Event P)}
  {context : CallContext} {key : String} {move : Move}

/-- A get that comes has a view from the store and counts as a hit, or it misses the store and
has not ended. -/
theorem Transition.get_cases (transition : Transition near group move after events)
    (comes : move ∈ [.get context key, .startGet context key]) (orderly : group.Orderly) :
    (∃ view, group.Holds near.now key view ∧
      after.callers = group.callers ++ [⟨context, key, .got (.ok view)⟩] ∧
      after.stats.cacheHits = group.stats.cacheHits + 1) ∨
    (group.Misses near.now key ∧ (∃ place, place.isWaiting = true ∧
      after.callers = group.callers ++ [⟨context, key, place⟩]) ∧
      after.stats.cacheHits = group.stats.cacheHits) := by
  obtain rfl | rfl : move = .get context key ∨ move = .startGet context key := by simpa using comes
  · cases transition with
    | hit _ _ view kept valid => exact Or.inl ⟨view, holds_iff.mpr ⟨kept, valid⟩, rfl, rfl⟩
    | joinLoad _ _ call misses => exact Or.inr ⟨misses, ⟨_, rfl, rfl⟩, rfl⟩
    | lateLoad _ _ call result misses found answered =>
        -- a call under way has no answer yet
        have running := orderly.loads.running_of_find? found
        rw [running.answer?_eq_none] at answered
        cases answered
    | askPeer _ _ peer misses => exact Or.inr ⟨misses, ⟨_, rfl, rfl⟩, rfl⟩
    | callLoader _ _ misses => exact Or.inr ⟨misses, ⟨_, rfl, rfl⟩, rfl⟩
    | idle _ nobody => cases nobody
  · cases transition with
    | startHit _ _ view kept valid => exact Or.inl ⟨view, holds_iff.mpr ⟨kept, valid⟩, rfl, rfl⟩
    | startMiss _ _ misses => exact Or.inr ⟨misses, ⟨_, rfl, rfl⟩, rfl⟩
    | idle _ nobody => cases nobody

variable (near) (context) (key)

/-- A get that has ended by the end of the move with which it came ended with the view that the
store holds. -/
theorem get_ended_iff (comes : move ∈ [.get context key, .startGet context key])
    (orderly : group.Orderly) (result : Result View) :
    (group.step near move).1.callers[group.callers.length]? = some ⟨context, key, .got result⟩ ↔
      ∃ view, result = .ok view ∧ group.Holds near.now key view := by
  rcases (step_transition near group move).get_cases comes orderly with
    ⟨view, holds, callers, -⟩ | ⟨misses, ⟨place, waits, callers⟩, -⟩
  · rw [callers, List.getElem?_concat_length]
    constructor
    · intro same
      cases same
      exact ⟨view, rfl, holds⟩
    · rintro ⟨other, rfl, also⟩
      rw [Option.some.inj (holds.1.symm.trans also.1)]
  · rw [callers, List.getElem?_concat_length]
    constructor
    · intro same
      cases same
      cases waits
    · rintro ⟨view, -, holds⟩
      exact absurd holds (misses.not_holds view)

theorem get_hits_iff (comes : move ∈ [.get context key, .startGet context key])
    (orderly : group.Orderly) :
    (group.step near move).1.stats.cacheHits = group.stats.cacheHits + 1 ↔
      ∃ view, group.Holds near.now key view := by
  rcases (step_transition near group move).get_cases comes orderly with
    ⟨view, holds, -, hits⟩ | ⟨misses, -, hits⟩
  · exact iff_of_true hits ⟨view, holds⟩
  · rw [hits]
    refine iff_of_false (Nat.ne_of_lt (Nat.lt_succ_self _)) ?_
    rintro ⟨view, holds⟩
    exact misses.not_holds view holds

/-- The leader of a load that looks again finds what the store holds, and counts as a hit then. -/
theorem look_again_iff {caller : Nat} {call : CallId}
    (at_ : group.callers[caller]? = some ⟨context, key, .leading call⟩) (view : View) :
    ((group.step near (.goOn caller)).1.callers[caller]? =
        some ⟨context, key, .found call view⟩ ↔ group.Holds near.now key view) ∧
      ((group.step near (.goOn caller)).1.stats.cacheHits = group.stats.cacheHits + 1 ↔
        ∃ view, group.Holds near.now key view) := by
  rcases group.misses_or_exists near.now key with misses | ⟨given, kept, valid⟩
  · obtain ⟨place, there, other, hits⟩ : ∃ place,
        (group.step near (.goOn caller)).1.callers[caller]? = some ⟨context, key, place⟩ ∧
          place ≠ .found call view ∧
          (group.step near (.goOn caller)).1.stats.cacheHits = group.stats.cacheHits := by
      have here : (group.missingAgain key).callers[caller]? = _ := at_
      simp only [step, at_, goOn, leadLoad_of_misses near group misses]
      cases near.pick? key with
      | none => exact ⟨_, getElem?_moveTo here _, by simp, rfl⟩
      | some peer => exact ⟨_, getElem?_moveTo here _, by simp, rfl⟩
    constructor
    · refine iff_of_false ?_ (misses.not_holds view)
      intro found
      cases there.symm.trans found
      exact other rfl
    · rw [hits]
      refine iff_of_false (Nat.ne_of_lt (Nat.lt_succ_self _)) ?_
      rintro ⟨other, holds⟩
      exact misses.not_holds other holds
  · have holds : group.Holds near.now key given := holds_iff.mpr ⟨kept, valid⟩
    have here : (group.bump .cacheHits).callers[caller]? = _ := at_
    simp only [step, at_, goOn, leadLoad, lookUp_of_some kept valid]
    refine ⟨?_, iff_of_true rfl ⟨given, holds⟩⟩
    rw [getElem?_moveTo here]
    constructor
    · intro same
      cases same
      exact holds
    · intro also
      rw [Option.some.inj (holds.1.symm.trans also.1)]

end Gets

/-- After every run of a group, the store has a view for a key exactly when the latest thing
that happened to the key was that a run of the loader gave this view.  A move that is for one
key leaves what the store has for any other; so do replies of peers, loaders that fail or
panic, and callers that are dropped, for every key.  A get that comes is answered from the store,
and counts as a hit, exactly when the store holds a view that has not expired; so does the leader
of a load that looks again. -/
theorem store_holds_latest_load [PeerHandle P] (name : String)
    (moves : List (Surroundings P × Move)) :
    let group := ((new name : Group P).run moves).1
    (∀ key view, group.store.find? key = some view ↔
      StoreEvent.latest? key ((new name : Group P).storeEvents moves) =
        some (.loaded key view)) ∧
    (∀ near move key, group.keyOf? move ≠ some key →
      (group.step near move).1.store.find? key = group.store.find? key) ∧
    (∀ near caller,
      (∀ reply, (group.step near (.peerReplied caller reply)).1.store = group.store) ∧
      (∀ cause, (group.step near (.loaderReplied caller (.returned (.error cause)))).1.store =
        group.store) ∧
      (∀ message, (group.step near (.loaderReplied caller (.panicked message))).1.store =
        group.store) ∧
      (group.step near (.drop caller)).1.store = group.store) ∧
    (∀ near context key, ∀ move ∈ [Move.get context key, .startGet context key],
      (∀ result, (group.step near move).1.callers[group.callers.length]? =
          some ⟨context, key, .got result⟩ ↔
        ∃ view, result = .ok view ∧ group.Holds near.now key view) ∧
      ((group.step near move).1.stats.cacheHits = group.stats.cacheHits + 1 ↔
        ∃ view, group.Holds near.now key view)) ∧
    (∀ near caller context key call,
      group.callers[caller]? = some ⟨context, key, .leading call⟩ → ∀ view,
      ((group.step near (.goOn caller)).1.callers[caller]? =
          some ⟨context, key, .found call view⟩ ↔ group.Holds near.now key view) ∧
      ((group.step near (.goOn caller)).1.stats.cacheHits = group.stats.cacheHits + 1 ↔
        ∃ view, group.Holds near.now key view)) ∧
    (∀ now key view, (group.lookUp now key).1 = some view ↔ group.Holds now key view) := by
  intro group
  have orderly : group.Orderly := run_orderly (orderly_new name) moves
  have same (near : Surroundings P) (move : Move) (spares : move.sparesStore = true) :
      (group.step near move).1.store = group.store :=
    (step_transition near group move).store_same spares
  refine ⟨?_, ?_, ?_, ?_, ?_, group.lookUp_eq_some_iff⟩
  · intro key view
    show ((new name : Group P).run moves).1.store.find? key = some view ↔ _
    rw [find?_store_run]
    cases latest : StoreEvent.latest? key ((new name : Group P).storeEvents moves) with
    | none => simp [new]
    | some event =>
        rw [Option.some.injEq]
        exact StoreEvent.view?_eq_some_iff (StoreEvent.key_of_latest? latest)
  · intro near move key apart
    rw [find?_store_step]
    cases happens : group.storeEvent? near move with
    | none => rfl
    | some event =>
        have about := keyOf?_of_storeEvent? happens
        have other : event.key ≠ key := fun equal => apart (equal ▸ about)
        simp only [viewAfter, if_neg other]
  · intro near caller
    exact ⟨fun reply => same near _ rfl, fun cause => same near _ rfl,
      fun message => same near _ rfl, same near _ rfl⟩
  · intro near context key move comes
    exact ⟨get_ended_iff near context key comes orderly,
      get_hits_iff near context key comes orderly⟩
  · intro near caller context key call at_ view
    exact look_again_iff near context key at_ view

/-- A store that has come to hold a view: the latest thing that happened to the key was that the
loader gave it, and the next get is answered with it. -/
theorem loaded_view_is_held :
    let near : Surroundings String := ⟨.epoch, fun _ => none, []⟩
    let context : CallContext := ⟨.fresh, none⟩
    let view : View := ⟨[118], none⟩
    let moves := [(near, Move.get context "k"), (near, .loaderReplied 0 (.returned (.ok view)))]
    let group := ((new "users" : Group String).run moves).1
    group.store.find? "k" = some view ∧
      StoreEvent.latest? "k" ((new "users" : Group String).storeEvents moves) =
        some (.loaded "k" view) ∧
      (group.step near (.get context "k")).1.callers[1]? =
        some ⟨context, "k", .got (.ok view)⟩ := by
  intro near context view moves group
  have kept : group.store.find? "k" = some view := rfl
  obtain ⟨held, -, -, got, -⟩ := store_holds_latest_load "users" moves
  have comes : Move.get context "k" ∈ [Move.get context "k", .startGet context "k"] :=
    List.mem_cons_self
  refine ⟨kept, (held "k" view).mp kept, ((got near context "k" _ comes).1 _).mpr ?_⟩
  exact ⟨view, rfl, kept, nofun⟩

end Group

end PeerCache
