/-
Module: PeerCache.Proofs.Group.Origins
Purpose: Which load a view comes from, in the store and in the hands of a caller.
Main exports:
  Origins, Origins.after, Traced, Traced.step, Traced.run, Traced.Sound, Traced.run_sound
-/
import PeerCache.Proofs.Group.Leaders

/-!
Two loads may give equal views, so a view alone does not tell which load it comes from.
`Traced` writes it down beside the group: for each key the load whose view the store
keeps, and for each caller the load whose view it was given.  A load may itself have the
view of an earlier one, which its leader has found in the store when it looked again; then
the earlier one is written down too.  The group runs as it does without
(`Traced.group_run`).

What is written down is sound: the load was one for the key, and it ended with the view.
-/

namespace PeerCache

variable {P : Type}

/-- Which loads the views come from that are kept, were given and were found. -/
structure Origins where
  /-- By key, the load whose view the store keeps. -/
  kept : String → Option CallId
  /-- By position, the load whose view a caller was given. -/
  gave : Nat → Option CallId
  /-- By load, the earlier load whose view its leader has found in the store. -/
  found : CallId → Option CallId

namespace Group

/-- The view that a caller was given. -/
def given? (group : Group P) (caller : Nat) : Option View :=
  match group.callers[caller]? with
  | some ⟨_, _, .got (.ok view)⟩ => some view
  | _ => none

/-- The load whose view was stored, and for which key, when a move has left the group
so: it is the one whose leader has got a view from the loader. -/
def stored? (group : Group P) (move : Move) (after : Group P) : Option (String × CallId) :=
  match move with
  | .loaderReplied caller _ =>
      match group.callers[caller]?, after.given? caller with
      | some ⟨_, key, .loading call⟩, some _ => some (key, call)
      | _, _ => none
  | _ => none

/-- The load whose leader has found the view of its key when it looked again, and the key, when
a move has left the group so. -/
def found? (group : Group P) (move : Move) (after : Group P) : Option (String × CallId) :=
  match move with
  | .goOn caller =>
      match group.callers[caller]?, after.callers[caller]? with
      | some ⟨_, key, .leading call⟩, some ⟨_, _, .found _ _⟩ => some (key, call)
      | _, _ => none
  | _ => none

/-- The load gave the view for the key. -/
def Gave (group : Group P) (key : String) (load : CallId) (view : View) : Prop :=
  group.loads.IsFor load key ∧ group.loads.answer? load = some (.ok view)

end Group

namespace Origins

/-- Before its first move, a group has no views. -/
def new : Origins := ⟨fun _ => none, fun _ => none, fun _ => none⟩

/-- The load that a move takes a view from.  A get that is given a view as it comes has it
from the store; a caller that has waited has it from the load that it waited for. -/
def source? (origins : Origins) (group : Group P) : Group.Move → Option CallId
  | .get _ key => origins.kept key
  | .startGet _ key => origins.kept key
  | move => do
      let caller ← move.caller?
      let entry ← group.callers[caller]?
      let stake ← entry.place.load?
      return stake.call

/-- The origins after a move that has left the group so. -/
def after (origins : Origins) (group : Group P) (move : Group.Move) (after : Group P) :
    Origins where
  kept key :=
    match after.store.find? key, group.stored? move after with
    | none, _ => none
    | some _, none => origins.kept key
    | some _, some (name, call) => if key = name then some call else origins.kept key
  gave caller :=
    match group.given? caller, after.given? caller with
    | _, none => none
    | some _, some _ => origins.gave caller
    | none, some _ => origins.source? group move
  found load :=
    match group.found? move after with
    | some (key, call) => if load = call then origins.kept key else origins.found load
    | none => origins.found load

end Origins

/-- A group, and where its views come from. -/
structure Traced (P : Type) where
  group : Group P
  origins : Origins

namespace Traced

def new (name : String) : Traced P := ⟨.new name, .new⟩

section Runs

variable [PeerHandle P]

/-- Follows a move. -/
def step (near : Surroundings P) (traced : Traced P) (move : Group.Move) : Traced P :=
  let after := (traced.group.step near move).1
  ⟨after, traced.origins.after traced.group move after⟩

/-- Follows moves, each in its own surroundings. -/
def run (traced : Traced P) : List (Surroundings P × Group.Move) → Traced P
  | [] => traced
  | (near, move) :: rest => (traced.step near move).run rest

/-- Tracing does not change what the group does. -/
theorem group_run (traced : Traced P) (moves : List (Surroundings P × Group.Move)) :
    (traced.run moves).group = (traced.group.run moves).1 := by
  induction moves generalizing traced with
  | nil => rfl
  | cons timed rest hyp => exact hyp _

/-- What holds at first and after every step holds after every run. -/
theorem run_of_step (holds : Traced P → Prop)
    (step : ∀ near (traced : Traced P) move, holds traced → holds (traced.step near move))
    {traced : Traced P} (start : holds traced) (moves : List (Surroundings P × Group.Move)) :
    holds (traced.run moves) := by
  induction moves generalizing traced with
  | nil => exact start
  | cons timed rest hyp => exact hyp (step timed.1 traced timed.2 start)

end Runs

end Traced

/-! ## What moves do to the store and to what callers were given -/

namespace Group

variable {group after : Group P} {move : Move}

theorem given?_eq_some_iff {caller : Nat} {view : View} :
    group.given? caller = some view ↔
      ∃ entry, group.callers[caller]? = some entry ∧ entry.place = .got (.ok view) := by
  unfold given?
  constructor
  · intro given
    split at given
    case h_1 context key got at_ =>
        cases given
        exact ⟨_, at_, rfl⟩
    case h_2 => cases given
  · rintro ⟨⟨context, key, place⟩, at_, rfl⟩
    rw [at_]

/-- A caller at the loader was given nothing. -/
theorem stored?_same (group : Group P) (move : Move) : group.stored? move group = none := by
  unfold stored?
  split
  case h_1 caller reply =>
      split
      case h_1 context key call given at_ got =>
          obtain ⟨entry, here, place⟩ := given?_eq_some_iff.mp got
          rw [at_] at here
          cases here
          cases place
      case h_2 => rfl
  case h_2 => rfl

/-- A view was stored, or the store has for a key what it had, or nothing. -/
theorem Transition.store_cases [PeerHandle P] {near : Surroundings P} {events : List (Event P)}
    (transition : Transition near group move after events) (key : String) :
    (∃ (name : String) (call : CallId) (view : View), group.stored? move after = some (name, call) ∧
      (∃ (caller : Nat) (context : CallContext),
        group.callers[caller]? = some ⟨context, name, .loading call⟩) ∧
      after.loads = group.loads.settle call (some (.ok view)) ∧
      after.store.find? key = if key = name then some view else group.store.find? key) ∨
    group.stored? move after = none ∧
      (after.store.find? key = none ∨ after.store.find? key = group.store.find? key) := by
  have erased : ∀ name : String, (group.store.erase name).find? key = none ∨
      (group.store.erase name).find? key = group.store.find? key := by
    intro name
    rw [Store.find?_erase]
    split
    · exact Or.inl rfl
    · exact Or.inr rfl
  cases transition with
  | loaderGave caller context name call view at_ =>
      refine Or.inl ⟨name, call, view, ?_, ⟨caller, context, at_⟩, rfl, ?_⟩
      · simp [stored?, given?, moveTo, settleLoad, bump, at_]
      · exact Store.find?_insert _ _ _ _
  | loaderFailed caller context name call cause at_ =>
      refine Or.inr ⟨?_, Or.inr rfl⟩
      simp [stored?, given?, moveTo, settleLoad, bump, at_]
  | loaderPanicked caller context name call message at_ =>
      refine Or.inr ⟨?_, Or.inr rfl⟩
      simp [stored?, given?, moveTo, settleLoad, at_]
  | joinLoad context name => exact Or.inr ⟨rfl, erased name⟩
  | lateLoad context name => exact Or.inr ⟨rfl, erased name⟩
  | askPeer context name => exact Or.inr ⟨rfl, erased name⟩
  | callLoader context name => exact Or.inr ⟨rfl, erased name⟩
  | startMiss context name => exact Or.inr ⟨rfl, erased name⟩
  | leadToPeer caller context name => exact Or.inr ⟨rfl, erased name⟩
  | leadToLoader caller context name => exact Or.inr ⟨rfl, erased name⟩
  | removeHere context name => exact Or.inr ⟨rfl, erased name⟩
  | ownerRemoved caller context name => exact Or.inr ⟨rfl, erased name⟩
  | removeLocally name => exact Or.inr ⟨rfl, erased name⟩
  | lookMissed name => exact Or.inr ⟨rfl, erased name⟩
  | idle move nobody => exact Or.inr ⟨stored?_same group move, Or.inr rfl⟩
  | _ => exact Or.inr ⟨rfl, Or.inr rfl⟩

/-- What a load gave it has given for ever. -/
theorem Gave.shift {key : String} {load : CallId} {view : View} (gave : group.Gave key load view)
    (orderly : group.Orderly) (shift : Shift group move after) : after.Gave key load view := by
  obtain ⟨_, evolves⟩ := shift.loads.evolves
  constructor
  · exact evolves.isFor gave.1
  · exact evolves.answer? orderly.loads.tracks gave.2

/-- The leader of a load ends it with a view. -/
theorem Shift.gave_of_settle (shift : Shift group move after) (orderly : group.Orderly)
    {caller : Nat} {entry : GroupCaller P} {call : CallId} {view : View}
    (at_ : group.callers[caller]? = some entry) (leads : entry.place.load? = some (.leads call))
    (loads : after.loads = group.loads.settle call (some (.ok view))) :
    after.Gave entry.key call view := by
  have running := orderly.loads.running_of_leads at_ leads
  obtain ⟨_, evolves⟩ := shift.loads.evolves
  constructor
  · exact evolves.isFor running.isFor
  · rw [loads]
    exact running.answer?_settle _

/-- Who leads a load and has found the view has found it before, or finds it in the store with
this move. -/
theorem Transition.found_cases [PeerHandle P] {near : Surroundings P} {events : List (Event P)}
    (transition : Transition near group move after events) {index : Nat} {entry : GroupCaller P}
    {call : CallId} {view : View} (at_ : after.callers[index]? = some entry)
    (found : entry.place = .found call view) :
    group.callers[index]? = some entry ∨
      (move = .goOn index ∧ group.callers[index]? = some { entry with place := .leading call } ∧
        group.store.find? entry.key = some view) := by
  have came {new : GroupCaller P} (here : (group.callers ++ [new])[index]? = some entry)
      (other : new.place ≠ .found call view) : group.callers[index]? = some entry := by
    rcases arrival_cases here with old | ⟨-, rfl⟩
    · exact old
    · exact absurd found other
  have moved {caller : Nat} {old : GroupCaller P} {place : Place P}
      (before : group.callers[caller]? = some old)
      (here : (group.callers.modify caller fun other => { other with place })[index]? =
        some entry) (other : place ≠ .found call view) :
      group.callers[index]? = some entry := by
    rcases move_cases before here with old | ⟨-, rfl⟩
    · exact old
    · exact absurd found other
  cases transition with
  | findAgain caller context key other given before kept valid =>
      rcases move_cases before at_ with old | ⟨rfl, rfl⟩
      · exact Or.inl old
      · cases found
        exact Or.inr ⟨rfl, before, kept⟩
  | hit | joinLoad | lateLoad | askPeer | callLoader | startHit | startMiss | joinRemoval
  | lateRemoval | askOwner | removeHere => exact Or.inl (came at_ nofun)
  | removeLocally | lookMissed | serve | idle => exact Or.inl at_
  | endBroadcast caller context key call failure before =>
      refine Or.inl (moved before at_ ?_)
      cases failure <;> exact nofun
  | _ => exact Or.inl (moved ‹_› at_ nofun)

/-- A move by which a leader finds its view again: it has looked, and the store has the view. -/
theorem Transition.of_found? [PeerHandle P] {near : Surroundings P} {events : List (Event P)}
    (transition : Transition near group move after events) {key : String} {call : CallId}
    (found : group.found? move after = some (key, call)) :
    ∃ (caller : Nat) (context : CallContext) (view : View), move = .goOn caller ∧
      group.callers[caller]? = some ⟨context, key, .leading call⟩ ∧
      after.callers[caller]? = some ⟨context, key, .found call view⟩ ∧
      group.store.find? key = some view := by
  unfold found? at found
  split at found
  case h_1 caller =>
      split at found
      case h_1 context name other _ _ number view before here =>
          cases found
          rcases transition.found_cases here rfl with old | ⟨-, leads, kept⟩
          · cases before.symm.trans old
          · cases before.symm.trans leads
            exact ⟨caller, _, view, rfl, before, here, kept⟩
      case h_2 => cases found
  case h_2 => cases found

/-- Who leads a load and has found the view stays there, or ends the load with the view. -/
theorem Transition.found_onward [PeerHandle P] {near : Surroundings P} {events : List (Event P)}
    (transition : Transition near group move after events) {index : Nat} {context : CallContext}
    {key : String} {call : CallId} {view : View}
    (at_ : group.callers[index]? = some ⟨context, key, .found call view⟩) :
    after.callers[index]? = some ⟨context, key, .found call view⟩ ∨
      after.loads = group.loads.settle call (some (.ok view)) := by
  by_cases named : move.caller? = some index
  case neg => exact Or.inl (transition.shift.callers_stay at_ named)
  case pos =>
      cases transition with
      | endFound caller _ _ _ _ here =>
          cases named
          cases here.symm.trans at_
          exact Or.inr rfl
      | idle => exact Or.inl at_
      | _ => simp_all [Move.caller?]

/-- A caller that has a view had it before, or has it from the store as it comes, or has it
from the load that it waited for. -/
theorem Shift.view_cases (shift : Shift group move after) (orderly : group.Orderly) {index : Nat}
    {entry : GroupCaller P} {view : View} (at_ : after.callers[index]? = some entry)
    (got : entry.place = .got (.ok view)) :
    group.callers[index]? = some entry ∨
    (index = group.callers.length ∧
      (move = .get entry.context entry.key ∨ move = .startGet entry.context entry.key) ∧
      group.store.find? entry.key = some view) ∨
    ∃ place stake, group.callers[index]? = some { entry with place } ∧
      move.caller? = some index ∧ place.load? = some stake ∧
      after.Gave entry.key stake.call view := by
  have turn := shift
  cases turn with
  | still nobody callers loads removals =>
      rw [callers] at at_
      exact Or.inl at_
  | arrives new comes callers loads removals obtained =>
      rw [callers] at at_
      rcases arrival_cases at_ with old | ⟨last, rfl⟩
      · exact Or.inl old
      · obtain ⟨same, kept | ⟨call, found, answered⟩⟩ := obtained view got
        · exact Or.inr (Or.inl ⟨last, same, kept⟩)
        · have unanswered := (orderly.loads.running_of_find? found).answer?_eq_none
          rw [answered] at unanswered
          cases unanswered
  | moves caller old place named before callers loads removals obtained =>
      rw [callers] at at_
      rcases move_cases before at_ with stayed | ⟨rfl, rfl⟩
      · exact Or.inl stayed
      · have obtains := obtained view got
        refine Or.inr (Or.inr ?_)
        unfold Obtains at obtains
        split at obtains
        case h_1 call held =>
            have gave : group.Gave old.key call view :=
              ⟨orderly.loads.isFor caller old _ before held, obtains⟩
            exact ⟨old.place, _, before, named, held, gave.shift orderly shift⟩
        case h_2 call held =>
            have gave : after.Gave old.key call view :=
              shift.gave_of_settle orderly before held obtains
            exact ⟨old.place, _, before, named, held, gave⟩
        case h_3 =>
            obtain ⟨call, found, answered⟩ := obtains
            have unanswered := (orderly.loads.running_of_find? found).answer?_eq_none
            rw [answered] at unanswered
            cases unanswered

end Group

/-! ## What is written down is sound -/

namespace Traced

/-- The group is orderly, and every view in the store and in a caller's hands comes from
the load that is written down for it, and nothing else is written down. -/
structure Sound (traced : Traced P) : Prop where
  orderly : traced.group.Orderly
  kept : ∀ key view, traced.group.store.find? key = some view →
    ∃ load, traced.origins.kept key = some load ∧ traced.group.Gave key load view
  kept_only : ∀ key load, traced.origins.kept key = some load →
    ∃ view, traced.group.store.find? key = some view
  gave : ∀ (caller : Nat) (entry : GroupCaller P) (view : View),
    traced.group.callers[caller]? = some entry → entry.place = .got (.ok view) →
    ∃ load, traced.origins.gave caller = some load ∧ traced.group.Gave entry.key load view
  gave_only : ∀ caller load, traced.origins.gave caller = some load →
    ∃ view, traced.group.given? caller = some view
  found : ∀ (caller : Nat) (entry : GroupCaller P) (load : CallId) (view : View),
    traced.group.callers[caller]? = some entry → entry.place = .found load view →
    ∃ earlier, traced.origins.found load = some earlier ∧ traced.group.Gave entry.key earlier view
  found_only : ∀ load earlier, traced.origins.found load = some earlier →
    ∃ key view, traced.group.Gave key earlier view ∧
      ((∃ (leader : Nat) (context : CallContext),
        traced.group.callers[leader]? = some ⟨context, key, .found load view⟩) ∨
      traced.group.Gave key load view)

theorem sound_new (name : String) : (new name : Traced P).Sound where
  orderly := Group.orderly_new name
  kept key view kept := by simp [new, Group.new] at kept
  kept_only key load kept := by cases kept
  gave caller entry view at_ := by simp [new, Group.new] at at_
  gave_only caller load gave := by cases gave
  found caller entry load view at_ := by simp [new, Group.new] at at_
  found_only load earlier found := by cases found

/-- The load whose view a leader has found, if it found one, gave this view for this key. -/
theorem Sound.gave_found {traced : Traced P} (sound : traced.Sound) {load earlier : CallId}
    {key : String} {view : View} (gave : traced.group.Gave key load view)
    (found : traced.origins.found load = some earlier) : traced.group.Gave key earlier view := by
  obtain ⟨name, other, gaveEarlier, ⟨leader, context, at_⟩ | gaveLoad⟩ :=
    sound.found_only load earlier found
  · -- a load that has ended is not led
    have unanswered := (sound.orderly.loads.running_of_leads at_ rfl).answer?_eq_none
    rw [gave.2] at unanswered
    cases unanswered
  · obtain rfl := gaveLoad.1.key_unique gave.1
    cases gaveLoad.2.symm.trans gave.2
    exact gaveEarlier

section Steps

variable [PeerHandle P] (near : Surroundings P) (traced : Traced P) (move : Group.Move)

variable {traced move} in
omit [PeerHandle P] in
theorem source?_of_caller {caller : Nat} (named : move.caller? = some caller)
    {entry : GroupCaller P} {stake : Stake} (at_ : traced.group.callers[caller]? = some entry)
    (held : entry.place.load? = some stake) :
    traced.origins.source? traced.group move = some stake.call := by
  cases move with
  | get context key | startGet context key => cases named
  | _ => simp [Origins.source?, named, at_, held]

/-- The view of a key comes from the load that it came from, or from one that has just
ended. -/
theorem kept_step_cases {key : String} {load : CallId}
    (kept : (traced.step near move).origins.kept key = some load) :
    (traced.group.stored? move (traced.step near move).group = some (key, load)) ∨
      traced.origins.kept key = some load := by
  simp only [step, Origins.after] at kept ⊢
  split at kept
  case h_1 => cases kept
  case h_2 => exact Or.inr kept
  case h_3 name call found stored =>
      split at kept
      case isTrue same =>
          cases kept
          exact Or.inl (same ▸ stored)
      case isFalse => exact Or.inr kept

/-- The load that is written down for a caller that has a view. -/
theorem gave_step_cases (orderly : traced.group.Orderly) {caller : Nat} {entry : GroupCaller P}
    {view : View} (at_ : (traced.step near move).group.callers[caller]? = some entry)
    (got : entry.place = .got (.ok view)) :
    (traced.group.callers[caller]? = some entry ∧
      (traced.step near move).origins.gave caller = traced.origins.gave caller) ∨
    (caller = traced.group.callers.length ∧ traced.group.store.find? entry.key = some view ∧
      (traced.step near move).origins.gave caller = traced.origins.kept entry.key) ∨
    ∃ place stake, traced.group.callers[caller]? = some { entry with place } ∧
      place.load? = some stake ∧ (traced.step near move).group.Gave entry.key stake.call view ∧
      (traced.step near move).origins.gave caller = some stake.call := by
  have shift := Group.step_shift near traced.group move
  have after : (traced.step near move).group.given? caller = some view :=
    Group.given?_eq_some_iff.mpr ⟨entry, at_, got⟩
  simp only [step] at at_ after ⊢
  simp only [Origins.after, after]
  rcases shift.view_cases orderly at_ got with
    old | ⟨last, comes, kept⟩ | ⟨place, stake, before, named, held, gave⟩
  · have given := Group.given?_eq_some_iff.mpr ⟨entry, old, got⟩
    exact Or.inl ⟨old, by simp only [given]⟩
  · have nobody : traced.group.given? caller = none := by
      simp [Group.given?, last]
    have source : traced.origins.source? traced.group move = traced.origins.kept entry.key := by
      rcases comes with rfl | rfl <;> rfl
    exact Or.inr (Or.inl ⟨last, kept, by simp only [nobody, source]⟩)
  · have waited : traced.group.given? caller = none := by
      cases given : traced.group.given? caller with
      | none => rfl
      | some other =>
          obtain ⟨entry', here, got'⟩ := Group.given?_eq_some_iff.mp given
          rw [before, Option.some.injEq] at here
          rw [← here] at got'
          rw [show place = _ from got'] at held
          cases held
    have source := source?_of_caller named before held
    exact Or.inr (Or.inr ⟨place, stake, before, held, gave, by simp only [waited, source]⟩)

/-- Nothing is written down for a caller that has no view. -/
theorem gave_step_only {caller : Nat} {load : CallId}
    (gave : (traced.step near move).origins.gave caller = some load) :
    ∃ view, (traced.step near move).group.given? caller = some view := by
  simp only [step, Origins.after] at gave ⊢
  split at gave
  case h_1 => cases gave
  case h_2 given => exact ⟨_, given⟩
  case h_3 given => exact ⟨_, given⟩

theorem kept_step_only {key : String} {load : CallId}
    (kept : (traced.step near move).origins.kept key = some load) :
    ∃ view, (traced.step near move).group.store.find? key = some view := by
  simp only [step, Origins.after] at kept ⊢
  split at kept
  case h_1 => cases kept
  case h_2 found _ => exact ⟨_, found⟩
  case h_3 found _ => exact ⟨_, found⟩

/-- What a leader has found was written down before, or is what the store keeps. -/
theorem found_step_cases {load earlier : CallId}
    (found : (traced.step near move).origins.found load = some earlier) :
    traced.origins.found load = some earlier ∨
      ∃ key, traced.group.found? move (traced.step near move).group = some (key, load) ∧
        traced.origins.kept key = some earlier := by
  simp only [step, Origins.after] at found ⊢
  split at found
  case h_1 key call looked =>
      split at found
      case isTrue same => exact Or.inr ⟨key, same ▸ looked, found⟩
      case isFalse => exact Or.inl found
  case h_2 => exact Or.inl found

variable {traced} in
theorem step_kept (sound : traced.Sound) {key : String} {view : View}
    (kept : (traced.step near move).group.store.find? key = some view) :
    ∃ load, (traced.step near move).origins.kept key = some load ∧
      (traced.step near move).group.Gave key load view := by
  have transition := Group.step_transition near traced.group move
  have shift := transition.shift
  simp only [step] at kept ⊢
  simp only [Origins.after, kept]
  rcases transition.store_cases key with
    ⟨name, call, stored, written, ⟨caller, context, at_⟩, loads, found⟩ | ⟨written, found⟩
  · simp only [written]
    rw [found] at kept
    by_cases same : key = name
    · subst same
      rw [if_pos rfl, Option.some.injEq] at kept
      subst kept
      exact ⟨call, if_pos rfl, shift.gave_of_settle sound.orderly at_ rfl loads⟩
    · rw [if_neg same] at kept ⊢
      obtain ⟨load, origin, gave⟩ := sound.kept key view kept
      exact ⟨load, origin, gave.shift sound.orderly shift⟩
  · simp only [written]
    rcases found with erased | same
    · rw [kept] at erased
      cases erased
    · obtain ⟨load, origin, gave⟩ := sound.kept key view (same ▸ kept)
      exact ⟨load, origin, gave.shift sound.orderly shift⟩

variable {traced} in
theorem step_found (sound : traced.Sound) {caller : Nat} {entry : GroupCaller P} {load : CallId}
    {view : View} (at_ : (traced.step near move).group.callers[caller]? = some entry)
    (found : entry.place = .found load view) :
    ∃ earlier, (traced.step near move).origins.found load = some earlier ∧
      (traced.step near move).group.Gave entry.key earlier view := by
  have transition := Group.step_transition near traced.group move
  rcases transition.found_cases at_ found with old | ⟨rfl, leads, kept⟩
  · obtain ⟨earlier, known, gave⟩ := sound.found caller entry load view old found
    refine ⟨earlier, ?_, gave.shift sound.orderly transition.shift⟩
    rw [← known]
    simp only [step, Origins.after]
    split
    case h_1 key call looked =>
        split
        case isTrue same =>
            -- two callers would lead one load
            obtain ⟨other, _, _, -, leads, -⟩ := transition.of_found? looked
            have apart : caller = other :=
              leader_unique sound.orderly.loads.tracks.nodup old leads
                (by rw [found]; rfl) (by rw [← same]; rfl)
            subst apart
            cases old.symm.trans leads
            cases found
        case isFalse => rfl
    case h_2 => rfl
  · obtain ⟨earlier, known, gave⟩ := sound.kept entry.key view kept
    refine ⟨earlier, ?_, gave.shift sound.orderly transition.shift⟩
    obtain ⟨context, key, place⟩ := entry
    obtain rfl : place = _ := found
    have looked : traced.group.found? (.goOn caller) (traced.step near (.goOn caller)).group =
        some (key, load) := by
      simp only [Group.found?, leads, at_]
    simp only [step, Origins.after] at looked ⊢
    simp only [looked, if_true, known]

variable {traced} in
theorem step_found_only (sound : traced.Sound) {load earlier : CallId}
    (found : (traced.step near move).origins.found load = some earlier) :
    ∃ key view, (traced.step near move).group.Gave key earlier view ∧
      ((∃ (leader : Nat) (context : CallContext),
        (traced.step near move).group.callers[leader]? = some ⟨context, key, .found load view⟩) ∨
      (traced.step near move).group.Gave key load view) := by
  have transition := Group.step_transition near traced.group move
  have shift := transition.shift
  rcases found_step_cases near traced move found with before | ⟨key, looked, known⟩
  · obtain ⟨key, view, gave, ⟨leader, context, at_⟩ | ended⟩ := sound.found_only load earlier before
    · refine ⟨key, view, gave.shift sound.orderly shift, ?_⟩
      rcases transition.found_onward at_ with stays | loads
      · exact Or.inl ⟨leader, context, stays⟩
      · exact Or.inr (shift.gave_of_settle sound.orderly at_ rfl loads)
    · exact ⟨key, view, gave.shift sound.orderly shift, Or.inr (ended.shift sound.orderly shift)⟩
  · obtain ⟨leader, context, view, -, -, at_, kept⟩ := transition.of_found? looked
    obtain ⟨other, same, gave⟩ := sound.kept key view kept
    obtain rfl := Option.some.inj (same.symm.trans known)
    exact ⟨key, view, gave.shift sound.orderly shift, Or.inl ⟨leader, context, at_⟩⟩

variable {traced} in
theorem step_sound (sound : traced.Sound) : (traced.step near move).Sound where
  orderly := Group.step_orderly near move sound.orderly
  kept key view kept := step_kept near move sound kept
  kept_only key load kept := kept_step_only near traced move kept
  gave caller entry view at_ got := by
    rcases gave_step_cases near traced move sound.orderly at_ got with
      ⟨old, same⟩ | ⟨last, kept, same⟩ | ⟨place, stake, before, held, gave, same⟩
    · obtain ⟨load, origin, gave⟩ := sound.gave caller entry view old got
      exact ⟨load, same.trans origin, gave.shift sound.orderly (Group.step_shift near _ move)⟩
    · obtain ⟨load, origin, gave⟩ := sound.kept entry.key view kept
      exact ⟨load, same.trans origin, gave.shift sound.orderly (Group.step_shift near _ move)⟩
    · exact ⟨stake.call, same, gave⟩
  gave_only caller load gave := gave_step_only near traced move gave
  found caller entry load view at_ found := step_found near move sound at_ found
  found_only load earlier found := step_found_only near move sound found

end Steps

/-- After every run, what is written down is sound. -/
theorem run_sound [PeerHandle P] {traced : Traced P} (sound : traced.Sound)
    (moves : List (Surroundings P × Group.Move)) : (traced.run moves).Sound :=
  run_of_step Sound (fun near _ move => step_sound near move) sound moves

end Traced

end PeerCache
