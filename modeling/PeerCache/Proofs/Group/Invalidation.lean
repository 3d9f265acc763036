/-
Module: PeerCache.Proofs.Group.Invalidation
Purpose: What a get can still return of a key that was removed from the store.
Main exports:
  Group.Over, Traced.Forgotten, Traced.run_forgotten, Traced.get_after_removeLocally
-/
import PeerCache.Proofs.Group.Origins

/-!
Removing a key drops the view that the store has, and nothing else.  A load of the key that
is under way goes on: gets that come later join it, and its leader stores its view.  A load
that is over is another matter.  Once no key keeps its view, and for all callers that come
from then on, it is forgotten: to be stored or given again, its view would have to be in
the store already.

There is one way around the removal.  The leader of the load under way may have found the
view of a load that is over when it looked again, and have taken it out of the store's
reach before the key was removed.  Gets that come after the removal and join this load are
given that view, until its leader has ended it.
-/

namespace PeerCache

variable {P : Type}

namespace Group

variable {group after : Group P} {move : Move} {load : CallId}

/-- The load was begun, and nobody leads it any more. -/
def Over (group : Group P) (load : CallId) : Prop :=
  load < group.loads.calls.length ∧ load ∉ leadersBy Place.load? group.callers

theorem Over.shift (isOver : group.Over load) (shift : Shift group move after) :
    after.Over load := by
  obtain ⟨_, evolves⟩ := shift.loads.evolves
  constructor
  · exact Nat.lt_of_lt_of_le isOver.1 evolves.length_le
  · intro member
    rcases evolves.mem_left member with led | new
    · exact isOver.2 led
    · exact Nat.not_lt.mpr new isOver.1

theorem Over.not_running (isOver : group.Over load) (orderly : group.Orderly) (key : String) :
    ¬ group.loads.Running load key := by
  intro running
  exact isOver.2 (orderly.loads.tracks.mem_live_iff.mpr ⟨key, running⟩)

/-- A load that has an answer is over. -/
theorem Orderly.over_of_answered (orderly : group.Orderly) {result : Result View}
    (answered : group.loads.answer? load = some result) : group.Over load := by
  constructor
  · exact Flight.lt_length_of_answer? answered
  · intro member
    obtain ⟨_, running⟩ := orderly.loads.tracks.mem_live_iff.mp member
    rw [running.answer?_eq_none] at answered
    cases answered

/-- A load that was begun for a key is over, unless it is the one under way for the key. -/
theorem Orderly.over_or_found (orderly : group.Orderly) {key : String}
    (isFor : group.loads.IsFor load key) :
    group.Over load ∨ group.loads.find? key = some load := by
  by_cases led : load ∈ leadersBy Place.load? group.callers
  · obtain ⟨other, running, found⟩ := orderly.loads.tracks.find?_of_live led
    have same : other = key := running.isFor.key_unique isFor
    exact Or.inr (same ▸ found)
  · obtain ⟨call, at_, -⟩ := isFor
    exact Or.inl ⟨(List.getElem?_eq_some_iff.mp at_).1, led⟩

/-- Nobody comes to have a stake in a load that is over. -/
theorem Over.stake_was (isOver : group.Over load) (orderly : group.Orderly) {key : String}
    {was : Option Stake} {stake : Stake} {flight : Flight View}
    (turn : group.loads.Turn key was (some stake) flight) (same : stake.call = load) :
    was = some stake := by
  rcases turn.stake_cases with ⟨held, -⟩ | ⟨found, -⟩ | ⟨new, -⟩
  · exact held
  · rw [same] at found
    have running := orderly.loads.running_of_find? found
    exact absurd running (isOver.not_running orderly key)
  · rw [same] at new
    exact absurd isOver.1 (Nat.not_lt.mpr (Nat.le_of_eq new.symm))

/-- A load whose view has been stored was led until then. -/
theorem Over.stored?_ne (isOver : group.Over load) (move : Move) (after : Group P) (key : String) :
    group.stored? move after ≠ some (key, load) := by
  intro stored
  unfold stored? at stored
  split at stored
  case h_1 caller reply =>
      split at stored
      case h_1 context name call given at_ got =>
          cases stored
          exact isOver.2 (mem_leadersBy_iff.mpr ⟨caller, _, at_, rfl⟩)
      case h_2 => cases stored
  case h_2 => cases stored

/-- Through every run, loads are begun and ended by those that lead them. -/
theorem run_loads_evolves [PeerHandle P] (group : Group P)
    (moves : List (Surroundings P × Move)) :
    ∃ drops, group.loads.Evolves (leadersBy Place.load? group.callers) drops
      (group.run moves).1.loads (leadersBy Place.load? (group.run moves).1.callers) := by
  induction moves generalizing group with
  | nil => exact ⟨_, .refl _ _⟩
  | cons timed rest hyp =>
      obtain ⟨near, move⟩ := timed
      obtain ⟨_, first⟩ := (step_shift near group move).loads.evolves
      obtain ⟨_, onward⟩ := hyp (group.step near move).1
      exact ⟨_, first.trans onward⟩

end Group

namespace Traced

/-- The load is over, its view is not in the store, and no caller from this position on has
been given it or can hear of it. -/
structure Forgotten (traced : Traced P) (load : CallId) (since : Nat) : Prop where
  isOver : traced.group.Over load
  kept : ∀ key, traced.origins.kept key ≠ some load
  stakes : ∀ (caller : Nat) (entry : GroupCaller P) (stake : Stake), since ≤ caller →
    traced.group.callers[caller]? = some entry → entry.place.load? = some stake →
    stake.call ≠ load
  gave : ∀ caller, since ≤ caller → traced.origins.gave caller ≠ some load

/-- A load that is over is forgotten, for all that come later, when its key has no view. -/
theorem Sound.forgotten {traced : Traced P} (sound : traced.Sound) {load : CallId} {key : String}
    (isOver : traced.group.Over load) (isFor : traced.group.loads.IsFor load key)
    (erased : traced.group.store.find? key = none) :
    traced.Forgotten load traced.group.callers.length where
  isOver := isOver
  kept name kept := by
    obtain ⟨view, found⟩ := sound.kept_only name load kept
    obtain ⟨other, origin, gave⟩ := sound.kept name view found
    have same : other = load := Option.some.inj (origin.symm.trans kept)
    subst same
    have here : name = key := gave.1.key_unique isFor
    rw [here, erased] at found
    cases found
  stakes caller entry stake late at_ := by
    have absent := List.getElem?_eq_none late
    rw [at_] at absent
    cases absent
  gave caller late gave := by
    obtain ⟨view, given⟩ := sound.gave_only caller load gave
    obtain ⟨entry, at_, -⟩ := Group.given?_eq_some_iff.mp given
    have absent := List.getElem?_eq_none late
    rw [at_] at absent
    cases absent

theorem Forgotten.mono {traced : Traced P} {load : CallId} {since later : Nat}
    (forgotten : traced.Forgotten load since) (le : since ≤ later) :
    traced.Forgotten load later where
  isOver := forgotten.isOver
  kept := forgotten.kept
  stakes caller entry stake late := forgotten.stakes caller entry stake (Nat.le_trans le late)
  gave caller late := forgotten.gave caller (Nat.le_trans le late)

section Runs

variable [PeerHandle P]

theorem step_forgotten (near : Surroundings P) {traced : Traced P} (move : Group.Move)
    (sound : traced.Sound) {load : CallId} {since : Nat}
    (forgotten : traced.Forgotten load since) :
    (traced.step near move).Forgotten load since := by
  have shift := Group.step_shift near traced.group move
  have isOver := forgotten.isOver
  constructor
  · exact isOver.shift shift
  · intro key kept
    rcases kept_step_cases near traced move kept with stored | before
    · exact isOver.stored?_ne _ _ _ stored
    · exact forgotten.kept key before
  · intro caller entry stake late at_ held same
    rcases shift.loads.callers_cases at_ with old | ⟨-, turn⟩ | ⟨place, before, turn⟩
    · exact forgotten.stakes caller entry stake late old held same
    · rw [held] at turn
      cases isOver.stake_was sound.orderly turn same
    · rw [held] at turn
      have was := isOver.stake_was sound.orderly turn same
      exact forgotten.stakes caller { entry with place } stake late before was same
  · intro caller late gave
    obtain ⟨view, given⟩ := gave_step_only near traced move gave
    obtain ⟨entry, at_, got⟩ := Group.given?_eq_some_iff.mp given
    rcases gave_step_cases near traced move sound.orderly at_ got with
      ⟨-, same⟩ | ⟨-, -, same⟩ | ⟨place, stake, before, held, -, same⟩
    · exact forgotten.gave caller late (same.symm.trans gave)
    · exact forgotten.kept entry.key (same.symm.trans gave)
    · have source : stake.call = load := Option.some.inj (same.symm.trans gave)
      exact forgotten.stakes caller { entry with place } stake late before held source

/-- What is forgotten stays so, whatever happens. -/
theorem run_forgotten {traced : Traced P} (sound : traced.Sound) {load : CallId} {since : Nat}
    (forgotten : traced.Forgotten load since) (moves : List (Surroundings P × Group.Move)) :
    (traced.run moves).Forgotten load since := by
  have both := run_of_step (fun traced : Traced P => traced.Sound ∧ traced.Forgotten load since)
    (fun near _ move both => ⟨step_sound near move both.1, step_forgotten near move both.1 both.2⟩)
    ⟨sound, forgotten⟩ moves
  exact both.2

/-- No leader finds the view of a load that is forgotten. -/
theorem run_found_of_forgotten {traced : Traced P} (sound : traced.Sound) {earlier : CallId}
    {since : Nat} (forgotten : traced.Forgotten earlier since)
    (moves : List (Surroundings P × Group.Move)) {load : CallId}
    (found : (traced.run moves).origins.found load = some earlier) :
    traced.origins.found load = some earlier := by
  induction moves generalizing traced with
  | nil => exact found
  | cons timed rest hyp =>
      obtain ⟨near, move⟩ := timed
      have soundNext := step_sound near move sound
      have later := hyp soundNext (step_forgotten near move sound forgotten) found
      rcases found_step_cases near traced move later with before | ⟨key, -, kept⟩
      · exact before
      · exact absurd kept (forgotten.kept key)

/-- A load that was begun for a key in the course of a run is one for it from its beginning. -/
theorem isFor_of_run {traced : Traced P} {load : CallId} {key : String}
    (begun : load < traced.group.loads.calls.length) (moves : List (Surroundings P × Group.Move))
    (isFor : (traced.run moves).group.loads.IsFor load key) :
    traced.group.loads.IsFor load key := by
  have known : traced.group.loads.IsFor load traced.group.loads.calls[load].key :=
    ⟨_, List.getElem?_eq_getElem begun, rfl⟩
  obtain ⟨_, evolves⟩ := Group.run_loads_evolves traced.group moves
  rw [← group_run] at evolves
  exact (evolves.isFor known).key_unique isFor ▸ known

/-- What a load gave it has given after every run. -/
theorem gave_run {traced : Traced P} (sound : traced.Sound) {load : CallId} {key : String}
    {view : View} (gave : traced.group.Gave key load view)
    (moves : List (Surroundings P × Group.Move)) : (traced.run moves).group.Gave key load view := by
  obtain ⟨_, evolves⟩ := Group.run_loads_evolves traced.group moves
  rw [← group_run] at evolves
  exact ⟨evolves.isFor gave.1, evolves.answer? sound.orderly.loads.tracks gave.2⟩

/-- A load that is over when its key is removed from the store is not given to those who come for
the key later. -/
theorem not_gave_of_over {removal : Traced P} (sound : removal.Sound) {load : CallId}
    {key : String} (isOver : removal.group.Over load)
    (isFor : removal.group.loads.IsFor load key) (near : Surroundings P)
    (later : List (Surroundings P × Group.Move)) {get : Nat}
    (late : removal.group.callers.length ≤ get) :
    (removal.run ((near, .removeLocally key) :: later)).origins.gave get ≠ some load := by
  have erased := removal.group.store.find?_erase_self key
  have after := step_sound near (.removeLocally key) sound
  have forgotten := after.forgotten isOver isFor erased
  exact (run_forgotten after forgotten later).gave get late

/-- A load that is over when its key is removed from the store is found by no leader that looks
again later. -/
theorem found_of_over {removal : Traced P} (sound : removal.Sound) {load earlier : CallId}
    {key : String} (isOver : removal.group.Over earlier)
    (isFor : removal.group.loads.IsFor earlier key) (near : Surroundings P)
    (later : List (Surroundings P × Group.Move))
    (found : (removal.run ((near, .removeLocally key) :: later)).origins.found load =
      some earlier) : removal.origins.found load = some earlier := by
  have erased := removal.group.store.find?_erase_self key
  have after := step_sound near (.removeLocally key) sound
  have forgotten := after.forgotten isOver isFor erased
  exact run_found_of_forgotten after forgotten later found

/-- After every run, let a key be removed from the store, and let anything happen later.  A
caller that came for the key after the removal and got a view got one that a load of the key
gave, and this load was either the one under way for the key when it was removed or began
after that.

If the leader of this load has not come by the view itself, but has found the view of an earlier
load in the store, then this earlier load, too, was under way when the key was removed or began
after that; unless the leader had found the view already when the key was removed, and had yet
to end its load. -/
theorem get_after_removeLocally (name : String) (before later : List (Surroundings P × Group.Move))
    (near : Surroundings P) (key : String) :
    let removal := (new name : Traced P).run before
    let last := removal.run ((near, .removeLocally key) :: later)
    let underWay := fun load =>
      removal.group.loads.find? key = some load ∨ removal.group.loads.calls.length ≤ load
    ∀ (get : Nat) (context : CallContext) (view : View), removal.group.callers.length ≤ get →
      last.group.callers[get]? = some ⟨context, key, .got (.ok view)⟩ →
      ∃ load, last.origins.gave get = some load ∧ last.group.Gave key load view ∧
        underWay load ∧
        ∀ earlier, last.origins.found load = some earlier →
          last.group.Gave key earlier view ∧
          (underWay earlier ∨ ∃ (leader : Nat) (other : CallContext),
            removal.group.callers[leader]? = some ⟨other, key, .found load view⟩) := by
  intro removal last underWay get context view late at_
  have sound : removal.Sound := run_sound (sound_new name) before
  have soundLast : last.Sound := run_sound sound _
  obtain ⟨load, origin, gave⟩ := soundLast.gave get _ view at_ rfl
  -- whatever load is for the key is over, or was under way when the key was removed
  have over_or_underWay (other : CallId) (isFor : last.group.loads.IsFor other key) :
      underWay other ∨ removal.group.Over other ∧ removal.group.loads.IsFor other key := by
    rcases Nat.lt_or_ge other removal.group.loads.calls.length with begun | new
    · have was := isFor_of_run begun _ isFor
      rcases sound.orderly.over_or_found was with isOver | found
      · exact Or.inr ⟨isOver, was⟩
      · exact Or.inl (Or.inl found)
    · exact Or.inl (Or.inr new)
  have current : underWay load := by
    rcases over_or_underWay load gave.1 with here | ⟨isOver, isFor⟩
    · exact here
    · exact absurd origin (not_gave_of_over sound isOver isFor near later late)
  refine ⟨load, origin, gave, current, ?_⟩
  intro earlier found
  have gaveEarlier := soundLast.gave_found gave found
  refine ⟨gaveEarlier, ?_⟩
  rcases over_or_underWay earlier gaveEarlier.1 with here | ⟨isOver, isFor⟩
  case inl => exact Or.inl here
  case inr =>
      have before := found_of_over sound isOver isFor near later found
      obtain ⟨other, was, gaveWas, ⟨leader, context, stands⟩ | gaveLoad⟩ :=
        sound.found_only load earlier before
      · obtain rfl := gaveWas.1.key_unique isFor
        cases (gave_run sound gaveWas _).2.symm.trans gaveEarlier.2
        exact Or.inr ⟨leader, context, stands⟩
      · -- the load itself would have been over
        exfalso
        obtain ⟨begun, unled⟩ := sound.orderly.over_of_answered gaveLoad.2
        rcases current with running | new
        · have unanswered := (sound.orderly.loads.running_of_find? running).answer?_eq_none
          rw [gaveLoad.2] at unanswered
          cases unanswered
        · exact absurd begun (Nat.not_lt.mpr new)

/-- A leader has found the view of a load that is over when the key is removed.  A get that comes
after that joins its load, and is given the view. -/
theorem joined_get_after_removeLocally :
    let alone : Surroundings String := ⟨.epoch, fun _ => none, []⟩
    let context : CallContext := ⟨.fresh, none⟩
    let view : View := ⟨[118], none⟩
    let removal := (new "users" : Traced String).run
      [(alone, .get context "k"), (alone, .startGet context "k"),
        (alone, .loaderReplied 0 (.returned (.ok view))), (alone, .goOn 1), (alone, .goOn 1)]
    let last := removal.run ((alone, .removeLocally "k") ::
      [(alone, .startGet context "k"), (alone, .goOn 2), (alone, .goOn 1), (alone, .poll 2)])
    let underWay := fun load =>
      removal.group.loads.find? "k" = some load ∨ removal.group.loads.calls.length ≤ load
    removal.group.callers.length ≤ 2 ∧
      last.group.callers[2]? = some ⟨context, "k", .got (.ok view)⟩ ∧
      last.origins.gave 2 = some 1 ∧ last.origins.found 1 = some 0 ∧ ¬ underWay 0 ∧
      ∃ load, last.origins.gave 2 = some load ∧ last.group.Gave "k" load view ∧
        underWay load ∧
        ∀ earlier, last.origins.found load = some earlier →
          last.group.Gave "k" earlier view ∧
          (underWay earlier ∨ ∃ (leader : Nat) (other : CallContext),
            removal.group.callers[leader]? = some ⟨other, "k", .found load view⟩) := by
  refine ⟨Nat.le_refl 2, rfl, rfl, rfl, ?_,
    get_after_removeLocally "users" _ _ _ "k" 2 _ _ (Nat.le_refl 2) rfl⟩
  rintro (found | new)
  · cases found
  · exact absurd new (by decide)

/-- A load that had called the loader when its key was removed stores its view afterwards,
and the next get finds it. -/
theorem older_load_outlives_removeLocally :
    let alone : Surroundings String := ⟨.epoch, fun _ => none, []⟩
    let context : CallContext := ⟨.fresh, none⟩
    let view : View := ⟨[118], none⟩
    let removal := (new "users" : Traced String).run [(alone, .get context "k")]
    let last := removal.run ((alone, .removeLocally "k") ::
      [(alone, .loaderReplied 0 (.returned (.ok view))), (alone, .get context "k")])
    removal.group.callers = [⟨context, "k", .loading 0⟩] ∧
      last.group.callers[1]? = some ⟨context, "k", .got (.ok view)⟩ ∧
      last.origins.gave 1 = some 0 := by
  exact ⟨rfl, rfl, rfl⟩

end Runs

end Traced

end PeerCache
