/-
Module: PeerCache.Proofs.Group.Recounting
Purpose: That the counters of a group have no say in what it does.
Main exports:
  Group.recounted, Group.step_recounted, Group.run_recounted
-/
import PeerCache.Group

/-!
A group counts what it does, and never looks at its counters again.  So a group with other
counters answers its callers alike, keeps the same views and asks the same of its surroundings;
only its counters stay others.

Here two groups are compared, and `Group.Transition` tells of one: so the functions that make up a
move are followed themselves, one lemma each, then moves, then whole runs (`run_recounted`).
-/

namespace PeerCache.Group

variable {P : Type} (near : Surroundings P) (group : Group P) (stats : GroupStats)

/-- The same group with other counters. -/
def recounted : Group P :=
  { group with stats }

@[simp] theorem callers_recounted : (group.recounted stats).callers = group.callers := rfl

@[simp] theorem loads_recounted : (group.recounted stats).loads = group.loads := rfl

@[simp] theorem removals_recounted : (group.recounted stats).removals = group.removals := rfl

/-- To count one more is to have other counters. -/
theorem bump_eq_recounted (counter : Counter) :
    group.bump counter = group.recounted (group.stats.bump counter) := rfl

theorem lookUp_recounted (now : Instant) (key : String) :
    (group.recounted stats).lookUp now key =
      ((group.lookUp now key).1, (group.lookUp now key).2.recounted stats) := by
  unfold lookUp recounted
  dsimp only
  split
  · rfl
  · split <;> rfl

/-! ## Gets -/

theorem leadLoad_recounted (caller : Nat) (key : String) (call : CallId) :
    ∃ later, leadLoad near (group.recounted stats) caller key call =
      ((leadLoad near group caller key call).1,
        (leadLoad near group caller key call).2.1.recounted later,
        (leadLoad near group caller key call).2.2) := by
  simp only [leadLoad, lookUp_recounted]
  rcases group.lookUp near.now key with ⟨view | view, after⟩
  · cases near.pick? key with
    | none => exact ⟨_, rfl⟩
    | some peer => exact ⟨_, rfl⟩
  · exact ⟨_, rfl⟩

theorem beginGet_recounted (key : String) :
    ∃ later, beginGet near (group.recounted stats) key =
      ((beginGet near group key).1, (beginGet near group key).2.recounted later) := by
  have counted : (group.recounted stats).bump .gets =
      (group.bump .gets).recounted (stats.bump .gets) := rfl
  simp only [beginGet, counted, lookUp_recounted]
  rcases (group.bump .gets).lookUp near.now key with ⟨view | view, after⟩
  · exact ⟨_, rfl⟩
  · exact ⟨_, rfl⟩

theorem enterLoad_recounted (key : String) :
    enterLoad near (group.recounted stats) key =
      ((enterLoad near group key).1, (enterLoad near group key).2.recounted stats) := by
  unfold enterLoad
  rw [loads_recounted]
  cases group.loads.find? key with
  | some call =>
      dsimp only
      cases group.loads.answer? call <;> rfl
  | none => rfl

theorem goOn_recounted (caller : Nat) (key : String) (place : Place P) :
    ∃ later, goOn near (group.recounted stats) caller key place =
      ((goOn near group caller key place).1,
        (goOn near group caller key place).2.1.recounted later,
        (goOn near group caller key place).2.2) := by
  cases place with
  | missed =>
      simp only [goOn, enterLoad_recounted]
      exact ⟨stats, rfl⟩
  | leading call => exact leadLoad_recounted near group stats caller key call
  | _ => exact ⟨stats, rfl⟩

theorem runGet_recounted (key : String) :
    ∃ later, runGet near (group.recounted stats) key =
      ((runGet near group key).1, (runGet near group key).2.1.recounted later,
        (runGet near group key).2.2) := by
  obtain ⟨begun, begins⟩ := beginGet_recounted near group stats key
  simp only [runGet, begins, callers_recounted]
  generalize beginGet near group key = first
  obtain ⟨enters, enter⟩ := goOn_recounted near first.2 begun group.callers.length key first.1
  simp only [enter]
  generalize goOn near first.2 group.callers.length key first.1 = second
  obtain ⟨leads, lead⟩ := goOn_recounted near second.2.1 enters group.callers.length key second.1
  simp only [lead]
  generalize goOn near second.2.1 group.callers.length key second.1 = third
  obtain ⟨ends, finish⟩ := goOn_recounted near third.2.1 leads group.callers.length key third.1
  exact ⟨ends, by simp only [finish]⟩

theorem afterPeer_recounted (caller : Nat) (key : String) (call : CallId)
    (reply : Reply CacheError Response) :
    ∃ later, afterPeer (group.recounted stats) caller key call reply =
      ((afterPeer group caller key call reply).1,
        (afterPeer group caller key call reply).2.1.recounted later,
        (afterPeer group caller key call reply).2.2) := by
  rcases reply with (error | response) | message
  · exact ⟨_, rfl⟩
  · exact ⟨_, rfl⟩
  · exact ⟨_, rfl⟩

theorem afterLoader_recounted (key : String) (call : CallId)
    (reply : Reply Chain View) :
    ∃ later, afterLoader (group.recounted stats) key call reply =
      ((afterLoader group key call reply).1,
        (afterLoader group key call reply).2.recounted later) := by
  rcases reply with (cause | view) | message
  · exact ⟨_, rfl⟩
  · exact ⟨_, rfl⟩
  · exact ⟨_, rfl⟩

/-! ## Removals and waits: nothing is counted -/

theorem beginRemove_recounted [PeerHandle P] (key : String) :
    beginRemove near (group.recounted stats) key =
      ((beginRemove near group key).1, (beginRemove near group key).2.1.recounted stats,
        (beginRemove near group key).2.2) := by
  unfold beginRemove
  rw [removals_recounted]
  cases group.removals.find? key with
  | some call =>
      dsimp only
      cases group.removals.answer? call <;> rfl
  | none =>
      dsimp only
      cases near.pick? key <;> rfl

theorem afterOwnerReply_recounted [PeerHandle P] (caller : Nat)
    (key : String) (call : CallId) (owner : P) (reply : Reply CacheError Unit) :
    afterOwnerReply near (group.recounted stats) caller key call owner reply =
      ((afterOwnerReply near group caller key call owner reply).1,
        (afterOwnerReply near group caller key call owner reply).2.1.recounted stats,
        (afterOwnerReply near group caller key call owner reply).2.2) := by
  rcases reply with (error | done) | message
  · rfl
  · rfl
  · rfl

theorem pollPlace_recounted (place : Place P) :
    (group.recounted stats).pollPlace place =
      ((group.pollPlace place).1, (group.pollPlace place).2.recounted stats) := by
  unfold pollPlace
  split
  · dsimp only [recounted]
    split <;> rfl
  · dsimp only [recounted]
    split <;> rfl
  · rfl
  · rfl

theorem dropPlace_recounted (place : Place P) :
    (group.recounted stats).dropPlace place =
      ((group.dropPlace place).1, (group.dropPlace place).2.recounted stats) := by
  cases place <;> rfl

/-! ## Moves and runs -/

variable [PeerHandle P]

/-- A group with other counters makes the same move and asks the same. -/
theorem step_recounted (move : Move) :
    ∃ later, (group.recounted stats).step near move =
      ((group.step near move).1.recounted later, (group.step near move).2) := by
  cases move with
  | get context key =>
      obtain ⟨later, same⟩ := runGet_recounted near group stats key
      exact ⟨later, by rw [step, same]; rfl⟩
  | startGet context key =>
      obtain ⟨later, same⟩ := beginGet_recounted near group stats key
      exact ⟨later, by rw [step, same]; rfl⟩
  | goOn caller =>
      simp only [step, callers_recounted]
      split
      · next context key place found =>
          obtain ⟨later, same⟩ := goOn_recounted near group stats caller key place
          exact ⟨later, by rw [same]; rfl⟩
      · exact ⟨stats, rfl⟩
  | remove context key =>
      exact ⟨stats, by rw [step, beginRemove_recounted]; rfl⟩
  | peerReplied caller reply =>
      simp only [step, callers_recounted]
      split
      · next context key call peer found =>
          obtain ⟨later, same⟩ := afterPeer_recounted group stats caller key call reply
          exact ⟨later, by rw [same]; rfl⟩
      · exact ⟨stats, rfl⟩
  | loaderReplied caller reply =>
      simp only [step, callers_recounted]
      split
      · next context key call found =>
          obtain ⟨later, same⟩ := afterLoader_recounted group stats key call reply
          exact ⟨later, by rw [same]; rfl⟩
      · exact ⟨stats, rfl⟩
  | ownerReplied caller reply =>
      simp only [step, callers_recounted]
      split
      · exact ⟨stats, by rw [afterOwnerReply_recounted]; rfl⟩
      · exact ⟨stats, rfl⟩
  | broadcastEnded caller number reply =>
      simp only [step, callers_recounted]
      split
      · split
        · exact ⟨stats, rfl⟩
        · exact ⟨stats, rfl⟩
      · exact ⟨stats, rfl⟩
  | poll caller =>
      simp only [step, callers_recounted]
      split
      · exact ⟨stats, by rw [pollPlace_recounted]; rfl⟩
      · exact ⟨stats, rfl⟩
  | drop caller =>
      simp only [step, callers_recounted]
      split
      · exact ⟨stats, by rw [dropPlace_recounted]; rfl⟩
      · exact ⟨stats, rfl⟩
  | removeLocally key => exact ⟨stats, rfl⟩
  | look key => exact ⟨stats, by rw [step, lookUp_recounted]; rfl⟩
  | serve => exact ⟨_, rfl⟩

/-- A group with other counters makes the same run and asks the same. -/
theorem run_recounted (moves : List (Surroundings P × Move)) :
    ∃ later, (group.recounted stats).run moves =
      ((group.run moves).1.recounted later, (group.run moves).2) := by
  induction moves generalizing group stats with
  | nil => exact ⟨stats, rfl⟩
  | cons entry rest hyp =>
      obtain ⟨near, move⟩ := entry
      obtain ⟨between, first⟩ := step_recounted near group stats move
      obtain ⟨later, second⟩ := hyp (group.step near move).1 between
      exact ⟨later, by simp only [run, first, second]⟩

end PeerCache.Group
