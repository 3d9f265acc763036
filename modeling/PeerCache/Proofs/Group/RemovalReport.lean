/-
Module: PeerCache.Proofs.Group.RemovalReport
Purpose: What has happened at the owner and at the other peers when a removal reports success.
Main exports:
  Group.Acknowledged, Group.exists_arrival, Group.SettlesRemoval,
  Group.removal_answered_or_panicked, Group.panicked_removal_succeeds
-/
import PeerCache.Proofs.Group.Invalidation
import PeerCache.Proofs.Group.RemovalCourse

/-!
A removal that returns without an error has led, or has followed one that has.  The one that has
led can be traced back to where it came: there it saw who owns the key, and from there on it asked
the owner and everybody else.  The owner, if there is one, has agreed, and at every other peer the
removal has ended; no peer has returned an error (`Acknowledged`).

That is less than that every peer has removed the key: at some of them the removal may have
panicked, which the leader forgets (`panicked_removal_succeeds`).
-/

namespace PeerCache

variable {P : Type}

namespace Group

/-- Everybody has been asked to remove the key and has ended: the owner, if there is one, has
removed it, and no other peer has returned an error. -/
structure Acknowledged [PeerHandle P] (begun : Surroundings P) (caller : Nat) (key : String)
    (heard : List (Surroundings P × Move)) (asked : List (Event P)) (near : Surroundings P) :
    Prop where
  agreed : PastOwner begun caller key heard near
  asks : asked = toOwner begun caller key ++ announce near (begun.pick? key) caller key
  ended : ∀ entry ∈ broadcastTo near (begun.pick? key), ∃ reply, (entry.2, reply) ∈ endings heard
  unfailed : ∀ number reply, (number, reply) ∈ endings heard →
    reply = .returned (.ok ()) ∨ ∃ message, reply = .panicked message

/-- Without a first failure there is none. -/
theorem unfailed_of_firstFailure {heard : List (Surroundings P × Move)}
    (unfailed : firstFailure heard = none) {number : Nat}
    {reply : Reply CacheError Unit} (member : (number, reply) ∈ endings heard) :
    reply = .returned (.ok ()) ∨ ∃ message, reply = .panicked message := by
  have quiet := List.findSome?_eq_none_iff.mp unfailed _ member
  match reply with
  | .returned (.ok ()) => exact Or.inl rfl
  | .returned (.error error) => cases quiet
  | .panicked message => exact Or.inr ⟨message, rfl⟩

section Leaders

variable [PeerHandle P] {begun : Surroundings P} {caller : Nat} {context : CallContext}
  {key : String} {call : CallId} {heard : List (Surroundings P × Move)} {asked : List (Event P)}

theorem RemovalCourse.acknowledged
    (course : RemovalCourse begun caller key call heard asked (.removed (.ok ()))) :
    ∃ near, Acknowledged begun caller key heard asked near := by
  obtain ⟨near, past⟩ := course.exists_pastOwner rfl
  obtain ⟨asks, same | same | ⟨same, done⟩⟩ := course.of_pastOwner past
  · cases same
  · cases same
  · have unfailed : firstFailure heard = none := by
      cases failure : firstFailure heard with
      | none => rfl
      | some error => rw [failure] at same; cases same
    exact ⟨near, past, asks, pending_eq_nil_iff.mp done,
      fun _ _ member => unfailed_of_firstFailure unfailed member⟩

end Leaders

/-! ## Leaders and followers -/

/-- A removal's leader still leads it, or it has ended with what the removal has; if the leader was
lost, so is the removal. -/
def SettlesRemoval (call : CallId) (group : Group P) (place : Place P) : Prop :=
  place.removal? = some (.leads call) ∨
    ∃ result, group.removals.answer? call = some result ∧ place.isWaiting = false ∧
      (place = .removed result ∨ result = .error .leaderFailed)

/-- A follower of a removal waits for it, or has what it has ended with, or is dropped. -/
def FollowsRemoval (call : CallId) (group : Group P) (place : Place P) : Prop :=
  place = .joinedRemoval call ∨ place = .dropped ∨
    ∃ result, group.removals.answer? call = some result ∧ place = .removed result

section Stakes

variable {group : Group P} {caller : Nat} {context : CallContext} {key : String} {call : CallId}
  {result : Result Unit} {place : Place P}

/-- What a follower reports is what the removal has ended with. -/
theorem FollowsRemoval.answered (follows : FollowsRemoval call group (.removed result)) :
    group.removals.answer? call = some result := by
  rcases follows with same | same | ⟨other, answered, same⟩
  · cases same
  · cases same
  · cases same
    exact answered

/-- When a removal has ended with success, its leader has. -/
theorem SettlesRemoval.removed (settles : SettlesRemoval call group place)
    (orderly : group.Orderly) (at_ : group.callers[caller]? = some ⟨context, key, place⟩)
    (answered : group.removals.answer? call = some (.ok ())) : place = .removed (.ok ()) := by
  rcases settles with leads | ⟨result, known, -, ends⟩
  · rw [(orderly.removals.running_of_leads at_ leads).answer?_eq_none] at answered
    cases answered
  · obtain rfl := Option.some.inj (answered.symm.trans known)
    rcases ends with same | failed
    · exact same
    · cases failed

end Stakes

section Followers

variable [PeerHandle P] {near : Surroundings P} {group after : Group P} {move : Move}
  {events : List (Event P)} {context : CallContext} {key : String} {call : CallId}
  {result : Result Unit}

/-- A removal that has ended has ended for good. -/
theorem Orderly.answer?_removal_step (orderly : group.Orderly) (near : Surroundings P)
    (move : Move) (answered : group.removals.answer? call = some result) :
    (group.step near move).1.removals.answer? call = some result := by
  obtain ⟨_, evolves⟩ := (step_shift near group move).removals.evolves
  exact evolves.answer? orderly.removals.tracks answered

theorem lasting_settlesRemoval (caller : Nat) (context : CallContext) (key : String)
    (call : CallId) :
    Lasting (P := P) caller context key fun group _ _ place =>
      SettlesRemoval call group place := by
  intro near group move place next heard added asked more orderly at_ goes settles
  rcases settles with leads | ⟨result, answered, ended, ends⟩
  case inl =>
      have running := orderly.removals.running_of_leads at_ leads
      cases goes with
      | stays => exact Or.inl leads
      | ownerRemoved | peerRemoved =>
          cases leads
          exact Or.inl rfl
      | ownerFailed _ _ _ ends | endBroadcast _ _ ends =>
          cases leads
          exact Or.inr ⟨_, ends ▸ running.answer?_settle _, rfl, Or.inl rfl⟩
      | ownerPanicked _ _ _ ends =>
          cases leads
          exact Or.inr ⟨_, ends ▸ running.answer?_settle none, rfl, Or.inr rfl⟩
      | dropped _ waiting _ _ removals =>
          exact Or.inr ⟨_, removals call leads ▸ running.answer?_settle none, rfl, Or.inr rfl⟩
      | _ => cases leads
  case inr =>
      obtain ⟨rfl, -⟩ := goes.stays_of_ended ended
      exact Or.inr ⟨result, orderly.answer?_removal_step near move answered, ended, ends⟩

theorem lasting_followsRemoval (caller : Nat) (context : CallContext) (key : String)
    (call : CallId) :
    Lasting (P := P) caller context key fun group _ _ place =>
      FollowsRemoval call group place := by
  intro near group move place next heard added asked more orderly at_ goes follows
  rcases follows with rfl | rfl | ⟨result, answered, rfl⟩
  · cases goes with
    | stays => exact Or.inl rfl
    | hearRemoval _ result answered =>
        exact Or.inr (Or.inr ⟨result, orderly.answer?_removal_step near move answered, rfl⟩)
    | dropped => exact Or.inr (Or.inl rfl)
  · obtain ⟨rfl, -⟩ := goes.stays_of_ended rfl
    exact Or.inr (Or.inl rfl)
  · obtain ⟨rfl, -⟩ := goes.stays_of_ended rfl
    exact Or.inr (Or.inr ⟨result, orderly.answer?_removal_step near move answered, rfl⟩)

/-- A removal finds another one of its key and follows it, or leads one of its own. -/
theorem Transition.stakes_of_remove (orderly : group.Orderly)
    (transition : Transition near group (.remove context key) after events) :
    group.removals.find? key = none ∨ ∃ call, group.removals.find? key = some call ∧
      after.callers[group.callers.length]? = some ⟨context, key, .joinedRemoval call⟩ := by
  cases transition with
  | joinRemoval _ _ call found => exact Or.inr ⟨call, found, List.getElem?_concat_length⟩
  | lateRemoval _ _ call result found answered =>
      rw [(orderly.removals.running_of_find? found).answer?_eq_none] at answered
      cases answered
  | askOwner _ _ _ free => exact Or.inl free
  | removeHere _ _ free => exact Or.inl free
  | idle _ nobody => cases nobody

end Followers

/-! ## Where a leader comes from -/

section Arrivals

variable [PeerHandle P] {group : Group P} {moves : List (Surroundings P × Move)} {index : Nat}
  {context : CallContext} {key : String} {call : CallId}

/-- Every caller has come with some move. -/
theorem exists_arrival {entry : GroupCaller P} (new : group.callers.length ≤ index)
    (at_ : (group.run moves).1.callers[index]? = some entry) :
    ∃ earlier near move later, moves = earlier ++ (near, move) :: later ∧
      (group.run earlier).1.callers.length = index ∧
      move.arrival? = some (entry.context, entry.key) := by
  induction moves generalizing group with
  | nil =>
      have bound := (List.getElem?_eq_some_iff.mp at_).1
      exact absurd bound (Nat.not_lt.mpr new)
  | cons timed rest hyp =>
      obtain ⟨near, move⟩ := timed
      rcases Nat.lt_or_ge index (group.step near move).1.callers.length with there | later
      · obtain ⟨first, rfl, here, comes⟩ := (step_shift near group move).arrival_of_new new there
        obtain ⟨next, last⟩ := exists_place_of_run here rest
        cases at_.symm.trans last
        exact ⟨[], near, move, rest, rfl, rfl, comes⟩
      · obtain ⟨earlier, first, other, after, rfl, length, comes⟩ := hyp later at_
        exact ⟨(near, move) :: earlier, first, other, after, rfl, length, comes⟩

/-- Who comes, and not for a removal, does not come to lead one. -/
theorem Transition.unremoving_of_arrival {near : Surroundings P} {after : Group P} {move : Move}
    {events : List (Event P)} (transition : Transition near group move after events)
    (comes : move.arrival? = some (context, key)) (isGet : move ≠ .remove context key) :
    ∃ place, after.callers[group.callers.length]? = some ⟨context, key, place⟩ ∧
      place.removal? = none := by
  cases transition with
  | hit | joinLoad | lateLoad | askPeer | callLoader | startHit | startMiss =>
      cases comes
      exact ⟨_, List.getElem?_concat_length, rfl⟩
  | joinRemoval | lateRemoval | askOwner | removeHere =>
      cases comes
      exact absurd rfl isGet
  | idle _ nobody => rw [nobody] at comes; cases comes
  | _ => cases comes

theorem lasting_unremoving (caller : Nat) (context : CallContext) (key : String) :
    Lasting (P := P) caller context key fun _ _ _ place => place.removal? = none := by
  intro near group move place next heard added asked more orderly at_ goes unremoving
  cases goes with
  | stays => exact unremoving
  | ownerRemoved | peerRemoved => cases unremoving
  | _ => rfl

/-- A removal that is led began when its leader came and found no other one of the key. -/
theorem exists_beginning (orderly : group.Orderly) {place : Place P}
    (new : group.callers.length ≤ index)
    (at_ : (group.run moves).1.callers[index]? = some ⟨context, key, place⟩)
    (leads : place.removal? = some (.leads call)) :
    ∃ earlier begun later, moves = earlier ++ (begun, .remove context key) :: later ∧
      (group.run earlier).1.callers.length = index ∧
      (group.run earlier).1.removals.find? key = none := by
  obtain ⟨earlier, begun, move, later, rfl, rfl, comes⟩ := exists_arrival new at_
  have orderlyFirst := run_orderly orderly earlier
  have orderlyNext := step_orderly begun move orderlyFirst
  have transition := step_transition begun (group.run earlier).1 move
  rw [run_append] at at_
  cases move with
  | get | startGet =>
      obtain ⟨first, here, unremoving⟩ := transition.unremoving_of_arrival comes nofun
      obtain ⟨_, there, still⟩ := follow_run (lasting_unremoving _ context key) orderlyNext here
        [] [] unremoving later
      cases there.symm.trans at_
      rw [leads] at still
      cases still
  | remove =>
      cases comes
      rcases transition.stakes_of_remove orderlyFirst with free | ⟨other, found, here⟩
      · exact ⟨earlier, begun, later, rfl, rfl, free⟩
      · obtain ⟨_, there, follows⟩ := follow_run (lasting_followsRemoval _ context key other)
          orderlyNext here [] [] (Or.inl rfl) later
        cases there.symm.trans at_
        rcases follows with rfl | rfl | ⟨_, -, rfl⟩ <;> cases leads
  | _ => cases comes

end Arrivals

/-! ## Removals that report success -/

/-- Who leads the removal that a caller is about to lead or follow: the caller that leads the one
under way for its key, or itself if none is. -/
def LeadsRemovalOf (group : Group P) (key : String) (leader : Nat) : Prop :=
  (group.removals.find? key = none ∧ leader = group.callers.length) ∨
    ∃ call entry, group.removals.find? key = some call ∧ group.callers[leader]? = some entry ∧
      entry.place.removal? = some (.leads call)

section Reports

variable [PeerHandle P]

/-- A removal that has led and reports success was acknowledged. -/
theorem acknowledged_of_removed {group : Group P} (orderly : group.Orderly)
    {begun : Surroundings P} {context : CallContext} {key : String}
    {moves : List (Surroundings P × Move)} (free : group.removals.find? key = none)
    (removed : (group.run ((begun, .remove context key) :: moves)).1.callers[
      group.callers.length]? = some ⟨context, key, .removed (.ok ())⟩) :
    let all := (begun, Move.remove context key) :: moves
    ∃ near, Acknowledged begun group.callers.length key (group.heard group.callers.length all)
      (asked group.callers.length (group.run all).2) near := by
  intro all
  obtain ⟨place, at_, course⟩ := run_removalCourse orderly begun context free moves
  cases at_.symm.trans removed
  exact course.acknowledged

/-- Let a caller come to remove a key after any run of a group, and let anything happen later.  If
its removal reports success, then the removal that it has led or followed began somewhere in the
run, where its leader saw who owns the key; the owner, if there is one, has removed the key; then
every other peer of that later moment was asked to remove it, and at each of them the removal has
ended, without an error: it has succeeded, or it has panicked. -/
theorem removal_answered_or_panicked (name : String)
    (before during : List (Surroundings P × Move)) (near : Surroundings P)
    (context : CallContext) (key : String) :
    let start := ((new name : Group P).run before).1
    let caller := start.callers.length
    let moves := (near, Move.remove context key) :: during
    (start.run moves).1.callers[caller]? = some ⟨context, key, .removed (.ok ())⟩ →
    ∃ earlier begun other later, before ++ moves = earlier ++ (begun, .remove other key) :: later ∧
      let first := ((new name : Group P).run earlier).1
      let leader := first.callers.length
      let all := (begun, Move.remove other key) :: later
      start.LeadsRemovalOf key leader ∧
        ∃ near, Acknowledged begun leader key (first.heard leader all)
          (asked leader (first.run all).2) near := by
  intro start caller moves succeeded
  have fresh : (new name : Group P).Orderly := orderly_new name
  have orderly : start.Orderly := run_orderly fresh before
  have transition := step_transition near start (.remove context key)
  rcases transition.stakes_of_remove orderly with free | ⟨call, found, joined⟩
  · exact ⟨before, near, context, during, rfl, Or.inl ⟨free, rfl⟩,
      acknowledged_of_removed orderly free succeeded⟩
  · -- a follower: its leader has reported the same, and can be traced back
    obtain ⟨_, there, follows⟩ := follow_run (lasting_followsRemoval caller context key call)
      (step_orderly near _ orderly) joined [] [] (Or.inl rfl) during
    cases there.symm.trans succeeded
    obtain ⟨leader, ⟨other, _, place⟩, led, leads, rfl⟩ :=
      orderly.removals.exists_leads (orderly.removals.running_of_find? found)
    obtain ⟨_, last, settles⟩ := follow_run (lasting_settlesRemoval leader other _ call)
      orderly led [] [] (Or.inl leads) moves
    obtain rfl := settles.removed (run_orderly orderly moves) last follows.answered
    obtain ⟨earlier, begun, later, split, rfl, free⟩ :=
      exists_beginning fresh (Nat.zero_le leader) led leads
    refine ⟨earlier, begun, other, later ++ moves, ?_, Or.inr ⟨call, _, found, led, leads⟩, ?_⟩
    · rw [split, List.append_assoc]
      rfl
    · apply acknowledged_of_removed (run_orderly fresh earlier) free
      have whole : ((new name : Group P).run (before ++ moves)).1 = (start.run moves).1 := by
        rw [run_append]
      rw [← whole, split, List.append_assoc, run_append] at last
      exact last

/-- A removal that joins another one, which is telling a peer. -/
theorem joined_removal_reports :
    let near : Surroundings String := ⟨.epoch, fun _ => none, ["p"]⟩
    let context : CallContext := ⟨.fresh, none⟩
    let before := [(near, Move.remove context "k")]
    let start := ((new "users" : Group String).run before).1
    let moves := (near, Move.remove context "k") ::
      [(near, .broadcastEnded 0 0 (.returned (.ok ()))), (near, .poll 0), (near, .poll 1)]
    (start.run moves).1.callers[1]? = some ⟨context, "k", .removed (.ok ())⟩ ∧
      ∃ earlier begun other later,
        before ++ moves = earlier ++ (begun, .remove other "k") :: later ∧
        let first := ((new "users" : Group String).run earlier).1
        let leader := first.callers.length
        let all := (begun, Move.remove other "k") :: later
        start.LeadsRemovalOf "k" leader ∧
          ∃ near, Acknowledged begun leader "k" (first.heard leader all)
            (asked leader (first.run all).2) near := by
  exact ⟨rfl, removal_answered_or_panicked "users" _ _ _ _ "k" rfl⟩

/-- A peer panics in the removal that it was asked for, and the removal reports success all the
same: this peer has not removed the key. -/
theorem panicked_removal_succeeds :
    let near : Surroundings String := ⟨.epoch, fun _ => none, ["p"]⟩
    let context : CallContext := ⟨.fresh, none⟩
    let moves := [(near, Move.remove context "k"),
      (near, .broadcastEnded 0 0 (.panicked "boom")), (near, .poll 0)]
    let last := (new "users" : Group String).run moves
    let heard := (new "users" : Group String).heard 0 moves
    last.2 = [.broadcast 0 "k" 0 "p"] ∧
      last.1.callers[0]? = some ⟨context, "k", .removed (.ok ())⟩ ∧
      endings heard = [(0, .panicked "boom")] ∧
      ¬ ∀ entry ∈ broadcastTo near (near.pick? "k"),
        (entry.2, .returned (.ok ())) ∈ endings heard := by
  intro near context moves last heard
  have ended : endings heard = [(0, .panicked "boom")] := rfl
  refine ⟨rfl, rfl, ended, ?_⟩
  intro removed
  have first := removed ("p", 0) (List.mem_singleton.mpr rfl)
  rw [ended] at first
  cases List.mem_singleton.mp first

end Reports

end Group

end PeerCache
