/-
Module: PeerCache.Proofs.Cluster.Lasting
Purpose: What lasts whatever the groups of a cluster do and whatever comes of their calls.
Main exports:
  Cluster.Lasts, Cluster.Reads, Cluster.lasts_fixtures, Cluster.lasts_groupAt?,
  Cluster.lasts_reads
-/
import PeerCache.Proofs.Cluster.Stores
import PeerCache.Proofs.Cluster.Waiting
import PeerCache.Proofs.Group.Questions

/-!
Between two moves from outside, three things happen to a cluster: groups move, calls are sent, and
calls end.  What each of these keeps (`Cluster.Lasts`) is kept by all that a cluster does, as long
as the peers of its nodes are not replaced.  So nodes keep their pools, routes and names of groups;
the groups stay; and a get that has come stays a get for its key (`Cluster.Reads`).
-/

namespace PeerCache.Cluster

/-- What holds goes on to hold when groups move, calls are sent and calls end. -/
structure Lasts (Holds : Cluster → Prop) : Prop where
  moves : ∀ cluster now position group move, Holds cluster →
    Holds (cluster.moveGroup now position group move).1
  sends : ∀ cluster position group caller purpose key transport, Holds cluster →
    Holds (cluster.send position group caller purpose key transport).1
  ends : ∀ cluster index (call : RemoteCall) node buffers,
    cluster.nodes[call.node]? = some node → Holds cluster →
      Holds (cluster.ending index call node buffers)

/-- A get for the key stands there. -/
def Reads (cluster : Cluster) (key : String) (waiter : Waiter) : Prop :=
  ∃ entry, cluster.callerAt? waiter = some entry ∧ entry.key = key ∧ entry.place.isOfGet = true

variable {cluster other : Cluster} {position : Nat} {waiter : Waiter} {key : String}

/-! ## All that a cluster does -/

namespace Lasts

variable {Holds : Cluster → Prop}

/-- What groups are and see lasts if it lasts when groups move. -/
theorem of_alike (alike : ∀ cluster other, Alike cluster other → Holds cluster → Holds other)
    (moves : ∀ cluster now position group move, Holds cluster →
      Holds (cluster.moveGroup now position group move).1) : Lasts Holds where
  moves := moves
  sends cluster _ _ _ _ _ _ := alike cluster _ (alike_send ..)
  ends cluster index _ _ buffers here := alike cluster _ (alike_ending here index buffers)

theorem followAll (lasts : Lasts Holds) (holds : Holds cluster) (now : Instant) (position : Nat)
    (events : List NodeEvent) : Holds (followAll now position cluster events).1 := by
  apply followAll_keeps Holds
  · exact fun current _ _ _ _ _ _ _ before => lasts.sends current _ _ _ _ _ _ before
  · exact fun current _ _ _ _ before => lasts.moves current now position _ _ before
  · exact holds

theorem follow (lasts : Lasts Holds) (holds : Holds cluster) (now : Instant) (position : Nat)
    (event : NodeEvent) : Holds (follow now position cluster event).1 := by
  have followed := lasts.followAll holds now position [event]
  rw [followAll_cons] at followed
  exact followed

theorem actInGroup (lasts : Lasts Holds) (holds : Holds cluster) (now : Instant)
    (position group : Nat) (move : Group.Move) :
    Holds (cluster.actInGroup now position group move).1 :=
  lasts.followAll (lasts.moves cluster now position group move holds) now position _

theorem moveGroups (lasts : Lasts Holds) (holds : Holds cluster) (now : Instant) (position : Nat)
    (moves : List (Nat × Group.Move)) : Holds (cluster.moveGroups now position moves).1 := by
  induction moves generalizing cluster with
  | nil => exact holds
  | cons first rest hyp => exact hyp (lasts.moves cluster now position first.1 first.2 holds)

theorem receive (lasts : Lasts Holds) (holds : Holds cluster) (now : Instant) (position : Nat)
    (request : Http.Request) : Holds (cluster.receive now position request).1 := by
  cases here : cluster.nodes[position]? with
  | none => simpa only [Cluster.receive, here] using holds
  | some node =>
      rw [receive_eq here]
      exact lasts.followAll (lasts.moveGroups holds now position _) now position _

theorem conclude (lasts : Lasts Holds) (holds : Holds cluster) (now : Instant) (index : Nat)
    (call : RemoteCall) (delivery : Delivery) :
    Holds (cluster.conclude now index call delivery).1 := by
  cases here : cluster.nodes[call.node]? with
  | none => simpa only [Cluster.conclude, here] using holds
  | some node =>
      rw [conclude_eq index call delivery here]
      exact lasts.actInGroup (lasts.ends cluster index call node _ here holds) now _ _ _

end Lasts

/-! ## What lasts -/

theorem lasts_fixtures (fixed : List (PeerPool × Routes × List (String × Nat))) :
    Lasts fun cluster => cluster.fixtures = fixed where
  moves _ _ _ _ _ same := (fixtures_moveGroup ..).trans same
  sends _ _ _ _ _ _ _ same := (fixtures_send ..).trans same
  ends _ index _ _ buffers here same := (fixtures_ending here index buffers).trans same

/-- No group goes. -/
theorem lasts_groupAt? (place index : Nat) :
    Lasts fun cluster => (cluster.groupAt? place index).isSome = true := by
  apply Lasts.of_alike
  · intro cluster other alike isThere
    rw [alike.groups]
    exact isThere
  · intro cluster now position group move isThere
    cases here : cluster.nodes[position]? with
    | none => simpa only [moveGroup, here] using isThere
    | some node =>
        rw [groupAt?_moveGroup here]
        split
        case isTrue => rw [Option.isSome_map]; exact isThere
        case isFalse => exact isThere

theorem callerAt?_of_alike (alike : Alike cluster other) (waiter : Waiter) :
    other.callerAt? waiter = cluster.callerAt? waiter := by
  rw [callerAt?, alike.groups, callerAt?]

theorem callerAt?_moveGroup {node : Node} (here : cluster.nodes[position]? = some node)
    (now : Instant) (group : Nat) (move : Group.Move) (waiter : Waiter) :
    (cluster.moveGroup now position group move).1.callerAt? waiter =
      if waiter.node = position ∧ waiter.group = group then
        (cluster.groupAt? waiter.node waiter.group).bind fun before =>
          (before.step (node.surroundings now) move).1.callers[waiter.caller]?
      else cluster.callerAt? waiter := by
  rw [callerAt?, groupAt?_moveGroup here]
  split
  case isTrue => rw [Option.bind_map]; rfl
  case isFalse => rfl

theorem Reads.alike (reads : cluster.Reads key waiter) (alike : Alike cluster other) :
    other.Reads key waiter := by
  rw [Reads, callerAt?_of_alike alike]
  exact reads

/-- A get that is there stays there. -/
theorem Reads.moveGroup (reads : cluster.Reads key waiter) (now : Instant) (position group : Nat)
    (move : Group.Move) : (cluster.moveGroup now position group move).1.Reads key waiter := by
  obtain ⟨⟨context, name, place⟩, at_, isKey, isGet⟩ := reads
  obtain ⟨before, found, inGroup⟩ := Option.bind_eq_some_iff.mp at_
  cases here : cluster.nodes[position]? with
  | none =>
      rw [Cluster.moveGroup, here]
      exact ⟨_, at_, isKey, isGet⟩
  | some node =>
      rw [Reads, callerAt?_moveGroup here]
      split
      case isTrue =>
          obtain ⟨next, there, goes⟩ := Group.step_goes (node.surroundings now) move inGroup
          rw [found]
          exact ⟨_, there, isKey, goes.isOfGet isGet⟩
      case isFalse => exact ⟨_, at_, isKey, isGet⟩

theorem lasts_reads (key : String) (waiter : Waiter) :
    Lasts fun cluster => cluster.Reads key waiter :=
  .of_alike (fun _ _ alike reads => reads.alike alike)
    fun _ now position group move reads => reads.moveGroup now position group move

end PeerCache.Cluster
