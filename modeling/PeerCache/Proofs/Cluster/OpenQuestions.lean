/-
Module: PeerCache.Proofs.Cluster.OpenQuestions
Purpose: What the gets of a cluster wait for, and who is about to answer it.
Main exports:
  Cluster.WaitsFor, Cluster.IsOpen, Cluster.Pending, Cluster.AnsweredBy, Cluster.Heeds,
  Cluster.WaitsFor.of_moveGroup, Cluster.askedBy_moveGroup, Cluster.follow_eq, Cluster.heeds_poll
-/
import PeerCache.Proofs.Cluster.Lasting
import PeerCache.Proofs.Cluster.Removal

/-!
A leader of a load asks the loader or a peer, and waits for the answer (`Cluster.WaitsFor`).  The
question is open when the loader is at work for it, or when its call of a peer has not ended
(`Cluster.IsOpen`).  A move of a group answers the question of the caller that hears it, and raises
others (`WaitsFor.of_moveGroup`); to follow what was raised is to call the loader, or to send a call
(`Cluster.follow_eq`).
-/

namespace PeerCache

/-- Who called a loader. -/
def LoaderCall.waiter (load : LoaderCall) : Cluster.Waiter :=
  ⟨load.node, load.group, load.caller⟩

namespace Cluster

/-- A get stands there and waits for the answer to the question. -/
def WaitsFor (cluster : Cluster) (waiter : Waiter) (event : Group.Event Transport) : Prop :=
  ∃ entry, cluster.callerAt? waiter = some entry ∧
    entry.place.question? waiter.caller entry.key = some event

/-- Somebody is about to answer the question of a get: a loader, where these loads are under way, or
a peer that was called. -/
def IsOpen (cluster : Cluster) (loads : List LoaderCall) (waiter : Waiter) :
    Group.Event Transport → Prop
  | .calledLoader _ key => ∃ load ∈ loads, load.waiter = waiter ∧ load.key = key
  | .askedPeer _ key _ => ∃ call ∈ cluster.calls,
      call.waiter = waiter ∧ call.key = key ∧ call.purpose = .get ∧ call.stage ≠ .ended
  | _ => False

/-- These questions were raised at a node and are still to be followed. -/
def Pending (position : Nat) (events : List NodeEvent) (waiter : Waiter)
    (event : Group.Event Transport) : Prop :=
  waiter.node = position ∧ (waiter.group, event) ∈ events

/-- The question is answered by a move of a group. -/
def AnsweredBy (position group : Nat) (move : Group.Move) (waiter : Waiter)
    (event : Group.Event Transport) : Prop :=
  waiter.node = position ∧ waiter.group = group ∧ move.Answers event

/-- Who raised these questions stands there. -/
def AskedBy (cluster : Cluster) (position : Nat) (events : List NodeEvent) : Prop :=
  ∀ event ∈ events, ∀ key, event.2.IsQuestion key →
    cluster.Reads key ⟨position, event.1, event.2.caller⟩

/-- A caller that waits for a load waits for one that has not ended. -/
def Heeds (cluster : Cluster) (waiter : Waiter) : Prop :=
  ∀ group, cluster.groupAt? waiter.node waiter.group = some group → group.Heeds waiter.caller

variable {cluster other : Cluster} {now : Instant} {position group : Nat} {move : Group.Move}
  {loads after : List LoaderCall} {waiter : Waiter} {key : String}
  {event : Group.Event Transport} {events : List NodeEvent}

/-! ## Questions and calls -/

/-- What the step of a group raises is raised by the move of the group. -/
theorem mem_moveGroup_of_step {node : Node} (here : cluster.nodes[position]? = some node)
    {before : Group Transport} (found : cluster.groupAt? position group = some before)
    {event : Group.Event Transport}
    (member : event ∈ (before.step (node.surroundings now) move).2) :
    (group, event) ∈ (cluster.moveGroup now position group move).2 := by
  have inNode : node.groups[group]? = some before := by simpa [groupAt?, here] using found
  rw [moveGroup_eq here, Node.step, inNode]
  exact List.mem_map_of_mem member

/-- Who waits is there, and the question is its own. -/
theorem WaitsFor.exists_node (waits : cluster.WaitsFor waiter event) :
    ∃ node, cluster.nodes[waiter.node]? = some node := by
  obtain ⟨entry, at_, -⟩ := waits
  obtain ⟨node, -, here, -⟩ := exists_of_callerAt? at_
  exact ⟨node, here⟩

theorem WaitsFor.cases (waits : cluster.WaitsFor waiter event) :
    (∃ key, event = .calledLoader waiter.caller key) ∨
      ∃ key peer, event = .askedPeer waiter.caller key peer := by
  obtain ⟨⟨context, key, place⟩, -, asks⟩ := waits
  cases place with
  | askingPeer call peer => exact Or.inr ⟨key, peer, (Option.some.inj asks).symm⟩
  | loading call => exact Or.inl ⟨key, (Option.some.inj asks).symm⟩
  | _ => cases asks

/-- What is open stays so if calls and loads only come to those that there are. -/
theorem IsOpen.mono (isOpen : cluster.IsOpen loads waiter event)
    (called : ∀ call ∈ cluster.calls, call ∈ other.calls) (asked : ∀ load ∈ loads, load ∈ after) :
    other.IsOpen after waiter event := by
  cases event with
  | calledLoader =>
      obtain ⟨load, member, isLoad⟩ := isOpen
      exact ⟨load, asked load member, isLoad⟩
  | askedPeer =>
      obtain ⟨call, member, isCall⟩ := isOpen
      exact ⟨call, called call member, isCall⟩
  | askedOwner | broadcast => exact isOpen.elim

theorem exists_mem_loaderCalls {node : Node} (here : cluster.nodes[position]? = some node)
    {caller : Nat} (member : (group, .calledLoader caller key) ∈ events) :
    ∃ load ∈ cluster.loaderCalls position events,
      load.waiter = ⟨position, group, caller⟩ ∧ load.key = key := by
  refine ⟨⟨position, group, caller, key, contextOf node group caller⟩, ?_, rfl, rfl⟩
  exact List.mem_filterMap.mpr ⟨_, member, by simp only [here]⟩

/-- A call was sent, or there is nobody to send one, or it cannot be sent. -/
theorem calls_of_send {caller : Nat} {purpose : CallPurpose} {transport : Transport}
    {failure : Option CacheError}
    (result : cluster.send position group caller purpose key transport = (other, failure)) :
    (other.calls = cluster.calls ∧ (failure = none → cluster.nodes[position]? = none)) ∨
      failure = none ∧ ∃ name outgoing, other.calls = cluster.calls ++
        [⟨position, group, caller, name, key, purpose, outgoing, .travelling⟩] := by
  unfold send at result
  cases here : cluster.nodes[position]? with
  | none =>
      simp only [here, Prod.mk.injEq] at result
      exact Or.inl ⟨congrArg Cluster.calls result.1.symm, fun _ => rfl⟩
  | some node =>
      simp only [here] at result
      split at result
      case h_1 =>
          cases result
          exact Or.inl ⟨rfl, fun sent => by cases sent⟩
      case h_2 =>
          cases result
          exact Or.inr ⟨rfl, _, _, rfl⟩

/-- A call of a get is for a question. -/
theorem eq_askedPeer_of_callFor? {caller : Nat} {transport : Transport}
    (isCall : callFor? event = some (caller, .get, key, transport)) :
    event = .askedPeer caller key transport := by
  cases event <;> cases isCall
  rfl

/-! ## What moves raise -/

/-- What a move raises is raised in a step of its group. -/
theorem exists_of_mem_moveGroup {raised : NodeEvent}
    (member : raised ∈ (cluster.moveGroup now position group move).2) :
    ∃ (near : Surroundings Transport) (before : Group Transport),
      raised.2 ∈ (before.step near move).2 := by
  cases here : cluster.nodes[position]? with
  | none =>
      rw [moveGroup, here] at member
      cases member
  | some node =>
      obtain ⟨-, before, -, inStep⟩ := mem_moveGroup here member
      exact ⟨_, before, inStep⟩

theorem actInGroup_poll (cluster : Cluster) (now : Instant) (position group caller : Nat) :
    cluster.actInGroup now position group (.poll caller) =
      ((cluster.moveGroup now position group (.poll caller)).1, []) := by
  have nothing : (cluster.moveGroup now position group (.poll caller)).2 = [] := by
    apply List.eq_nil_iff_forall_not_mem.mpr
    intro raised member
    obtain ⟨_, _, inStep⟩ := exists_of_mem_moveGroup member
    rw [Group.events_poll] at inStep
    cases inStep
  rw [actInGroup_eq, moveGroups_one, nothing]
  rfl

/-- A caller whose call has failed asks for nothing but the loader. -/
theorem eq_calledLoader_of_failureOf {near : Surroundings Transport} {before : Group Transport}
    {caller : Nat} {error : CacheError} {purpose : CallPurpose}
    (raised : event ∈ (before.step near (failureOf caller error purpose)).2) :
    purpose = .get ∧ ∃ key, event = .calledLoader caller key := by
  have transition := Group.step_transition near before (failureOf caller error purpose)
  generalize (before.step near (failureOf caller error purpose)).1 = after at transition
  generalize (before.step near (failureOf caller error purpose)).2 = raises at transition raised
  cases purpose with
  | get =>
      cases transition with
      | peerFailed => exact ⟨rfl, _, List.mem_singleton.mp raised⟩
      | idle => cases raised
  | removeAtOwner =>
      cases transition with
      | ownerFailed | idle => cases raised
  | broadcast number =>
      cases transition with
      | peerRemoved | idle => cases raised

theorem mem_events_failureOf {caller : Nat} {error : CacheError} {purpose : CallPurpose}
    {raised : NodeEvent}
    (member : raised ∈ (cluster.moveGroup now position group (failureOf caller error purpose)).2) :
    purpose = .get ∧ ∃ key, raised.2 = .calledLoader caller key := by
  obtain ⟨_, _, inStep⟩ := exists_of_mem_moveGroup member
  exact eq_calledLoader_of_failureOf inStep

theorem events_failureOf (cluster : Cluster) (now : Instant) (position group caller : Nat)
    (error : CacheError) {purpose : CallPurpose} (other : purpose ≠ .get) :
    (cluster.moveGroup now position group (failureOf caller error purpose)).2 = [] := by
  apply List.eq_nil_iff_forall_not_mem.mpr
  intro raised member
  exact other (mem_events_failureOf member).1

/-! ## What follows -/

/-- To follow an event is to call the loader, or to send the call that it asks for; the caller of
one that cannot be sent hears of a failure. -/
theorem follow_eq (now : Instant) (position : Nat) (cluster : Cluster) (group : Nat)
    (event : Group.Event Transport) :
    follow now position cluster (group, event) =
      match callFor? event with
      | none => (cluster, cluster.loaderCalls position [(group, event)])
      | some (caller, purpose, key, transport) =>
          match cluster.send position group caller purpose key transport with
          | (sent, none) => (sent, [])
          | (unsent, some error) =>
              let told := unsent.moveGroup now position group (failureOf caller error purpose)
              (told.1, told.1.loaderCalls position told.2) := by
  cases event with
  | calledLoader caller key => rfl
  | askedPeer caller key peer =>
      simp only [follow, callFor?]
      cases cluster.send position group caller .get key peer with
      | mk after failure => cases failure <;> rfl
  | askedOwner caller key owner =>
      simp only [follow, callFor?]
      cases cluster.send position group caller .removeAtOwner key owner with
      | mk after failure =>
          cases failure with
          | none => rfl
          | some error =>
              have nothing := events_failureOf after now position group caller error
                fun same : CallPurpose.removeAtOwner = .get => by cases same
              simp only [nothing]
              rfl
  | broadcast caller key number peer =>
      simp only [follow, callFor?]
      cases cluster.send position group caller (.broadcast number) key peer with
      | mk after failure =>
          cases failure with
          | none => rfl
          | some error =>
              have nothing := events_failureOf after now position group caller error
                fun same : CallPurpose.broadcast number = .get => by cases same
              simp only [nothing]
              rfl

theorem eq_calledLoader_of_callFor? (isCall : callFor? event = none) :
    ∃ caller key, event = .calledLoader caller key := by
  cases event with
  | calledLoader caller key => exact ⟨caller, key, rfl⟩
  | askedPeer | askedOwner | broadcast => cases isCall

theorem caller?_resultOf (call : RemoteCall) (delivery : Delivery) (buffers : BufferPool) :
    (resultOf call delivery buffers).1.caller? = some call.caller := by
  cases isFor : call.purpose <;> simp only [resultOf, isFor, Group.Move.caller?]

theorem isWhole_resultOf (call : RemoteCall) (delivery : Delivery) (buffers : BufferPool) :
    (resultOf call delivery buffers).1.isWhole = true := by
  cases isFor : call.purpose <;> simp only [resultOf, isFor, Group.Move.isWhole]

theorem isWhole_failureOf (caller : Nat) (error : CacheError) (purpose : CallPurpose) :
    (failureOf caller error purpose).isWhole = true := by
  cases purpose <;> rfl

theorem calls_moveGroup (cluster : Cluster) (now : Instant) (position group : Nat)
    (move : Group.Move) : (cluster.moveGroup now position group move).1.calls = cluster.calls := by
  unfold moveGroup
  split <;> rfl

/-! ## Before and after a move -/

/-- Who is polled heeds how the load stands that it waits for, and so does who did before. -/
theorem heeds_poll (cluster : Cluster) (now : Instant) (position group polled : Nat)
    (before : waiter = ⟨position, group, polled⟩ ∨ cluster.Heeds waiter) :
    (cluster.actInGroup now position group (.poll polled)).1.Heeds waiter := by
  rw [actInGroup_poll]
  intro after found
  cases here : cluster.nodes[position]? with
  | none =>
      simp only [moveGroup, here] at found
      rcases before with rfl | heeds
      · simp [groupAt?, here] at found
      · exact heeds after found
  | some node =>
      rw [groupAt?_moveGroup here] at found
      split at found
      case isFalse apart =>
          rcases before with rfl | heeds
          · exact absurd ⟨rfl, rfl⟩ apart
          · exact heeds after found
      case isTrue =>
          obtain ⟨first, there, rfl⟩ := Option.map_eq_some_iff.mp found
          apply Group.poll_heeds
          exact before.imp (fun same => (congrArg Waiter.caller same).symm) fun heeds =>
            heeds first there

/-- Who waits when a group has moved has just asked, or has waited before and has not been
answered. -/
theorem WaitsFor.of_moveGroup
    (waits : (cluster.moveGroup now position group move).1.WaitsFor waiter event) :
    Pending position (cluster.moveGroup now position group move).2 waiter event ∨
      cluster.WaitsFor waiter event ∧ ¬ AnsweredBy position group move waiter event := by
  cases here : cluster.nodes[position]? with
  | none =>
      have still : (cluster.moveGroup now position group move).1 = cluster := by
        rw [moveGroup, here]
      rw [still] at waits
      refine Or.inr ⟨waits, fun answered => ?_⟩
      obtain ⟨node, there⟩ := waits.exists_node
      rw [answered.1, here] at there
      cases there
  | some node =>
      obtain ⟨entry, at_, asks⟩ := waits
      rw [callerAt?_moveGroup here] at at_
      split at at_
      case isTrue same =>
          obtain ⟨isNode, isGroup⟩ := same
          obtain ⟨before, found, inGroup⟩ := Option.bind_eq_some_iff.mp at_
          rcases Group.step_question _ move inGroup asks with raised | ⟨old, unanswered⟩
          · rw [isNode, isGroup] at found
            exact Or.inl ⟨isNode, isGroup ▸ mem_moveGroup_of_step here found raised⟩
          · have was : cluster.callerAt? waiter = some entry := by
              rw [callerAt?, found, Option.bind_some, old]
            exact Or.inr ⟨⟨entry, was, asks⟩, fun answered => unanswered answered.2.2⟩
      case isFalse apart =>
          exact Or.inr ⟨⟨entry, at_, asks⟩, fun answered => apart ⟨answered.1, answered.2.1⟩⟩

/-- Who raises a question when a group moves stands there. -/
theorem askedBy_moveGroup (cluster : Cluster) (now : Instant) (position group : Nat)
    (move : Group.Move) :
    (cluster.moveGroup now position group move).1.AskedBy position
      (cluster.moveGroup now position group move).2 := by
  intro event member name isQuestion
  cases here : cluster.nodes[position]? with
  | none =>
      rw [moveGroup, here] at member
      cases member
  | some node =>
      obtain ⟨rfl, before, found, raised⟩ := mem_moveGroup here member
      obtain ⟨entry, there, isKey, asks⟩ := Group.step_raised _ move raised isQuestion
      refine ⟨entry, ?_, isKey, Place.isOfGet_of_question? asks⟩
      rw [callerAt?_moveGroup here, if_pos ⟨rfl, rfl⟩, found, Option.bind_some, there]

end Cluster

end PeerCache
