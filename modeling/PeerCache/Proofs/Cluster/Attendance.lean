/-
Module: PeerCache.Proofs.Cluster.Attendance
Purpose: That somebody is always about to answer what the gets of a cluster wait for.
Main exports:
  Cluster.Attended, Cluster.Attended.actInGroup, Cluster.Attended.receive,
  Cluster.Attended.conclude, Cluster.Attended.loaded, Cluster.Attended.exists_open
-/
import PeerCache.Proofs.Cluster.OpenQuestions
import PeerCache.Proofs.Group.Results

/-!
Every question that a get waits for is open.  In between, in the middle of what happens at once, a
question may be excused: it is just being answered, or it was raised just now and is still to be
followed (`Cluster.Attended`).  When all is done no question is excused any more, and so whoever
waits for a load waits for something that is under way (`Cluster.Attended.exists_open`).

Beside that, groups are orderly, nobody in them is at work, as gets run up to their first waits, and
they have only such results as their keys may come to (`Group.Yields`); these go along because an
answer is for the key of the get that has asked.
-/

namespace PeerCache.Cluster

/-- Every question of a get is open or excused, while these loads are under way; and whatever keys
have come to, they may come to. -/
structure Attended (may : String → Result View → Prop) (cluster : Cluster)
    (loads : List LoaderCall) (excused : Waiter → Group.Event Transport → Prop) : Prop where
  groups : ∀ position index group, cluster.groupAt? position index = some group →
    group.Orderly ∧ group.Rests ∧ group.Yields may
  questions : ∀ waiter event, cluster.WaitsFor waiter event →
    cluster.IsOpen loads waiter event ∨ excused waiter event
  loads : ∀ load ∈ loads, cluster.Reads load.key load.waiter
  calls : ∀ call ∈ cluster.calls, call.purpose = .get → cluster.Reads call.key call.waiter

/-- No question is excused. -/
def nobody (_ : Waiter) (_ : Group.Event Transport) : Prop :=
  False

variable {may : String → Result View → Prop} {cluster other : Cluster} {now : Instant}
  {position group : Nat} {move : Group.Move} {loads after : List LoaderCall}
  {excused later : Waiter → Group.Event Transport → Prop} {waiter : Waiter} {key : String}
  {event : Group.Event Transport} {events : List NodeEvent}

/-! ## What gets hear -/

/-- A failed call brings no result. -/
theorem brings_failureOf (may : Result View → Prop) (caller : Nat) (error : CacheError)
    (purpose : CallPurpose) : (failureOf caller error purpose).Brings may := by
  cases purpose <;> exact .of_none rfl rfl

/-- What a removal hears is no result for a get. -/
theorem brings_resultOf (may : Result View → Prop) {call : RemoteCall} (other : call.purpose ≠ .get)
    (delivery : Delivery) (buffers : BufferPool) :
    (resultOf call delivery buffers).1.Brings may := by
  cases isFor : call.purpose with
  | get => exact absurd isFor other
  | removeAtOwner | broadcast =>
      simp only [resultOf, isFor]
      exact .of_none rfl rfl

/-- Groups stay orderly and at rest, and come to no other results, when one of them moves. -/
theorem forall_groups_moveGroup
    (before : ∀ position index group, cluster.groupAt? position index = some group →
      group.Orderly ∧ group.Rests ∧ group.Yields may) (now : Instant)
    (whole : move.isWhole = true)
    (brings : ∀ caller entry, move.caller? = some caller →
      cluster.callerAt? ⟨position, group, caller⟩ = some entry → move.Brings (may entry.key)) :
    ∀ place index after,
      (cluster.moveGroup now position group move).1.groupAt? place index = some after →
        after.Orderly ∧ after.Rests ∧ after.Yields may := by
  intro place index after found
  cases here : cluster.nodes[position]? with
  | none =>
      rw [moveGroup, here] at found
      exact before place index after found
  | some node =>
      rw [groupAt?_moveGroup here] at found
      split at found
      case isFalse => exact before place index after found
      case isTrue same =>
          obtain ⟨rfl, rfl⟩ := same
          obtain ⟨first, there, rfl⟩ := Option.map_eq_some_iff.mp found
          obtain ⟨orderly, rests, yields⟩ := before place index first there
          refine ⟨Group.step_orderly _ move orderly, Group.step_rests _ whole rests,
            Group.step_yields _ move orderly yields ?_⟩
          intro caller entry named at_
          apply brings caller entry named
          rw [callerAt?, there, Option.bind_some, at_]

namespace Attended

/-- The same groups, seen later: questions that were open still are, or are excused. -/
theorem resume (attended : Attended may cluster loads excused) (alike : Alike cluster other)
    (questions : ∀ waiter event, cluster.WaitsFor waiter event →
      cluster.IsOpen loads waiter event ∨ excused waiter event →
      other.IsOpen after waiter event ∨ later waiter event)
    (asked : ∀ load ∈ after, cluster.Reads load.key load.waiter)
    (called : ∀ call ∈ other.calls, call.purpose = .get →
      cluster.Reads call.key call.waiter) :
    Attended may other after later where
  groups position index group found :=
    attended.groups position index group ((alike.groups position index).symm.trans found)
  questions waiter event waits := by
    rw [WaitsFor, callerAt?_of_alike alike] at waits
    exact questions waiter event waits (attended.questions waiter event waits)
  loads load member := (asked load member).alike alike
  calls call member isGet := (called call member isGet).alike alike

theorem excuse (attended : Attended may cluster loads excused)
    (allowed : ∀ waiter event, cluster.WaitsFor waiter event → excused waiter event →
      later waiter event) : Attended may cluster loads later := by
  apply attended.resume ⟨fun _ => rfl, fun _ _ => rfl⟩ _ attended.loads attended.calls
  exact fun waiter event waits before => before.imp_right (allowed waiter event waits)

/-- A group moves: what the move answers need not be excused any more, but what it raises. -/
theorem moveGroup (attended : Attended may cluster loads excused) (now : Instant)
    (position group : Nat) {move : Group.Move} (whole : move.isWhole = true)
    (brings : ∀ caller entry, move.caller? = some caller →
      cluster.callerAt? ⟨position, group, caller⟩ = some entry → move.Brings (may entry.key)) :
    Attended may (cluster.moveGroup now position group move).1 loads fun waiter event =>
      excused waiter event ∧ ¬ AnsweredBy position group move waiter event ∨
        Pending position (cluster.moveGroup now position group move).2 waiter event where
  groups := forall_groups_moveGroup attended.groups now whole brings
  questions waiter event waits := by
    have calls := calls_moveGroup cluster now position group move
    rcases waits.of_moveGroup with pending | ⟨before, unanswered⟩
    · exact Or.inr (Or.inr pending)
    · rcases attended.questions waiter event before with isOpen | excuse
      · exact Or.inl (isOpen.mono (fun _ member => calls ▸ member) fun _ member => member)
      · exact Or.inr (Or.inl ⟨excuse, unanswered⟩)
  loads load member := (attended.loads load member).moveGroup now position group move
  calls call member isGet := by
    rw [calls_moveGroup] at member
    exact (attended.calls call member isGet).moveGroup now position group move

/-- Loaders are called for the questions that are for them. -/
theorem calling (attended : Attended may cluster loads excused)
    (asked : cluster.AskedBy position events)
    (only : ∀ event ∈ events, ∃ caller key, event.2 = .calledLoader caller key)
    (covers : ∀ waiter event, cluster.WaitsFor waiter event → excused waiter event →
      later waiter event ∨ Pending position events waiter event) :
    Attended may cluster (loads ++ cluster.loaderCalls position events) later := by
  apply attended.resume ⟨fun _ => rfl, fun _ _ => rfl⟩ _ _ attended.calls
  · intro waiter event waits before
    rcases before with isOpen | excuse
    · exact Or.inl (isOpen.mono (fun _ member => member) fun _ => List.mem_append_left _)
    · rcases covers waiter event waits excuse with still | ⟨rfl, raised⟩
      · exact Or.inr still
      · obtain ⟨caller, key, isLoad⟩ := only _ raised
        obtain ⟨node, here⟩ := waits.exists_node
        obtain ⟨name, rfl⟩ | ⟨_, _, rfl⟩ := waits.cases
        · obtain ⟨load, member, isLoad⟩ := exists_mem_loaderCalls here raised
          exact Or.inl ⟨load, List.mem_append_right _ member, isLoad⟩
        · cases isLoad
  · intro load member
    rcases List.mem_append.mp member with old | new
    · exact attended.loads load old
    · obtain ⟨rfl, raised⟩ := mem_loaderCalls new
      exact asked _ raised load.key rfl

/-- The call that a question asks for has been sent. -/
theorem sent (attended : Attended may cluster loads (Pending position ((group, event) :: events)))
    (asked : cluster.AskedBy position ((group, event) :: events)) {caller : Nat}
    {purpose : CallPurpose} {transport : Transport}
    (isCall : callFor? event = some (caller, purpose, key, transport))
    (result : cluster.send position group caller purpose key transport = (other, none)) :
    Attended may other loads (Pending position events) := by
  have alike := alike_send cluster position group caller purpose key transport
  rw [result] at alike
  have calls := calls_of_send result
  apply attended.resume alike _ attended.loads
  · intro call member isGet
    rcases calls with ⟨same, -⟩ | ⟨-, name, outgoing, same⟩
    · exact attended.calls call (same ▸ member) isGet
    · rw [same] at member
      rcases List.mem_append.mp member with old | new
      · exact attended.calls call old isGet
      · obtain rfl := List.mem_singleton.mp new
        obtain rfl : purpose = .get := isGet
        obtain rfl := eq_askedPeer_of_callFor? isCall
        exact asked _ List.mem_cons_self key rfl
  · intro waiter question waits before
    rcases before with isOpen | ⟨here, raised⟩
    · refine Or.inl (isOpen.mono (fun call member => ?_) fun _ member => member)
      rcases calls with ⟨same, -⟩ | ⟨-, name, outgoing, same⟩
      · exact same ▸ member
      · exact same ▸ List.mem_append_left _ member
    · rcases List.mem_cons.mp raised with head | rest
      · obtain ⟨rfl, rfl⟩ := Prod.mk.inj head
        obtain ⟨_, rfl⟩ | ⟨name, peer, rfl⟩ := waits.cases
        · cases isCall
        · cases isCall
          rcases calls with ⟨-, nowhere⟩ | ⟨-, name, outgoing, same⟩
          · obtain ⟨node, there⟩ := waits.exists_node
            rw [here, nowhere rfl] at there
            cases there
          · refine Or.inl ⟨_, same ▸ List.mem_append_right _ (List.mem_singleton.mpr rfl), ?_,
              rfl, rfl, fun ended => by cases ended⟩
            rw [RemoteCall.waiter, ← here]
      · exact Or.inr ⟨here, rest⟩

/-- The call that a question asks for could not be sent, and the loader is called instead. -/
theorem unsent (attended : Attended may cluster loads (Pending position ((group, event) :: events)))
    {caller : Nat} {purpose : CallPurpose} {transport : Transport} {error : CacheError}
    (isCall : callFor? event = some (caller, purpose, key, transport))
    (result : cluster.send position group caller purpose key transport = (other, some error))
    (now : Instant) :
    Attended may (other.moveGroup now position group (failureOf caller error purpose)).1
      (loads ++ (other.moveGroup now position group (failureOf caller error purpose)).1.loaderCalls
        position (other.moveGroup now position group (failureOf caller error purpose)).2)
      (Pending position events) := by
  have alike := alike_send cluster position group caller purpose key transport
  rw [result] at alike
  have calls := ((calls_of_send result).resolve_right (by simp)).1
  have still : Attended may other loads (Pending position ((group, event) :: events)) := by
    apply attended.resume alike _ attended.loads (calls ▸ attended.calls)
    intro waiter question _ before
    exact before.imp_left fun isOpen =>
      isOpen.mono (fun _ member => calls ▸ member) fun _ member => member
  have moved := still.moveGroup now position group (isWhole_failureOf caller error purpose)
    fun _ entry _ _ => brings_failureOf (may entry.key) caller error purpose
  apply moved.calling (askedBy_moveGroup other now position group _)
  · intro raised member
    exact ⟨caller, (mem_events_failureOf member).2⟩
  · intro waiter question waits before
    rcases before with ⟨⟨here, raised⟩, unanswered⟩ | raised
    · rcases List.mem_cons.mp raised with head | rest
      · obtain ⟨isGroup, rfl⟩ := Prod.mk.inj head
        obtain ⟨_, rfl⟩ | ⟨name, peer, rfl⟩ := waits.cases
        · cases isCall
        · cases isCall
          exact absurd ⟨here, isGroup, rfl⟩ unanswered
      · exact Or.inl ⟨here, rest⟩
    · exact Or.inr raised

/-- A question is followed: its call is under way, or it could not be sent, and then the loader is
called. -/
theorem follow (attended : Attended may cluster loads (Pending position ((group, event) :: events)))
    (asked : cluster.AskedBy position ((group, event) :: events)) (now : Instant) :
    Attended may (follow now position cluster (group, event)).1
      (loads ++ (follow now position cluster (group, event)).2) (Pending position events) := by
  rw [follow_eq]
  cases isCall : callFor? event with
  | none =>
      obtain ⟨caller, name, rfl⟩ := eq_calledLoader_of_callFor? isCall
      apply attended.calling
      · intro raised member
        exact asked raised (List.mem_cons.mpr (Or.inl (List.mem_singleton.mp member)))
      · intro raised member
        rw [List.mem_singleton.mp member]
        exact ⟨caller, name, rfl⟩
      · rintro waiter question - ⟨here, raised⟩
        rcases List.mem_cons.mp raised with head | rest
        · exact Or.inr ⟨here, List.mem_singleton.mpr head⟩
        · exact Or.inl ⟨here, rest⟩
  | some call =>
      obtain ⟨caller, purpose, key, transport⟩ := call
      dsimp only
      cases result : cluster.send position group caller purpose key transport with
      | mk after failure =>
          cases failure with
          | none =>
              rw [List.append_nil]
              exact attended.sent asked isCall result
          | some error => exact attended.unsent isCall result now

/-- Questions are followed one after another, and then none is left. -/
theorem followAll (attended : Attended may cluster loads (Pending position events))
    (asked : cluster.AskedBy position events) (now : Instant) :
    Attended may (followAll now position cluster events).1
      (loads ++ (followAll now position cluster events).2) nobody := by
  induction events generalizing cluster loads with
  | nil =>
      rw [Cluster.followAll, List.foldl_nil, List.append_nil]
      exact attended.excuse fun waiter question _ excuse => absurd excuse.2 List.not_mem_nil
  | cons event rest hyp =>
      rw [followAll_cons, ← List.append_assoc]
      apply hyp (attended.follow asked now)
      intro later member name isQuestion
      have reads := asked later (List.mem_cons_of_mem _ member) name isQuestion
      exact (lasts_reads ..).follow reads now position event

/-- A group has moved, and what it asked for is under way. -/
theorem actInGroup (attended : Attended may cluster loads excused) (now : Instant)
    (position group : Nat) {move : Group.Move} (whole : move.isWhole = true)
    (brings : ∀ caller entry, move.caller? = some caller →
      cluster.callerAt? ⟨position, group, caller⟩ = some entry → move.Brings (may entry.key))
    (answered : ∀ waiter event, excused waiter event →
      AnsweredBy position group move waiter event) :
    Attended may (cluster.actInGroup now position group move).1
      (loads ++ (cluster.actInGroup now position group move).2) nobody := by
  have still : Attended may (cluster.moveGroup now position group move).1 loads
      (Pending position (cluster.moveGroup now position group move).2) := by
    apply (attended.moveGroup now position group whole brings).excuse
    intro waiter event _ before
    exact before.resolve_left fun unanswered => unanswered.2 (answered waiter event unanswered.1)
  exact still.followAll (askedBy_moveGroup cluster now position group move) now

/-- Somebody comes: nobody else hears anything. -/
theorem moveGroups (attended : Attended may cluster loads (Pending position events))
    (asked : cluster.AskedBy position events) (now : Instant) {moves : List (Nat × Group.Move)}
    (arrive : ∀ entry ∈ moves, entry.2.caller? = none)
    (whole : ∀ entry ∈ moves, entry.2.isWhole = true) :
    Attended may (cluster.moveGroups now position moves).1 loads
        (Pending position (events ++ (cluster.moveGroups now position moves).2)) ∧
      (cluster.moveGroups now position moves).1.AskedBy position
        (events ++ (cluster.moveGroups now position moves).2) := by
  induction moves generalizing cluster events with
  | nil =>
      rw [Cluster.moveGroups, List.append_nil]
      exact ⟨attended, asked⟩
  | cons first rest hyp =>
      obtain ⟨group, move⟩ := first
      have unheard := arrive (group, move) List.mem_cons_self
      have moved := attended.moveGroup now position group (whole (group, move) List.mem_cons_self)
        fun caller entry named _ => by rw [unheard] at named; cases named
      rw [Cluster.moveGroups, ← List.append_assoc]
      apply hyp _ _ (fun entry member => arrive entry (List.mem_cons_of_mem _ member))
        fun entry member => whole entry (List.mem_cons_of_mem _ member)
      · apply moved.excuse
        rintro waiter event - (⟨⟨here, raised⟩, -⟩ | ⟨here, raised⟩)
        · exact ⟨here, List.mem_append_left _ raised⟩
        · exact ⟨here, List.mem_append_right _ raised⟩
      · intro event member name isQuestion
        rcases List.mem_append.mp member with old | new
        · exact (asked event old name isQuestion).moveGroup now position group move
        · exact askedBy_moveGroup cluster now position group move event new name isQuestion

theorem receive (attended : Attended may cluster loads nobody) (now : Instant) (position : Nat)
    (request : Http.Request) :
    Attended may (cluster.receive now position request).1
      (loads ++ (cluster.receive now position request).2.2) nobody := by
  cases here : cluster.nodes[position]? with
  | none => simpa only [Cluster.receive, here, List.append_nil] using attended
  | some node =>
      have idle : Attended may cluster loads (Pending position []) :=
        attended.excuse fun _ _ _ => False.elim
      obtain ⟨moved, asked⟩ := idle.moveGroups (fun _ member => absurd member List.not_mem_nil) now
        (node.caller?_of_requestMoves request) (node.isWhole_of_requestMoves request)
      rw [receive_eq here]
      exact moved.followAll asked now

/-- The call with which a get has asked its question has ended, and the get is about to hear of
it. -/
theorem ending (attended : Attended may cluster loads nobody) {index : Nat} {call : RemoteCall}
    (found : cluster.calls[index]? = some call) {node : Node}
    (here : cluster.nodes[call.node]? = some node) (delivery : Delivery) (buffers : BufferPool) :
    Attended may (cluster.ending index call node buffers) loads
      (AnsweredBy call.node call.group (resultOf call delivery node.buffers).1) := by
  apply attended.resume (alike_ending here index buffers) _ attended.loads
  · intro other member isGet
    rcases mem_calls_atStage member with old | ⟨before, there, rfl⟩
    · exact attended.calls other old isGet
    · exact attended.calls before (List.mem_of_getElem? there) isGet
  · intro waiter event waits before
    have isOpen := before.resolve_right id
    obtain ⟨_, rfl⟩ | ⟨name, peer, rfl⟩ := waits.cases
    · exact Or.inl isOpen
    · obtain ⟨other, member, isWaiter, isKey, isGet, still⟩ := isOpen
      obtain ⟨place, there⟩ := List.getElem?_of_mem member
      by_cases same : index = place
      · subst same
        obtain rfl := Option.some.inj (found.symm.trans there)
        rw [← isWaiter, resultOf, isGet]
        exact Or.inr ⟨rfl, rfl, rfl⟩
      · have kept : (cluster.ending index call node buffers).calls[place]? = some other :=
          (List.getElem?_modify_ne _ _ same).trans there
        exact Or.inl ⟨other, List.mem_of_getElem? kept, isWaiter, isKey, isGet, still⟩

/-- A call comes to a result, which may be one for its key. -/
theorem conclude (attended : Attended may cluster loads nobody) (now : Instant) {index : Nat}
    {call : RemoteCall} (found : cluster.calls[index]? = some call) {delivery : Delivery}
    (brings : ∀ buffers, (resultOf call delivery buffers).1.Brings (may call.key)) :
    Attended may (cluster.conclude now index call delivery).1
      (loads ++ (cluster.conclude now index call delivery).2) nobody := by
  cases here : cluster.nodes[call.node]? with
  | none => simpa only [Cluster.conclude, here, List.append_nil] using attended
  | some node =>
      rw [conclude_eq index call delivery here]
      apply (attended.ending found here delivery _).actInGroup now _ _
        (isWhole_resultOf call delivery _) _ fun _ _ answered => answered
      intro caller entry named at_
      rw [callerAt?_of_alike (alike_ending here index _)] at at_
      by_cases isGet : call.purpose = .get
      · obtain ⟨reader, there, isKey, -⟩ := attended.calls call (List.mem_of_getElem? found) isGet
        rw [caller?_resultOf] at named
        obtain rfl := Option.some.inj named
        obtain rfl := Option.some.inj (at_.symm.trans there)
        rw [isKey]
        exact brings node.buffers
      · exact brings_resultOf _ isGet delivery _

/-- A load that was under way comes back, with what may be for its key. -/
theorem loaded (attended : Attended may cluster loads nobody) {load : LoaderCall}
    (member : load ∈ loads) (now : Instant) {reply : Reply Chain View}
    (brings : (Group.Move.loaderReplied load.caller reply).Brings (may load.key)) :
    Attended may
      (cluster.actInGroup now load.node load.group (.loaderReplied load.caller reply)).1
      (loads.erase load ++
        (cluster.actInGroup now load.node load.group (.loaderReplied load.caller reply)).2)
      nobody := by
  have returning : Attended may cluster (loads.erase load)
      (AnsweredBy load.node load.group (.loaderReplied load.caller reply)) := by
    apply attended.resume ⟨fun _ => rfl, fun _ _ => rfl⟩ _ _ attended.calls
    · intro waiter event waits before
      have isOpen := before.resolve_right id
      obtain ⟨name, rfl⟩ | ⟨_, _, rfl⟩ := waits.cases
      · obtain ⟨other, isIn, isWaiter, isKey⟩ := isOpen
        by_cases same : other = load
        · subst same
          rw [← isWaiter]
          exact Or.inr ⟨rfl, rfl, rfl⟩
        · exact Or.inl ⟨other, (List.mem_erase_of_ne same).mpr isIn, isWaiter, isKey⟩
      · exact Or.inl isOpen
    · exact fun other isIn => attended.loads other (List.mem_of_mem_erase isIn)
  obtain ⟨asker, there, isKey, -⟩ := attended.loads load member
  apply returning.actInGroup now load.node load.group rfl _ fun _ _ answered => answered
  intro caller entry named at_
  cases named
  obtain rfl := Option.some.inj (at_.symm.trans there)
  rw [isKey]
  exact brings

/-- A caller is polled, and asks for nothing. -/
theorem poll (attended : Attended may cluster loads nobody) (now : Instant)
    (position group caller : Nat) :
    Attended may (cluster.actInGroup now position group (.poll caller)).1 loads nobody := by
  have polled := attended.actInGroup now position group rfl
    (fun _ entry _ _ => (.of_none rfl rfl : Group.Move.Brings (may entry.key) (.poll caller)))
    fun _ _ => False.elim
  rw [actInGroup_poll] at polled ⊢
  simpa only [List.append_nil] using polled

/-- Whoever waits for a load waits for something that is under way for the key. -/
theorem exists_open (attended : Attended may cluster loads nobody) {entry : GroupCaller Transport}
    (at_ : cluster.callerAt? waiter = some entry) (isGet : entry.place.isOfGet = true)
    (waits : entry.place.isWaiting = true)
    (heeds : cluster.Heeds waiter) :
    (∃ load ∈ loads, load.key = entry.key) ∨
      ∃ call ∈ cluster.calls, call.purpose = .get ∧ call.stage ≠ .ended ∧ call.key = entry.key := by
  obtain ⟨group, found, inGroup⟩ := Option.bind_eq_some_iff.mp at_
  obtain ⟨orderly, rests, -⟩ := attended.groups _ _ group found
  obtain ⟨asker, lead, event, there, same, asks⟩ :=
    orderly.exists_question rests inGroup (heeds group found) isGet waits
  have standing : cluster.callerAt? ⟨waiter.node, waiter.group, asker⟩ = some lead := by
    rw [callerAt?, found, Option.bind_some, there]
  have isOpen := (attended.questions _ event ⟨lead, standing, asks⟩).resolve_right id
  rw [← same]
  obtain ⟨context, key, place⟩ := lead
  cases place with
  | askingPeer call peer =>
      cases asks
      obtain ⟨call, member, -, isKey, isGet, still⟩ := isOpen
      exact Or.inr ⟨call, member, isGet, still, isKey⟩
  | loading call =>
      cases asks
      obtain ⟨load, member, -, isKey⟩ := isOpen
      exact Or.inl ⟨load, member, isKey⟩
  | _ => cases asks

end Attended

end PeerCache.Cluster
