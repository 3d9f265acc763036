/-
Module: PeerCache.Proofs.Cluster.RemovalRuns
Purpose: That a removal goes on as it should in everything that happens in its cluster.
Main exports:
  Cluster.Genuine, Cluster.Undisturbed, Cluster.IsPartOf, Cluster.OthersSpare, Removal.ArrivesAt,
  Removal.Underway.step, Removal.Underway.run, Removal.Underway.clear, Removal.Underway.kept?_run
-/
import PeerCache.Proofs.Cluster.Removal

/-!
A removal that is under way (`Removal.Underway`) stays so in everything that happens in its cluster
(`Underway.step`), and so in a run: a request arrives where it was sent and takes the key from the
store there, and an answer comes back only after that.  When the removal has succeeded, everybody
whom it has asked has answered, and so the key is gone everywhere (`Underway.clear`).

On its way the removal changes no other entry of any store (`Underway.kept?_part`).
-/

namespace PeerCache

namespace Cluster

/-- What removals hear of peers comes over their calls, and an answer comes to a request that has
arrived.  So nobody hears of a panic: to call another node is to succeed or to fail. -/
def Genuine (cluster : Cluster) : Move → Prop
  | .inGroup _ _ (.ownerReplied _ _) => False
  | .inGroup _ _ (.broadcastEnded _ _ _) => False
  | .resolve index (.answered _ _ _) =>
      ∀ call, cluster.calls[index]? = some call → call.stage ≠ .travelling
  | _ => True

/-- In a run nobody runs the loader for the key of the group, peers are not replaced, and removals
hear only of what has happened. -/
def Undisturbed (cluster : Cluster) (name key : String) : List (Instant × Move) → Prop
  | [] => True
  | (now, move) :: rest =>
      move.replacesPeers = false ∧ (∀ loader, ¬ cluster.Loads name key loader) ∧
        cluster.Genuine move ∧ (cluster.step now move).1.Undisturbed name key rest

/-- The move is part of what a caller does: the caller is polled, or one of its calls goes on. -/
def IsPartOf (cluster : Cluster) (caller : Waiter) : Move → Prop
  | .inGroup position group (.poll index) => (⟨position, group, index⟩ : Waiter) = caller
  | .arrive index => ∃ call, cluster.calls[index]? = some call ∧ call.waiter = caller
  | .reply index => ∃ call, cluster.calls[index]? = some call ∧ call.waiter = caller
  | .resolve index _ => ∃ call, cluster.calls[index]? = some call ∧ call.waiter = caller
  | _ => False

/-- In a run all that is no part of what the caller does leaves an entry of a store alone. -/
def OthersSpare (cluster : Cluster) (caller : Waiter) (position index : Nat) (key : String) :
    List (Instant × Move) → Prop
  | [] => True
  | (now, move) :: rest =>
      (¬ cluster.IsPartOf caller move →
        (cluster.step now move).1.kept? position index key = cluster.kept? position index key) ∧
      (cluster.step now move).1.OthersSpare caller position index key rest

end Cluster

namespace Removal

open Cluster

variable {removal : Removal} {start cluster : Cluster} {purpose : CallPurpose}

/-! ### Calls -/

/-- A removal has one peer for each purpose. -/
theorem Sound.asks_unique (sound : removal.Sound start) {one two : Transport}
    (first : removal.Asks purpose one) (second : removal.Asks purpose two) : one = two := by
  cases purpose with
  | get => exact first.elim
  | removeAtOwner => exact Option.some.inj (first.symm.trans second)
  | broadcast number =>
      obtain ⟨node, -, -, tells⟩ := sound.home
      have entry (peer : Transport) (asks : removal.Asks (.broadcast number) peer) :
          (peer, number) ∈ Group.broadcastTo (node.surroundings .epoch) removal.owner := by
        rw [tells]
        exact asks
      have at_ := List.mk_mem_zipIdx_iff_getElem?.mp (entry one first)
      have also := List.mk_mem_zipIdx_iff_getElem?.mp (entry two second)
      exact Option.some.inj (at_.symm.trans also)

/-- The node at which a request of the removal arrives: it is the only one that the removal asks
for this purpose, and the request names the key of the group there. -/
structure ArrivesAt (removal : Removal) (cluster : Cluster) (call : RemoteCall) (position : Nat)
    (node : Node) : Prop where
  here : cluster.nodes[position]? = some node
  address : cluster.nodeAt? call.outgoing.url.authority = some position
  isDelete : (arriving call.outgoing).method = PeerMethod.delete.text
  resolves : node.ResolvesTo (arriving call.outgoing).target.path removal.name removal.key
  only : ∀ peer, removal.Asks call.purpose peer → ∀ (place : Nat) (server : Node),
    cluster.nodes[place]? = some server →
    PeerPool.reach removal.options server.pool.selfUrl = peer → place = position

theorem Underway.exists_arrivesAt (sound : removal.Sound start)
    (underway : removal.Underway start cluster) {call : RemoteCall} (member : call ∈ cluster.calls)
    (mine : call.waiter = removal.leader) :
    ∃ position node, removal.ArrivesAt cluster call position node := by
  obtain ⟨peer, context, asks, prepared, -⟩ := underway.accounts call member mine
  have delivers := sound.delivers.of_fixtures underway.fixed
  obtain ⟨first, inStart, reaches⟩ := sound.asked call.purpose peer asks
  obtain ⟨position, there⟩ := List.getElem?_of_mem inStart
  obtain ⟨node, here, same⟩ := exists_of_fixtures underway.fixed.symm there
  obtain ⟨address, resolves⟩ := delivers position node context call.outgoing here
    (by rw [Node.pool_of_fixtures same, reaches, prepared])
  obtain ⟨-, -, isMethod, -⟩ := Transport.requestUrl_of_prepare prepared
  refine ⟨position, node, here, address, congrArg PeerMethod.text isMethod, resolves, ?_⟩
  intro other asksOther place server at_ reachesOther
  rw [sound.asks_unique asksOther asks] at reachesOther
  have also := (delivers place server context call.outgoing at_ (by rw [reachesOther, prepared])).1
  exact Option.some.inj (also.symm.trans address)

/-- When a request of the removal has arrived, the key is gone where it was sent for. -/
theorem Underway.done_receive (sound : removal.Sound start)
    (underway : removal.Underway start cluster) (now : Instant) {call : RemoteCall}
    (member : call ∈ cluster.calls) (mine : call.waiter = removal.leader) {position : Nat}
    (address : cluster.nodeAt? call.outgoing.url.authority = some position) :
    removal.Done (cluster.receive now position (arriving call.outgoing)).1 call.purpose := by
  obtain ⟨arrived, node, arrives⟩ := underway.exists_arrivesAt sound member mine
  obtain rfl := Option.some.inj (address.symm.trans arrives.address)
  have clear := clear_receive arrives.here arrives.isDelete arrives.resolves now
  intro peer asks place server there reaches
  obtain ⟨before, at_, same⟩ := exists_of_fixtures (fixtures_receive ..) there
  rw [← Node.pool_of_fixtures same] at reaches
  obtain rfl := arrives.only peer asks place before at_ reaches
  exact clear

/-- A call that is being served has done its work. -/
theorem Underway.done_of_serving (underway : removal.Underway start cluster) {call : RemoteCall}
    (member : call ∈ cluster.calls) (mine : call.waiter = removal.leader) {delivery : Delivery}
    (served : cluster.servedDelivery? call.stage = some delivery) :
    removal.Done cluster call.purpose := by
  obtain ⟨_, _, _, _, done⟩ := underway.accounts call member mine
  cases stands : call.stage with
  | serving node handling => exact done node handling stands
  | travelling | ended => rw [stands] at served; cases served

/-- What a call comes to tells the removal that a peer has removed the key only if there was an
answer. -/
theorem allows_resultOf {call : RemoteCall} {delivery : Delivery} (buffers : BufferPool)
    (answered : call.waiter = removal.leader →
      (∃ status received isWhole, delivery = .answered status received isWhole) →
      removal.Done cluster call.purpose) :
    removal.Allows cluster call.node call.group (resultOf call delivery buffers).1 := by
  have answers : (Transport.receiveRemoval call.groupName call.key call.outgoing.url.text delivery
      buffers).1 = .ok () →
      ∃ status received isWhole, delivery = .answered status received isWhole := by
    intro succeeds
    cases delivery with
    | answered status received isWhole => exact ⟨status, received, isWhole, rfl⟩
    | unreachable | timedOut => cases succeeds
  have isMine (same : call.node = removal.leader.node ∧ call.group = removal.leader.group)
      (caller : call.caller = removal.leader.caller) : call.waiter = removal.leader := by
    rw [RemoteCall.waiter, same.1, same.2, caller]
  cases isFor : call.purpose with
  | get =>
      simp only [resultOf, isFor]
      apply allows_of_unheard
      all_goals
        intros
        intro told
        cases told
  | removeAtOwner =>
      simp only [resultOf, isFor]
      generalize (Transport.receiveRemoval _ _ _ _ _).1 = result at answers ⊢
      refine ⟨?_, ?_, ?_⟩
      · intro _ _ _ _ told
        cases told
      · intro here told
        injection told with caller returned
        injection returned with succeeds
        exact isFor ▸ answered (isMine here caller) (answers succeeds)
      · intro _ _ _ told
        cases told
  | broadcast number =>
      simp only [resultOf, isFor]
      generalize (Transport.receiveRemoval _ _ _ _ _).1 = result at answers ⊢
      refine ⟨?_, ?_, ?_⟩
      · intro _ _ _ _ told
        cases told
      · intro _ told
        cases told
      · intro here other reply told unfailed
        injection told with caller isNumber returned
        subst isNumber returned
        cases result with
        | ok => exact isFor ▸ answered (isMine here caller) (answers rfl)
        | error error => cases unfailed

/-- A call of the removal may be served when the key is gone where it was sent for. -/
theorem Underway.atStage (underway : removal.Underway start cluster) {index : Nat}
    {stage : CallStage} (served : ∀ call, cluster.calls[index]? = some call →
      call.waiter = removal.leader → ∀ position handling, stage = .serving position handling →
      removal.Done cluster call.purpose) :
    removal.Underway start (cluster.atStage index stage) := by
  have alike : Alike cluster (cluster.atStage index stage) := ⟨fun _ => rfl, fun _ _ => rfl⟩
  apply underway.alike (by rfl) alike
  intro after member
  rcases mem_calls_atStage member with old | ⟨call, there, rfl⟩
  · exact Or.inl old
  · right
    intro mine
    obtain ⟨peer, context, asks, prepared, -⟩ :=
      underway.accounts call (List.mem_of_getElem? there) mine
    refine ⟨peer, context, asks, prepared, fun position handling serving => ?_⟩
    exact (served call there mine position handling serving).stays
      (staysClear_of_alike (by rfl) alike)

/-- A call comes to a result: if that is an answer, the key is gone where it was asked for. -/
theorem Underway.conclude (sound : removal.Sound start)
    (underway : removal.Underway start cluster) (now : Instant) (index : Nat) {call : RemoteCall}
    {delivery : Delivery}
    (answered : ∀ status received isWhole, delivery = .answered status received isWhole →
      call.waiter = removal.leader → removal.Done cluster call.purpose) :
    removal.Underway start (cluster.conclude now index call delivery).1 := by
  cases here : cluster.nodes[call.node]? with
  | none => simpa only [Cluster.conclude, here] using underway
  | some node =>
      rw [conclude_eq index call delivery here]
      have fixed := fixtures_ending here index (resultOf call delivery node.buffers).2
      have alike := alike_ending here index (resultOf call delivery node.buffers).2
      have there : (cluster.atStage index .ended).nodes[call.node]? = some node := here
      have ended : removal.Underway start (cluster.atStage index .ended) := by
        apply underway.atStage
        intro _ _ _ _ _ serving
        cases serving
      have ending : removal.Underway start
          (cluster.ending index call node (resultOf call delivery node.buffers).2) :=
        ended.alike (fixtures_setNode there rfl) (alike_setNode there rfl rfl rfl)
          fun _ member => Or.inl member
      have stays : StaysClear cluster _ removal.name removal.key := staysClear_of_alike fixed alike
      apply ending.actInGroup sound now
      apply allows_resultOf
      rintro mine ⟨status, received, isWhole, rfl⟩
      exact (answered status received isWhole rfl mine).stays stays

/-- A request that arrives takes the key from the store there, if it is one of the removal; from
then on its call is being served. -/
theorem Underway.step_arrive (sound : removal.Sound start)
    (underway : removal.Underway start cluster) (now : Instant) (index : Nat) :
    removal.Underway start (cluster.step now (.arrive index)).1 := by
  simp only [Cluster.step]
  cases found : cluster.calls[index]? with
  | none => exact underway
  | some call =>
      dsimp only
      cases travels : call.stage with
      | ended => exact underway
      | serving node handling => exact underway
      | travelling =>
          cases address : cluster.nodeAt? call.outgoing.url.authority with
          | none => exact underway
          | some position =>
              have received := underway.receive sound now position (arriving call.outgoing)
              have still := calls_receive found now position (arriving call.outgoing)
              have done (mine : call.waiter = removal.leader) :=
                underway.done_receive sound now (List.mem_of_getElem? found) mine address
              dsimp only
              split
              case h_2 after more result =>
                  rw [result] at received
                  exact received
              case h_1 after handling more result =>
                  rw [result] at received still done
                  dsimp only at received still done
                  apply received.atStage
                  intro other there mine _ _ _
                  obtain rfl := Option.some.inj (still.symm.trans there)
                  exact done mine

/-- What happens in a cluster leaves the removal under way, as long as nobody runs the loader for
its key. -/
theorem Underway.step (sound : removal.Sound start) (underway : removal.Underway start cluster)
    (now : Instant) {move : Cluster.Move} (stays : move.replacesPeers = false)
    (quiet : ∀ loader, ¬ cluster.Loads removal.name removal.key loader)
    (genuine : cluster.Genuine move) : removal.Underway start (cluster.step now move).1 := by
  cases move with
  | set position peers => cases stays
  | inGroup position group move =>
      apply underway.actInGroup sound now
      refine ⟨fun loader loads => absurd loads (quiet loader), ?_, ?_⟩
      · rintro - rfl
        exact genuine.elim
      · rintro - number reply rfl
        exact genuine.elim
  | request position request => exact underway.receive sound now position request
  | arrive index => exact underway.step_arrive sound now index
  | reply index =>
      simp only [Cluster.step]
      cases found : cluster.calls[index]? with
      | none => exact underway
      | some call =>
          dsimp only
          cases served : cluster.servedDelivery? call.stage with
          | none => exact underway
          | some delivery =>
              apply underway.conclude sound now index
              intro _ _ _ _ mine
              exact underway.done_of_serving (List.mem_of_getElem? found) mine served
  | resolve index delivery =>
      simp only [Cluster.step]
      cases found : cluster.calls[index]? with
      | none => exact underway
      | some call =>
          have member := List.mem_of_getElem? found
          dsimp only
          cases stands : call.stage with
          | ended => exact underway
          | travelling =>
              apply underway.conclude sound now index
              rintro _ _ _ rfl -
              exact absurd stands (genuine call found)
          | serving node handling =>
              apply underway.conclude sound now index
              intro _ _ _ _ mine
              obtain ⟨_, _, _, _, done⟩ := underway.accounts call member mine
              exact done node handling stands

theorem Underway.run (sound : removal.Sound start) (underway : removal.Underway start cluster)
    {moves : List (Instant × Cluster.Move)}
    (undisturbed : cluster.Undisturbed removal.name removal.key moves) :
    removal.Underway start (cluster.run moves).1 := by
  induction moves generalizing cluster with
  | nil => exact underway
  | cons timed rest hyp =>
      obtain ⟨now, move⟩ := timed
      obtain ⟨stays, quiet, genuine, later⟩ := undisturbed
      exact hyp (underway.step sound now stays quiet genuine) later

/-- When the removal has succeeded, the key is gone everywhere. -/
theorem Underway.clear (sound : removal.Sound start) (underway : removal.Underway start cluster)
    (succeeded : (cluster.callerAt? removal.leader).map GroupCaller.place =
      some (.removed (.ok ()))) (position : Nat) :
    cluster.Clear removal.name removal.key position := by
  obtain ⟨group, context, place, found, -, at_, stands⟩ := underway.stands
  rw [callerAt?, found, Option.bind_some, at_] at succeeded
  obtain rfl : place = .removed (.ok ()) := Option.some.inj succeeded
  intro node index here named
  obtain ⟨first, there, same⟩ := exists_of_fixtures underway.fixed here
  obtain ⟨purpose, asks⟩ := sound.everybody first (List.mem_of_getElem? there)
  have gone := stands purpose _ asks position node here (by rw [Node.pool_of_fixtures same])
  exact gone node index here named

/-! ### What the removal leaves alone -/

theorem Underway.kept?_conclude (sound : removal.Sound start)
    (underway : removal.Underway start cluster) (now : Instant) (number : Nat)
    {call : RemoteCall} (mine : call.waiter = removal.leader) (delivery : Delivery)
    {position index : Nat} {key : String}
    (apart : ∀ node, start.nodes[position]? = some node →
      node.position? removal.name = some index → key ≠ removal.key) :
    (cluster.conclude now number call delivery).1.kept? position index key =
      cluster.kept? position index key := by
  cases here : cluster.nodes[call.node]? with
  | none => simp only [Cluster.conclude, here]
  | some node =>
      have alike := alike_ending here number (resultOf call delivery node.buffers).2
      rw [conclude_eq number call delivery here, kept?_actInGroup, kept?_moveGroup_of_apart,
        alike.kept?]
      rintro rfl rfl before near event found happens
      -- the call is one of the leader, whose group has the name at its own node
      obtain ⟨entry, context, place, at_, -, stands, -⟩ := underway.stands
      rw [alike.groups] at found
      rw [← mine] at at_ stands
      obtain rfl := Option.some.inj (found.symm.trans at_)
      obtain ⟨home, there, named, -⟩ := sound.home
      rw [← mine] at there named
      have about := Group.keyOf?_of_storeEvent? happens
      rw [keyOf?_resultOf stands] at about
      rw [← Option.some.inj about]
      exact (apart home there named).symm

theorem Underway.kept?_arrive (sound : removal.Sound start)
    (underway : removal.Underway start cluster) (now : Instant) {call : RemoteCall}
    (member : call ∈ cluster.calls) (mine : call.waiter = removal.leader) {server : Nat}
    (address : cluster.nodeAt? call.outgoing.url.authority = some server)
    {position index : Nat} {key : String}
    (apart : ∀ node, start.nodes[position]? = some node →
      node.position? removal.name = some index → key ≠ removal.key) :
    (cluster.receive now server (arriving call.outgoing)).1.kept? position index key =
      cluster.kept? position index key := by
  obtain ⟨arrived, node, arrives⟩ := underway.exists_arrivesAt sound member mine
  obtain rfl := Option.some.inj (address.symm.trans arrives.address)
  rw [kept?_receive arrives.here]
  split
  case isFalse => rfl
  case isTrue same =>
      subst same
      rw [kept?_of_node arrives.here, arrives.resolves.receive arrives.isDelete]
      cases named : node.position? removal.name with
      | none => rfl
      | some found =>
          dsimp only
          rw [Node.kept?_servePeer_delete, if_neg]
          rintro ⟨rfl, same⟩
          obtain ⟨first, there, alike⟩ := exists_of_fixtures underway.fixed arrives.here
          exact apart first there ((Node.position?_of_fixtures alike _).trans named) same

/-- What the removal does changes no entry but those for its key. -/
theorem Underway.kept?_part (sound : removal.Sound start)
    (underway : removal.Underway start cluster) (now : Instant) {move : Cluster.Move}
    (part : cluster.IsPartOf removal.leader move) {position index : Nat} {key : String}
    (apart : ∀ node, start.nodes[position]? = some node →
      node.position? removal.name = some index → key ≠ removal.key) :
    (cluster.step now move).1.kept? position index key = cluster.kept? position index key := by
  cases move with
  | set position peers => exact part.elim
  | request position request => exact part.elim
  | inGroup server group move =>
      cases move with
      | poll caller =>
          refine (kept?_actInGroup now server group (.poll caller) position index key).trans ?_
          apply kept?_moveGroup_of_apart
          intro _ _ before near event _ happens
          cases happens
      | _ => exact part.elim
  | arrive number =>
      obtain ⟨call, found, mine⟩ := part
      simp only [Cluster.step, found]
      cases call.stage with
      | ended => rfl
      | serving node handling => rfl
      | travelling =>
          cases address : cluster.nodeAt? call.outgoing.url.authority with
          | none => rfl
          | some server =>
              have same := underway.kept?_arrive sound now (List.mem_of_getElem? found) mine
                address apart
              dsimp only
              split
              case h_1 after handling more result =>
                  rw [result] at same
                  exact same
              case h_2 after more result =>
                  rw [result] at same
                  exact same
  | reply number =>
      obtain ⟨call, found, mine⟩ := part
      simp only [Cluster.step, found]
      cases cluster.servedDelivery? call.stage with
      | none => rfl
      | some delivery => exact underway.kept?_conclude sound now number mine delivery apart
  | resolve number delivery =>
      obtain ⟨call, found, mine⟩ := part
      simp only [Cluster.step, found]
      cases call.stage with
      | ended => rfl
      | travelling => exact underway.kept?_conclude sound now number mine delivery apart
      | serving node handling =>
          exact underway.kept?_conclude sound now number mine delivery apart

/-- An entry for another key that everybody else leaves alone stays as it was. -/
theorem Underway.kept?_run (sound : removal.Sound start)
    (underway : removal.Underway start cluster) {moves : List (Instant × Cluster.Move)}
    (undisturbed : cluster.Undisturbed removal.name removal.key moves)
    {position index : Nat} {key : String}
    (apart : ∀ node, start.nodes[position]? = some node →
      node.position? removal.name = some index → key ≠ removal.key)
    (spared : cluster.OthersSpare removal.leader position index key moves) :
    (cluster.run moves).1.kept? position index key = cluster.kept? position index key := by
  induction moves generalizing cluster with
  | nil => rfl
  | cons timed rest hyp =>
      obtain ⟨now, move⟩ := timed
      obtain ⟨stays, quiet, genuine, later⟩ := undisturbed
      obtain ⟨first, others⟩ := spared
      have after := hyp (underway.step sound now stays quiet genuine) later others
      refine after.trans ?_
      by_cases part : cluster.IsPartOf removal.leader move
      · exact underway.kept?_part sound now part apart
      · exact first part

end Removal

end PeerCache
