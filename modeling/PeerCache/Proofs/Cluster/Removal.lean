/-
Module: PeerCache.Proofs.Cluster.Removal
Purpose: What is true of a removal while it is under way in a cluster.
Main exports:
  Cluster.Clear, Cluster.StaysClear, Removal, Removal.Asks, Removal.Done, Removal.Stands,
  Removal.Accounts, Removal.Underway, Removal.Sound, Removal.Underway.receive
-/
import PeerCache.Proofs.Cluster.Delivery
import PeerCache.Proofs.Cluster.SingleOwner
import PeerCache.Proofs.Cluster.Waiting
import PeerCache.Proofs.Group.RemovalFanOut

/-!
A removal asks the owner of its key first, if that is another node, and then tells all others.
What it has done so far shows in two places: in how far its leader has come (`Removal.Stands`), and
in its calls that are being served (`Removal.Accounts`).  Wherever it has been served for, the key
is gone (`Removal.Done`).

A key that is gone from a store stays away as long as nobody runs the loader for it
(`Cluster.StaysClear`).  So a step of the cluster has to be looked at in one respect only: what the
leader hears has to be true.  Then the removal is still under way (`Removal.Underway`), and asks
nobody whom it should not ask.
-/

namespace PeerCache

namespace Group

variable {P : Type}

/-- What a caller hears of a move is this move. -/
theorem eq_of_mem_heardOf {near : Surroundings P} {group : Group P} {caller : Nat}
    {move : Move} {sight : Surroundings P} {told : Move}
    (member : (sight, told) ∈ heardOf near group caller move) :
    told = move := by
  unfold heardOf at member
  split at member
  case isTrue => exact congrArg Prod.snd (List.mem_singleton.mp member)
  case isFalse => cases member

end Group

/-- Who made a call. -/
def RemoteCall.waiter (call : RemoteCall) : Cluster.Waiter :=
  ⟨call.node, call.group, call.caller⟩

namespace Cluster

variable {cluster other : Cluster} {name key : String}

/-- The group with the name at a node holds nothing for the key. -/
def Clear (cluster : Cluster) (name key : String) (position : Nat) : Prop :=
  ∀ node index, cluster.nodes[position]? = some node → node.position? name = some index →
    cluster.kept? position index key = none

/-- The nodes are what they were, and where the key was gone it still is. -/
structure StaysClear (cluster other : Cluster) (name key : String) : Prop where
  fixed : other.fixtures = cluster.fixtures
  clear : ∀ position, cluster.Clear name key position → other.Clear name key position

theorem staysClear_of_kept? (fixed : other.fixtures = cluster.fixtures)
    (same : ∀ position index, cluster.kept? position index key = none →
      other.kept? position index key = none) : StaysClear cluster other name key where
  fixed := fixed
  clear position clear node index here named := by
    obtain ⟨first, there, alike⟩ := exists_of_fixtures fixed here
    have isNamed := (Node.position?_of_fixtures alike name).trans named
    exact same position index (clear first index there isNamed)

theorem staysClear_of_alike (fixed : other.fixtures = cluster.fixtures)
    (alike : Alike cluster other) : StaysClear cluster other name key :=
  staysClear_of_kept? fixed fun position index gone => (alike.kept? position index key).trans gone

/-- A move of a group does not bring the key back, unless a loader does. -/
theorem staysClear_moveGroup {now : Instant} {position group : Nat} {move : Group.Move}
    (unloaded : ∀ loader, cluster.Loads name key loader →
      ∀ caller reply, move ≠ .loaderReplied caller reply) :
    StaysClear cluster (cluster.moveGroup now position group move).1 name key where
  fixed := fixtures_moveGroup cluster now position group move
  clear other clear after index here named := by
    obtain ⟨before, there, alike⟩ :=
      exists_of_fixtures (fixtures_moveGroup cluster now position group move) here
    have gone := clear before index there ((Node.position?_of_fixtures alike name).trans named)
    cases at_ : cluster.nodes[position]? with
    | none => simpa only [moveGroup, at_] using gone
    | some node =>
        rw [kept?_moveGroup at_]
        split
        case isFalse => exact gone
        case isTrue same =>
            obtain ⟨rfl, rfl⟩ := same
            rw [Option.bind_eq_none_iff]
            intro entry found
            have missing : entry.store.find? key = none := by simpa [kept?, found] using gone
            cases happens : entry.storeEvent? (node.surroundings now) move with
            | none => exact missing
            | some event =>
                simp only [Group.viewAfter]
                split
                case isFalse => exact missing
                case isTrue about =>
                    cases event with
                    | removed | expired => rfl
                    | loaded loaded view =>
                        obtain rfl : loaded = key := about
                        obtain ⟨caller, loader, call, rfl, standing, isKey, loading⟩ :=
                          Group.loading_of_storeEvent? happens
                        obtain rfl := Option.some.inj (at_.symm.trans there)
                        have inNode : node.groups[index]? = some entry := by
                          simpa [groupAt?, at_] using found
                        refine absurd rfl (unloaded (other, caller)
                          ⟨node, index, entry, loader, call, at_, ?_, inNode, standing, isKey,
                            loading⟩ caller _)
                        exact (Node.position?_of_fixtures alike name).trans named

/-- A node that has received the request to remove a key of a group keeps nothing for the key. -/
theorem clear_receive {position : Nat} {node : Node} {request : Http.Request}
    (here : cluster.nodes[position]? = some node)
    (isDelete : request.method = PeerMethod.delete.text)
    (resolves : node.ResolvesTo request.target.path name key) (now : Instant) :
    (cluster.receive now position request).1.Clear name key position := by
  intro after index there named
  obtain ⟨before, at_, same⟩ := exists_of_fixtures (fixtures_receive ..) there
  obtain rfl := Option.some.inj (here.symm.trans at_)
  have isNamed : node.position? name = some index :=
    (Node.position?_of_fixtures same name).trans named
  rw [kept?_receive here, if_pos rfl, resolves.receive isDelete, isNamed]
  dsimp only
  rw [Node.kept?_servePeer_delete, if_pos ⟨rfl, rfl⟩]

end Cluster

/-! ## The removal -/

/-- A removal of a key of a group: the caller that leads it, the owner of the key unless that is
the caller's own node, and the other peers, with their numbers. -/
structure Removal where
  /-- The settings with which peers are reached. -/
  options : PoolOptions
  leader : Cluster.Waiter
  name : String
  key : String
  owner : Option Transport
  told : List (Transport × Nat)

namespace Removal

open Cluster

variable {removal : Removal} {start cluster other : Cluster} {now : Instant}
  {purpose : CallPurpose}

/-- This is a peer that the removal asks for the purpose. -/
def Asks (removal : Removal) : CallPurpose → Transport → Prop
  | .get, _ => False
  | .removeAtOwner, peer => removal.owner = some peer
  | .broadcast number, peer => (peer, number) ∈ removal.told

/-- The key is gone wherever the removal asks for this purpose. -/
def Done (removal : Removal) (cluster : Cluster) (purpose : CallPurpose) : Prop :=
  ∀ peer, removal.Asks purpose peer → ∀ (position : Nat) (node : Node),
    cluster.nodes[position]? = some node →
    PeerPool.reach removal.options node.pool.selfUrl = peer →
    cluster.Clear removal.name removal.key position

/-- What is true where the leader of the removal stands: the key is gone at those who have
answered that they have removed it. -/
def Stands (removal : Removal) (cluster : Cluster) : Place Transport → Prop
  | .askingOwner _ owner => removal.owner = some owner
  | .broadcasting _ awaited failure =>
      removal.Done cluster .removeAtOwner ∧
        (failure = none → ∀ number ∉ awaited, removal.Done cluster (.broadcast number))
  | .removed (.ok _) => ∀ purpose, removal.Done cluster purpose
  | .removed (.error _) => True
  | .panicked _ => True
  | .dropped => True
  | _ => False

/-- A call of the removal is a request to somebody that it asks; when the request has arrived,
the key is gone there. -/
def Accounts (removal : Removal) (cluster : Cluster) (call : RemoteCall) : Prop :=
  call.waiter = removal.leader →
    ∃ peer context, removal.Asks call.purpose peer ∧
      peer.prepare context .delete removal.name removal.key = .ok call.outgoing ∧
      ∀ position handling, call.stage = .serving position handling →
        removal.Done cluster call.purpose

/-- The events ask for nothing but what the removal asks. -/
def AsksOnly (removal : Removal) (events : List (Group.Event Transport)) : Prop :=
  ∀ event ∈ events, ∀ caller purpose key transport,
    callFor? event = some (caller, purpose, key, transport) →
    key = removal.key ∧ removal.Asks purpose transport

/-- What an event asks for, if it is an event of the removal, the removal asks. -/
def Raises (removal : Removal) (position : Nat) (event : NodeEvent) : Prop :=
  ∀ caller purpose key transport, callFor? event.2 = some (caller, purpose, key, transport) →
    (⟨position, event.1, caller⟩ : Waiter) = removal.leader →
    key = removal.key ∧ removal.Asks purpose transport

/-- The removal has begun in a cluster that had these nodes, and goes on. -/
structure Underway (removal : Removal) (start cluster : Cluster) : Prop where
  fixed : cluster.fixtures = start.fixtures
  stands : ∃ group context place,
    cluster.groupAt? removal.leader.node removal.leader.group = some group ∧
    group.name = removal.name ∧
    group.callers[removal.leader.caller]? = some ⟨context, removal.key, place⟩ ∧
    removal.Stands cluster place
  accounts : ∀ call ∈ cluster.calls, removal.Accounts cluster call

/-- The removal is one of the node that leads it: it asks the nodes of the cluster, each of them,
and requests for the key reach them. -/
structure Sound (removal : Removal) (start : Cluster) : Prop where
  delivers : start.Delivers removal.options removal.name removal.key
  home : ∃ node, start.nodes[removal.leader.node]? = some node ∧
    node.position? removal.name = some removal.leader.group ∧
    ∀ now, Group.broadcastTo (node.surroundings now) removal.owner = removal.told
  asked : ∀ purpose peer, removal.Asks purpose peer →
    ∃ node ∈ start.nodes, PeerPool.reach removal.options node.pool.selfUrl = peer
  everybody : ∀ node ∈ start.nodes,
    ∃ purpose, removal.Asks purpose (PeerPool.reach removal.options node.pool.selfUrl)

/-- A move of a group that does not bring the key back, and tells the removal only of what has
happened. -/
structure Allows (removal : Removal) (cluster : Cluster) (position group : Nat)
    (move : Group.Move) : Prop where
  unloaded : ∀ loader, cluster.Loads removal.name removal.key loader →
    ∀ caller reply, move ≠ .loaderReplied caller reply
  agreed : position = removal.leader.node ∧ group = removal.leader.group →
    move = .ownerReplied removal.leader.caller (.returned (.ok ())) →
    removal.Done cluster .removeAtOwner
  ended : position = removal.leader.node ∧ group = removal.leader.group →
    ∀ number reply, move = .broadcastEnded removal.leader.caller number reply →
    Group.failure? reply = none → removal.Done cluster (.broadcast number)

/-! ### What lasts -/

theorem Done.stays (stays : StaysClear cluster other removal.name removal.key)
    (done : removal.Done cluster purpose) : removal.Done other purpose := by
  intro peer asks position node here reaches
  obtain ⟨first, there, same⟩ := exists_of_fixtures stays.fixed here
  rw [← Node.pool_of_fixtures same] at reaches
  exact stays.clear position (done peer asks position first there reaches)

theorem Stands.stays (stays : StaysClear cluster other removal.name removal.key)
    {place : Place Transport} (stands : removal.Stands cluster place) :
    removal.Stands other place := by
  match place, stands with
  | .askingOwner _ _, picked => exact picked
  | .broadcasting _ _ _, ⟨agreed, told⟩ =>
      exact ⟨agreed.stays stays, fun unfailed number ended =>
        (told unfailed number ended).stays stays⟩
  | .removed (.ok _), all => exact fun purpose => (all purpose).stays stays
  | .removed (.error _), _ => trivial
  | .panicked _, _ => trivial
  | .dropped, _ => trivial

theorem Accounts.stays (stays : StaysClear cluster other removal.name removal.key)
    {call : RemoteCall} (accounts : removal.Accounts cluster call) :
    removal.Accounts other call := by
  intro mine
  obtain ⟨peer, context, asks, prepared, served⟩ := accounts mine
  exact ⟨peer, context, asks, prepared, fun position handling serving =>
    (served position handling serving).stays stays⟩

/-- What changes nothing that groups see or are leaves the removal under way, if it accounts for
the calls that there are then. -/
theorem Underway.alike (underway : removal.Underway start cluster)
    (fixed : other.fixtures = cluster.fixtures) (alike : Alike cluster other)
    (accounts : ∀ call ∈ other.calls, call ∈ cluster.calls ∨ removal.Accounts other call) :
    removal.Underway start other := by
  have stays : StaysClear cluster other removal.name removal.key := staysClear_of_alike fixed alike
  obtain ⟨group, context, place, found, isName, at_, stands⟩ := underway.stands
  refine ⟨fixed.trans underway.fixed,
    ⟨group, context, place, ?_, isName, at_, stands.stays stays⟩, ?_⟩
  · rw [alike.groups, found]
  · intro call member
    exact (accounts call member).elim (fun old => (underway.accounts call old).stays stays) id

/-! ### One step of the leader -/

/-- Whoever is not among those who are told has nothing to remove. -/
theorem done_of_untold {number : Nat} (untold : number ∉ removal.told.map Prod.snd) :
    removal.Done cluster (.broadcast number) :=
  fun _ asks => absurd (List.mem_map_of_mem asks) untold

/-- The key is gone everywhere if it is gone at the owner and at all who are told. -/
theorem done_of_each (agreed : removal.Done cluster .removeAtOwner)
    (ended : ∀ number, removal.Done cluster (.broadcast number)) (purpose : CallPurpose) :
    removal.Done cluster purpose := by
  cases purpose with
  | get => exact fun _ asks => asks.elim
  | removeAtOwner => exact agreed
  | broadcast number => exact ended number

theorem asksOnly_nil : removal.AsksOnly [] :=
  fun _ member => absurd member List.not_mem_nil

/-- To tell the others is to ask whom the removal asks. -/
theorem asksOnly_announce {near : Surroundings Transport}
    (tells : Group.broadcastTo near removal.owner = removal.told) (caller : Nat) :
    removal.AsksOnly (Group.announce near removal.owner caller removal.key) := by
  intro event member caller purpose key transport asks
  obtain ⟨entry, inTold, rfl⟩ := List.mem_map.mp member
  rw [tells] at inTold
  cases asks
  exact ⟨rfl, inTold⟩

/-- However the leader goes on, it stands where it may, and asks whom the removal asks. -/
theorem Stands.goes {near : Surroundings Transport} {group after : Group Transport}
    {place next : Place Transport} {heard : List (Surroundings Transport × Group.Move)}
    {asked : List (Group.Event Transport)} (stands : removal.Stands cluster place)
    (goes :
      Group.Goes near group after removal.leader.caller removal.key place heard asked next)
    (tells : Group.broadcastTo near removal.owner = removal.told)
    (agreed : (near, .ownerReplied removal.leader.caller (.returned (.ok ()))) ∈ heard →
      removal.Done cluster .removeAtOwner)
    (ended : ∀ number reply, (near, .broadcastEnded removal.leader.caller number reply) ∈ heard →
      Group.failure? reply = none → removal.Done cluster (.broadcast number)) :
    removal.Stands cluster next ∧ removal.AsksOnly asked := by
  have announced := asksOnly_announce tells removal.leader.caller
  cases goes with
  | stays => exact ⟨stands, asksOnly_nil⟩
  | ownerRemoved call owner erased =>
      have picked : removal.owner = some owner := stands
      rw [picked] at announced tells
      refine ⟨⟨agreed (List.mem_singleton.mpr rfl), fun _ number unawaited => ?_⟩, announced⟩
      rw [tells] at unawaited
      exact done_of_untold unawaited
  | peerRemoved call awaited failure number reply expected =>
      obtain ⟨past, told⟩ := stands
      refine ⟨⟨past, ?_⟩, asksOnly_nil⟩
      intro unfailed other unawaited
      have both : failure = none ∧ Group.failure? reply = none := by
        match reply with
        | .returned (.ok _) => exact ⟨unfailed, rfl⟩
        | .returned (.error _) => cases unfailed
        | .panicked _ => exact ⟨unfailed, rfl⟩
      by_cases same : other = number
      · subst same
        exact ended other reply (List.mem_singleton.mpr rfl) both.2
      · apply told both.1 other
        intro awaits
        exact unawaited (List.mem_filter.mpr ⟨awaits, decide_eq_true same⟩)
  | endBroadcast call failure ends =>
      obtain ⟨past, told⟩ := stands
      refine ⟨?_, asksOnly_nil⟩
      cases failure with
      | some error => trivial
      | none => exact done_of_each past fun number => told rfl number List.not_mem_nil
  | dropped | ownerFailed | ownerPanicked => exact ⟨trivial, asksOnly_nil⟩
  | _ => exact stands.elim

/-- What the leader's node tells a removal that goes on from the owner to ask. -/
theorem Sound.tells (sound : removal.Sound start) (fixed : cluster.fixtures = start.fixtures)
    {node : Node} (here : cluster.nodes[removal.leader.node]? = some node) (now : Instant) :
    Group.broadcastTo (node.surroundings now) removal.owner = removal.told := by
  obtain ⟨first, there, same⟩ := exists_of_fixtures fixed here
  obtain ⟨home, at_, -, tells⟩ := sound.home
  obtain rfl := Option.some.inj (there.symm.trans at_)
  rw [← tells now, Node.surroundings, Node.surroundings, Node.pool_of_fixtures same]

/-- A move that the removal allows leaves it under way, and makes it ask nobody else. -/
theorem Underway.moveGroup (sound : removal.Sound start)
    (underway : removal.Underway start cluster) (now : Instant) {position group : Nat}
    {move : Group.Move} (allows : removal.Allows cluster position group move) :
    removal.Underway start (cluster.moveGroup now position group move).1 ∧
      ∀ event ∈ (cluster.moveGroup now position group move).2,
        removal.Raises position event := by
  cases here : cluster.nodes[position]? with
  | none =>
      simp only [Cluster.moveGroup, here]
      exact ⟨underway, fun _ member => absurd member List.not_mem_nil⟩
  | some node =>
      have stays : StaysClear cluster (cluster.moveGroup now position group move).1 removal.name
          removal.key := staysClear_moveGroup allows.unloaded
      have fixed := stays.fixed.trans underway.fixed
      have accounts : ∀ call ∈ (cluster.moveGroup now position group move).1.calls,
          removal.Accounts (cluster.moveGroup now position group move).1 call := by
        intro call member
        apply Accounts.stays stays
        rw [moveGroup_eq here] at member
        exact underway.accounts call member
      obtain ⟨entry, context, place, found, isName, at_, stands⟩ := underway.stands
      by_cases mine : position = removal.leader.node ∧ group = removal.leader.group
      case pos =>
          obtain ⟨rfl, rfl⟩ := mine
          obtain ⟨next, there, goes⟩ := Group.step_goes (node.surroundings now) move at_
          obtain ⟨standsNext, asks⟩ := stands.goes goes (sound.tells underway.fixed here now)
            (fun heard => allows.agreed ⟨rfl, rfl⟩ (Group.eq_of_mem_heardOf heard).symm)
            (fun number reply heard =>
              allows.ended ⟨rfl, rfl⟩ number reply (Group.eq_of_mem_heardOf heard).symm)
          refine ⟨⟨fixed, ⟨_, context, next, ?_, ?_, there, standsNext.stays stays⟩, accounts⟩,
            ?_⟩
          · rw [groupAt?_moveGroup here, if_pos ⟨rfl, rfl⟩, found]
            rfl
          · rw [Group.name_step, isName]
          · intro event member caller purpose key transport isCall own
            obtain ⟨-, before, foundToo, raised⟩ := mem_moveGroup here member
            obtain rfl := Option.some.inj (found.symm.trans foundToo)
            have same : caller = removal.leader.caller := congrArg Waiter.caller own
            refine asks event.2 (List.mem_filter.mpr ⟨raised, ?_⟩) caller purpose key transport
              isCall
            exact decide_eq_true ((caller_of_callFor? isCall).trans same)
      case neg =>
          refine ⟨⟨fixed, ⟨entry, context, place, ?_, isName, at_, stands.stays stays⟩,
            accounts⟩, ?_⟩
          · rw [groupAt?_moveGroup here, if_neg, found]
            exact fun same => mine ⟨same.1.symm, same.2.symm⟩
          · intro event member caller purpose key transport _ own
            obtain ⟨same, -⟩ := mem_moveGroup here member
            refine absurd ⟨congrArg Waiter.node own, ?_⟩ mine
            rw [← same]
            exact congrArg Waiter.group own

/-- A call that is sent for the removal is one that it accounts for. -/
theorem Underway.send (underway : removal.Underway start cluster) {position group caller : Nat}
    {key : String} {transport : Transport}
    (asks : (⟨position, group, caller⟩ : Waiter) = removal.leader →
      key = removal.key ∧ removal.Asks purpose transport) :
    removal.Underway start (cluster.send position group caller purpose key transport).1 := by
  obtain ⟨entry, -, -, found, isName, -⟩ := underway.stands
  apply underway.alike (fixtures_send ..) (alike_send ..)
  intro call member
  rcases mem_calls_send member with old | ⟨node, outgoing, here, prepared, rfl⟩
  · exact Or.inl old
  · right
    intro mine
    obtain ⟨rfl, asked⟩ := asks mine
    have inNode : node.groups[group]? = some entry := by
      rw [← mine] at found
      simpa [groupAt?, here, RemoteCall.waiter] using found
    have removes : purpose ≠ .get := by
      rintro rfl
      exact asked
    have sent := prepared removes
    rw [inNode, Option.map_some, Option.getD_some, isName] at sent
    refine ⟨transport, contextOf node group caller, asked, sent, ?_⟩
    intro _ _ serving
    cases serving

/-- A move that tells of no success does nothing that could be wrong. -/
theorem allows_of_unheard (removal : Removal) (cluster : Cluster) (position group : Nat)
    {move : Group.Move} (unloaded : ∀ caller reply, move ≠ .loaderReplied caller reply)
    (unagreed : ∀ caller, move ≠ .ownerReplied caller (.returned (.ok ())))
    (unended : ∀ caller number reply, move ≠ .broadcastEnded caller number reply) :
    removal.Allows cluster position group move where
  unloaded _ _ := unloaded
  agreed _ told := absurd told (unagreed _)
  ended _ number reply told := absurd told (unended _ number reply)

/-- A caller that hears of a failure learns nothing that could be wrong. -/
theorem allows_failureOf (removal : Removal) (cluster : Cluster) (position group caller : Nat)
    (error : CacheError) (purpose : CallPurpose) :
    removal.Allows cluster position group (failureOf caller error purpose) := by
  cases purpose with
  | get | removeAtOwner =>
      apply allows_of_unheard
      all_goals
        intros
        intro told
        cases told
  | broadcast number =>
      refine ⟨?_, ?_, ?_⟩
      · intro _ _ _ _ told
        cases told
      · intro _ told
        cases told
      · intro _ other reply told unfailed
        cases told
        cases unfailed

/-- Moves with which somebody comes tell nobody anything. -/
theorem allows_of_nobody (removal : Removal) (cluster : Cluster) (position group : Nat)
    {move : Group.Move} (nobody : move.caller? = none) :
    removal.Allows cluster position group move := by
  apply allows_of_unheard
  · rintro caller reply rfl
    cases nobody
  · rintro caller rfl
    cases nobody
  · rintro caller number reply rfl
    cases nobody

theorem Underway.followAll (sound : removal.Sound start)
    (underway : removal.Underway start cluster) (now : Instant) {position : Nat}
    {events : List NodeEvent} (raises : ∀ event ∈ events, removal.Raises position event) :
    removal.Underway start (followAll now position cluster events).1 := by
  apply followAll_keeps (removal.Underway start) _ _ underway
  · intro current event member caller purpose key transport isCall before
    exact before.send (raises event member caller purpose key transport isCall)
  · intro current group caller purpose error before
    exact (before.moveGroup sound now
      (allows_failureOf removal current position group caller error purpose)).1

theorem Underway.actInGroup (sound : removal.Sound start)
    (underway : removal.Underway start cluster) (now : Instant) {position group : Nat}
    {move : Group.Move} (allows : removal.Allows cluster position group move) :
    removal.Underway start (cluster.actInGroup now position group move).1 := by
  obtain ⟨moved, raises⟩ := underway.moveGroup sound now allows
  exact moved.followAll sound now raises

theorem Underway.moveGroups (sound : removal.Sound start)
    (underway : removal.Underway start cluster) (now : Instant) (position : Nat)
    {moves : List (Nat × Group.Move)} (nobody : ∀ entry ∈ moves, entry.2.caller? = none) :
    removal.Underway start (cluster.moveGroups now position moves).1 ∧
      ∀ event ∈ (cluster.moveGroups now position moves).2, removal.Raises position event := by
  induction moves generalizing cluster with
  | nil => exact ⟨underway, fun _ member => absurd member List.not_mem_nil⟩
  | cons first rest hyp =>
      obtain ⟨group, move⟩ := first
      obtain ⟨moved, raises⟩ := underway.moveGroup sound now
        (allows_of_nobody removal cluster position group (nobody _ List.mem_cons_self))
      obtain ⟨last, later⟩ := hyp moved fun entry member =>
        nobody entry (List.mem_cons_of_mem _ member)
      refine ⟨last, ?_⟩
      intro event member
      exact (List.mem_append.mp member).elim (raises event) (later event)

theorem Underway.receive (sound : removal.Sound start)
    (underway : removal.Underway start cluster) (now : Instant) (position : Nat)
    (request : Http.Request) :
    removal.Underway start (cluster.receive now position request).1 := by
  cases here : cluster.nodes[position]? with
  | none => simpa only [Cluster.receive, here] using underway
  | some node =>
      obtain ⟨moved, raises⟩ := underway.moveGroups sound now position
        (node.caller?_of_requestMoves request)
      rw [receive_eq here]
      exact moved.followAll sound now raises

end Removal

end PeerCache
