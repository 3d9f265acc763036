/-
Module: PeerCache.Proofs.Program.Serving
Purpose: That the program answers every request that reads a key, and with what.
Main exports:
  Program.Service.Reader, Program.Service.Follows, Program.Service.reads_are_answered
-/
import PeerCache.Proofs.Peer.Readings
import PeerCache.Proofs.Program.Events

/-!
A request that reads a key begins a get (`Service.Reader`).  From then on all that is handled for
its connection is this get (`Service.Follows`): the answer is what the get has come to, and as long
as there is none, what the get waits for is under way.
-/

namespace PeerCache.Program.Service

open Squares (ComesTo)

/-- A request that reads a key, and the get that runs for it. -/
structure Reader where
  connection : Nat
  key : String
  group : Nat
  caller : Nat
  errand : Errand
  headOnly : Bool

namespace Reader

/-- How the request is handled. -/
def handling (reader : Reader) : Handling :=
  .running reader.group reader.caller reader.errand reader.headOnly

/-- The get that runs for the request. -/
def waiter (reader : Reader) : Cluster.Waiter :=
  ⟨0, reader.group, reader.caller⟩

end Reader

/-- The get of the request is there.  As long as something is handled for its connection, it is this
get, which has no answer yet and heeds how the load stands that it waits for. -/
structure Follows (reader : Reader) (service : Service) : Prop where
  isRead : reader.errand.isRead = true
  reads : service.cluster.Reads reader.key reader.waiter
  waits : ∀ handling, (reader.connection, handling) ∈ service.waiting →
    handling = reader.handling ∧ service.cluster.Heeds reader.waiter ∧
      outcome? service.cluster handling = none

/-- The event is no request on the connection. -/
def Event.IsApart (connection : Nat) (event : Event) : Prop :=
  ∀ request, event ≠ .request connection request

variable {service : Service} {now : Instant} {event : Event} {told : String → View → Prop}
  {loads after : List LoaderCall} {connection : Nat} {handling : Handling}
  {outcome : Node.Outcome} {node : Node} {reader : Reader} {events : List (Instant × Event)}

/-! ## Connections -/

/-- What is handled is answered, or goes on to wait. -/
theorem answered_or_waits (member : (connection, handling) ∈ service.handled now event) :
    (∃ outcome, .answer connection outcome ∈ (service.step now event).2) ∨
      (connection, handling) ∈ (service.step now event).1.waiting := by
  cases ended : outcome? (service.settled now event) handling with
  | none => exact Or.inr (mem_waiting_step_iff.mpr ⟨member, ended⟩)
  | some outcome => exact Or.inl ⟨outcome, mem_answers_step_iff.mpr ⟨handling, member, ended⟩⟩

theorem mem_handled_of_mem_waiting (member : (connection, handling) ∈ service.waiting)
    (now : Instant) (event : Event) : (connection, handling) ∈ service.handled now event :=
  List.mem_append_left _ member

/-- An event that is no request on a connection begins nothing for it. -/
theorem mem_waiting_of_mem_handled (apart : event.IsApart connection)
    (member : (connection, handling) ∈ service.handled now event) :
    (connection, handling) ∈ service.waiting := by
  apply (List.mem_append.mp member).resolve_right
  intro begun
  cases event with
  | request other request =>
      rw [react_request] at begun
      obtain ⟨_, -, same⟩ := List.mem_map.mp begun
      cases same
      exact apart request rfl
  | loaded | delivered => cases begun

/-- Whatever waits is answered in the end, or waits still. -/
theorem answered_or_waits_run (member : (connection, handling) ∈ service.waiting)
    (events : List (Instant × Event)) :
    (∃ outcome, .answer connection outcome ∈ (service.run events).2) ∨
      (connection, handling) ∈ (service.run events).1.waiting := by
  induction events generalizing service with
  | nil => exact Or.inr member
  | cons timed rest hyp =>
      obtain ⟨now, event⟩ := timed
      rcases answered_or_waits (mem_handled_of_mem_waiting member now event) with answered | still
      · obtain ⟨outcome, answer⟩ := answered
        exact Or.inl ⟨outcome, List.mem_append_left _ answer⟩
      · refine (hyp still).imp_left ?_
        rintro ⟨outcome, answer⟩
        exact ⟨outcome, List.mem_append_right _ answer⟩

/-- A connection on which no request comes is not answered. -/
theorem silent_run (silent : ∀ handling, (connection, handling) ∉ service.waiting)
    (apart : ∀ timed ∈ events, timed.2.IsApart connection) :
    (∀ outcome, .answer connection outcome ∉ (service.run events).2) ∧
      ∀ handling, (connection, handling) ∉ (service.run events).1.waiting := by
  induction events generalizing service with
  | nil => exact ⟨fun _ => List.not_mem_nil, silent⟩
  | cons timed rest hyp =>
      obtain ⟨now, event⟩ := timed
      have unhandled (handling : Handling) :
          (connection, handling) ∉ service.handled now event := fun member =>
        silent handling (mem_waiting_of_mem_handled (apart _ List.mem_cons_self) member)
      have still (handling : Handling) :
          (connection, handling) ∉ (service.step now event).1.waiting := fun member =>
        unhandled handling (mem_waiting_step_iff.mp member).1
      have later := hyp still fun timed member => apart timed (List.mem_cons_of_mem _ member)
      refine ⟨fun outcome answer => ?_, later.2⟩
      rcases List.mem_append.mp answer with first | rest
      · obtain ⟨handling, member, -⟩ := mem_answers_step_iff.mp first
        exact unhandled handling member
      · exact later.1 outcome rest

/-! ## Requests that read -/

/-- The program serves with the node that it has started with. -/
theorem Sound.exists_node (sound : Sound told node service loads) :
    ∃ served, service.cluster.nodes = [served] ∧ served.fixtures = node.fixtures := by
  obtain ⟨served, nodes, same⟩ := List.map_eq_singleton_iff.mp sound.fixed
  exact ⟨served, nodes, same⟩

/-- What goes back for the request, and where its get stands. -/
theorem Sound.exists_place (sound : Sound told node service loads)
    (reads : service.cluster.Reads reader.key reader.waiter) :
    ∃ (served : Node) (entry : GroupCaller Transport), served.fixtures = node.fixtures ∧
      outcome? service.cluster reader.handling = served.outcome? reader.handling ∧
      service.cluster.callerAt? reader.waiter = some entry ∧ entry.key = reader.key ∧
      served.place? reader.group reader.caller = some entry.place ∧
      entry.place.isOfGet = true ∧ entry.place.Yields (ComesTo told reader.key) := by
  obtain ⟨served, nodes, same⟩ := sound.exists_node
  obtain ⟨entry, at_, isKey, isGet⟩ := reads
  obtain ⟨group, found, inGroup⟩ := Option.bind_eq_some_iff.mp at_
  have yields := (sound.attended.groups _ _ group found).2.2.callers entry
    (List.mem_of_getElem? inGroup)
  rw [isKey] at yields
  refine ⟨served, entry, same, ?_, at_, isKey, ?_, isGet, yields⟩
  · rw [outcome?, nodes, List.head?_cons, Option.bind_some]
  · rw [Cluster.groupAt?, nodes] at found
    have there : served.groups[reader.group]? = some group := found
    have stands : group.callers[reader.caller]? = some entry := inGroup
    rw [Node.place?, there, Option.bind_some, stands, Option.map_some]

/-- An event has been followed, and all that was handled for the connection is the get of the
request. -/
theorem follows_step (isRead : reader.errand.isRead = true)
    (reads : (service.step now event).1.cluster.Reads reader.key reader.waiter)
    (only : ∀ handling, (reader.connection, handling) ∈ service.handled now event →
      handling = reader.handling) : Follows reader (service.step now event).1 where
  isRead := isRead
  reads := reads
  waits handling member := by
    obtain ⟨isHandled, unknown⟩ := mem_waiting_step_iff.mp member
    obtain rfl := only handling isHandled
    exact ⟨rfl, heeds_polls isHandled now _, unknown⟩

/-- Then what the connection is answered is what the get has come to. -/
theorem conveys_step (isRead : reader.errand.isRead = true)
    (sound : Sound told node (service.step now event).1 after)
    (reads : (service.step now event).1.cluster.Reads reader.key reader.waiter)
    (only : ∀ handling, (reader.connection, handling) ∈ service.handled now event →
      handling = reader.handling)
    (answer : .answer reader.connection outcome ∈ (service.step now event).2) :
    node.Conveys reader.errand reader.headOnly (ComesTo told reader.key) outcome := by
  obtain ⟨handling, member, ended⟩ := mem_answers_step_iff.mp answer
  obtain rfl := only handling member
  obtain ⟨served, entry, same, comes, -, -, at_, isGet, yields⟩ := sound.exists_place reads
  rw [← cluster_step, comes] at ended
  have conveys := Node.conveys_of_outcome? isRead at_ isGet yields ended
  exact conveys.congr (Node.pool_of_fixtures same)

/-- The request is followed through a run, and is answered what its get has come to. -/
theorem Follows.run (follows : Follows reader service) (sound : Sound told node service loads)
    (genuine : service.Genuine told loads events)
    (apart : ∀ timed ∈ events, timed.2.IsApart reader.connection) :
    Follows reader (service.run events).1 ∧
      ∀ outcome, .answer reader.connection outcome ∈ (service.run events).2 →
        node.Conveys reader.errand reader.headOnly (ComesTo told reader.key) outcome := by
  induction events generalizing service loads with
  | nil => exact ⟨follows, fun _ answer => absurd answer List.not_mem_nil⟩
  | cons timed rest hyp =>
      obtain ⟨now, event⟩ := timed
      have next := sound.step genuine.1 now
      have reads := lasts_step (Cluster.lasts_reads ..) follows.reads now event
      have only (handling : Handling)
          (member : (reader.connection, handling) ∈ service.handled now event) :
          handling = reader.handling :=
        (follows.waits handling
          (mem_waiting_of_mem_handled (apart _ List.mem_cons_self) member)).1
      obtain ⟨last, later⟩ := hyp (follows_step follows.isRead reads only) next genuine.2
        fun timed member => apart timed (List.mem_cons_of_mem _ member)
      refine ⟨last, fun outcome answer => ?_⟩
      rcases List.mem_append.mp answer with first | rest
      · exact conveys_step follows.isRead next reads only first
      · exact later outcome rest

/-- As long as the request waits, what its get waits for is under way. -/
theorem Follows.exists_open (follows : Follows reader service)
    (sound : Sound told node service loads)
    (member : (reader.connection, handling) ∈ service.waiting) :
    (∃ load ∈ loads, load.key = reader.key) ∨
      ∃ call ∈ service.cluster.calls, call.purpose = .get ∧ call.stage ≠ .ended ∧
        call.key = reader.key := by
  obtain ⟨rfl, heeds, unknown⟩ := follows.waits handling member
  obtain ⟨served, entry, -, comes, at_, isKey, inNode, isGet, -⟩ :=
    sound.exists_place follows.reads
  rw [comes] at unknown
  rw [← isKey]
  exact sound.attended.exists_open at_ isGet
    (Node.isWaiting_of_outcome? follows.isRead inNode isGet unknown) heeds

/-- A request that reads a key of a group that is there begins a get, which is all that is handled
for it. -/
theorem exists_reader {request : Http.Request} {name key : String} {errand : Errand}
    {position : Nat} (sound : Sound told node service loads)
    (readsKey : node.ReadsKey request name key errand)
    (isNamed : node.position? name = some position)
    (silent : ∀ handling, (connection, handling) ∉ service.waiting) (now : Instant) :
    ∃ caller,
      let reader : Reader := ⟨connection, key, position, caller, errand, request.method = "HEAD"⟩
      (service.step now (.request connection request)).1.cluster.Reads key reader.waiter ∧
        (connection, reader.handling) ∈ service.handled now (.request connection request) ∧
        ∀ handling, (connection, handling) ∈ service.handled now (.request connection request) →
          handling = reader.handling := by
  obtain ⟨served, nodes, same⟩ := sound.exists_node
  obtain ⟨group, found⟩ := Option.isSome_iff_exists.mp (sound.groups name position isNamed)
  rw [Cluster.groupAt?, nodes] at found
  have readsThere := readsKey.congr (Node.routes_of_fixtures same) (Node.pool_of_fixtures same)
  obtain ⟨after, events, received, last, entry, there, at_, isKey, isGet⟩ :=
    readsThere.receive ((Node.position?_of_fixtures same name).trans isNamed) found now
  have reads : (service.cluster.setNode 0 after).Reads key
      ⟨0, position, group.callers.length⟩ := by
    refine ⟨entry, ?_, isKey, isGet⟩
    simp [Cluster.callerAt?, Cluster.groupAt?, Cluster.setNode, nodes, there, at_]
  have reacts : service.react now (.request connection request) =
      ((Cluster.followAll now 0 (service.cluster.setNode 0 after) events).1,
        (Cluster.followAll now 0 (service.cluster.setNode 0 after) events).2,
        [(connection, .running position group.callers.length errand
          (request.method = "HEAD"))]) := by
    simp only [react, Cluster.receive, nodes, List.getElem?_cons_zero, received]
  refine ⟨group.callers.length, ?_, ?_, ?_⟩
  · rw [cluster_step, settled, reacts]
    apply polls_keep fun current => current.Reads key ⟨0, position, group.callers.length⟩
    · exact fun current index caller before =>
        (Cluster.lasts_reads ..).actInGroup before now 0 index (.poll caller)
    · exact (Cluster.lasts_reads ..).followAll reads now 0 events
  · rw [handled, reacts]
    exact List.mem_append_right _ (List.mem_singleton.mpr rfl)
  · intro handling member
    rw [handled, reacts] at member
    have begun := (List.mem_append.mp member).resolve_left (silent handling)
    exact congrArg Prod.snd (List.mem_singleton.mp begun)

/-! ## All runs -/

/-- Whatever the program is asked and told, and as long as no client goes away before it is
answered, a request that reads a key of the squares is answered what its key comes to; the
connection closes, and a caller hears that its leader failed, only if the key is a number whose
square is too large.
As long as there is no answer, a load of the key is under way or a peer is asked for it.

A client that goes away takes its caller with it, and if that leads a load, those who follow hear
that their leader failed, whatever the key is.  Runs of which this tells have no such event. -/
theorem reads_are_answered {settings : Settings} (isNode : settings.node? = some node)
    (starts : start? settings = some service) {request : Http.Request} {key : String}
    {errand : Errand} (readsKey : node.ReadsKey request Squares.groupName key errand)
    {before after : List (Instant × Event)}
    (apart : ∀ timed ∈ before ++ after, timed.2.IsApart connection)
    (genuine : service.Genuine told []
      (before ++ (now, .request connection request) :: after)) :
    let events := before ++ (now, .request connection request) :: after
    (∀ outcome, .answer connection outcome ∈ (service.run events).2 →
      node.Conveys errand (request.method = "HEAD") (ComesTo told key) outcome) ∧
    ((∃ outcome, .answer connection outcome ∈ (service.run events).2) ∨
      (∃ load ∈ service.underWay [] events, load.key = key) ∨
      ∃ call ∈ (service.run events).1.cluster.calls, call.purpose = .get ∧ call.stage ≠ .ended ∧
        call.key = key) := by
  intro events
  -- up to its request nothing is handled for the connection, and then nothing but the get
  have nobody_waits : ∀ handling, (connection, handling) ∉ service.waiting := by
    rw [start?, isNode] at starts
    obtain rfl := Option.some.inj starts
    exact fun _ => List.not_mem_nil
  obtain ⟨unanswered, silent⟩ := silent_run nobody_waits
    fun timed member => apart timed (List.mem_append_left after member)
  obtain ⟨early, admits, late⟩ := genuine_append.mp genuine
  have start := (sound_start isNode starts told).run early
  have sound := start.step admits now
  obtain ⟨-, -, isNamed⟩ := node_of_settings isNode
  obtain ⟨caller, reads, isHandled, only⟩ := exists_reader start readsKey isNamed silent now
  have follows := follows_step readsKey.isRead reads only
  obtain ⟨last, later⟩ := follows.run sound late
    fun timed member => apart timed (List.mem_append_right before member)
  have ran : (service.run events).2 = (service.run before).2 ++
      (((service.run before).1.step now (.request connection request)).2 ++
        (((service.run before).1.step now (.request connection request)).1.run after).2) :=
    congrArg Prod.snd (run_append ..)
  rw [ran]
  constructor
  · intro outcome answer
    rcases List.mem_append.mp answer with old | new
    · exact absurd old (unanswered outcome)
    · rcases List.mem_append.mp new with first | rest
      · exact conveys_step readsKey.isRead sound reads only first
      · exact later outcome rest
  · rcases answered_or_waits isHandled with ⟨outcome, answer⟩ | waits
    · exact Or.inl ⟨outcome, List.mem_append_right _ (List.mem_append_left _ answer)⟩
    · rcases answered_or_waits_run waits after with ⟨outcome, answer⟩ | still
      · exact Or.inl ⟨outcome, List.mem_append_right _ (List.mem_append_right _ answer)⟩
      · right
        rw [underWay_append, run_append]
        exact last.exists_open (sound.run late) still

/-- What an address alone asks for. -/
def alone : Settings :=
  ⟨.v4 ⟨[127, 0, 0, 1]⟩ 8000, [], .default⟩

/-- A request of the public for a square. -/
def squareRequest (key : String) : Http.Request :=
  ⟨"GET", .ofText ("/cache/squares/" ++ key), []⟩

/-- The square of twelve is asked for and loaded. -/
theorem square_of_twelve_is_answered :
    let events := [(.epoch, .request 0 (squareRequest "12")),
      (.epoch, .loaded ⟨0, 0, 0, "12", .new⟩)]
    let nothing (_ : String) (_ : View) := False
    ∃ node service, alone.node? = some node ∧ start? alone = some service ∧
      service.Genuine nothing [] events ∧
      ∃ outcome, .answer 0 outcome ∈ (service.run events).2 ∧
        node.Conveys .publicGet false (ComesTo nothing "12") outcome := by
  intro events nothing
  obtain ⟨node, isNode⟩ : ∃ node, alone.node? = some node :=
    Option.isSome_iff_exists.mp (by decide +kernel)
  have starts : start? alone = some ⟨⟨[node], []⟩, []⟩ := congrArg (Option.map _) isNode
  have routed : alone.node?.map (fun node => node.routes.destination "/cache/squares/12") =
      some (.cache (.ok ("squares", "12"))) := by rfl
  rw [isNode, Option.map_some, Option.some.injEq] at routed
  have comes : (start? alone).map (fun service =>
      (service.loadsAfter .epoch [] (.request 0 (squareRequest "12")),
        (answers (service.run events).2).map Prod.fst)) =
        some ([⟨0, 0, 0, "12", .new⟩], [0]) := by decide +kernel
  rw [starts, Option.map_some, Option.some.injEq, Prod.mk.injEq] at comes
  obtain ⟨called, answered⟩ := comes
  have genuine : Genuine nothing ⟨⟨[node], []⟩, []⟩ [] events :=
    ⟨trivial, called ▸ List.mem_singleton.mpr rfl, trivial⟩
  obtain ⟨⟨connection, outcome⟩, member, rfl⟩ :=
    List.mem_map.mp (answered ▸ List.mem_singleton.mpr rfl)
  have answer := mem_answers_iff.mp member
  have apart : ∀ timed ∈ [] ++ [((.epoch : Instant), Event.loaded ⟨0, 0, 0, "12", .new⟩)],
      timed.2.IsApart 0 := by
    intro timed member request isRequest
    rw [List.mem_singleton.mp member] at isRequest
    cases isRequest
  obtain ⟨conveys, -⟩ := reads_are_answered isNode starts (.ofPublic rfl routed) apart genuine
  exact ⟨node, _, isNode, starts, genuine, outcome, answer, conveys outcome answer⟩

/-- A number whose square is too large: of two who ask for it at the same time, the connection of
the one closes, and the other hears that its leader failed. -/
theorem too_large_square_is_lost :
    let request := squareRequest "3037000500"
    let events := [(.epoch, .request 0 request), (.epoch, .request 1 request),
      (.epoch, .loaded ⟨0, 0, 0, "3037000500", .new⟩)]
    Settings.ofArguments ["--bind", "127.0.0.1:8000"] = .ok alone ∧
      Text.readInteger Squares.greatest "3037000500" = .ok 3037000500 ∧
      (start? alone).map (fun service => answers (service.run events).2) =
        some [(0, .closed), (1, .answered (PublicBody.ofGet (.error .leaderFailed)))] := by
  refine ⟨by rfl, by rfl, ?_⟩
  decide +kernel

end PeerCache.Program.Service
