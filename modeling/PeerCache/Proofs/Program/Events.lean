/-
Module: PeerCache.Proofs.Program.Events
Purpose: What an event does to the serving program, and what lasts from event to event.
Main exports:
  Program.Service.underWay, Program.Service.Genuine, Program.Service.mem_answers_step_iff,
  Program.Service.lasts_step, Program.Service.Sound, Program.Service.Sound.run
-/
import PeerCache.Program.Service
import PeerCache.Proofs.Cluster.Attendance
import PeerCache.Proofs.Peer.NodeHistory
import PeerCache.Proofs.Program.Squares

/-!
The loads that are under way are those that the program has asked for and that have not come back
(`Service.underWay`).  A load comes back once, and peers tell what they may (`Service.Genuine`);
otherwise anything may happen, in any order.

An event is followed in two parts: what it does at once (`Service.react`), and the polls of all
requests that are handled then (`Service.settled`).  Whatever gets wait for is under way after both
(`Service.Sound`), and whoever was polled heeds it (`Service.heeds_polls`).
-/

namespace PeerCache.Program.Service

open Cluster (Attended Lasts nobody)
open Squares (ComesTo)

/-! ## Events that can come -/

/-- The load that an effect lets take its time. -/
def Effect.load? : Effect → Option LoaderCall
  | .load call => some call
  | _ => none

/-- The answer that an effect gives, and on which connection. -/
def Effect.answer? : Effect → Option (Nat × Node.Outcome)
  | .answer connection outcome => some (connection, outcome)
  | _ => none

/-- The answers among effects. -/
def answers (effects : List Effect) : List (Nat × Node.Outcome) :=
  effects.filterMap Effect.answer?

/-- The loads that are still under way when an event has come. -/
def Event.leaves (loads : List LoaderCall) : Event → List LoaderCall
  | .loaded call => loads.erase call
  | _ => loads

/-- The loads under way after an event: one may have come back, and others have begun. -/
def loadsAfter (service : Service) (now : Instant) (loads : List LoaderCall) (event : Event) :
    List LoaderCall :=
  event.leaves loads ++ (service.step now event).2.filterMap Effect.load?

/-- The loads under way after events. -/
def underWay (service : Service) (loads : List LoaderCall) :
    List (Instant × Event) → List LoaderCall
  | [] => loads
  | (now, event) :: rest =>
      (service.step now event).1.underWay (service.loadsAfter now loads event) rest

/-- The event can come while these loads are under way: a load that comes back is one of them, and a
peer that answers a get tells a view that it may tell for the key. -/
def Admits (service : Service) (told : String → View → Prop) (loads : List LoaderCall) :
    Event → Prop
  | .request _ _ => True
  | .loaded call => call ∈ loads
  | .delivered index delivery =>
      ∀ call, service.cluster.calls[index]? = some call → call.purpose = .get →
        ∀ buffers response,
          (Transport.receiveResponse call.groupName call.key call.outgoing.url.text delivery
            buffers).1 = .ok response →
          told call.key (.ofResponse response)

/-- Every event can come when it does. -/
def Genuine (told : String → View → Prop) (service : Service) (loads : List LoaderCall) :
    List (Instant × Event) → Prop
  | [] => True
  | (now, event) :: rest =>
      service.Admits told loads event ∧
        (service.step now event).1.Genuine told (service.loadsAfter now loads event) rest

/-- What can come after two lists of events is what can come after the one and then the other. -/
theorem genuine_append {told : String → View → Prop} {service : Service}
    {loads : List LoaderCall} {first second : List (Instant × Event)} :
    service.Genuine told loads (first ++ second) ↔
      service.Genuine told loads first ∧
        (service.run first).1.Genuine told (service.underWay loads first) second := by
  induction first generalizing service loads with
  | nil => exact (iff_of_eq (true_and _)).symm
  | cons timed rest hyp => exact (and_congr_right fun _ => hyp).trans and_assoc.symm

theorem underWay_append (service : Service) (loads : List LoaderCall)
    (first second : List (Instant × Event)) :
    service.underWay loads (first ++ second) =
      (service.run first).1.underWay (service.underWay loads first) second := by
  induction first generalizing service loads with
  | nil => rfl
  | cons timed rest hyp => exact hyp ..

/-! ## One event -/

/-- The requests that are handled while an event is followed. -/
def handled (service : Service) (now : Instant) (event : Event) : List (Nat × Handling) :=
  service.waiting ++ (service.react now event).2.2

/-- The cluster when an event has been followed. -/
def settled (service : Service) (now : Instant) (event : Event) : Cluster :=
  (service.handled now event).foldl (pollHandling now) (service.react now event).1

variable {service : Service} {now : Instant} {event : Event} {told : String → View → Prop}
  {loads : List LoaderCall} {connection : Nat} {handling : Handling} {outcome : Node.Outcome}

theorem cluster_step (service : Service) (now : Instant) (event : Event) :
    (service.step now event).1.cluster = service.settled now event := rfl

theorem mem_waiting_step_iff :
    (connection, handling) ∈ (service.step now event).1.waiting ↔
      (connection, handling) ∈ service.handled now event ∧
        outcome? (service.settled now event) handling = none := by
  rw [← Option.isNone_iff_eq_none]
  exact List.mem_filter

/-- What the program is to do: to let loads take their time, to send, and to answer. -/
theorem effects_step (service : Service) (now : Instant) (event : Event) :
    (service.step now event).2 =
      (service.react now event).2.1.map .load ++
          sends (service.settled now event) service.cluster.calls.length ++
        (service.handled now event).filterMap fun entry =>
          (outcome? (service.settled now event) entry.2).map (.answer entry.1) := rfl

theorem mem_answers_iff {effects : List Effect} :
    (connection, outcome) ∈ answers effects ↔ .answer connection outcome ∈ effects := by
  rw [answers, List.mem_filterMap]
  constructor
  · rintro ⟨effect, member, isAnswer⟩
    cases effect <;> cases isAnswer
    exact member
  · exact fun member => ⟨_, member, rfl⟩

theorem exists_of_mem_sends {cluster : Cluster} {before : Nat} {effect : Effect}
    (member : effect ∈ sends cluster before) : ∃ call outgoing, effect = .send call outgoing := by
  obtain ⟨entry, -, rfl⟩ := List.mem_map.mp member
  exact ⟨_, _, rfl⟩

theorem mem_answers_step_iff :
    Effect.answer connection outcome ∈ (service.step now event).2 ↔
      ∃ handling, (connection, handling) ∈ service.handled now event ∧
        outcome? (service.settled now event) handling = some outcome := by
  have others : Effect.answer connection outcome ∉
      (service.react now event).2.1.map Effect.load ++
        sends (service.settled now event) service.cluster.calls.length := by
    intro member
    rcases List.mem_append.mp member with load | send
    · obtain ⟨_, -, same⟩ := List.mem_map.mp load
      cases same
    · obtain ⟨_, _, same⟩ := exists_of_mem_sends send
      cases same
  rw [effects_step, List.mem_append, or_iff_right others, List.mem_filterMap]
  constructor
  · rintro ⟨⟨other, handling⟩, member, shown⟩
    obtain ⟨_, ended, same⟩ := Option.map_eq_some_iff.mp shown
    cases same
    exact ⟨handling, member, ended⟩
  · rintro ⟨handling, member, ended⟩
    exact ⟨(connection, handling), member, Option.map_eq_some_iff.mpr ⟨outcome, ended, rfl⟩⟩

/-- The loads that begin are those that were asked for. -/
theorem loads_step (service : Service) (now : Instant) (event : Event) :
    (service.step now event).2.filterMap Effect.load? = (service.react now event).2.1 := by
  have sent : (sends (service.settled now event) service.cluster.calls.length).filterMap
      Effect.load? = [] := by
    apply List.filterMap_eq_nil_iff.mpr
    intro effect member
    obtain ⟨_, _, rfl⟩ := exists_of_mem_sends member
    rfl
  have answers : ((service.handled now event).filterMap fun entry =>
      (outcome? (service.settled now event) entry.2).map (Effect.answer entry.1)).filterMap
      Effect.load? = [] := by
    apply List.filterMap_eq_nil_iff.mpr
    intro effect member
    obtain ⟨entry, -, shown⟩ := List.mem_filterMap.mp member
    obtain ⟨_, -, rfl⟩ := Option.map_eq_some_iff.mp shown
    rfl
  have began (loads : List LoaderCall) :
      (loads.map Effect.load).filterMap Effect.load? = loads := by
    rw [List.filterMap_map]
    exact List.filterMap_some
  rw [effects_step, List.filterMap_append, List.filterMap_append, sent, answers, began,
    List.append_nil, List.append_nil]

/-- A request is received by the one node, and begins to be handled. -/
theorem react_request (service : Service) (now : Instant) (connection : Nat)
    (request : Http.Request) :
    service.react now (.request connection request) =
      let received := service.cluster.receive now 0 request
      (received.1, received.2.2, received.2.1.toList.map (connection, ·)) := by
  rw [react]
  split
  case h_1 after handling called result => rw [result]; rfl
  case h_2 after called result => rw [result]; rfl

/-- A call of a peer comes to what peers may tell. -/
theorem brings_of_admits {index : Nat} {delivery : Delivery}
    (admits : service.Admits told loads (.delivered index delivery)) {call : RemoteCall}
    (found : service.cluster.calls[index]? = some call) (buffers : BufferPool) :
    (Cluster.resultOf call delivery buffers).1.Brings (ComesTo told call.key) := by
  by_cases isGet : call.purpose = .get
  case neg => exact Cluster.brings_resultOf _ isGet delivery buffers
  case pos =>
      have tells := admits call found isGet buffers
      simp only [Cluster.resultOf, isGet]
      generalize (Transport.receiveResponse call.groupName call.key call.outgoing.url.text delivery
        buffers).1 = result at tells ⊢
      cases result with
      | error error => exact .of_none rfl rfl
      | ok response => exact .of_some rfl rfl (.told (tells response rfl))

/-- What happens at once when an event comes. -/
theorem attended_react (attended : Attended (ComesTo told) service.cluster loads nobody)
    (admits : service.Admits told loads event) (now : Instant) :
    Attended (ComesTo told) (service.react now event).1
      (event.leaves loads ++ (service.react now event).2.1) nobody := by
  cases event with
  | request connection request =>
      rw [react_request]
      exact attended.receive now 0 request
  | loaded call =>
      exact attended.loaded admits now (Squares.brings_reply told call.caller now call.key)
  | delivered index delivery =>
      simp only [react, Event.leaves, Cluster.step]
      cases found : service.cluster.calls[index]? with
      | none => simpa only [List.append_nil] using attended
      | some call =>
          have concluded := attended.conclude now found (brings_of_admits admits found)
          dsimp only
          cases call.stage with
          | ended => simpa only [List.append_nil] using attended
          | travelling | serving => exact concluded

/-! ## What lasts from event to event -/

section Lasting

variable {Holds : Cluster → Prop} {cluster : Cluster} {group caller : Nat}

/-- What the poll of one caller keeps is kept by all polls. -/
theorem polls_keep (Holds : Cluster → Prop)
    (one : ∀ cluster group caller, Holds cluster →
      Holds (cluster.actInGroup now 0 group (.poll caller)).1)
    (holds : Holds cluster) (handled : List (Nat × Handling)) :
    Holds (handled.foldl (pollHandling now) cluster) := by
  induction handled generalizing cluster with
  | nil => exact holds
  | cons entry rest hyp =>
      apply hyp
      obtain ⟨connection, handling⟩ := entry
      cases handling with
      | answered answer => exact holds
      | running group caller errand headOnly => exact one cluster group caller holds

theorem lasts_react (lasts : Lasts Holds) (holds : Holds service.cluster) (now : Instant)
    (event : Event) : Holds (service.react now event).1 := by
  cases event with
  | request connection request =>
      rw [react_request]
      exact lasts.receive holds now 0 request
  | loaded call =>
      exact lasts.actInGroup holds now call.node call.group
        (.loaderReplied call.caller (Squares.reply now call.key))
  | delivered index delivery =>
      simp only [react, Cluster.step]
      cases service.cluster.calls[index]? with
      | none => exact holds
      | some call =>
          dsimp only
          cases call.stage with
          | ended => exact holds
          | travelling | serving => exact lasts.conclude holds now index call delivery

/-- What lasts is kept by an event and by all that comes of it. -/
theorem lasts_step (lasts : Lasts Holds) (holds : Holds service.cluster) (now : Instant)
    (event : Event) : Holds (service.step now event).1.cluster :=
  polls_keep Holds
    (fun _ group caller before => lasts.actInGroup before now 0 group (.poll caller))
    (lasts_react lasts holds now event) _

/-- Whoever is handled is polled, and then heeds how the load stands that it waits for. -/
theorem heeds_polls {errand : Errand} {headOnly : Bool} {handled : List (Nat × Handling)}
    (member : (connection, .running group caller errand headOnly) ∈ handled) (now : Instant)
    (cluster : Cluster) :
    (handled.foldl (pollHandling now) cluster).Heeds ⟨0, group, caller⟩ := by
  induction handled generalizing cluster with
  | nil => cases member
  | cons entry rest hyp =>
      rcases List.mem_cons.mp member with same | later
      · subst same
        rw [List.foldl_cons]
        apply polls_keep fun current => current.Heeds ⟨0, group, caller⟩
        · intro current other polled before
          exact current.heeds_poll now 0 other polled (Or.inr before)
        · exact cluster.heeds_poll now 0 group caller (Or.inl rfl)
      · exact hyp later _

end Lasting

/-- The program serves with the node that it has started with: each name of a group leads to one,
and whatever a get waits for is under way. -/
structure Sound (told : String → View → Prop) (node : Node) (service : Service)
    (loads : List LoaderCall) : Prop where
  fixed : service.cluster.fixtures = [node.fixtures]
  groups : ∀ name position, node.position? name = some position →
    (service.cluster.groupAt? 0 position).isSome = true
  attended : Attended (ComesTo told) service.cluster loads nobody

section Soundness

variable {node : Node}

theorem Sound.step (sound : Sound told node service loads)
    (admits : service.Admits told loads event) (now : Instant) :
    Sound told node (service.step now event).1 (service.loadsAfter now loads event) where
  fixed := lasts_step (Cluster.lasts_fixtures _) sound.fixed now event
  groups name position isNamed :=
    lasts_step (Cluster.lasts_groupAt? ..) (sound.groups name position isNamed) now event
  attended := by
    rw [loadsAfter, loads_step]
    apply polls_keep fun current => Attended (ComesTo told) current _ nobody
    · exact fun current group caller before => before.poll now 0 group caller
    · exact attended_react sound.attended admits now

/-- The program is sound after any events that can come. -/
theorem Sound.run (sound : Sound told node service loads) {events : List (Instant × Event)}
    (genuine : service.Genuine told loads events) :
    Sound told node (service.run events).1 (service.underWay loads events) := by
  induction events generalizing service loads with
  | nil => exact sound
  | cons timed rest hyp => exact hyp (sound.step genuine.1 timed.1) genuine.2

/-- The program starts with a node that has one group, which is new. -/
theorem node_of_settings {settings : Settings} (isNode : settings.node? = some node) :
    node.Sound ∧ node.groups = [.new Squares.groupName] ∧
      node.position? Squares.groupName = some 0 := by
  rw [Settings.node?, Option.map_eq_some_iff] at isNode
  obtain ⟨bare, isBare, rfl⟩ := isNode
  have reachable := (Node.reachable_of_new? isBare).live
    [(.epoch, .set settings.allPeers), (.epoch, .registered Squares.groupName)]
  rw [Node.new?, Option.map_eq_some_iff] at isBare
  obtain ⟨routes, -, rfl⟩ := isBare
  exact ⟨reachable.sound, rfl, List.lookup_cons_self⟩

/-- At the start nobody waits. -/
theorem sound_start {settings : Settings} (isNode : settings.node? = some node)
    (starts : start? settings = some service) (told : String → View → Prop) :
    Sound told node service [] := by
  obtain ⟨named, groups, -⟩ := node_of_settings isNode
  rw [start?, isNode] at starts
  obtain rfl := Option.some.inj starts
  have only {position index : Nat} {group : Group Transport}
      (found : Cluster.groupAt? ⟨[node], []⟩ position index = some group) :
      group = .new Squares.groupName := by
    obtain ⟨first, here, inNode⟩ := Option.bind_eq_some_iff.mp found
    obtain rfl := List.mem_singleton.mp (List.mem_of_getElem? here)
    rw [groups] at inNode
    exact List.mem_singleton.mp (List.mem_of_getElem? inNode)
  refine ⟨rfl, ?_, ?_, ?_, ?_, ?_⟩
  · intro name position isNamed
    obtain ⟨group, found⟩ := named.exists_group isNamed
    exact Option.isSome_iff_exists.mpr ⟨group, found⟩
  · intro position index group found
    rw [only found]
    exact ⟨Group.orderly_new _, Group.rests_new _, Group.yields_new _ _⟩
  · rintro waiter event ⟨entry, at_, -⟩
    obtain ⟨group, found, inGroup⟩ := Option.bind_eq_some_iff.mp at_
    rw [only found] at inGroup
    cases inGroup
  · exact fun load member => absurd member List.not_mem_nil
  · exact fun call member => absurd member List.not_mem_nil

end Soundness

end PeerCache.Program.Service
