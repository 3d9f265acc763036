/-
Module: PeerCache.Scenario.GroupScript
Purpose: Scripts for the callers of one group, played until nothing can go on.
Main exports:
  GroupScript, GroupStep, GroupNote, GroupReport, GroupScript.run
-/
import PeerCache.Scenario.Outcome

/-!
The callers of a script run concurrently on one thread.  A step starts a caller, opens a
gate, or asks something; then everything that can go on does.

* A caller runs from its start, or from a gate, to its next wait.
* Those that wait at one gate go on in the order in which they came to it.
* Removals at other peers begin after the callers of the step have come to their waits,
  in the order in which they were asked for.
* Callers that wait for others go on last.

Every call of the loader or of a peer is noted as it begins.
-/

namespace PeerCache.Scenario

/-- A group's surroundings for a whole script. -/
structure GroupScript where
  name : String
  loader : LoaderScript
  peers : List PeerScript
  /-- The owners of keys, by their positions among the peers; no position is local. -/
  owners : List (String × Option Nat)
  /-- The owner of every other key. -/
  otherOwner : Option Nat

/-- A step of a script. -/
inductive GroupStep where
  | get (key caller requestId : String)
  | remove (key caller requestId : String)
  | openGate (gate : String)
  | abort (caller : String)
  | removeLocally (key : String)
  | look (key : String)
  | stats
  | name
deriving Repr, DecidableEq

/-- A call of the loader or of a peer. -/
inductive GroupNote where
  | load (key : String) (requestId : RequestId)
  | peerGet (url key : String) (requestId : RequestId)
  | peerRemove (url key : String) (requestId : RequestId)
deriving Repr, DecidableEq

/-- A reply that is still to come. -/
inductive Awaited where
  | peer (caller : Nat) (reply : Reply CacheError Response)
  | loader (caller : Nat) (reply : Reply Chain View)
  | owner (caller : Nat) (reply : Reply CacheError Unit)
  | broadcast (caller number : Nat) (reply : Reply CacheError Unit)

/-- The caller that a reply is for. -/
def Awaited.caller : Awaited → Nat
  | .peer caller _ => caller
  | .loader caller _ => caller
  | .owner caller _ => caller
  | .broadcast caller _ _ => caller

/-- The state of a script that is being played. -/
structure GroupPlay where
  group : Group ScriptedPeer
  /-- The names of the callers. -/
  names : List String
  openGates : List String
  /-- The keys that were loaded, one entry for each load. -/
  loaded : List String
  /-- The positions of the peers that were called, one entry for each call. -/
  peerGets : List Nat
  peerRemoves : List Nat
  /-- The replies behind gates, in the order in which they came there. -/
  gated : List (String × Awaited)
  /-- The removals at other peers that have not begun. -/
  told : List (Nat × String × Nat × ScriptedPeer)
  /-- The notes of this step. -/
  notes : List GroupNote

/-- What a step asked for. -/
inductive GroupValue where
  | look (view : Option View)
  | stats (stats : GroupStats)
  | name (name : String)

/-- How a caller ended. -/
inductive GroupEnding where
  | got (result : Result View)
  | removed (result : Result Unit)
  | panicked (message : String)
  | aborted

/-- What a step did. -/
structure GroupReport where
  value : Option GroupValue
  /-- The callers that ended, in order of starting. -/
  done : List (String × GroupEnding)
  notes : List GroupNote
  /-- The entries in the store. -/
  entries : Nat
  /-- The loads under way. -/
  flights : Nat
  /-- The callers that have not ended. -/
  waiting : Nat

namespace GroupScript

/-- The time at which all scripts are played: a moment in 2026. -/
def now : Instant := .ofParts 1767225600 0

/-- The peers as the group sees them. -/
def handles (script : GroupScript) : List ScriptedPeer :=
  script.peers.zipIdx.map fun entry => ⟨entry.2, entry.1.url⟩

/-- The owner of a key. -/
def pick? (script : GroupScript) (key : String) : Option ScriptedPeer :=
  ((script.owners.lookup key).getD script.otherOwner).bind fun index => script.handles[index]?

/-- What the group sees around it. -/
def surroundings (script : GroupScript) : Surroundings ScriptedPeer :=
  ⟨now, script.pick?, script.handles⟩

/-- The script of a peer. -/
def peerScript (script : GroupScript) (peer : ScriptedPeer) : PeerScript :=
  script.peers[peer.index]?.getD ⟨peer.url, [], []⟩

end GroupScript

namespace GroupPlay

/-- The state before the first step. -/
def start (script : GroupScript) : GroupPlay :=
  ⟨.new script.name, [], [], [], [], [], [], [], []⟩

/-- The request id of a caller. -/
def requestId (play : GroupPlay) (caller : Nat) : RequestId :=
  (play.group.callers[caller]?.map fun entry => entry.context.requestId).getD .fresh

/-- Makes a note. -/
def note (play : GroupPlay) (entry : GroupNote) : GroupPlay :=
  { play with notes := play.notes ++ [entry] }

/-- Makes a move of the group. -/
def move (script : GroupScript) (play : GroupPlay) (move : Group.Move) :
    GroupPlay × List (Group.Event ScriptedPeer) :=
  let (group, events) := play.group.step script.surroundings move
  ({ play with group }, events)

/-- Whether an outcome's gate is closed, and which one it is. -/
def closedGate? (play : GroupPlay) (gate : Option String) : Option String :=
  gate.filter fun name => !play.openGates.contains name

/-- Lets a reply through, or keeps it behind its gate. -/
def passOrWait (play : GroupPlay) (gate : Option String) (awaited : Awaited)
    (deliver : GroupPlay → GroupPlay) : GroupPlay :=
  match play.closedGate? gate with
  | none => deliver play
  | some name => { play with gated := play.gated ++ [(name, awaited)] }

/-- A loader's reply arrives. -/
def deliverLoad (script : GroupScript) (caller : Nat) (reply : Reply Chain View)
    (play : GroupPlay) : GroupPlay :=
  (play.move script (.loaderReplied caller reply)).1

/-- The loader is called. -/
def callLoader (script : GroupScript) (play : GroupPlay) (caller : Nat) (key : String) :
    GroupPlay :=
  let earlier := play.loaded.count key
  let outcome := script.loader.outcome key earlier
  let reply := outcome.reply key earlier
  passOrWait
    ({ play with loaded := key :: play.loaded }.note (.load key (play.requestId caller)))
    outcome.gate (.loader caller reply) (deliverLoad script caller reply)

/-- The owner's reply to a get arrives. -/
def deliverPeer (script : GroupScript) (caller : Nat) (reply : Reply CacheError Response)
    (play : GroupPlay) : GroupPlay :=
  let (after, events) := play.move script (.peerReplied caller reply)
  events.foldl (fun play event =>
    match event with
    | .calledLoader caller key => callLoader script play caller key
    | _ => play) after

/-- The owner of a key is asked for it. -/
def askPeer (script : GroupScript) (play : GroupPlay) (caller : Nat) (key : String)
    (peer : ScriptedPeer) : GroupPlay :=
  let outcome :=
    outcomeAt (script.peerScript peer).get .usual (play.peerGets.count peer.index)
  let reply := outcome.getReply key
  passOrWait
    ({ play with peerGets := peer.index :: play.peerGets }.note
      (.peerGet peer.url key (play.requestId caller)))
    outcome.gate (.peer caller reply) (deliverPeer script caller reply)

/-- The outcome of the next removal at a peer. -/
def removalOutcome (script : GroupScript) (play : GroupPlay) (peer : ScriptedPeer) :
    PeerOutcome :=
  outcomeAt (script.peerScript peer).remove .usual (play.peerRemoves.count peer.index)

/-- Notes a removal at a peer. -/
def noteRemoval (play : GroupPlay) (caller : Nat) (key : String) (peer : ScriptedPeer) :
    GroupPlay :=
  { play with peerRemoves := peer.index :: play.peerRemoves }.note
    (.peerRemove peer.url key (play.requestId caller))

/-- Keeps the removals at other peers for later in the step. -/
def tell (play : GroupPlay) : Group.Event ScriptedPeer → GroupPlay
  | .broadcast caller key number peer =>
      { play with told := play.told ++ [(caller, key, number, peer)] }
  | _ => play

/-- The owner's reply to a removal arrives. -/
def deliverOwner (script : GroupScript) (caller : Nat) (reply : Reply CacheError Unit)
    (play : GroupPlay) : GroupPlay :=
  let (after, events) := play.move script (.ownerReplied caller reply)
  events.foldl tell after

/-- A key is removed at its owner. -/
def askOwner (script : GroupScript) (play : GroupPlay) (caller : Nat) (key : String)
    (peer : ScriptedPeer) : GroupPlay :=
  let outcome := play.removalOutcome script peer
  let reply := outcome.removeReply
  passOrWait (play.noteRemoval caller key peer) outcome.gate (.owner caller reply)
    (deliverOwner script caller reply)

/-- A removal at another peer ends. -/
def deliverBroadcast (script : GroupScript) (caller number : Nat)
    (reply : Reply CacheError Unit) (play : GroupPlay) : GroupPlay :=
  (play.move script (.broadcastEnded caller number reply)).1

/-- A removal at another peer begins. -/
def beginBroadcast (script : GroupScript) (play : GroupPlay) :
    Nat × String × Nat × ScriptedPeer → GroupPlay
  | (caller, key, number, peer) =>
      let outcome := play.removalOutcome script peer
      let reply := outcome.removeReply
      passOrWait (play.noteRemoval caller key peer) outcome.gate
        (.broadcast caller number reply) (deliverBroadcast script caller number reply)

/-- What a caller asks for as it begins. -/
def handle (script : GroupScript) (play : GroupPlay) : Group.Event ScriptedPeer → GroupPlay
  | .askedPeer caller key peer => askPeer script play caller key peer
  | .calledLoader caller key => callLoader script play caller key
  | .askedOwner caller key owner => askOwner script play caller key owner
  | .broadcast caller key number peer => tell play (.broadcast caller key number peer)

/-- A reply arrives that stood behind a gate. -/
def deliver (script : GroupScript) (play : GroupPlay) : Awaited → GroupPlay
  | .peer caller reply => deliverPeer script caller reply play
  | .loader caller reply => deliverLoad script caller reply play
  | .owner caller reply => deliverOwner script caller reply play
  | .broadcast caller number reply => deliverBroadcast script caller number reply play

/-- A move of the group and what it asks for. -/
def act (script : GroupScript) (play : GroupPlay) (move : Group.Move) : GroupPlay :=
  let (after, events) := play.move script move
  events.foldl (handle script) after

/-- Begins the removals at other peers. -/
def beginBroadcasts (script : GroupScript) (play : GroupPlay) : GroupPlay :=
  play.told.foldl (beginBroadcast script) { play with told := [] }

/-- Polls every caller once, in order of starting. -/
def pollAll (script : GroupScript) (play : GroupPlay) : GroupPlay :=
  (List.range play.group.callers.length).foldl
    (fun play caller => (play.move script (.poll caller)).1) play

/-- Lets everything go on that can. -/
def quiesce (script : GroupScript) (play : GroupPlay) : GroupPlay :=
  (play.beginBroadcasts script).pollAll script

/-- The positions of the callers with a name. -/
def positions (play : GroupPlay) (name : String) : List Nat :=
  (play.names.zipIdx.filter fun entry => entry.1 = name).map Prod.snd

/-- Starts a caller. -/
def startCaller (script : GroupScript) (play : GroupPlay) (name : String)
    (move : Group.Move) : GroupPlay :=
  act script { play with names := play.names ++ [name] } move

/-- Drops a caller, and with it the replies that it waits for. -/
def abort (script : GroupScript) (play : GroupPlay) (caller : Nat) : GroupPlay :=
  let (after, _) := play.move script (.drop caller)
  { after with gated := after.gated.filter fun entry => entry.2.caller ≠ caller }

/-- Opens a gate: the replies behind it arrive. -/
def openGate (script : GroupScript) (play : GroupPlay) (gate : String) : GroupPlay :=
  let arriving := play.gated.filter fun entry => entry.1 = gate
  let opened := { play with
    openGates := gate :: play.openGates
    gated := play.gated.filter fun entry => entry.1 ≠ gate }
  arriving.foldl (fun play entry => deliver script play entry.2) opened

/-- Follows a step. -/
def step (script : GroupScript) (play : GroupPlay) : GroupStep → GroupPlay
  | .get key caller requestId =>
      play.startCaller script caller (.get ⟨.given requestId, none⟩ key)
  | .remove key caller requestId =>
      play.startCaller script caller (.remove ⟨.given requestId, none⟩ key)
  | .openGate gate => play.openGate script gate
  | .abort caller =>
      (play.positions caller).foldl (fun play position => play.abort script position) play
  | .removeLocally key => (play.move script (.removeLocally key)).1
  | .look key => (play.move script (.look key)).1
  | .stats => play
  | .name => play

/-- What a step asks for, in the state before it. -/
def value? (play : GroupPlay) : GroupStep → Option GroupValue
  | .look key => some (.look (play.group.lookUp GroupScript.now key).1)
  | .stats => some (.stats play.group.stats)
  | .name => some (.name play.group.name)
  | _ => none

/-- How a caller ended, if it has. -/
def ending? : Place ScriptedPeer → Option GroupEnding
  | .got result => some (.got result)
  | .removed result => some (.removed result)
  | .panicked message => some (.panicked message)
  | .dropped => some .aborted
  | _ => none

/-- The callers that have ended, with their positions. -/
def endings (play : GroupPlay) : List (Nat × GroupEnding) :=
  play.group.callers.zipIdx.filterMap fun entry =>
    (ending? entry.1.place).map fun ending => (entry.2, ending)

/-- The report of a step that led from one state to another. -/
def report (before after : GroupPlay) (step : GroupStep) : GroupReport :=
  let ended := before.endings.map Prod.fst
  { value := before.value? step
    done := (after.endings.filter fun entry => !ended.contains entry.1).filterMap fun entry =>
      after.names[entry.1]?.map fun name => (name, entry.2)
    notes := after.notes
    entries := after.group.store.size
    flights := after.group.loads.count
    waiting := after.group.waiting }

/-- Follows steps, reporting each, and gives the counters at the end. -/
def runFrom (script : GroupScript) (play : GroupPlay) :
    List GroupStep → List GroupReport × GroupStats
  | [] => ([], play.group.stats)
  | step :: rest =>
      let after := (GroupPlay.step script { play with notes := [] } step).quiesce script
      let (reports, stats) := runFrom script after rest
      (report play after step :: reports, stats)

end GroupPlay

/-- The reports of a script, and the counters at its end. -/
def GroupScript.run (script : GroupScript) (steps : List GroupStep) :
    List GroupReport × GroupStats :=
  (GroupPlay.start script).runFrom script steps

end PeerCache.Scenario
