/-
Module: PeerCache.Scenario.FlightScript
Purpose: Scripts for the callers of one flight group, and reports of what each step did.
Main exports:
  LoaderOutcome, FlightStep, FlightReport, FlightScript.run
-/
import PeerCache.Flight.Session

/-!
In a script every caller has a name and runs one loader.  The loader waits to be told
its outcome, which may be to run further work through the same group; it then takes
that outcome at once.  A run of a loader is recorded under the name of its caller, a
run of further work also under its key.

A step is reported by what began and what ended in it, and by how the group stands
afterwards.
-/

namespace PeerCache.Scenario

/-- What a loader does once it is told. -/
inductive LoaderOutcome where
  | ok (value : String)
  | fail (error : CacheError)
  | panic (message : String)
  /-- Runs work for a key, of the given outcome, and returns what comes of it. -/
  | nest (key : String) (inner : LoaderOutcome)
deriving Inhabited

/-- The plan of a loader of the named caller with this outcome. -/
def LoaderOutcome.plan (caller : String) : LoaderOutcome → Plan LoaderOutcome String
  | .ok value => .finish (.ok value)
  | .fail error => .finish (.error error)
  | .panic message => .panic message
  | .nest key inner => .call (caller ++ ">" ++ key) key (inner.plan caller) .finish

/-- A caller about to be made. -/
structure NewCaller where
  name : String
  key : String
  /-- Whether the loader panics as soon as it is called. -/
  panicsAtOnce : Bool
  /-- The loader's outcome, if it is told in advance. -/
  outcome : Option LoaderOutcome

/-- What a loader says that panics as soon as it is called. -/
def atOnceMessage : String := "sync"

/-- The plan of a caller: its loader's work for its key, and nothing else. -/
def NewCaller.plan (new : NewCaller) : Plan LoaderOutcome String :=
  .call new.name new.key
    (if new.panicsAtOnce then .panic atOnceMessage
    else .await new.name fun outcome => outcome.plan new.name)
    .finish

/-- A step of a script. -/
inductive FlightStep where
  /-- Makes a caller and polls it. -/
  | start (new : NewCaller)
  /-- Makes a caller. -/
  | create (new : NewCaller)
  /-- Tells a caller's loader its outcome and polls the caller. -/
  | finish (name : String) (outcome : LoaderOutcome)
  | poll (name : String)
  /-- Polls every pending caller once, in order of creation. -/
  | settle
  | drop (name : String)
  /-- Counts the pending callers while the group is locked. -/
  | lock
  /-- Asks which run the group's oldest start belongs to. -/
  | oldest

/-- What a step asked for. -/
inductive FlightValue where
  | pending (count : Nat)
  | oldest (label : Option String)
deriving Repr, DecidableEq

/-- How a caller ended. -/
inductive Ending where
  | returned (result : Result String)
  | panicked (message : String)

/-- What a step did. -/
structure FlightReport where
  /-- The runs that began. -/
  ran : List String
  /-- The callers that ended, in order of creation. -/
  done : List (String × Ending)
  /-- The keys with a call under way. -/
  count : Nat
  /-- The callers that can still be polled, in order of creation. -/
  pending : List String
  /-- Whether the group has an oldest start. -/
  busy : Bool
  value : Option FlightValue

/-- A session whose callers have names, and the outcomes that were told. -/
structure FlightScript where
  session : Session LoaderOutcome String
  names : List String
  outcomes : List (Option LoaderOutcome)

namespace FlightScript

/-- The script without callers. -/
def empty : FlightScript := ⟨.empty, [], []⟩

/-- The position of the last caller with a name. -/
def position? (script : FlightScript) (name : String) : Option Nat :=
  ((script.names.zipIdx.filter fun entry => entry.1 = name).getLast?).map Prod.snd

/-- Makes a caller. -/
def create (script : FlightScript) (now : Instant) (new : NewCaller) : FlightScript :=
  { session := script.session.step now (.create new.plan)
    names := script.names ++ [new.name]
    outcomes := script.outcomes ++ [new.outcome] }

/-- Polls the caller at a position. -/
def pollAt (script : FlightScript) (now : Instant) (position : Nat) : FlightScript :=
  { script with
    session := script.session.step now (.poll position fun _ => script.outcomes[position]?.join) }

/-- Applies an operation at the position of a named caller, if there is one. -/
def atName (script : FlightScript) (name : String)
    (operation : FlightScript → Nat → FlightScript) : FlightScript :=
  match script.position? name with
  | none => script
  | some position => operation script position

/-- Follows a step. -/
def step (script : FlightScript) (now : Instant) : FlightStep → FlightScript
  | .start new => (script.create now new).pollAt now script.names.length
  | .create new => script.create now new
  | .finish name outcome =>
      script.atName name fun script position =>
        pollAt { script with outcomes := script.outcomes.set position (some outcome) } now position
  | .poll name => script.atName name fun script position => script.pollAt now position
  | .settle =>
      script.session.pending.foldl (fun script position => script.pollAt now position) script
  | .drop name =>
      script.atName name fun script position =>
        { script with session := script.session.step now (.drop position) }
  | .lock => script
  | .oldest => script

/-- The names at positions. -/
def namesAt (script : FlightScript) (positions : List Nat) : List String :=
  positions.filterMap fun position => script.names[position]?

/-- How a caller ended, if it has. -/
def ending? : Caller LoaderOutcome String → Option Ending
  | .returned result => some (.returned result)
  | .panicked message => some (.panicked message)
  | _ => none

/-- The callers that have ended, with their positions. -/
def endings (script : FlightScript) : List (Nat × Ending) :=
  script.session.callers.zipIdx.filterMap fun entry =>
    (ending? entry.1).map fun ending => (entry.2, ending)

/-- What a step asks for. -/
def value? (script : FlightScript) : FlightStep → Option FlightValue
  | .lock => some (.pending script.session.pending.length)
  | .oldest =>
      let flight := script.session.flight
      some (.oldest (flight.oldestStart?.bind fun start =>
        (flight.startedAt? start).map Call.label))
  | _ => none

/-- The report of a step that led from one state to another. -/
def report (before after : FlightScript) (step : FlightStep) : FlightReport :=
  let ended := before.endings.map Prod.fst
  { ran := (after.session.flight.calls.drop before.session.flight.calls.length).map Call.label
    done := (after.endings.filter fun entry => !ended.contains entry.1).filterMap fun entry =>
      after.names[entry.1]?.map fun name => (name, entry.2)
    count := after.session.flight.count
    pending := after.namesAt after.session.pending
    busy := after.session.flight.oldestStart?.isSome
    value := after.value? step }

/-- Follows steps one time unit apart, reporting each. -/
def runFrom (script : FlightScript) (clock : Nat) : List FlightStep → List FlightReport
  | [] => []
  | step :: rest =>
      let after := script.step ⟨clock⟩ step
      report script after step :: runFrom after (clock + 1) rest

/-- The reports of a script. -/
def run (steps : List FlightStep) : List FlightReport :=
  empty.runFrom 0 steps

end FlightScript

end PeerCache.Scenario
