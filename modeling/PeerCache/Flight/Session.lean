/-
Module: PeerCache.Flight.Session
Purpose: Any number of callers of one flight group, polled and dropped in any order.
Main exports:
  Caller, Session, Session.Step, Session.step, Session.run
-/
import PeerCache.Flight.Plan

/-!
A session is a flight group with its callers.  A caller does nothing before it is first
polled, and nothing after it has ended or was dropped; in between it stands where its
last poll left it.  A run of a session is any list of steps, each at a time of its own.

Work that runs several calls side by side, or gives one up while it goes on, is told by
several callers: each call that can be polled or dropped alone is a caller of its own.
-/

namespace PeerCache

/-- How far a caller has come. -/
inductive Caller (σ α : Type) where
  /-- It has not been polled yet. -/
  | unpolled (plan : Plan σ α)
  | suspended (place : Suspended σ α)
  | returned (result : Result α)
  | panicked (message : String)
  | dropped

namespace Caller

variable {σ α : Type}

/-- Whether the caller can still be polled. -/
def isPending : Caller σ α → Bool
  | .unpolled _ => true
  | .suspended _ => true
  | _ => false

/-- The caller after a poll that got so far. -/
def ofProgress : Progress σ α → Caller σ α
  | .returned result => .returned result
  | .panicked message => .panicked message
  | .waiting place => .suspended place

/-- Polls a caller. -/
def poll (now : Instant) (words : Words σ) : Caller σ α → Flight α → Caller σ α × Flight α
  | .unpolled plan, flight =>
      let (progress, after) := plan.run now words flight
      (ofProgress progress, after)
  | .suspended place, flight =>
      let (progress, after) := place.resume now words flight
      (ofProgress progress, after)
  | ended, flight => (ended, flight)

/-- Drops a caller. -/
def drop : Caller σ α → Flight α → Caller σ α × Flight α
  | .unpolled _, flight => (.dropped, flight)
  | .suspended place, flight => (.dropped, place.abandon flight)
  | ended, flight => (ended, flight)

end Caller

/-- A flight group and its callers, in order of creation. -/
structure Session (σ α : Type) where
  flight : Flight α
  callers : List (Caller σ α)

namespace Session

variable {σ α : Type}

/-- What can happen to a session; callers are named by their positions. -/
inductive Step (σ α : Type) where
  /-- A caller comes that will follow a plan. -/
  | create (plan : Plan σ α)
  | poll (caller : Nat) (words : Words σ)
  | drop (caller : Nat)

/-- The session without callers. -/
def empty : Session σ α := ⟨.empty, []⟩

/-- Applies an operation to one caller. -/
def onCaller (session : Session σ α) (index : Nat)
    (operation : Caller σ α → Flight α → Caller σ α × Flight α) : Session σ α :=
  match session.callers[index]? with
  | none => session
  | some caller =>
      let (next, flight) := operation caller session.flight
      ⟨flight, session.callers.set index next⟩

/-- Follows one step. -/
def step (now : Instant) (session : Session σ α) : Step σ α → Session σ α
  | .create plan => { session with callers := session.callers ++ [.unpolled plan] }
  | .poll index words => session.onCaller index (Caller.poll now words)
  | .drop index => session.onCaller index Caller.drop

/-- Follows steps, each at its own time. -/
def run (session : Session σ α) (steps : List (Instant × Step σ α)) : Session σ α :=
  steps.foldl (fun current timed => current.step timed.1 timed.2) session

/-- The positions of the callers that can still be polled. -/
def pending (session : Session σ α) : List Nat :=
  (session.callers.zipIdx.filter fun entry => entry.1.isPending).map Prod.snd

end Session

end PeerCache
