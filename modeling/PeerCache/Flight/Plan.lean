/-
Module: PeerCache.Flight.Plan
Purpose: What a caller of a flight group will do, and how far it gets when polled.
Main exports:
  Plan, Words, Plan.run, Suspended, Suspended.resume, Suspended.abandon, Progress
-/
import PeerCache.Flight

/-!
A caller is polled from time to time and runs until it must wait.  Its plan says what
it will do: return, panic, wait for a word from outside, or run some work for a key
through the flight group and go on with what comes of it.  The work is a plan itself, so
work may call for more work, on other keys or on its own.

Every wait for a word has a name, and a poll brings the words that have come under each
name so far; so a caller may pass one wait and stay at the next.  A plan may wait
wherever it likes: what holds between polls holds wherever work could have paused.

A caller that cannot go on is suspended.  It waits for a word, or for the end of a call
that it follows, or it leads a call whose work is suspended; the last case nests, and a
suspended caller leads one call for each level.

Whatever way a leader ends, its call is settled: with the result when the work returns,
without one when the work panics or the caller is abandoned.  Inner calls are settled
before outer ones.
-/

namespace PeerCache

/-- What a caller will do, given words of type `σ` from outside. -/
inductive Plan (σ α : Type) where
  /-- Returns. -/
  | finish (result : Result α)
  /-- Panics. -/
  | panic (message : String)
  /-- Waits for a word from outside that comes under a name. -/
  | await (name : String) (next : σ → Plan σ α)
  /-- Runs work for a key, or waits for the run under way, and goes on with the result. -/
  | call (label key : String) (work : Plan σ α) (next : Result α → Plan σ α)

/-- Where a caller stands that cannot go on. -/
inductive Suspended (σ α : Type) where
  /-- It waits for a word from outside that comes under a name. -/
  | awaiting (name : String) (next : σ → Plan σ α)
  /-- It waits for the end of a call that another caller leads. -/
  | following (id : CallId) (next : Result α → Plan σ α)
  /-- It leads a call whose work is suspended. -/
  | leading (id : CallId) (work : Suspended σ α) (next : Result α → Plan σ α)

/-- How far a caller got. -/
inductive Progress (σ α : Type) where
  | returned (result : Result α)
  | panicked (message : String)
  | waiting (suspended : Suspended σ α)

variable {σ α : Type}

/-- The words that a poll brings, by the names of the waits. -/
abbrev Words (σ : Type) := String → Option σ

/-- Runs a plan until it ends or must wait. -/
def Plan.run (now : Instant) (words : Words σ) :
    Plan σ α → Flight α → Progress σ α × Flight α
  | .finish result, flight => (.returned result, flight)
  | .panic message, flight => (.panicked message, flight)
  | .await name next, flight =>
      match words name with
      | none => (.waiting (.awaiting name next), flight)
      | some word => (next word).run now words flight
  | .call label key work next, flight =>
      match flight.find? key with
      | some id =>
          match flight.answer? id with
          | none => (.waiting (.following id next), flight)
          | some result => (next result).run now words flight
      | none =>
          let (id, begun) := flight.begin label key now
          match work.run now words begun with
          | (.returned result, after) =>
              (next result).run now words (after.settle id (some result))
          | (.panicked message, after) => (.panicked message, after.settle id none)
          | (.waiting suspended, after) => (.waiting (.leading id suspended next), after)

/-- Polls a suspended caller: it runs on if what it waits for has come. -/
def Suspended.resume (now : Instant) (words : Words σ) :
    Suspended σ α → Flight α → Progress σ α × Flight α
  | .awaiting name next, flight => (Plan.await name next).run now words flight
  | .following id next, flight =>
      match flight.answer? id with
      | none => (.waiting (.following id next), flight)
      | some result => (next result).run now words flight
  | .leading id work next, flight =>
      match work.resume now words flight with
      | (.returned result, after) =>
          (next result).run now words (after.settle id (some result))
      | (.panicked message, after) => (.panicked message, after.settle id none)
      | (.waiting suspended, after) => (.waiting (.leading id suspended next), after)

/-- Drops a suspended caller: the calls that it leads end without a result. -/
def Suspended.abandon : Suspended σ α → Flight α → Flight α
  | .awaiting _ _, flight => flight
  | .following _ _, flight => flight
  | .leading id work _, flight => (work.abandon flight).settle id none

/-- The calls that a suspended caller leads, innermost first. -/
def Suspended.led : Suspended σ α → List CallId
  | .awaiting _ _ => []
  | .following _ _ => []
  | .leading id work _ => work.led ++ [id]

/-- The call whose end a suspended caller waits for. -/
def Suspended.waitsFor? : Suspended σ α → Option CallId
  | .awaiting _ _ => none
  | .following id _ => some id
  | .leading _ work _ => work.waitsFor?

end PeerCache
