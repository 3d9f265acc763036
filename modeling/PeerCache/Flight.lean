/-
Module: PeerCache.Flight
Purpose: The calls of a flight group: at most one under way for each key.
Main exports:
  Result, Call, Flight, Flight.begin, Flight.release, Flight.settle, Flight.answer?,
  Flight.count, Flight.oldestStart?
-/
import PeerCache.Error
import PeerCache.Instant

/-!
A flight group suppresses duplicate work.  The first caller for a key begins a call and
leads it; callers that come while the call is under way follow it, and get what it ends
with.

A flight keeps two things.  `calls` is the record of all calls ever begun; a call is
named by its position, so a follower keeps hold of *its* call whatever happens to the
key later.  `entries` says which call is under way for which key.

A call ends once.  It ends with a result if its leader returned one, and without one if
the leader panicked or was dropped; followers of such a call learn that their leader
failed.  Ending a call clears the key's entry, provided that the entry is still this
call's.
-/

namespace PeerCache

/-- What a caller ends with. -/
abbrev Result (α : Type) := Except CacheError α

/-- The name of a call: how many were begun before it. -/
abbrev CallId := Nat

/-- How far a call has come. -/
inductive CallState (α : Type) where
  | running
  /-- The leader is gone, and may have left a result. -/
  | ended (result : Option (Result α))

/-- A call: one run of the work for a key. -/
structure Call (α : Type) where
  /-- What the run is called in a record of what ran. -/
  label : String
  key : String
  created : Instant
  state : CallState α

/-- The calls of a flight group. -/
structure Flight (α : Type) where
  /-- Every call ever begun, in order. -/
  calls : List (Call α)
  /-- The call under way for each key that has one, in order of their beginnings. -/
  entries : List (String × CallId)

namespace Flight

variable {α : Type}

/-- The group in which no call was ever begun. -/
def empty : Flight α := ⟨[], []⟩

instance : Inhabited (Flight α) := ⟨empty⟩

/-- The call under way for a key. -/
def find? (flight : Flight α) (key : String) : Option CallId :=
  flight.entries.lookup key

/-- Begins a call for a key. -/
def begin (flight : Flight α) (label key : String) (now : Instant) : CallId × Flight α :=
  (flight.calls.length,
    { calls := flight.calls ++ [⟨label, key, now, .running⟩]
      entries := flight.entries ++ [(key, flight.calls.length)] })

/-- Frees a key, if the entry for it is still that of the given call. -/
def release (flight : Flight α) (key : String) (id : CallId) : Flight α :=
  if flight.find? key = some id then
    { flight with entries := flight.entries.filter fun entry => entry.1 ≠ key }
  else flight

/-- Ends a call: followers get the result, or learn that there is none, and the key is
free again. -/
def settle (flight : Flight α) (id : CallId) (result : Option (Result α)) : Flight α :=
  match flight.calls[id]? with
  | none => flight
  | some call =>
      release { flight with calls := flight.calls.set id { call with state := .ended result } }
        call.key id

/-- What a follower of a call gets, once the call has ended. -/
def answer? (flight : Flight α) (id : CallId) : Option (Result α) :=
  match flight.calls[id]? with
  | some ⟨_, _, _, .ended (some result)⟩ => some result
  | some ⟨_, _, _, .ended none⟩ => some (.error .leaderFailed)
  | _ => none

/-- The number of keys with a call under way. -/
def count (flight : Flight α) : Nat :=
  flight.entries.length

/-- The calls under way. -/
def underWay (flight : Flight α) : List (Call α) :=
  flight.entries.filterMap fun entry => flight.calls[entry.2]?

/-- When the oldest call under way began. -/
def oldestStart? (flight : Flight α) : Option Instant :=
  match flight.underWay.map Call.created with
  | [] => none
  | first :: rest => some (rest.foldl Instant.earlier first)

/-- The first of the calls under way that began at a given time. -/
def startedAt? (flight : Flight α) (start : Instant) : Option (Call α) :=
  flight.underWay.find? fun call => call.created = start

/-! ## What the operations do to the entries -/

@[simp] theorem find?_empty (key : String) : (empty : Flight α).find? key = none := rfl

@[simp] theorem count_empty : (empty : Flight α).count = 0 := rfl

@[simp] theorem count_begin (flight : Flight α) (label key : String) (now : Instant) :
    (flight.begin label key now).2.count = flight.count + 1 := by
  simp [begin, count]

end Flight

end PeerCache
