/-
Module: PeerCache.Proofs.Flight.Sightings
Purpose: What a run of a session shows: who leads, who follows, whose work ends, and how.
Main exports:
  Act, Plan.acts, Suspended.acts, Report, Sighting, Session.sight, Session.watch,
  Sighting.led, Sighting.keys
-/
import PeerCache.Proofs.Flight.Evolution

/-!
Whoever polls or drops a caller sees how far the caller comes (`Report`).  An onlooker sees more:
for which keys it calls, whether it leads or follows each of these calls, when the work that it
leads begins, and when and how this work ends (`Act`).  The two together are a sighting, and what
is seen of a run is the list of its sightings, one for each poll or drop of a caller.

No sighting names a call by its position among the calls of the flight, nor tells any time.
-/

namespace PeerCache

/-- What a caller does with the flight. -/
inductive Act (α : Type) where
  /-- It finds its key free, and runs the work. -/
  | leads (label key : String)
  /-- It finds a call under way for its key, and joins it. -/
  | follows (key : String)
  /-- The work that it leads ends. -/
  | ends (label key : String) (ending : LeaderEnd α)

namespace Act

variable {α : Type}

/-- The key for which the caller begins to lead. -/
def ledKey? : Act α → Option String
  | .leads _ key => some key
  | .follows _ => none
  | .ends _ _ _ => none

/-- The key for which the caller calls. -/
def calledKey? : Act α → Option String
  | .leads _ key => some key
  | .follows key => some key
  | .ends _ _ _ => none

theorem calledKey?_of_ledKey? {act : Act α} {key : String} (leads : act.ledKey? = some key) :
    act.calledKey? = some key := by
  cases act with
  | leads label name => exact leads
  | follows name => cases leads
  | ends label name ending => cases leads

end Act

variable {σ α : Type}

/-! ## The acts of a poll and of a drop -/

/-- The end of the work of a call. -/
def Flight.endActs (flight : Flight α) (id : CallId) (ending : LeaderEnd α) : List (Act α) :=
  (flight.calls[id]?.map fun call => Act.ends call.label call.key ending).toList

/-- What is done when a plan runs. -/
def Plan.acts (now : Instant) (words : Words σ) : Plan σ α → Flight α → List (Act α)
  | .finish _, _ => []
  | .panic _, _ => []
  | .await name next, flight =>
      match words name with
      | none => []
      | some word => (next word).acts now words flight
  | .call label key work next, flight =>
      match flight.find? key with
      | some id =>
          .follows key ::
            match flight.answer? id with
            | none => []
            | some result => (next result).acts now words flight
      | none =>
          let (id, begun) := flight.begin label key now
          .leads label key :: (work.acts now words begun ++
            match work.run now words begun with
            | (.returned result, after) =>
                after.endActs id (.returned result) ++
                  (next result).acts now words (after.settle id (some result))
            | (.panicked _, after) => after.endActs id .panicked
            | (.waiting _, _) => [])

/-- What becomes of a leader when its work got so far. -/
def Plan.onward (now : Instant) (words : Words σ) (id : CallId) (next : Result α → Plan σ α) :
    Progress σ α × Flight α → Progress σ α × Flight α
  | (.returned result, after) => (next result).run now words (after.settle id (some result))
  | (.panicked message, after) => (.panicked message, after.settle id none)
  | (.waiting place, after) => (.waiting (.leading id place next), after)

/-- What a leader does when its work got so far. -/
def Plan.onwardActs (now : Instant) (words : Words σ) (id : CallId) (next : Result α → Plan σ α) :
    Progress σ α × Flight α → List (Act α)
  | (.returned result, after) =>
      after.endActs id (.returned result) ++
        (next result).acts now words (after.settle id (some result))
  | (.panicked _, after) => after.endActs id .panicked
  | (.waiting _, _) => []

theorem Plan.run_call_of_free {now : Instant} {words : Words σ} {label key : String}
    {work : Plan σ α} {next : Result α → Plan σ α} {flight : Flight α}
    (free : flight.find? key = none) :
    (Plan.call label key work next).run now words flight =
      onward now words flight.calls.length next
        (work.run now words (flight.begin label key now).2) := by
  simp only [run, free]
  rfl

theorem Plan.acts_call_of_free {now : Instant} {words : Words σ} {label key : String}
    {work : Plan σ α} {next : Result α → Plan σ α} {flight : Flight α}
    (free : flight.find? key = none) :
    (Plan.call label key work next).acts now words flight =
      .leads label key :: (work.acts now words (flight.begin label key now).2 ++
        onwardActs now words flight.calls.length next
          (work.run now words (flight.begin label key now).2)) := by
  simp only [acts, free]
  rfl

/-- What is done when a suspended caller is polled. -/
def Suspended.acts (now : Instant) (words : Words σ) :
    Suspended σ α → Flight α → List (Act α)
  | .awaiting name next, flight => (Plan.await name next).acts now words flight
  | .following id next, flight =>
      match flight.answer? id with
      | none => []
      | some result => (next result).acts now words flight
  | .leading id work next, flight =>
      work.acts now words flight ++
        Plan.onwardActs now words id next (work.resume now words flight)

theorem Suspended.resume_leading (now : Instant) (words : Words σ) (id : CallId)
    (work : Suspended σ α) (next : Result α → Plan σ α) (flight : Flight α) :
    (Suspended.leading id work next).resume now words flight =
      Plan.onward now words id next (work.resume now words flight) := rfl

/-- What is done when a suspended caller is dropped. -/
def Suspended.abandonActs : Suspended σ α → Flight α → List (Act α)
  | .awaiting _ _, _ => []
  | .following _ _, _ => []
  | .leading id work _, flight =>
      work.abandonActs flight ++ (work.abandon flight).endActs id .dropped

/-- How far a caller has come, as whoever polls it sees it. -/
inductive Report (α : Type) where
  | pending
  | returned (result : Result α)
  | panicked (message : String)
  | dropped

namespace Caller

/-- What is done when a caller is polled. -/
def pollActs (now : Instant) (words : Words σ) : Caller σ α → Flight α → List (Act α)
  | .unpolled plan, flight => plan.acts now words flight
  | .suspended place, flight => place.acts now words flight
  | _, _ => []

/-- What is done when a caller is dropped. -/
def dropActs : Caller σ α → Flight α → List (Act α)
  | .suspended place, flight => place.abandonActs flight
  | _, _ => []

/-- How far a caller has come. -/
def report : Caller σ α → Report α
  | .unpolled _ => .pending
  | .suspended _ => .pending
  | .returned result => .returned result
  | .panicked message => .panicked message
  | .dropped => .dropped

end Caller

/-! ## Sightings -/

/-- What is seen of a poll or a drop of a caller. -/
structure Sighting (α : Type) where
  /-- The position of the caller. -/
  caller : Nat
  acts : List (Act α)
  /-- How far the caller has come then. -/
  report : Report α

namespace Sighting

/-- The keys for which the caller began to lead. -/
def led (sighting : Sighting α) : List String :=
  sighting.acts.filterMap Act.ledKey?

/-- The keys for which the caller, or work that it runs, calls. -/
def keys (sighting : Sighting α) : List String :=
  sighting.acts.filterMap Act.calledKey?

end Sighting

namespace Session

/-- What is seen when something is done to a caller, if it is there. -/
def sightOn (session : Session σ α) (index : Nat)
    (operation : Caller σ α → Flight α → Caller σ α × Flight α)
    (acts : Caller σ α → Flight α → List (Act α)) : Option (Sighting α) :=
  session.callers[index]?.map fun caller =>
    ⟨index, acts caller session.flight, (operation caller session.flight).1.report⟩

theorem sightOn_of_present {session : Session σ α} {index : Nat} {caller : Caller σ α}
    (at_ : session.callers[index]? = some caller)
    (operation : Caller σ α → Flight α → Caller σ α × Flight α)
    (acts : Caller σ α → Flight α → List (Act α)) :
    session.sightOn index operation acts =
      some ⟨index, acts caller session.flight, (operation caller session.flight).1.report⟩ := by
  rw [sightOn, at_, Option.map_some]

/-- What is seen of a step: a poll or a drop of a caller that is there. -/
def sight (now : Instant) (session : Session σ α) : Step σ α → Option (Sighting α)
  | .create _ => none
  | .poll index words =>
      session.sightOn index (Caller.poll now words) (Caller.pollActs now words)
  | .drop index => session.sightOn index Caller.drop Caller.dropActs

/-- What is seen of a run, in order. -/
def watch (session : Session σ α) : List (Instant × Step σ α) → List (Sighting α)
  | [] => []
  | (now, step) :: rest => (session.sight now step).toList ++ (session.step now step).watch rest

theorem watch_append (session : Session σ α) (first later : List (Instant × Step σ α)) :
    session.watch (first ++ later) = session.watch first ++ (session.run first).watch later := by
  induction first generalizing session with
  | nil => rfl
  | cons timed rest hyp =>
      rw [List.cons_append, watch, hyp, watch, run_cons, List.append_assoc]

end Session

end PeerCache
