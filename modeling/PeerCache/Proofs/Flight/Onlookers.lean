/-
Module: PeerCache.Proofs.Flight.Onlookers
Purpose: Callers of a session that never lead leave no trace in it.
Main exports:
  Session.OthersFollow, Excerpt.ofCallers, Session.followers_leave_no_trace
-/
import PeerCache.Proofs.Flight.Separation

/-!
A caller that never leads only looks on: it may join a call and hear its end, join and be dropped
while it waits, whether before the leader ends or after, or be dropped before its first poll.  None
of this shows anywhere else.  A run without all steps of such callers leaves the flight as the whole
run does after each of its steps, and the other callers where they are.

The excerpt of a session that is used here (`Excerpt.ofCallers`) leaves out callers and nothing
else: all keys and all calls are kept, and times are told as they are.  So the excerpt of a flight
is the flight itself, and what is left to say is that a caller which begins no call is one that
begins no call for a kept key.
-/

namespace PeerCache

variable {σ α : Type}

namespace Session

/-- All callers but these begin no call to lead it. -/
def OthersFollow (mine : Nat → Bool) (sightings : List (Sighting α)) : Prop :=
  ∀ sighting ∈ sightings, mine sighting.caller = false → sighting.led = []

end Session

namespace Excerpt

variable {mine : Nat → Bool}

/-- All of a session but some of its callers. -/
def ofCallers (mine : Nat → Bool) : Excerpt where
  callers := mine
  keys _ := true
  calls _ := true
  clock := id

theorem name_ofCallers (mine : Nat → Bool) : (ofCallers mine).name = id := by
  funext call
  exact placeIn_all call

theorem ofFlight_ofCallers (mine : Nat → Bool) (flight : Flight α) :
    (ofCallers mine).ofFlight flight = flight := by
  have calls : (select (fun _ => true) flight.calls).map (ofCallers mine).ofCall =
      flight.calls := by
    rw [select_all]
    exact List.map_id _
  have entries : ((flight.entries.filter fun _ => true).map fun entry =>
      (entry.1, (ofCallers mine).name entry.2)) = flight.entries := by
    rw [List.filter_true, name_ofCallers]
    exact List.map_id _
  exact congrArg₂ Flight.mk calls entries

theorem ofSession_ofCallers (mine : Nat → Bool) (session : Session σ α) :
    (ofCallers mine).ofSession session =
      ⟨session.flight, select mine session.callers⟩ := by
  have unnamed : Caller.renamed (ofCallers mine).name = (id : Caller σ α → Caller σ α) := by
    rw [name_ofCallers]
    exact funext Caller.renamed_id
  rw [ofSession, ofFlight_ofCallers, unnamed, List.map_id]
  rfl

theorem ofSteps_ofCallers (mine : Nat → Bool) (steps : List (Instant × Session.Step σ α)) :
    (ofCallers mine).ofSteps steps = steps :=
  List.map_id _

/-- Who begins no call begins none for a kept key. -/
theorem fits_ofCallers {sightings : List (Sighting α)}
    (follow : Session.OthersFollow mine sightings) :
    ∀ sighting ∈ sightings, (ofCallers mine).Fits sighting := by
  intro sighting shown
  constructor
  · intro _ act _ key _
    rfl
  · intro other act done key leads
    have led : key ∈ sighting.led := List.mem_filterMap.mpr ⟨act, done, leads⟩
    rw [follow sighting shown other] at led
    cases led

/-- A run in which all callers but these only follow, and the steps of these alone. -/
theorem run_ofCallers (steps : List (Instant × Session.Step σ α))
    (follow : Session.OthersFollow mine ((Session.empty : Session σ α).watch steps)) :
    (Session.empty : Session σ α).run (Session.keep mine 0 steps) =
        ⟨((Session.empty : Session σ α).run steps).flight,
          select mine ((Session.empty : Session σ α).run steps).callers⟩ ∧
      (Session.empty : Session σ α).watch (Session.keep mine 0 steps) =
        Session.partOf mine ((Session.empty : Session σ α).watch steps) := by
  obtain ⟨ran, watched⟩ := run_excerpt steps (divides_empty (ofCallers mine))
    (fun _ _ _ => rfl) (fits_ofCallers follow)
  rw [ofSteps_ofCallers, ofSession_ofCallers] at ran watched
  exact ⟨ran.trans (ofSession_ofCallers mine _), watched⟩

end Excerpt

namespace Session

/-- Let all callers of a run but some never lead in it, whether they follow to the end, are dropped
while they wait or are dropped unpolled.  In the run without all their steps the same is seen of the
other callers: whose work begins and ends, and what every poll brings.  And after each of the steps
that are left the flight is the same as in the whole run, with its count and its oldest start, and
the other callers stand where they stand there. -/
theorem followers_leave_no_trace (mine : Nat → Bool) (steps : List (Instant × Step σ α))
    (follow : OthersFollow mine ((empty : Session σ α).watch steps)) :
    (empty : Session σ α).watch (keep mine 0 steps) =
        partOf mine ((empty : Session σ α).watch steps) ∧
      ∀ first later, steps = first ++ later →
        let whole := (empty : Session σ α).run first
        let part := (empty : Session σ α).run (keep mine 0 first)
        keep mine 0 first <+: keep mine 0 steps ∧
          part.flight = whole.flight ∧ part.flight.count = whole.flight.count ∧
          part.flight.oldestStart? = whole.flight.oldestStart? ∧
          part.callers = select mine whole.callers := by
  refine ⟨(Excerpt.run_ofCallers steps follow).2, ?_⟩
  rintro first later rfl whole part
  have followFirst : OthersFollow mine ((empty : Session σ α).watch first) := by
    intro sighting shown
    apply follow
    rw [watch_append]
    exact List.mem_append_left _ shown
  have begins : keep mine 0 first <+: keep mine 0 (first ++ later) := by
    rw [keep_append]
    exact List.prefix_append _ _
  have ran : part = ⟨whole.flight, select mine whole.callers⟩ :=
    (Excerpt.run_ofCallers first followFirst).1
  have flight : part.flight = whole.flight := by rw [ran]
  have callers : part.callers = select mine whole.callers := by rw [ran]
  exact ⟨begins, flight, congrArg Flight.count flight, congrArg Flight.oldestStart? flight, callers⟩

/-- Two callers for the key "a" lead one after the other.  Of those between them one hears the end
of the first call while the second is under way, one is dropped as it waits, and one unpolled. -/
theorem late_and_dropped_followers :
    let work : Plan Unit Nat := .call "work" "a" (.await "gate" fun _ => .finish (.ok 1)) .finish
    let mine := fun index : Nat => index == 0 || index == 4
    let closed : Words Unit := fun _ => none
    let opened : Words Unit := fun name => if name = "gate" then some () else none
    let steps : List (Instant × Step Unit Nat) :=
      [(⟨1⟩, .create work), (⟨1⟩, .poll 0 closed), (⟨2⟩, .create work), (⟨2⟩, .poll 1 closed),
        (⟨3⟩, .create work), (⟨3⟩, .poll 2 closed), (⟨4⟩, .create work), (⟨5⟩, .drop 2),
        (⟨6⟩, .poll 0 opened), (⟨7⟩, .create work), (⟨7⟩, .poll 4 closed), (⟨8⟩, .poll 1 closed),
        (⟨9⟩, .drop 3), (⟨10⟩, .poll 4 opened)]
    OthersFollow mine ((empty : Session Unit Nat).watch steps) ∧
      (empty : Session Unit Nat).watch (keep mine 0 steps) =
        partOf mine ((empty : Session Unit Nat).watch steps) ∧
      ∀ first later, steps = first ++ later →
        let whole := (empty : Session Unit Nat).run first
        let part := (empty : Session Unit Nat).run (keep mine 0 first)
        keep mine 0 first <+: keep mine 0 steps ∧
          part.flight = whole.flight ∧ part.flight.count = whole.flight.count ∧
          part.flight.oldestStart? = whole.flight.oldestStart? ∧
          part.callers = select mine whole.callers := by
  intro work mine closed opened steps
  have follow : OthersFollow mine ((empty : Session Unit Nat).watch steps) := by
    unfold OthersFollow
    decide
  exact ⟨follow, followers_leave_no_trace mine steps follow⟩

end Session

end PeerCache
