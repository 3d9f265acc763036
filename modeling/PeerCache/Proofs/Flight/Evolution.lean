/-
Module: PeerCache.Proofs.Flight.Evolution
Purpose: Every run of a session begins calls for free keys and ends calls of its leaders.
Main exports:
  LeaderEnd, GuardDrop, Flight.Evolves, Plan.drops, Suspended.drops, Session.led,
  Session.drops, Session.run_evolves, Flight.Evolves.tracks, Session.run_tracks
-/
import PeerCache.Flight.Session
import PeerCache.Proofs.Flight.Tracking

/-!
A leader holds a guard while its call is under way, and drops it in whatever way it
ends.  `drops` lists the guards that a poll, a drop or a whole run of a session drops, in
order, each with the way its leader ended and the flight that the guard found.

All that polls and drops can do to a flight is told by `Flight.Evolves`: a call is begun
for a key without one, or the innermost call of a leader ends.  A fact about every run
needs no more than a proof for these two moves.
-/

namespace PeerCache

/-- How the leader of a call ended. -/
inductive LeaderEnd (α : Type) where
  | returned (result : Result α)
  | panicked
  | dropped

namespace LeaderEnd

variable {α : Type}

/-- The result that the leader left. -/
def result? : LeaderEnd α → Option (Result α)
  | .returned result => some result
  | .panicked => none
  | .dropped => none

/-- What followers are told: the leader's result, or that the leader failed. -/
def answer : LeaderEnd α → Result α
  | .returned result => result
  | .panicked => .error .leaderFailed
  | .dropped => .error .leaderFailed

end LeaderEnd

/-- The end of a call: its leader drops its guard. -/
structure GuardDrop (α : Type) where
  id : CallId
  ending : LeaderEnd α
  /-- The flight as the guard finds it. -/
  found : Flight α

variable {σ α : Type}

/-! ## The guards that are dropped -/

/-- The guards that are dropped when a plan runs. -/
def Plan.drops (now : Instant) (words : Words σ) : Plan σ α → Flight α → List (GuardDrop α)
  | .finish _, _ => []
  | .panic _, _ => []
  | .await name next, flight =>
      match words name with
      | none => []
      | some word => (next word).drops now words flight
  | .call label key work next, flight =>
      match flight.find? key with
      | some id =>
          match flight.answer? id with
          | none => []
          | some result => (next result).drops now words flight
      | none =>
          let (id, begun) := flight.begin label key now
          work.drops now words begun ++
            match work.run now words begun with
            | (.returned result, after) =>
                ⟨id, .returned result, after⟩ ::
                  (next result).drops now words (after.settle id (some result))
            | (.panicked _, after) => [⟨id, .panicked, after⟩]
            | (.waiting _, _) => []

/-- The guards that are dropped when a suspended caller is polled. -/
def Suspended.drops (now : Instant) (words : Words σ) :
    Suspended σ α → Flight α → List (GuardDrop α)
  | .awaiting name next, flight => (Plan.await name next).drops now words flight
  | .following id next, flight =>
      match flight.answer? id with
      | none => []
      | some result => (next result).drops now words flight
  | .leading id work next, flight =>
      work.drops now words flight ++
        match work.resume now words flight with
        | (.returned result, after) =>
            ⟨id, .returned result, after⟩ ::
              (next result).drops now words (after.settle id (some result))
        | (.panicked _, after) => [⟨id, .panicked, after⟩]
        | (.waiting _, _) => []

/-- The guards that are dropped with a suspended caller. -/
def Suspended.abandonDrops : Suspended σ α → Flight α → List (GuardDrop α)
  | .awaiting _ _, _ => []
  | .following _ _, _ => []
  | .leading id work _, flight =>
      work.abandonDrops flight ++ [⟨id, .dropped, work.abandon flight⟩]

namespace Caller

/-- The guards that are dropped when a caller is polled. -/
def pollDrops (now : Instant) (words : Words σ) : Caller σ α → Flight α → List (GuardDrop α)
  | .unpolled plan, flight => plan.drops now words flight
  | .suspended place, flight => place.drops now words flight
  | _, _ => []

/-- The guards that are dropped with a caller. -/
def dropDrops : Caller σ α → Flight α → List (GuardDrop α)
  | .suspended place, flight => place.abandonDrops flight
  | _, _ => []

end Caller

namespace Session

/-- The guards that are dropped in a step. -/
def stepDrops (now : Instant) (session : Session σ α) : Step σ α → List (GuardDrop α)
  | .create _ => []
  | .poll index words =>
      match session.callers[index]? with
      | none => []
      | some caller => caller.pollDrops now words session.flight
  | .drop index =>
      match session.callers[index]? with
      | none => []
      | some caller => caller.dropDrops session.flight

/-- The guards that are dropped in a run, in order. -/
def drops (session : Session σ α) : List (Instant × Step σ α) → List (GuardDrop α)
  | [] => []
  | (now, step) :: rest => session.stepDrops now step ++ (session.step now step).drops rest

end Session

/-! ## The calls that callers lead -/

/-- The calls that a caller leads after a poll that got so far. -/
def Progress.led : Progress σ α → List CallId
  | .returned _ => []
  | .panicked _ => []
  | .waiting place => place.led

/-- The calls that a caller leads: it inserted them, and has not returned from them,
panicked or been dropped. -/
def Caller.led : Caller σ α → List CallId
  | .suspended place => place.led
  | _ => []

/-- The calls that are led, by whatever caller. -/
def Session.led (session : Session σ α) : List CallId :=
  session.callers.flatMap Caller.led

/-- The calls of a leader's work come before its own. -/
theorem Suspended.led_leading_append (id : CallId) (work : Suspended σ α)
    (next : Result α → Plan σ α) (rest : List CallId) :
    (Suspended.leading id work next).led ++ rest = work.led ++ id :: rest := by
  rw [Suspended.led, List.append_assoc, List.singleton_append]

theorem Caller.led_ofProgress (progress : Progress σ α) :
    (Caller.ofProgress progress).led = progress.led := by
  cases progress <;> rfl

/-! ## What can become of a flight -/

/-- From a flight with live calls, calls are begun and ended, dropping these guards, and
leave a flight with live calls. -/
inductive Flight.Evolves : Flight α → List CallId → List (GuardDrop α) → Flight α →
    List CallId → Prop where
  | refl (flight : Flight α) (live : List CallId) : Evolves flight live [] flight live
  /-- It does not matter in which order live calls are listed. -/
  | reorder {flight last : Flight α} {live other left : List CallId}
      {drops : List (GuardDrop α)} (same : live.Perm other)
      (rest : Evolves flight other drops last left) : Evolves flight live drops last left
  /-- A call is begun for a key that has none. -/
  | begin {flight last : Flight α} {live left : List CallId} {drops : List (GuardDrop α)}
      (label key : String) (now : Instant) (free : flight.find? key = none)
      (rest : Evolves (flight.begin label key now).2 (flight.calls.length :: live) drops
        last left) :
      Evolves flight live drops last left
  /-- The leader of a live call ends. -/
  | settle {flight last : Flight α} {live left : List CallId} {drops : List (GuardDrop α)}
      (id : CallId) (ending : LeaderEnd α)
      (rest : Evolves (flight.settle id ending.result?) live drops last left) :
      Evolves flight (id :: live) (⟨id, ending, flight⟩ :: drops) last left

namespace Flight.Evolves

variable {flight middle last : Flight α} {live between left : List CallId}
  {drops later : List (GuardDrop α)}

theorem trans (first : Evolves flight live drops middle between)
    (second : Evolves middle between later last left) :
    Evolves flight live (drops ++ later) last left := by
  induction first with
  | refl => exact second
  | reorder same _ hyp => exact .reorder same (hyp second)
  | begin label key now free _ hyp => exact .begin label key now free (hyp second)
  | settle id ending _ hyp => exact .settle id ending (hyp second)

/-- The end of the innermost call of a leader, after whatever came before. -/
theorem snoc {id : CallId} (first : Evolves flight live drops middle (id :: between))
    (ending : LeaderEnd α) :
    Evolves flight live (drops ++ [⟨id, ending, middle⟩])
      (middle.settle id ending.result?) between :=
  first.trans (.settle id ending (.refl _ _))

/-- Through all that can become of it, a flight tracks its live calls. -/
theorem tracks (evolves : Evolves flight live drops last left) (start : flight.Tracks live) :
    last.Tracks left := by
  induction evolves with
  | refl => exact start
  | reorder same _ hyp => exact hyp (start.perm same)
  | begin label key now free _ hyp => exact hyp (start.begin label now free)
  | settle id ending _ hyp => exact hyp (start.settle _)

/-- Calls are never forgotten. -/
theorem length_le (evolves : Evolves flight live drops last left) :
    flight.calls.length ≤ last.calls.length := by
  induction evolves with
  | refl => exact Nat.le_refl _
  | reorder _ _ hyp => exact hyp
  | begin label key now _ _ hyp =>
      rw [calls_begin, List.length_append] at hyp
      exact Nat.le_trans (Nat.le_add_right _ _) hyp
  | settle id ending _ hyp =>
      rw [length_calls_settle] at hyp
      exact hyp

/-- A call stays one for its key. -/
theorem isFor {id : CallId} {key : String} (evolves : Evolves flight live drops last left)
    (known : flight.IsFor id key) : last.IsFor id key := by
  induction evolves with
  | refl => exact known
  | reorder _ _ hyp => exact hyp known
  | begin label name now _ _ hyp =>
      apply hyp
      obtain ⟨call, found, same⟩ := known
      have bound := (List.getElem?_eq_some_iff.mp found).1
      exact ⟨call, by rw [calls_begin, List.getElem?_append_left bound, found], same⟩
  | settle other ending _ hyp => exact hyp (known.settle other _)

/-- No call comes to live but a new one. -/
theorem mem_left {id : CallId} (evolves : Evolves flight live drops last left)
    (member : id ∈ left) : id ∈ live ∨ flight.calls.length ≤ id := by
  induction evolves with
  | refl => exact Or.inl member
  | reorder same _ hyp => exact (hyp member).imp_left same.mem_iff.mpr
  | begin label key now _ _ hyp =>
      rcases hyp member with inLive | new
      · rcases List.mem_cons.mp inLive with rfl | old
        · exact Or.inr (Nat.le_refl _)
        · exact Or.inl old
      · rw [calls_begin, List.length_append] at new
        exact Or.inr (Nat.le_trans (Nat.le_add_right _ _) new)
  | settle other ending _ hyp =>
      rcases hyp member with inLive | new
      · exact Or.inl (List.mem_cons_of_mem _ inLive)
      · rw [length_calls_settle] at new
        exact Or.inr new

/-- What followers of a call get does not change any more. -/
theorem answer? {id : CallId} {result : Result α} (evolves : Evolves flight live drops last left)
    (start : flight.Tracks live) (answered : flight.answer? id = some result) :
    last.answer? id = some result := by
  induction evolves with
  | refl => exact answered
  | reorder same _ hyp => exact hyp (start.perm same) answered
  | begin label key now free _ hyp =>
      apply hyp (start.begin label now free)
      have bound := lt_length_of_answer? answered
      rw [← answered]
      exact answer?_congr (by rw [calls_begin, List.getElem?_append_left bound])
  | settle other ending _ hyp =>
      apply hyp (start.settle _)
      obtain ⟨key, running, -⟩ := start.find?_of_live (List.mem_cons_self ..)
      have apart : other ≠ id := by
        rintro rfl
        rw [running.answer?_eq_none] at answered
        cases answered
      obtain ⟨call, found, -, -⟩ := running
      rw [← answered]
      exact answer?_congr (by rw [calls_settle found, List.getElem?_set_ne apart])

end Flight.Evolves

/-! ## Polls and drops -/

/-- Running a plan, whatever else is led. -/
theorem Plan.run_evolves (now : Instant) (words : Words σ) (plan : Plan σ α) (flight : Flight α)
    (rest : List CallId) :
    flight.Evolves rest (plan.drops now words flight) (plan.run now words flight).2
      ((plan.run now words flight).1.led ++ rest) := by
  induction plan generalizing flight rest with
  | finish result => exact .refl flight rest
  | panic message => exact .refl flight rest
  | await name next hyp =>
      unfold Plan.run Plan.drops
      cases words name with
      | none => exact .refl flight rest
      | some word => exact hyp word flight rest
  | call label key work next hypWork hypNext =>
      unfold Plan.run Plan.drops
      cases found : flight.find? key with
      | some id =>
          cases answered : flight.answer? id with
          | none => simp only [answered]; exact .refl flight rest
          | some result => simp only [answered]; exact hypNext result flight rest
      | none =>
          refine .begin label key now found ?_
          -- the work runs with its own call as the innermost of those that are led
          have inner := hypWork (flight.begin label key now).2 (flight.calls.length :: rest)
          simp only [Flight.begin] at inner ⊢
          cases ran : work.run now words
              { calls := flight.calls ++ [⟨label, key, now, .running⟩]
                entries := flight.entries ++ [(key, flight.calls.length)] } with
          | mk progress after =>
              rw [ran] at inner
              cases progress with
              | returned result =>
                  have ended := inner.snoc (.returned result)
                  have onward := hypNext result
                    (after.settle flight.calls.length (some result)) rest
                  simpa using ended.trans onward
              | panicked message => exact inner.snoc .panicked
              | waiting place => simpa [Progress.led, Suspended.led] using inner

/-- Polling a suspended caller, whatever else is led. -/
theorem Suspended.resume_evolves (now : Instant) (words : Words σ) (place : Suspended σ α)
    (flight : Flight α) (rest : List CallId) :
    flight.Evolves (place.led ++ rest) (place.drops now words flight)
      (place.resume now words flight).2 ((place.resume now words flight).1.led ++ rest) := by
  induction place generalizing flight rest with
  | awaiting name next => exact (Plan.await name next).run_evolves now words flight rest
  | following id next =>
      unfold Suspended.resume Suspended.drops
      cases answered : flight.answer? id with
      | none => exact .refl flight rest
      | some result => exact (next result).run_evolves now words flight rest
  | leading id work next hyp =>
      unfold Suspended.resume Suspended.drops
      have inner := hyp flight (id :: rest)
      rw [Suspended.led_leading_append]
      cases ran : work.resume now words flight with
      | mk progress after =>
          rw [ran] at inner
          cases progress with
          | returned result =>
              have ended := inner.snoc (.returned result)
              have onward := (next result).run_evolves now words
                (after.settle id (some result)) rest
              simpa using ended.trans onward
          | panicked message => exact inner.snoc .panicked
          | waiting place => simpa [Progress.led, Suspended.led] using inner

/-- Dropping a suspended caller ends the calls that it leads, innermost first. -/
theorem Suspended.abandon_evolves (place : Suspended σ α) (flight : Flight α)
    (rest : List CallId) :
    flight.Evolves (place.led ++ rest) (place.abandonDrops flight) (place.abandon flight) rest := by
  induction place generalizing rest with
  | awaiting name next => exact .refl flight rest
  | following id next => exact .refl flight rest
  | leading id work next hyp =>
      rw [Suspended.led_leading_append]
      exact (hyp (id :: rest)).snoc .dropped

namespace Caller

theorem poll_evolves (now : Instant) (words : Words σ) (caller : Caller σ α) (flight : Flight α)
    (rest : List CallId) :
    flight.Evolves (caller.led ++ rest) (caller.pollDrops now words flight)
      (caller.poll now words flight).2 ((caller.poll now words flight).1.led ++ rest) := by
  cases caller with
  | unpolled plan =>
      simp only [poll, pollDrops, led_ofProgress]
      exact plan.run_evolves now words flight rest
  | suspended place =>
      simp only [poll, pollDrops, led_ofProgress]
      exact place.resume_evolves now words flight rest
  | returned result => exact .refl flight rest
  | panicked message => exact .refl flight rest
  | dropped => exact .refl flight rest

theorem drop_evolves (caller : Caller σ α) (flight : Flight α) (rest : List CallId) :
    flight.Evolves (caller.led ++ rest) (caller.dropDrops flight)
      (caller.drop flight).2 ((caller.drop flight).1.led ++ rest) := by
  cases caller with
  | unpolled plan => exact .refl flight rest
  | suspended place => exact place.abandon_evolves flight rest
  | returned result => exact .refl flight rest
  | panicked message => exact .refl flight rest
  | dropped => exact .refl flight rest

end Caller

/-! ## Steps and runs -/

namespace Session

/-- What becomes of a caller in a step. -/
def Step.on (now : Instant) (index : Nat) (caller : Caller σ α) (flight : Flight α) :
    Step σ α → Caller σ α
  | .create _ => caller
  | .poll other words => if other = index then (caller.poll now words flight).1 else caller
  | .drop other => if other = index then (caller.drop flight).1 else caller

theorem caller?_onCaller {session : Session σ α} {index : Nat} {caller : Caller σ α}
    (at_ : session.callers[index]? = some caller)
    (other : Nat) (operation : Caller σ α → Flight α → Caller σ α × Flight α) :
    (session.onCaller other operation).callers[index]? =
      some (if other = index then (operation caller session.flight).1 else caller) := by
  by_cases same : other = index
  · subst same
    have bound := (List.getElem?_eq_some_iff.mp at_).1
    simp only [onCaller, at_, List.getElem?_set_self bound, if_true]
  · rw [if_neg same, onCaller]
    split
    · exact at_
    · rw [List.getElem?_set_ne same, at_]

theorem caller?_step {session : Session σ α} {index : Nat} {caller : Caller σ α}
    (at_ : session.callers[index]? = some caller) (now : Instant) (step : Step σ α) :
    (session.step now step).callers[index]? = some (step.on now index caller session.flight) := by
  cases step with
  | create plan =>
      have bound := (List.getElem?_eq_some_iff.mp at_).1
      rw [Session.step, List.getElem?_append_left bound, at_, Step.on]
  | poll other words => exact caller?_onCaller at_ other _
  | drop other => exact caller?_onCaller at_ other _

/-- A caller that has ended stays as it is. -/
theorem Step.on_ended {move : Step σ α} {caller : Caller σ α} (ended : caller.isPending = false)
    (now : Instant) (index : Nat) (flight : Flight α) :
    move.on now index caller flight = caller := by
  cases caller with
  | unpolled plan => cases ended
  | suspended place => cases ended
  | _ => cases move <;> simp only [Step.on, Caller.poll, Caller.drop, ite_self]

/-- What is done to one caller leaves the calls of the others alone. -/
theorem onCaller_evolves {session : Session σ α} {index : Nat} {caller : Caller σ α}
    {operation : Caller σ α → Flight α → Caller σ α × Flight α} {drops : List (GuardDrop α)}
    (at_ : session.callers[index]? = some caller)
    (operates : ∀ rest, session.flight.Evolves (caller.led ++ rest) drops
      (operation caller session.flight).2 ((operation caller session.flight).1.led ++ rest)) :
    session.flight.Evolves session.led drops
      (session.onCaller index operation).flight (session.onCaller index operation).led := by
  obtain ⟨others, before, after⟩ := flatMap_set_perm Caller.led at_
  simp only [onCaller, at_, led]
  have moved := (operates others).trans
    (.reorder (after (operation caller session.flight).1).symm (.refl _ _))
  rw [List.append_nil] at moved
  exact .reorder before moved

theorem step_evolves (now : Instant) (session : Session σ α) (step : Step σ α) :
    session.flight.Evolves session.led (session.stepDrops now step)
      (session.step now step).flight (session.step now step).led := by
  cases step with
  | create plan =>
      have same : (session.step now (.create plan)).led = session.led := by
        simp [Session.step, led, Caller.led]
      rw [same]
      exact .refl _ _
  | poll index words =>
      simp only [Session.step, stepDrops]
      cases at_ : session.callers[index]? with
      | none => simp only [onCaller, at_]; exact .refl _ _
      | some caller =>
          exact onCaller_evolves at_ fun rest =>
            caller.poll_evolves now words session.flight rest
  | drop index =>
      simp only [Session.step, stepDrops]
      cases at_ : session.callers[index]? with
      | none => simp only [onCaller, at_]; exact .refl _ _
      | some caller =>
          exact onCaller_evolves at_ fun rest => caller.drop_evolves session.flight rest

theorem run_cons (session : Session σ α) (now : Instant) (step : Step σ α)
    (rest : List (Instant × Step σ α)) :
    session.run ((now, step) :: rest) = (session.step now step).run rest := rfl

theorem run_append (session : Session σ α) (first later : List (Instant × Step σ α)) :
    session.run (first ++ later) = (session.run first).run later :=
  List.foldl_append

theorem run_evolves (session : Session σ α) (steps : List (Instant × Step σ α)) :
    session.flight.Evolves session.led (session.drops steps)
      (session.run steps).flight (session.run steps).led := by
  induction steps generalizing session with
  | nil => exact .refl _ _
  | cons timed rest hyp =>
      rw [run_cons]
      exact (session.step_evolves timed.1 timed.2).trans (hyp _)

/-- After every run the flight tracks exactly the calls that are led. -/
theorem run_tracks (steps : List (Instant × Step σ α)) :
    ((empty : Session σ α).run steps).flight.Tracks ((empty : Session σ α).run steps).led :=
  (run_evolves empty steps).tracks .empty

end Session

end PeerCache
