/-
Module: PeerCache.Proofs.Flight.Separation
Purpose: Callers of a session for different keys do not interfere with one another.
Main exports:
  Session.keep, Session.partOf, Excerpt.ofSession, Excerpt.Divides, Excerpt.step_excerpt,
  Excerpt.run_excerpt, Session.Apart, Session.keys_do_not_interfere
-/
import PeerCache.Proofs.Flight.Excerpt

/-!
The callers of a session are split into two parts.  Of a run, the steps of one part can be taken
alone (`Session.keep`); callers get new positions by this.  If no key is used by both parts, what
is seen of the part in the run is what is seen of it alone, and its keys have the same entries all
the time.

The run and its part are compared along the run.  One step of the session is either one of the
part, and then the excerpt of the session makes the same step, or it is one of the others, and then
the excerpt stays as it is (`Excerpt.step_excerpt`).  What carries this is that callers of the part
lead and follow calls for kept keys alone, and that no other caller leads such a call
(`Excerpt.Divides`).
-/

namespace PeerCache

variable {σ α : Type}

/-! ## Part of a run -/

namespace Session

/-- A step as it is taken when only some callers are there; none if it is a step of another.  So
many callers have been created before it. -/
def Step.kept? (mine : Nat → Bool) (created : Nat) : Step σ α → Option (Step σ α)
  | .create plan => if mine created then some (.create plan) else none
  | .poll index words => if mine index then some (.poll (placeIn mine index) words) else none
  | .drop index => if mine index then some (.drop (placeIn mine index)) else none

/-- How many callers a step creates. -/
def Step.creates : Step σ α → Nat
  | .create _ => 1
  | .poll _ _ => 0
  | .drop _ => 0

/-- The steps of some callers alone, after so many callers have been created. -/
def keep (mine : Nat → Bool) : Nat → List (Instant × Step σ α) → List (Instant × Step σ α)
  | _, [] => []
  | created, (now, step) :: rest =>
      ((step.kept? mine created).map fun kept => (now, kept)).toList ++
        keep mine (created + step.creates) rest

/-- A sighting, by the position that its caller has among these alone. -/
def moved (mine : Nat → Bool) (sighting : Sighting α) : Sighting α :=
  { sighting with caller := placeIn mine sighting.caller }

/-- What is seen of some callers, by the positions that they have alone. -/
def partOf (mine : Nat → Bool) (sightings : List (Sighting α)) : List (Sighting α) :=
  (sightings.filter fun sighting => mine sighting.caller).map (moved mine)

theorem length_callers_onCaller (session : Session σ α) (index : Nat)
    (operation : Caller σ α → Flight α → Caller σ α × Flight α) :
    (session.onCaller index operation).callers.length = session.callers.length := by
  unfold onCaller
  split
  · rfl
  · exact List.length_set

theorem length_callers_step (session : Session σ α) (now : Instant) (step : Step σ α) :
    (session.step now step).callers.length = session.callers.length + step.creates := by
  cases step with
  | create plan => exact List.length_append
  | poll index words => exact length_callers_onCaller session index _
  | drop index => exact length_callers_onCaller session index _

theorem keep_append (mine : Nat → Bool) (created : Nat) (first later : List (Instant × Step σ α)) :
    keep mine created (first ++ later) = keep mine created first ++
      keep mine (first.foldl (fun count timed => count + timed.2.creates) created) later := by
  induction first generalizing created with
  | nil => rfl
  | cons timed rest hyp =>
      rw [List.cons_append, keep, hyp, keep, List.append_assoc, List.foldl_cons]

theorem partOf_append (mine : Nat → Bool) (first later : List (Sighting α)) :
    partOf mine (first ++ later) = partOf mine first ++ partOf mine later := by
  rw [partOf, List.filter_append, List.map_append]
  rfl

end Session

/-! ## Callers -/

namespace Excerpt

variable {excerpt : Excerpt} {now : Instant} {words : Words σ} {flight : Flight α}
  {rest : List CallId} {caller : Caller σ α}

/-- Every call that the caller leads or waits for is kept. -/
def KeepsCaller (excerpt : Excerpt) (caller : Caller σ α) : Prop :=
  ∀ place, caller = .suspended place → excerpt.Keeps place

/-- No call that the caller leads is kept. -/
def SkipsCaller (excerpt : Excerpt) (caller : Caller σ α) : Prop :=
  ∀ place, caller = .suspended place → excerpt.Skips place

theorem keepsCaller_ofProgress {progress : Progress σ α}
    (keeps : ∀ place, progress = .waiting place → excerpt.Keeps place) :
    excerpt.KeepsCaller (Caller.ofProgress progress) := by
  intro place same
  cases progress with
  | returned result => cases same
  | panicked message => cases same
  | waiting stopped =>
      cases same
      exact keeps place rfl

theorem skipsCaller_ofProgress {progress : Progress σ α}
    (skips : ∀ place, progress = .waiting place → excerpt.Skips place) :
    excerpt.SkipsCaller (Caller.ofProgress progress) := by
  intro place same
  cases progress with
  | returned result => cases same
  | panicked message => cases same
  | waiting stopped =>
      cases same
      exact skips place rfl

/-- What is done to a caller in the excerpt of a flight is what is done to it in the whole. -/
structure MirrorsCaller (excerpt : Excerpt) (whole part : Caller σ α × Flight α)
    (acts seen : List (Act α)) : Prop where
  run : part = (whole.1.renamed excerpt.name, excerpt.ofFlight whole.2)
  acts : seen = acts
  keeps : excerpt.KeepsCaller whole.1

/-- What is done to a caller leaves no trace in the excerpt of the flight. -/
structure HidesCaller (excerpt : Excerpt) (flight : Flight α) (whole : Caller σ α × Flight α) :
    Prop where
  flight : excerpt.ofFlight whole.2 = excerpt.ofFlight flight
  skips : excerpt.SkipsCaller whole.1

theorem Mirrors.ofProgress {whole part : Progress σ α × Flight α} {acts seen : List (Act α)}
    (mirrors : excerpt.Mirrors whole part acts seen) :
    excerpt.MirrorsCaller (Caller.ofProgress whole.1, whole.2)
      (Caller.ofProgress part.1, part.2) acts seen := by
  obtain ⟨rfl, same, keeps⟩ := mirrors
  exact ⟨by rw [Caller.renamed_ofProgress], same, keepsCaller_ofProgress keeps⟩

theorem Hides.ofProgress {whole : Progress σ α × Flight α} (hides : excerpt.Hides flight whole) :
    excerpt.HidesCaller flight (Caller.ofProgress whole.1, whole.2) :=
  ⟨hides.flight, skipsCaller_ofProgress hides.skips⟩

theorem poll_excerpt (tracks : flight.Tracks (caller.led ++ rest))
    (keeps : excerpt.KeepsCaller caller) (sorts : excerpt.Sorts (caller.poll now words flight).2)
    (covers : excerpt.Covers (caller.pollActs now words flight)) :
    excerpt.MirrorsCaller (caller.poll now words flight)
      ((caller.renamed excerpt.name).poll (excerpt.clock now) words (excerpt.ofFlight flight))
      (caller.pollActs now words flight)
      ((caller.renamed excerpt.name).pollActs (excerpt.clock now) words
        (excerpt.ofFlight flight)) := by
  cases caller with
  | unpolled plan => exact (plan.run_excerpt tracks sorts covers).ofProgress
  | suspended place =>
      exact (place.resume_excerpt tracks (keeps place rfl) sorts covers).ofProgress
  | returned result => exact ⟨rfl, rfl, nofun⟩
  | panicked message => exact ⟨rfl, rfl, nofun⟩
  | dropped => exact ⟨rfl, rfl, nofun⟩

theorem poll_skipped (tracks : flight.Tracks (caller.led ++ rest))
    (skips : excerpt.SkipsCaller caller) (sorts : excerpt.Sorts (caller.poll now words flight).2)
    (spares : excerpt.Spares (caller.pollActs now words flight)) :
    excerpt.HidesCaller flight (caller.poll now words flight) := by
  cases caller with
  | unpolled plan => exact (plan.run_skipped tracks sorts spares).ofProgress
  | suspended place =>
      exact (place.resume_skipped tracks (skips place rfl) sorts spares).ofProgress
  | returned result => exact ⟨rfl, nofun⟩
  | panicked message => exact ⟨rfl, nofun⟩
  | dropped => exact ⟨rfl, nofun⟩

theorem drop_excerpt (tracks : flight.Tracks (caller.led ++ rest))
    (keeps : excerpt.KeepsCaller caller) (sorts : excerpt.Sorts (caller.drop flight).2) :
    excerpt.MirrorsCaller (caller.drop flight)
      ((caller.renamed excerpt.name).drop (excerpt.ofFlight flight))
      (caller.dropActs flight)
      ((caller.renamed excerpt.name).dropActs (excerpt.ofFlight flight)) := by
  cases caller with
  | unpolled plan => exact ⟨rfl, rfl, nofun⟩
  | suspended place =>
      obtain ⟨same, acts⟩ := place.abandon_excerpt tracks (keeps place rfl) sorts
      exact ⟨congrArg _ same, acts, nofun⟩
  | returned result => exact ⟨rfl, rfl, nofun⟩
  | panicked message => exact ⟨rfl, rfl, nofun⟩
  | dropped => exact ⟨rfl, rfl, nofun⟩

theorem drop_skipped (tracks : flight.Tracks (caller.led ++ rest))
    (skips : excerpt.SkipsCaller caller) (sorts : excerpt.Sorts (caller.drop flight).2) :
    excerpt.HidesCaller flight (caller.drop flight) := by
  cases caller with
  | unpolled plan => exact ⟨rfl, nofun⟩
  | suspended place =>
      exact ⟨place.abandon_skipped tracks (skips place rfl) sorts, nofun⟩
  | returned result => exact ⟨rfl, nofun⟩
  | panicked message => exact ⟨rfl, nofun⟩
  | dropped => exact ⟨rfl, nofun⟩

/-! ## Sessions -/

/-- The kept callers of a session, on the excerpt of its flight. -/
def ofSession (excerpt : Excerpt) (session : Session σ α) : Session σ α :=
  ⟨excerpt.ofFlight session.flight,
    (select excerpt.callers session.callers).map (Caller.renamed excerpt.name)⟩

/-- Steps, with their times told by the clock. -/
def ofSteps (excerpt : Excerpt) (steps : List (Instant × Session.Step σ α)) :
    List (Instant × Session.Step σ α) :=
  steps.map fun timed => (excerpt.clock timed.1, timed.2)

/-- Kept callers call for kept keys alone, and no other begins a call for one. -/
def Fits (excerpt : Excerpt) (sighting : Sighting α) : Prop :=
  (excerpt.callers sighting.caller = true → excerpt.Covers sighting.acts) ∧
    (excerpt.callers sighting.caller = false → excerpt.Spares sighting.acts)

/-- Kept callers lead and follow kept calls alone, and no other leads one. -/
structure Divides (excerpt : Excerpt) (session : Session σ α) : Prop where
  tracks : session.flight.Tracks session.led
  keeps : ∀ index caller, session.callers[index]? = some caller →
    excerpt.callers index = true → excerpt.KeepsCaller caller
  skips : ∀ index caller, session.callers[index]? = some caller →
    excerpt.callers index = false → excerpt.SkipsCaller caller

variable {session : Session σ α} {index : Nat}

theorem divides_empty (excerpt : Excerpt) : excerpt.Divides (Session.empty : Session σ α) where
  tracks := .empty
  keeps index caller at_ := by cases at_
  skips index caller at_ := by cases at_

theorem caller?_ofSession (keeps : excerpt.callers index = true) :
    (excerpt.ofSession session).callers[placeIn excerpt.callers index]? =
      session.callers[index]?.map (Caller.renamed excerpt.name) := by
  rw [ofSession, List.getElem?_map, getElem?_select keeps]

theorem ofSession_onCaller {operation mirrored : Caller σ α → Flight α → Caller σ α × Flight α}
    (keeps : excerpt.callers index = true) (at_ : session.callers[index]? = some caller)
    (same : mirrored (caller.renamed excerpt.name) (excerpt.ofFlight session.flight) =
      ((operation caller session.flight).1.renamed excerpt.name,
        excerpt.ofFlight (operation caller session.flight).2)) :
    (excerpt.ofSession session).onCaller (placeIn excerpt.callers index) mirrored =
      excerpt.ofSession (session.onCaller index operation) := by
  have kept : (excerpt.ofSession session).callers[placeIn excerpt.callers index]? = _ :=
    caller?_ofSession keeps
  rw [at_, Option.map_some] at kept
  have seen : mirrored (caller.renamed excerpt.name) (excerpt.ofSession session).flight = _ := same
  simp only [Session.onCaller, kept, at_, seen]
  simp only [ofSession, select_set, keeps, if_true, List.map_set]

theorem ofSession_onCaller_skipped {operation : Caller σ α → Flight α → Caller σ α × Flight α}
    (skips : excerpt.callers index = false) (at_ : session.callers[index]? = some caller)
    (same : excerpt.ofFlight (operation caller session.flight).2 =
      excerpt.ofFlight session.flight) :
    excerpt.ofSession (session.onCaller index operation) = excerpt.ofSession session := by
  simp only [Session.onCaller, at_, ofSession, same, select_set, skips, Bool.false_eq_true,
    if_false]

/-- What is done to one caller keeps the parts divided, if that caller fits where it belongs. -/
theorem Divides.onCaller {operation : Caller σ α → Flight α → Caller σ α × Flight α}
    (divides : excerpt.Divides session)
    (tracks : (session.onCaller index operation).flight.Tracks
      (session.onCaller index operation).led)
    (at_ : session.callers[index]? = some caller)
    (keeps : excerpt.callers index = true →
      excerpt.KeepsCaller (operation caller session.flight).1)
    (skips : excerpt.callers index = false →
      excerpt.SkipsCaller (operation caller session.flight).1) :
    excerpt.Divides (session.onCaller index operation) := by
  have others : ∀ position other, (session.onCaller index operation).callers[position]? =
      some other → session.callers[position]? = some other ∨
        position = index ∧ other = (operation caller session.flight).1 := by
    intro position other found
    simp only [Session.onCaller, at_] at found
    by_cases same : index = position
    · subst same
      have bound := (List.getElem?_eq_some_iff.mp at_).1
      rw [List.getElem?_set_self bound, Option.some.injEq] at found
      exact Or.inr ⟨rfl, found.symm⟩
    · rw [List.getElem?_set_ne same] at found
      exact Or.inl found
  refine ⟨tracks, ?_, ?_⟩
  · intro position other found kept
    rcases others position other found with old | ⟨rfl, rfl⟩
    · exact divides.keeps position other old kept
    · exact keeps kept
  · intro position other found skipped
    rcases others position other found with old | ⟨rfl, rfl⟩
    · exact divides.skips position other old skipped
    · exact skips skipped

variable {step : Session.Step σ α}

/-- The calls of a caller are among those that the flight tracks. -/
theorem Divides.tracks_caller (divides : excerpt.Divides session)
    (at_ : session.callers[index]? = some caller) :
    ∃ others, session.flight.Tracks (caller.led ++ others) := by
  obtain ⟨others, before, -⟩ := flatMap_set_perm Caller.led at_
  exact ⟨others, divides.tracks.perm before⟩

theorem onCaller_of_absent (absent : session.callers[index]? = none)
    (operation : Caller σ α → Flight α → Caller σ α × Flight α) :
    session.onCaller index operation = session := by
  simp only [Session.onCaller, absent]

theorem flight_onCaller (at_ : session.callers[index]? = some caller)
    (operation : Caller σ α → Flight α → Caller σ α × Flight α) :
    (session.onCaller index operation).flight = (operation caller session.flight).2 := by
  simp only [Session.onCaller, at_]

/-- What is done to a caller of a session is done to the caller of the excerpt too if it is kept,
and looks the same; if it is not kept, it does not show there. -/
structure Acts (excerpt : Excerpt) (session next part : Session σ α) (index : Nat)
    (sighting seen : Option (Sighting α)) : Prop where
  divides : excerpt.Divides next
  keeps : excerpt.callers index = true → part = excerpt.ofSession next ∧
    seen = sighting.map (Session.moved excerpt.callers)
  skips : excerpt.callers index = false → excerpt.ofSession next = excerpt.ofSession session
  caller : ∀ shown, sighting = some shown → shown.caller = index

theorem Divides.actOn {operation mirrored : Caller σ α → Flight α → Caller σ α × Flight α}
    {acts seen : Caller σ α → Flight α → List (Act α)} (divides : excerpt.Divides session)
    (tracks : (session.onCaller index operation).flight.Tracks
      (session.onCaller index operation).led)
    (mirrors : ∀ caller, session.callers[index]? = some caller → excerpt.callers index = true →
      excerpt.MirrorsCaller (operation caller session.flight)
        (mirrored (caller.renamed excerpt.name) (excerpt.ofFlight session.flight))
        (acts caller session.flight)
        (seen (caller.renamed excerpt.name) (excerpt.ofFlight session.flight)))
    (hides : ∀ caller, session.callers[index]? = some caller → excerpt.callers index = false →
      excerpt.HidesCaller session.flight (operation caller session.flight)) :
    excerpt.Acts session (session.onCaller index operation)
      ((excerpt.ofSession session).onCaller (placeIn excerpt.callers index) mirrored) index
      (session.sightOn index operation acts)
      ((excerpt.ofSession session).sightOn (placeIn excerpt.callers index) mirrored seen) := by
  cases at_ : session.callers[index]? with
  | none =>
      rw [onCaller_of_absent at_]
      refine ⟨divides, ?_, fun _ => rfl, ?_⟩
      · intro keeps
        have absent :
            (excerpt.ofSession session).callers[placeIn excerpt.callers index]? = none := by
          rw [caller?_ofSession keeps, at_, Option.map_none]
        rw [onCaller_of_absent absent]
        simp only [Session.sightOn, absent, at_, Option.map_none, and_self]
      · intro shown seen
        simp only [Session.sightOn, at_, Option.map_none, reduceCtorEq] at seen
  | some caller =>
      have mirrors := mirrors caller at_
      have hides := hides caller at_
      refine ⟨divides.onCaller tracks at_ (fun keeps => (mirrors keeps).keeps)
        (fun skips => (hides skips).skips), ?_, ?_, ?_⟩
      · intro keeps
        refine ⟨ofSession_onCaller keeps at_ (mirrors keeps).run, ?_⟩
        have acts := (mirrors keeps).acts
        have report : (mirrored (caller.renamed excerpt.name)
            (excerpt.ofFlight session.flight)).1.report =
              (operation caller session.flight).1.report := by
          rw [(mirrors keeps).run]
          exact Caller.report_renamed _ _
        simp only [Session.sightOn, caller?_ofSession keeps, at_]
        simp only [Option.map_some, ofSession, acts, report, Session.moved]
      · intro skips
        exact ofSession_onCaller_skipped skips at_ (hides skips).flight
      · intro shown seen
        simp only [Session.sightOn, at_, Option.map_some, Option.some.injEq] at seen
        rw [← seen]

/-- A poll of a caller, in the whole and in the excerpt. -/
theorem Divides.poll (now : Instant) (words : Words σ) (index : Nat)
    (divides : excerpt.Divides session)
    (sorts : excerpt.Sorts (session.step now (.poll index words)).flight)
    (fits : ∀ sighting, session.sight now (.poll index words) = some sighting →
      excerpt.Fits sighting) :
    excerpt.Acts session (session.step now (.poll index words))
      ((excerpt.ofSession session).step (excerpt.clock now)
        (.poll (placeIn excerpt.callers index) words)) index
      (session.sight now (.poll index words))
      ((excerpt.ofSession session).sight (excerpt.clock now)
        (.poll (placeIn excerpt.callers index) words)) := by
  have tracks := (session.step_evolves now (.poll index words)).tracks divides.tracks
  simp only [Session.step, Session.sight] at tracks fits ⊢
  apply divides.actOn tracks
  · intro caller at_ keeps
    obtain ⟨others, tracks⟩ := divides.tracks_caller at_
    have sorted : excerpt.Sorts (caller.poll now words session.flight).2 :=
      flight_onCaller at_ (Caller.poll now words) ▸ sorts
    have fit := fits _ (Session.sightOn_of_present at_ _ _)
    exact poll_excerpt tracks (divides.keeps index caller at_ keeps) sorted (fit.1 keeps)
  · intro caller at_ skips
    obtain ⟨others, tracks⟩ := divides.tracks_caller at_
    have sorted : excerpt.Sorts (caller.poll now words session.flight).2 :=
      flight_onCaller at_ (Caller.poll now words) ▸ sorts
    have fit := fits _ (Session.sightOn_of_present at_ _ _)
    exact poll_skipped tracks (divides.skips index caller at_ skips) sorted (fit.2 skips)

/-- A drop of a caller, in the whole and in the excerpt. -/
theorem Divides.drop (now : Instant) (index : Nat) (divides : excerpt.Divides session)
    (sorts : excerpt.Sorts (session.step now (.drop index)).flight) :
    excerpt.Acts session (session.step now (.drop index))
      ((excerpt.ofSession session).step (excerpt.clock now)
        (.drop (placeIn excerpt.callers index))) index
      (session.sight now (.drop index))
      ((excerpt.ofSession session).sight (excerpt.clock now)
        (.drop (placeIn excerpt.callers index))) := by
  have tracks := (session.step_evolves now (.drop index)).tracks divides.tracks
  simp only [Session.step, Session.sight] at tracks ⊢
  apply divides.actOn tracks
  · intro caller at_ keeps
    obtain ⟨others, tracks⟩ := divides.tracks_caller at_
    exact drop_excerpt tracks (divides.keeps index caller at_ keeps)
      (flight_onCaller at_ Caller.drop ▸ sorts)
  · intro caller at_ skips
    obtain ⟨others, tracks⟩ := divides.tracks_caller at_
    exact drop_skipped tracks (divides.skips index caller at_ skips)
      (flight_onCaller at_ Caller.drop ▸ sorts)

/-- A caller that comes has no calls, wherever it belongs. -/
theorem Divides.create (now : Instant) (plan : Plan σ α) (divides : excerpt.Divides session) :
    excerpt.Divides (session.step now (.create plan)) := by
  have others : ∀ (index : Nat) (caller : Caller σ α),
      (session.step now (.create plan)).callers[index]? = some caller →
        session.callers[index]? = some caller ∨ caller = Caller.unpolled plan := by
    intro index caller found
    simp only [Session.step, List.getElem?_append] at found
    split at found
    · exact Or.inl found
    · rw [List.getElem?_singleton] at found
      split at found
      · exact Or.inr (Option.some.inj found).symm
      · cases found
  refine ⟨(session.step_evolves now (.create plan)).tracks divides.tracks, ?_, ?_⟩
  · intro index caller found kept
    rcases others index caller found with old | rfl
    · exact divides.keeps index caller old kept
    · intro place waits
      cases waits
  · intro index caller found skipped
    rcases others index caller found with old | rfl
    · exact divides.skips index caller old skipped
    · intro place waits
      cases waits

/-- The excerpt of a session to which a caller comes. -/
theorem ofSession_create (excerpt : Excerpt) (session : Session σ α) (now : Instant)
    (plan : Plan σ α) :
    excerpt.ofSession (session.step now (.create plan)) =
      if excerpt.callers session.callers.length
      then (excerpt.ofSession session).step (excerpt.clock now) (.create plan)
      else excerpt.ofSession session := by
  simp only [ofSession, Session.step, select_append_singleton]
  cases excerpt.callers session.callers.length with
  | false => simp
  | true => simp [Caller.renamed]

/-- What is done in a step, in the whole and in the excerpt, where the step is that of a caller. -/
theorem Acts.shown {now : Instant} {kept : Session.Step σ α}
    (acts : excerpt.Acts session (session.step now step)
      ((excerpt.ofSession session).step (excerpt.clock now) kept) index
      (session.sight now step) ((excerpt.ofSession session).sight (excerpt.clock now) kept))
    (only : step.kept? excerpt.callers session.callers.length =
      if excerpt.callers index then some kept else none) :
    let steps := excerpt.ofSteps (Session.keep excerpt.callers session.callers.length [(now, step)])
    (excerpt.ofSession session).run steps = excerpt.ofSession (session.step now step) ∧
      (excerpt.ofSession session).watch steps =
        Session.partOf excerpt.callers (session.sight now step).toList := by
  intro steps
  cases keeps : excerpt.callers index with
  | false =>
      have idle : steps = [] := by
        simp only [steps, Session.keep, only, keeps, Bool.false_eq_true, if_false]
        rfl
      have unseen : Session.partOf excerpt.callers (session.sight now step).toList = [] := by
        cases shown : session.sight now step with
        | none => rfl
        | some sighting =>
            have caller := acts.caller sighting shown
            simp [Session.partOf, caller, keeps]
      rw [idle, unseen]
      exact ⟨(acts.skips keeps).symm, rfl⟩
  | true =>
      have only_ : steps = [(excerpt.clock now, kept)] := by
        simp only [steps, Session.keep, only, keeps, if_true]
        rfl
      obtain ⟨next, seen⟩ := acts.keeps keeps
      rw [only_]
      refine ⟨next, ?_⟩
      rw [Session.watch, Session.watch, seen, List.append_nil]
      cases shown : session.sight now step with
      | none => rfl
      | some sighting =>
          have caller := acts.caller sighting shown
          simp [Session.partOf, caller, keeps]

/-- A step is made in the excerpt too if it is one of a kept caller, and looks the same there; and
if it is not, it does not show there. -/
theorem step_excerpt (now : Instant) (divides : excerpt.Divides session)
    (sorts : excerpt.Sorts (session.step now step).flight)
    (fits : ∀ sighting, session.sight now step = some sighting → excerpt.Fits sighting) :
    let kept := excerpt.ofSteps (Session.keep excerpt.callers session.callers.length [(now, step)])
    excerpt.Divides (session.step now step) ∧
      (excerpt.ofSession session).run kept = excerpt.ofSession (session.step now step) ∧
      (excerpt.ofSession session).watch kept =
        Session.partOf excerpt.callers (session.sight now step).toList := by
  cases step with
  | create plan =>
      refine ⟨divides.create now plan, ?_⟩
      rw [ofSession_create, Session.keep, Session.keep, Session.Step.kept?]
      cases excerpt.callers session.callers.length with
      | false => exact ⟨rfl, rfl⟩
      | true => exact ⟨rfl, rfl⟩
  | poll index words =>
      have acts := divides.poll now words index sorts fits
      exact ⟨acts.divides, acts.shown rfl⟩
  | drop index =>
      have acts := divides.drop now index sorts
      exact ⟨acts.divides, acts.shown rfl⟩

/-- A run of a divided session, and the steps of the kept callers alone. -/
theorem run_excerpt (steps : List (Instant × Session.Step σ α)) (divides : excerpt.Divides session)
    (sorts : excerpt.Sorts (session.run steps).flight)
    (fits : ∀ sighting ∈ session.watch steps, excerpt.Fits sighting) :
    let kept := excerpt.ofSteps (Session.keep excerpt.callers session.callers.length steps)
    (excerpt.ofSession session).run kept = excerpt.ofSession (session.run steps) ∧
      (excerpt.ofSession session).watch kept =
        Session.partOf excerpt.callers (session.watch steps) := by
  induction steps generalizing session with
  | nil => exact ⟨rfl, rfl⟩
  | cons timed rest hyp =>
      obtain ⟨now, step⟩ := timed
      have sortsStep : excerpt.Sorts (session.step now step).flight :=
        sorts.of_evolves ((session.step now step).run_evolves rest)
      have fitsStep : ∀ sighting, session.sight now step = some sighting →
          excerpt.Fits sighting := by
        intro sighting shown
        apply fits
        rw [Session.watch, shown]
        exact List.mem_append_left _ (List.mem_singleton_self _)
      obtain ⟨next, run, watch⟩ := step_excerpt now divides sortsStep fitsStep
      have fitsRest : ∀ sighting ∈ (session.step now step).watch rest, excerpt.Fits sighting :=
        fun sighting shown => fits sighting (List.mem_append_right _ shown)
      obtain ⟨runRest, watchRest⟩ := hyp next sorts fitsRest
      have split : Session.keep excerpt.callers session.callers.length ((now, step) :: rest) =
          Session.keep excerpt.callers session.callers.length [(now, step)] ++
            Session.keep excerpt.callers (session.step now step).callers.length rest := by
        rw [Session.length_callers_step, Session.keep, Session.keep, Session.keep, List.append_nil]
      dsimp only
      rw [split, ofSteps, List.map_append, Session.run_append, Session.watch_append, Session.watch,
        Session.partOf_append]
      change ((excerpt.ofSession session).run (excerpt.ofSteps _)).run (excerpt.ofSteps _) = _ ∧
        (excerpt.ofSession session).watch (excerpt.ofSteps _) ++
          ((excerpt.ofSession session).run (excerpt.ofSteps _)).watch (excerpt.ofSteps _) = _
      rw [run, watch, runRest, watchRest]
      exact ⟨rfl, rfl⟩

end Excerpt

/-! ## Two parts of a run -/

/-- A call, whenever it was begun. -/
def Call.undated (call : Call α) : Call α :=
  { call with created := .epoch }

namespace Session

/-- No caller of one part calls for a key for which a caller of the other part calls; work that a
caller runs is part of what it does. -/
def Apart (mine : Nat → Bool) (sightings : List (Sighting α)) : Prop :=
  ∀ one ∈ sightings, ∀ other ∈ sightings, mine one.caller = true → mine other.caller = false →
    ∀ key ∈ one.keys, key ∉ other.keys

/-- Some caller of the part calls for the key. -/
def Uses (mine : Nat → Bool) (sightings : List (Sighting α)) (key : String) : Prop :=
  ∃ sighting ∈ sightings, mine sighting.caller = true ∧ key ∈ sighting.keys

/-- Some callers and some keys are in one session what they are in another that has other callers
and other keys too; only, calls have other names, and may have been begun at other times. -/
structure Resembles (part whole : Session σ α) (mine : Nat → Bool) (uses : String → Prop)
    (name : CallId → CallId) : Prop where
  callers : ∀ index, mine index = true →
    part.callers[placeIn mine index]? = whole.callers[index]?.map (Caller.renamed name)
  entries : ∀ key, uses key → part.flight.find? key = (whole.flight.find? key).map name
  calls : ∀ key id, uses key → whole.flight.IsFor id key →
    part.flight.calls[name id]?.map Call.undated = whole.flight.calls[id]?.map Call.undated
  /-- Different calls have different names. -/
  distinct : ∀ key other one two, uses key → uses other → whole.flight.IsFor one key →
    whole.flight.IsFor two other → name one = name two → one = two

/-- All steps are those of the callers, whoever they are. -/
theorem keep_all (created : Nat) (steps : List (Instant × Step σ α)) :
    keep (fun _ => true) created steps = steps := by
  induction steps generalizing created with
  | nil => rfl
  | cons timed rest hyp =>
      obtain ⟨now, step⟩ := timed
      have same : step.kept? (fun _ => true) created = some step := by
        cases step <;> simp [Step.kept?]
      rw [keep, same, hyp]
      rfl

theorem partOf_all (sightings : List (Sighting α)) :
    partOf (fun _ => true) sightings = sightings := by
  have same : (moved fun _ => true : Sighting α → Sighting α) = id := by
    funext sighting
    simp [moved]
  rw [partOf, same, List.map_id, List.filter_true]

end Session

namespace Excerpt

variable {mine : Nat → Bool} {uses : String → Prop}

/-- Some callers and the calls of a flight for their keys, whenever these were begun. -/
noncomputable def ofPart (mine : Nat → Bool) (uses : String → Prop) (flight : Flight α) :
    Excerpt :=
  open Classical in
  { callers := mine
    keys := fun key => decide (uses key)
    calls := fun id => decide (∃ key, flight.IsFor id key ∧ uses key)
    clock := fun _ => .epoch }

/-- The whole of a session, whenever its calls were begun. -/
def undated : Excerpt where
  callers _ := true
  keys _ := true
  calls _ := true
  clock _ := .epoch

theorem name_undated : undated.name = id := by
  funext call
  exact placeIn_all call

theorem sorts_ofPart (mine : Nat → Bool) (uses : String → Prop) (flight : Flight α) :
    (ofPart mine uses flight).Sorts flight := by
  intro id key known
  apply decide_eq_decide.mpr
  constructor
  · rintro ⟨other, knownToo, used⟩
    exact known.key_unique knownToo ▸ used
  · intro used
    exact ⟨key, known, used⟩

/-- Parts that are apart fit the excerpt with the keys of the one. -/
theorem fits_ofPart {sightings : List (Sighting α)} (apart : Session.Apart mine sightings)
    (flight : Flight α) :
    ∀ sighting ∈ sightings, (ofPart mine (Session.Uses mine sightings) flight).Fits sighting := by
  classical
  intro sighting shown
  constructor
  · intro kept act done key calls
    apply decide_eq_true
    exact ⟨sighting, shown, kept, List.mem_filterMap.mpr ⟨act, done, calls⟩⟩
  · intro skipped act done key leads
    apply decide_eq_false
    rintro ⟨other, shownToo, kept, used⟩
    apply apart other shownToo sighting shown kept skipped key used
    exact List.mem_filterMap.mpr ⟨act, done, Act.calledKey?_of_ledKey? leads⟩

/-- A run, whenever its steps were made. -/
theorem run_undated (steps : List (Instant × Session.Step σ α)) :
    (Session.empty : Session σ α).run (undated.ofSteps steps) =
        undated.ofSession ((Session.empty : Session σ α).run steps) ∧
      (Session.empty : Session σ α).watch (undated.ofSteps steps) =
        (Session.empty : Session σ α).watch steps := by
  have sorts : undated.Sorts ((Session.empty : Session σ α).run steps).flight :=
    fun _ _ _ => rfl
  have fits : ∀ sighting ∈ (Session.empty : Session σ α).watch steps, undated.Fits sighting :=
    fun _ _ => ⟨fun _ _ _ _ _ => rfl, nofun⟩
  have ran := run_excerpt steps (divides_empty undated) sorts fits
  simp only [undated, Session.keep_all, Session.partOf_all] at ran
  exact ran

/-- A run of which one part is apart from the rest, and the steps of that part alone, whenever
these are made. -/
theorem run_ofPart {first later : List (Instant × Session.Step σ α)}
    (apart : Session.Apart mine ((Session.empty : Session σ α).watch (first ++ later)))
    {alone : List (Instant × Session.Step σ α)}
    (same : alone.map Prod.snd = (Session.keep mine 0 first).map Prod.snd) :
    let whole := (Session.empty : Session σ α).run first
    let uses := Session.Uses mine ((Session.empty : Session σ α).watch (first ++ later))
    undated.ofSession ((Session.empty : Session σ α).run alone) =
        (ofPart mine uses whole.flight).ofSession whole ∧
      (Session.empty : Session σ α).watch alone =
        Session.partOf mine ((Session.empty : Session σ α).watch first) := by
  intro whole uses
  have fits : ∀ sighting ∈ (Session.empty : Session σ α).watch first,
      (ofPart mine uses whole.flight).Fits sighting := by
    intro sighting shown
    apply fits_ofPart apart whole.flight
    rw [Session.watch_append]
    exact List.mem_append_left _ shown
  obtain ⟨ran, watched⟩ := run_excerpt first (divides_empty (ofPart mine uses whole.flight))
    (sorts_ofPart mine uses whole.flight) fits
  -- both are told by the same clock, which stands still
  have steps : undated.ofSteps alone =
      (ofPart mine uses whole.flight).ofSteps (Session.keep mine 0 first) := by
    have at_ : ∀ list : List (Instant × Session.Step σ α),
        list.map (fun timed => (Instant.epoch, timed.2)) =
          (list.map Prod.snd).map fun step => (Instant.epoch, step) := by
      intro list
      rw [List.map_map]
      rfl
    exact (at_ alone).trans ((congrArg _ same).trans (at_ _).symm)
  obtain ⟨ranAlone, watchedAlone⟩ := run_undated alone
  rw [steps] at ranAlone watchedAlone
  exact ⟨ranAlone.symm.trans ran, watchedAlone.symm.trans watched⟩

/-- Two sessions are alike in the part that is kept if they look the same to a clock that stands
still. -/
theorem resembles_of_excerpt {part whole : Session σ α}
    (same : undated.ofSession part = (ofPart mine uses whole.flight).ofSession whole) :
    part.Resembles whole mine uses (ofPart mine uses whole.flight).name := by
  classical
  have callers : (undated.ofSession part).callers =
      ((ofPart mine uses whole.flight).ofSession whole).callers := congrArg Session.callers same
  have flights : undated.ofFlight part.flight =
      (ofPart mine uses whole.flight).ofFlight whole.flight := congrArg Session.flight same
  have kept : ∀ {key id}, uses key → whole.flight.IsFor id key →
      (ofPart mine uses whole.flight).calls id = true := by
    intro key id used known
    rw [sorts_ofPart mine uses whole.flight id key known]
    exact decide_eq_true used
  constructor
  · intro index keeps
    have found : ((ofPart mine uses whole.flight).ofSession whole).callers[placeIn mine index]? =
      _ := caller?_ofSession keeps
    rw [← callers] at found
    have alone : (undated.ofSession part).callers = part.callers := by
      have unnamed : Caller.renamed (undated.name) = (id : Caller σ α → Caller σ α) := by
        rw [name_undated]
        exact funext Caller.renamed_id
      rw [ofSession, unnamed, List.map_id]
      exact select_all part.callers
    rw [← alone]
    exact found
  · intro key used
    have found : ((ofPart mine uses whole.flight).ofFlight whole.flight).find? key =
      _ := find?_ofFlight (decide_eq_true used)
    have foundAlone : (undated.ofFlight part.flight).find? key = _ := find?_ofFlight rfl
    rw [name_undated, Option.map_id] at foundAlone
    rw [← found, ← flights, foundAlone, id]
  · intro key id used known
    have found : ((ofPart mine uses whole.flight).ofFlight whole.flight).calls[
      (ofPart mine uses whole.flight).name id]? = _ := call?_ofFlight (kept used known)
    have foundAlone : ∀ id, (undated.ofFlight part.flight).calls[undated.name id]? = _ :=
      fun id => call?_ofFlight rfl
    rw [name_undated] at foundAlone
    rw [← flights] at found
    exact (foundAlone _).symm.trans found
  · intro key other one two usedOne usedTwo knownOne knownTwo same
    exact placeIn_injective (kept usedOne knownOne) (kept usedTwo knownTwo) same

end Excerpt

namespace Session

/-- Let the callers of a run be split into two parts, so that no key is used by both.  Take the
steps of one part alone, at whatever times.  What is seen of that part is then what is seen of it
in the whole run: which calls it leads and which it follows, when its work begins and how it ends,
and what each of its polls and drops brings.  And after each of its steps the callers of the part
stand where they stand in the whole run, and the entries of its keys are the same, but for the
names of calls and the times at which they were begun. -/
theorem keys_do_not_interfere (mine : Nat → Bool) (first later alone : List (Instant × Step σ α))
    (apart : Apart mine ((empty : Session σ α).watch (first ++ later)))
    (same : alone.map Prod.snd = (keep mine 0 (first ++ later)).map Prod.snd) :
    (empty : Session σ α).watch alone =
        partOf mine ((empty : Session σ α).watch (first ++ later)) ∧
      ∃ name, ((empty : Session σ α).run (alone.take (keep mine 0 first).length)).Resembles
        ((empty : Session σ α).run first) mine
        (Uses mine ((empty : Session σ α).watch (first ++ later))) name := by
  constructor
  · have all : first ++ later ++ [] = first ++ later := List.append_nil _
    rw [← all] at apart
    exact (Excerpt.run_ofPart apart same).2
  · have begins : (alone.take (keep mine 0 first).length).map Prod.snd =
        (keep mine 0 first).map Prod.snd := by
      rw [List.map_take, same, keep_append, List.map_append, ← List.length_map Prod.snd]
      exact List.take_left
    exact ⟨_, Excerpt.resembles_of_excerpt (Excerpt.run_ofPart apart begins).1⟩

/-- Two callers for the key "a", whose work calls for "b", and between them one for "c" that panics
and one for "d" that is dropped. -/
theorem nested_calls_beside_a_panic :
    let inner : Plan Unit Nat :=
      .call "inner" "b" (.await "gate" fun _ => .finish (.ok 1)) .finish
    let outer : Plan Unit Nat := .call "outer" "a" inner .finish
    let failing : Plan Unit Nat := .call "failing" "c" (.panic "boom") .finish
    let stuck : Plan Unit Nat := .call "stuck" "d" (.await "never" fun _ => .finish (.ok 2)) .finish
    let mine := fun index : Nat => index == 0 || index == 3
    let closed : Words Unit := fun _ => none
    let opened : Words Unit := fun name => if name = "gate" then some () else none
    let first : List (Instant × Step Unit Nat) :=
      [(⟨1⟩, .create outer), (⟨2⟩, .create failing), (⟨3⟩, .create stuck), (⟨4⟩, .poll 2 closed),
        (⟨5⟩, .poll 0 closed), (⟨6⟩, .poll 1 closed), (⟨7⟩, .create outer), (⟨8⟩, .poll 3 closed)]
    let later : List (Instant × Step Unit Nat) :=
      [(⟨9⟩, .drop 2), (⟨10⟩, .poll 0 opened), (⟨11⟩, .poll 3 closed)]
    let alone : List (Instant × Step Unit Nat) :=
      [(⟨1⟩, .create outer), (⟨1⟩, .poll 0 closed), (⟨2⟩, .create outer), (⟨3⟩, .poll 1 closed),
        (⟨4⟩, .poll 0 opened), (⟨4⟩, .poll 1 closed)]
    Apart mine ((empty : Session Unit Nat).watch (first ++ later)) ∧
      alone.map Prod.snd = (keep mine 0 (first ++ later)).map Prod.snd ∧
      (empty : Session Unit Nat).watch alone =
        partOf mine ((empty : Session Unit Nat).watch (first ++ later)) ∧
      ∃ name, ((empty : Session Unit Nat).run (alone.take (keep mine 0 first).length)).Resembles
        ((empty : Session Unit Nat).run first) mine
        (Uses mine ((empty : Session Unit Nat).watch (first ++ later))) name := by
  intro inner outer failing stuck mine closed opened first later alone
  have apart : Apart mine ((empty : Session Unit Nat).watch (first ++ later)) := by
    unfold Apart
    decide
  have same : alone.map Prod.snd = (keep mine 0 (first ++ later)).map Prod.snd := rfl
  exact ⟨apart, same, keys_do_not_interfere mine first later alone apart same⟩

end Session

end PeerCache
