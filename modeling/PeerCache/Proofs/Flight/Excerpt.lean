/-
Module: PeerCache.Proofs.Flight.Excerpt
Purpose: Some callers of a session and the calls for their keys, as if there were no others.
Main exports:
  select, placeIn, Excerpt, Excerpt.Sorts, Excerpt.ofFlight,
  Suspended.renamed, Plan.run_excerpt, Suspended.resume_excerpt, Plan.run_skipped,
  Suspended.resume_skipped
-/
import Mathlib.Data.Nat.Count
import PeerCache.Proofs.Flight.Sightings

/-!
An excerpt of a session keeps some of its callers, some of its keys and the calls for these keys.
What is left gets new positions, and a caller or a call is renamed with its position; times may be
told by another clock.

Two facts carry everything else.  Whoever calls for kept keys alone sees no difference between a
flight and its excerpt: whatever it does to the one, it does to the other (`Plan.run_excerpt`).
And whoever leads no call for a kept key changes nothing in the excerpt (`Plan.run_skipped`);
joining a call is no change.
-/

namespace PeerCache

/-! ## Positions that are kept -/

section Selection

variable {β : Type} {kept : Nat → Bool}

/-- The elements at the positions that are kept. -/
def select (kept : Nat → Bool) (list : List β) : List β :=
  (list.zipIdx.filter fun entry => kept entry.2).map Prod.fst

/-- Where a position comes to stand among those that are kept. -/
def placeIn (kept : Nat → Bool) (index : Nat) : Nat :=
  Nat.count (fun position => kept position = true) index

theorem select_append_singleton (kept : Nat → Bool) (list : List β) (element : β) :
    select kept (list ++ [element]) =
      select kept list ++ if kept list.length then [element] else [] := by
  simp only [select, List.zipIdx_append, List.filter_append, List.map_append, List.zipIdx_singleton,
    Nat.zero_add]
  cases keeps : kept list.length with
  | false => simp [keeps]
  | true => simp [keeps]

theorem placeIn_succ (kept : Nat → Bool) (index : Nat) :
    placeIn kept (index + 1) = placeIn kept index + if kept index then 1 else 0 :=
  Nat.count_succ ..

theorem length_select (kept : Nat → Bool) (list : List β) :
    (select kept list).length = placeIn kept list.length := by
  induction list using List.reverseRecOn with
  | nil => rfl
  | append_singleton front last hyp =>
      rw [select_append_singleton, List.length_append, hyp, List.length_append,
        List.length_singleton, placeIn_succ]
      cases kept front.length <;> rfl

/-- Two positions that are kept come to stand at different places. -/
theorem placeIn_injective {one two : Nat} (first : kept one = true) (second : kept two = true)
    (same : placeIn kept one = placeIn kept two) : one = two :=
  Nat.count_injective first second same

theorem placeIn_mono (kept : Nat → Bool) {one two : Nat} (before : one ≤ two) :
    placeIn kept one ≤ placeIn kept two :=
  Nat.count_monotone _ before

theorem placeIn_lt {one two : Nat} (first : kept one = true) (before : one < two) :
    placeIn kept one < placeIn kept two :=
  Nat.count_strict_mono first before

theorem getElem?_select {index : Nat} (keeps : kept index = true) (list : List β) :
    (select kept list)[placeIn kept index]? = list[index]? := by
  induction list using List.reverseRecOn with
  | nil => rfl
  | append_singleton front last hyp =>
      rw [select_append_singleton]
      rcases Nat.lt_trichotomy index front.length with before | rfl | after
      · have bound : placeIn kept index < (select kept front).length := by
          rw [length_select]
          exact placeIn_lt keeps before
        rw [List.getElem?_append_left bound, hyp, List.getElem?_append_left before]
      · have place : placeIn kept front.length = (select kept front).length :=
          (length_select kept front).symm
        rw [keeps, if_pos rfl, place, List.getElem?_concat_length, List.getElem?_concat_length]
      · have beyond : (front ++ [last]).length ≤ index := by
          rw [List.length_append, List.length_singleton]
          exact after
        rw [List.getElem?_eq_none beyond, ← select_append_singleton]
        apply List.getElem?_eq_none
        rw [length_select]
        exact placeIn_mono kept beyond

theorem select_set (kept : Nat → Bool) (list : List β) (index : Nat) (element : β) :
    select kept (list.set index element) =
      if kept index then (select kept list).set (placeIn kept index) element
      else select kept list := by
  induction list using List.reverseRecOn with
  | nil => cases keeps : kept index <;> rfl
  | append_singleton front last hyp =>
      rw [List.set_append, select_append_singleton]
      split
      case isTrue before =>
        rw [select_append_singleton, hyp, List.length_set]
        cases keeps : kept index with
        | false => rfl
        | true =>
            have bound : placeIn kept index < (select kept front).length := by
              rw [length_select]
              exact placeIn_lt keeps before
            rw [if_pos rfl, if_pos rfl, List.set_append, if_pos bound]
      case isFalse late =>
        rcases Nat.eq_or_lt_of_le (Nat.le_of_not_lt late) with here | after
        · subst here
          rw [Nat.sub_self, List.set_cons_zero, select_append_singleton]
          cases keeps : kept front.length with
          | false => rfl
          | true =>
              rw [if_pos rfl, if_pos rfl, if_pos rfl, ← length_select,
                List.set_append, if_neg (Nat.lt_irrefl _), Nat.sub_self, List.set_cons_zero]
        · have none_ : [last].set (index - front.length) element = [last] :=
            List.set_eq_of_length_le (by rw [List.length_singleton]; omega)
          rw [none_, select_append_singleton]
          cases keeps : kept index with
          | false => rfl
          | true =>
              rw [if_pos rfl, ← select_append_singleton]
              symm
              apply List.set_eq_of_length_le
              rw [length_select, List.length_append, List.length_singleton]
              exact placeIn_mono kept after

@[simp] theorem select_all (list : List β) : select (fun _ => true) list = list := by
  simp [select]

@[simp] theorem placeIn_all (index : Nat) : placeIn (fun _ => true) index = index := by
  simp [placeIn]

end Selection

/-! ## Callers under other names of calls -/

section Renaming

variable {σ α : Type}

/-- Where a caller stands, with its calls renamed. -/
def Suspended.renamed (name : CallId → CallId) : Suspended σ α → Suspended σ α
  | .awaiting label next => .awaiting label next
  | .following id next => .following (name id) next
  | .leading id work next => .leading (name id) (work.renamed name) next

/-- How far a caller got, with its calls renamed. -/
def Progress.renamed (name : CallId → CallId) : Progress σ α → Progress σ α
  | .waiting place => .waiting (place.renamed name)
  | progress => progress

/-- A caller, with its calls renamed. -/
def Caller.renamed (name : CallId → CallId) : Caller σ α → Caller σ α
  | .suspended place => .suspended (place.renamed name)
  | caller => caller

@[simp] theorem Suspended.renamed_id (place : Suspended σ α) : place.renamed id = place := by
  induction place with
  | awaiting label next => rfl
  | following id next => rfl
  | leading call work next hyp =>
      rw [Suspended.renamed, hyp]
      rfl

@[simp] theorem Caller.renamed_id (caller : Caller σ α) : caller.renamed id = caller := by
  cases caller with
  | suspended place => rw [Caller.renamed, Suspended.renamed_id]
  | _ => rfl

theorem Caller.report_renamed (name : CallId → CallId) (caller : Caller σ α) :
    (caller.renamed name).report = caller.report := by
  cases caller <;> rfl

theorem Caller.renamed_ofProgress (name : CallId → CallId) (progress : Progress σ α) :
    Caller.ofProgress (progress.renamed name) = (Caller.ofProgress progress).renamed name := by
  cases progress <;> rfl

end Renaming

/-- What is kept of a session, and the clock that tells its times. -/
structure Excerpt where
  /-- The callers that are kept, by their positions. -/
  callers : Nat → Bool
  keys : String → Bool
  /-- The calls that are kept: those for the kept keys. -/
  calls : CallId → Bool
  clock : Instant → Instant

namespace Excerpt

variable {σ α : Type} {excerpt : Excerpt} {flight last : Flight α} {live left : List CallId}
  {id : CallId} {key : String}

/-- The calls that are kept are those for kept keys. -/
def Sorts (excerpt : Excerpt) (flight : Flight α) : Prop :=
  ∀ id key, flight.IsFor id key → excerpt.calls id = excerpt.keys key

/-! ## Flights -/

/-- A call, with its time told by the clock. -/
def ofCall (excerpt : Excerpt) (call : Call α) : Call α :=
  { call with created := excerpt.clock call.created }

/-- The name of a call among those that are kept. -/
def name (excerpt : Excerpt) (id : CallId) : CallId :=
  placeIn excerpt.calls id

/-- The kept calls of a flight, and the entries of the kept keys. -/
def ofFlight (excerpt : Excerpt) (flight : Flight α) : Flight α where
  calls := (select excerpt.calls flight.calls).map excerpt.ofCall
  entries := (flight.entries.filter fun entry => excerpt.keys entry.1).map fun entry =>
    (entry.1, excerpt.name entry.2)

@[simp] theorem ofFlight_empty (excerpt : Excerpt) :
    excerpt.ofFlight (Flight.empty : Flight α) = Flight.empty := rfl

/-- A sorted flight was sorted before. -/
theorem Sorts.of_evolves {drops : List (GuardDrop α)} (sorts : excerpt.Sorts last)
    (evolves : flight.Evolves live drops last left) : excerpt.Sorts flight :=
  fun id key known => sorts id key (evolves.isFor known)

theorem Sorts.of_settle {result : Option (Result α)}
    (sorts : excerpt.Sorts (flight.settle id result)) : excerpt.Sorts flight :=
  fun other key known => sorts other key (known.settle id result)

theorem call?_ofFlight (keeps : excerpt.calls id = true) :
    (excerpt.ofFlight flight).calls[excerpt.name id]? = flight.calls[id]?.map excerpt.ofCall := by
  rw [ofFlight, List.getElem?_map, name, getElem?_select keeps]

/-- A kept key is found with its call. -/
theorem find?_ofFlight (keeps : excerpt.keys key = true) :
    (excerpt.ofFlight flight).find? key = (flight.find? key).map excerpt.name := by
  unfold ofFlight Flight.find?
  dsimp only
  induction flight.entries with
  | nil => rfl
  | cons entry rest hyp =>
      obtain ⟨other, id⟩ := entry
      by_cases same : key = other
      · subst same
        simp only [List.filter_cons, keeps, if_true, List.map_cons, List.lookup_cons_self,
          Option.map_some]
      · have differs : (key == other) = false := by simpa using same
        rw [List.filter_cons, List.lookup_cons, differs]
        split
        case isTrue =>
          rw [List.map_cons, List.lookup_cons, differs]
          exact hyp
        case isFalse => exact hyp

/-- Followers of a kept call get what they get. -/
theorem answer?_ofFlight (keeps : excerpt.calls id = true) :
    (excerpt.ofFlight flight).answer? (excerpt.name id) = flight.answer? id := by
  unfold Flight.answer?
  rw [call?_ofFlight keeps]
  cases flight.calls[id]? with
  | none => rfl
  | some call =>
      obtain ⟨label, key, created, state⟩ := call
      cases state with
      | running => rfl
      | ended result => cases result <;> rfl

theorem endActs_ofFlight (keeps : excerpt.calls id = true) (ending : LeaderEnd α) :
    (excerpt.ofFlight flight).endActs (excerpt.name id) ending = flight.endActs id ending := by
  rw [Flight.endActs, call?_ofFlight keeps, Option.map_map, Flight.endActs]
  rfl

/-- The next call is named by how many are kept. -/
theorem name_length (excerpt : Excerpt) (flight : Flight α) :
    excerpt.name flight.calls.length = (excerpt.ofFlight flight).calls.length := by
  rw [ofFlight, List.length_map, length_select, name]

/-- A new call is the one for its key. -/
theorem isFor_begin (flight : Flight α) (label key : String) (now : Instant) :
    (flight.begin label key now).2.IsFor flight.calls.length key :=
  ⟨⟨label, key, now, .running⟩, List.getElem?_concat_length, rfl⟩

variable {label : String} {now : Instant}

/-- A call for a kept key is begun in the excerpt too. -/
theorem begin_ofFlight (sorts : excerpt.Sorts (flight.begin label key now).2)
    (keeps : excerpt.keys key = true) :
    (excerpt.ofFlight flight).begin label key (excerpt.clock now) =
      (excerpt.name flight.calls.length, excerpt.ofFlight (flight.begin label key now).2) := by
  have kept : excerpt.calls flight.calls.length = true :=
    (sorts _ key (isFor_begin flight label key now)).trans keeps
  rw [name_length]
  apply Prod.ext
  · rfl
  · unfold ofFlight
    simp only [Flight.begin, select_append_singleton, kept, if_true, List.map_append,
      List.filter_append, List.filter_cons, keeps, List.filter_nil, List.map_cons, List.map_nil,
      List.length_map, length_select, ofCall, name]

/-- A call for another key leaves no trace in the excerpt. -/
theorem begin_skipped (sorts : excerpt.Sorts (flight.begin label key now).2)
    (skips : excerpt.keys key = false) :
    excerpt.ofFlight (flight.begin label key now).2 = excerpt.ofFlight flight := by
  have skipped : excerpt.calls flight.calls.length = false :=
    (sorts _ key (isFor_begin flight label key now)).trans skips
  unfold ofFlight
  simp only [Flight.begin, select_append_singleton, skipped, List.filter_append,
    List.filter_cons, skips, List.filter_nil, Bool.false_eq_true, if_false, List.append_nil]

/-- The end of a kept call is its end in the excerpt. -/
theorem settle_ofFlight (tracks : flight.Tracks (id :: live)) (sorts : excerpt.Sorts flight)
    (keeps : excerpt.calls id = true) (result : Option (Result α)) :
    excerpt.ofFlight (flight.settle id result) =
      (excerpt.ofFlight flight).settle (excerpt.name id) result := by
  obtain ⟨key, running, found⟩ := tracks.find?_of_live (List.mem_cons_self ..)
  have keepsKey : excerpt.keys key = true := (sorts id key running.isFor).symm.trans keeps
  have entries := tracks.entries_settle running result
  obtain ⟨call, at_, rfl, -⟩ := running
  have kept : (excerpt.ofFlight flight).calls[excerpt.name id]? = some (excerpt.ofCall call) := by
    rw [call?_ofFlight keeps, at_, Option.map_some]
  have entered : (excerpt.ofFlight flight).entries.lookup call.key = some (excerpt.name id) := by
    have seen : (excerpt.ofFlight flight).find? call.key = _ := find?_ofFlight keepsKey
    rw [found, Option.map_some] at seen
    exact seen
  rw [Flight.settle_of_call kept]
  simp only [Flight.release, Flight.find?, ofCall, entered, if_true]
  simp only [ofFlight, Flight.calls_settle at_, entries, select_set, keeps, if_true, List.map_set,
    List.filter_map, List.filter_filter]
  apply congrArg
  apply congrArg
  apply List.filter_congr
  intro entry _
  exact Bool.and_comm _ _

/-- The end of another call leaves no trace in the excerpt. -/
theorem settle_skipped (tracks : flight.Tracks (id :: live)) (sorts : excerpt.Sorts flight)
    (skips : excerpt.calls id = false) (result : Option (Result α)) :
    excerpt.ofFlight (flight.settle id result) = excerpt.ofFlight flight := by
  obtain ⟨key, running, -⟩ := tracks.find?_of_live (List.mem_cons_self ..)
  have skipsKey : excerpt.keys key = false := (sorts id key running.isFor).symm.trans skips
  have entries := tracks.entries_settle running result
  obtain ⟨call, at_, rfl, -⟩ := running
  simp only [ofFlight, Flight.calls_settle at_, entries, select_set, skips, Bool.false_eq_true,
    if_false, List.filter_filter]
  apply congrArg
  apply congrArg
  apply List.filter_congr
  intro entry _
  by_cases same : entry.1 = call.key
  · simp [same, skipsKey]
  · simp [same]

/-! ## Callers -/

/-- Every call that a caller leads or waits for is kept. -/
def Keeps (excerpt : Excerpt) : Suspended σ α → Prop
  | .awaiting _ _ => True
  | .following id _ => excerpt.calls id = true
  | .leading id work _ => excerpt.calls id = true ∧ excerpt.Keeps work

/-- No call that a caller leads is kept. -/
def Skips (excerpt : Excerpt) : Suspended σ α → Prop
  | .awaiting _ _ => True
  | .following _ _ => True
  | .leading id work _ => excerpt.calls id = false ∧ excerpt.Skips work

/-- The acts call for kept keys alone. -/
def Covers (excerpt : Excerpt) (acts : List (Act α)) : Prop :=
  ∀ act ∈ acts, ∀ key, act.calledKey? = some key → excerpt.keys key = true

/-- The acts begin no call for a kept key. -/
def Spares (excerpt : Excerpt) (acts : List (Act α)) : Prop :=
  ∀ act ∈ acts, ∀ key, act.ledKey? = some key → excerpt.keys key = false

variable {acts later : List (Act α)} {act : Act α}

theorem covers_append :
    excerpt.Covers (acts ++ later) ↔ excerpt.Covers acts ∧ excerpt.Covers later :=
  List.forall_mem_append

theorem covers_cons : excerpt.Covers (act :: acts) ↔
    (∀ key, act.calledKey? = some key → excerpt.keys key = true) ∧ excerpt.Covers acts :=
  List.forall_mem_cons

theorem spares_append :
    excerpt.Spares (acts ++ later) ↔ excerpt.Spares acts ∧ excerpt.Spares later :=
  List.forall_mem_append

theorem spares_cons : excerpt.Spares (act :: acts) ↔
    (∀ key, act.ledKey? = some key → excerpt.keys key = false) ∧ excerpt.Spares acts :=
  List.forall_mem_cons

/-- What is done to the excerpt of a flight is what is done to the whole of it. -/
structure Mirrors (excerpt : Excerpt) (whole part : Progress σ α × Flight α)
    (acts seen : List (Act α)) : Prop where
  run : part = (whole.1.renamed excerpt.name, excerpt.ofFlight whole.2)
  acts : seen = acts
  keeps : ∀ place, whole.1 = .waiting place → excerpt.Keeps place

/-- What is done to a flight leaves no trace in its excerpt. -/
structure Hides (excerpt : Excerpt) (flight : Flight α) (whole : Progress σ α × Flight α) :
    Prop where
  flight : excerpt.ofFlight whole.2 = excerpt.ofFlight flight
  skips : ∀ place, whole.1 = .waiting place → excerpt.Skips place

end Excerpt

section Callers

variable {σ α : Type} {excerpt : Excerpt} {now : Instant} {words : Words σ} {flight : Flight α}
  {rest : List CallId} {id : CallId}

/-- A flight that is sorted when a leader got on was sorted when its work did. -/
theorem Excerpt.Sorts.of_onward {whole : Progress σ α × Flight α} {next : Result α → Plan σ α}
    (sorts : excerpt.Sorts (Plan.onward now words id next whole).2) : excerpt.Sorts whole.2 := by
  obtain ⟨progress, after⟩ := whole
  cases progress with
  | returned result =>
      exact (sorts.of_evolves ((next result).run_evolves now words _ [])).of_settle
  | panicked message => exact sorts.of_settle
  | waiting place => exact sorts

/-- What becomes of the leader of a kept call, where this is so of its work and of what it goes on
with. -/
theorem Excerpt.Mirrors.onward {whole part : Progress σ α × Flight α} {acts seen : List (Act α)}
    {next : Result α → Plan σ α} (mirrors : excerpt.Mirrors whole part acts seen)
    (tracks : whole.2.Tracks (whole.1.led ++ id :: rest)) (keeps : excerpt.calls id = true)
    (sorts : excerpt.Sorts (Plan.onward now words id next whole).2)
    (covers : excerpt.Covers (Plan.onwardActs now words id next whole))
    (onNext : ∀ result (flight : Flight α), flight.Tracks rest →
      excerpt.Sorts ((next result).run now words flight).2 →
      excerpt.Covers ((next result).acts now words flight) →
      excerpt.Mirrors ((next result).run now words flight)
        ((next result).run (excerpt.clock now) words (excerpt.ofFlight flight))
        ((next result).acts now words flight)
        ((next result).acts (excerpt.clock now) words (excerpt.ofFlight flight))) :
    excerpt.Mirrors (Plan.onward now words id next whole)
      (Plan.onward (excerpt.clock now) words (excerpt.name id) next part)
      (acts ++ Plan.onwardActs now words id next whole)
      (seen ++ Plan.onwardActs (excerpt.clock now) words (excerpt.name id) next part) := by
  obtain ⟨rfl, rfl, inner⟩ := mirrors
  have sortsWork := sorts.of_onward
  obtain ⟨progress, after⟩ := whole
  cases progress with
  | returned result =>
      have same := Excerpt.settle_ofFlight tracks sortsWork keeps (some result)
      obtain ⟨run, acts, waits⟩ := onNext result _ (tracks.settle _) sorts
        (Excerpt.covers_append.mp covers).2
      constructor
      · simp only [Plan.onward, Progress.renamed, ← same]
        exact run
      · simp only [Plan.onwardActs, Progress.renamed, ← same, acts,
          Excerpt.endActs_ofFlight keeps]
      · exact waits
  | panicked message =>
      have same := Excerpt.settle_ofFlight tracks sortsWork keeps none
      constructor
      · simp only [Plan.onward, Progress.renamed, ← same]
      · simp only [Plan.onwardActs, Progress.renamed, Excerpt.endActs_ofFlight keeps]
      · exact nofun
  | waiting place =>
      refine ⟨rfl, rfl, ?_⟩
      rintro outer ⟨⟩
      exact ⟨keeps, inner place rfl⟩

/-- What becomes of the leader of a call that is not kept, where this is so of its work and of what
it goes on with. -/
theorem Excerpt.Hides.onward {whole : Progress σ α × Flight α} {next : Result α → Plan σ α}
    (hides : excerpt.Hides flight whole) (tracks : whole.2.Tracks (whole.1.led ++ id :: rest))
    (skips : excerpt.calls id = false)
    (sorts : excerpt.Sorts (Plan.onward now words id next whole).2)
    (spares : excerpt.Spares (Plan.onwardActs now words id next whole))
    (onNext : ∀ result (flight : Flight α), flight.Tracks rest →
      excerpt.Sorts ((next result).run now words flight).2 →
      excerpt.Spares ((next result).acts now words flight) →
      excerpt.Hides flight ((next result).run now words flight)) :
    excerpt.Hides flight (Plan.onward now words id next whole) := by
  obtain ⟨same, inner⟩ := hides
  have sortsWork := sorts.of_onward
  obtain ⟨progress, after⟩ := whole
  cases progress with
  | returned result =>
      have settled := Excerpt.settle_skipped tracks sortsWork skips (some result)
      obtain ⟨onward, waits⟩ := onNext result _ (tracks.settle _) sorts
        (Excerpt.spares_append.mp spares).2
      exact ⟨onward.trans (settled.trans same), waits⟩
  | panicked message =>
      have settled := Excerpt.settle_skipped tracks sortsWork skips none
      exact ⟨settled.trans same, nofun⟩
  | waiting place =>
      refine ⟨same, ?_⟩
      rintro outer ⟨⟩
      exact ⟨skips, inner place rfl⟩

/-- Running a plan that calls for kept keys alone. -/
theorem Plan.run_excerpt (plan : Plan σ α) (tracks : flight.Tracks rest)
    (sorts : excerpt.Sorts (plan.run now words flight).2)
    (covers : excerpt.Covers (plan.acts now words flight)) :
    excerpt.Mirrors (plan.run now words flight)
      (plan.run (excerpt.clock now) words (excerpt.ofFlight flight))
      (plan.acts now words flight)
      (plan.acts (excerpt.clock now) words (excerpt.ofFlight flight)) := by
  induction plan generalizing flight rest with
  | finish result => exact ⟨rfl, rfl, nofun⟩
  | panic message => exact ⟨rfl, rfl, nofun⟩
  | await name next hyp =>
      cases said : words name with
      | none =>
          simp only [Plan.run, Plan.acts, said]
          refine ⟨rfl, rfl, ?_⟩
          rintro place ⟨⟩
          trivial
      | some word =>
          simp only [Plan.run, Plan.acts, said] at sorts covers ⊢
          exact hyp word tracks sorts covers
  | call label key work next hypWork hypNext =>
      have evolves := (Plan.call label key work next).run_evolves now words flight rest
      have start := sorts.of_evolves evolves
      cases found : flight.find? key with
      | some id =>
          simp only [Plan.acts, found] at covers
          obtain ⟨keeps, covers⟩ := Excerpt.covers_cons.mp covers
          have kept : excerpt.calls id = true :=
            (start id key (tracks.find?_eq_some_iff.mp found).isFor).trans (keeps key rfl)
          have foundToo : (excerpt.ofFlight flight).find? key = some (excerpt.name id) := by
            rw [Excerpt.find?_ofFlight (keeps key rfl), found, Option.map_some]
          have answers : (excerpt.ofFlight flight).answer? (excerpt.name id) = _ :=
            Excerpt.answer?_ofFlight kept
          cases answered : flight.answer? id with
          | none =>
              rw [answered] at answers
              simp only [Plan.run, Plan.acts, found, foundToo, answered, answers]
              refine ⟨rfl, rfl, ?_⟩
              rintro place ⟨⟩
              exact kept
          | some result =>
              rw [answered] at answers
              simp only [Plan.run, found, answered] at sorts
              simp only [answered] at covers
              simp only [Plan.run, Plan.acts, found, foundToo, answered, answers]
              obtain ⟨run, acts, waits⟩ := hypNext result tracks sorts covers
              exact ⟨run, congrArg _ acts, waits⟩
      | none =>
          rw [Plan.run_call_of_free found] at sorts ⊢
          rw [Plan.acts_call_of_free found] at covers ⊢
          obtain ⟨keeps, covers⟩ := Excerpt.covers_cons.mp covers
          obtain ⟨coversWork, coversOnward⟩ := Excerpt.covers_append.mp covers
          have freeToo : (excerpt.ofFlight flight).find? key = none := by
            rw [Excerpt.find?_ofFlight (keeps key rfl), found, Option.map_none]
          have sortsWork := sorts.of_onward
          have sortsBegun := sortsWork.of_evolves
            (work.run_evolves now words _ (flight.calls.length :: rest))
          have kept : excerpt.calls flight.calls.length = true :=
            (sortsBegun _ key (Excerpt.isFor_begin flight label key now)).trans (keeps key rfl)
          have begunToo := congrArg Prod.snd (Excerpt.begin_ofFlight sortsBegun (keeps key rfl))
          have begun := tracks.begin label now found
          have worked := (work.run_evolves now words _ (flight.calls.length :: rest)).tracks begun
          have inner := hypWork begun sortsWork coversWork
          have outer := inner.onward worked kept sorts coversOnward
            fun result after tracks => hypNext result tracks
          rw [Plan.run_call_of_free freeToo, Plan.acts_call_of_free freeToo, begunToo,
            ← Excerpt.name_length]
          exact ⟨outer.run, congrArg _ outer.acts, outer.keeps⟩

/-- Running a plan that begins no call for a kept key. -/
theorem Plan.run_skipped (plan : Plan σ α) (tracks : flight.Tracks rest)
    (sorts : excerpt.Sorts (plan.run now words flight).2)
    (spares : excerpt.Spares (plan.acts now words flight)) :
    excerpt.Hides flight (plan.run now words flight) := by
  induction plan generalizing flight rest with
  | finish result => exact ⟨rfl, nofun⟩
  | panic message => exact ⟨rfl, nofun⟩
  | await name next hyp =>
      cases said : words name with
      | none =>
          simp only [Plan.run, said]
          refine ⟨rfl, ?_⟩
          rintro place ⟨⟩
          trivial
      | some word =>
          simp only [Plan.run, Plan.acts, said] at sorts spares ⊢
          exact hyp word tracks sorts spares
  | call label key work next hypWork hypNext =>
      cases found : flight.find? key with
      | some id =>
          simp only [Plan.acts, found] at spares
          obtain ⟨-, spares⟩ := Excerpt.spares_cons.mp spares
          cases answered : flight.answer? id with
          | none =>
              simp only [Plan.run, found, answered]
              refine ⟨rfl, ?_⟩
              rintro place ⟨⟩
              trivial
          | some result =>
              simp only [Plan.run, found, answered] at sorts ⊢
              simp only [answered] at spares
              exact hypNext result tracks sorts spares
      | none =>
          rw [Plan.run_call_of_free found] at sorts ⊢
          rw [Plan.acts_call_of_free found] at spares
          obtain ⟨skips, spares⟩ := Excerpt.spares_cons.mp spares
          obtain ⟨sparesWork, sparesOnward⟩ := Excerpt.spares_append.mp spares
          have sortsWork := sorts.of_onward
          have sortsBegun := sortsWork.of_evolves
            (work.run_evolves now words _ (flight.calls.length :: rest))
          have skipped : excerpt.calls flight.calls.length = false :=
            (sortsBegun _ key (Excerpt.isFor_begin flight label key now)).trans (skips key rfl)
          have begun := tracks.begin label now found
          have worked := (work.run_evolves now words _ (flight.calls.length :: rest)).tracks begun
          have work := hypWork begun sortsWork sparesWork
          have inner : excerpt.Hides flight _ :=
            ⟨work.flight.trans (Excerpt.begin_skipped sortsBegun (skips key rfl)), work.skips⟩
          exact inner.onward worked skipped sorts sparesOnward
            fun result after tracks => hypNext result tracks

/-- Polling a suspended caller that calls for kept keys alone. -/
theorem Suspended.resume_excerpt (place : Suspended σ α)
    (tracks : flight.Tracks (place.led ++ rest)) (keeps : excerpt.Keeps place)
    (sorts : excerpt.Sorts (place.resume now words flight).2)
    (covers : excerpt.Covers (place.acts now words flight)) :
    excerpt.Mirrors (place.resume now words flight)
      ((place.renamed excerpt.name).resume (excerpt.clock now) words (excerpt.ofFlight flight))
      (place.acts now words flight)
      ((place.renamed excerpt.name).acts (excerpt.clock now) words (excerpt.ofFlight flight)) := by
  induction place generalizing rest with
  | awaiting name next => exact (Plan.await name next).run_excerpt tracks sorts covers
  | following id next =>
      have answers : (excerpt.ofFlight flight).answer? (excerpt.name id) = _ :=
        Excerpt.answer?_ofFlight keeps
      cases answered : flight.answer? id with
      | none =>
          rw [answered] at answers
          simp only [Suspended.renamed, Suspended.resume, Suspended.acts, answered, answers]
          refine ⟨rfl, rfl, ?_⟩
          rintro place ⟨⟩
          exact keeps
      | some result =>
          rw [answered] at answers
          simp only [Suspended.resume, Suspended.acts, answered] at sorts covers
          simp only [Suspended.renamed, Suspended.resume, Suspended.acts, answered, answers]
          exact (next result).run_excerpt tracks sorts covers
  | leading id work next hyp =>
      rw [Suspended.led_leading_append] at tracks
      rw [Suspended.resume_leading] at sorts
      obtain ⟨coversWork, coversOnward⟩ := Excerpt.covers_append.mp covers
      have worked := (work.resume_evolves now words flight (id :: rest)).tracks tracks
      have inner := hyp tracks keeps.2 sorts.of_onward coversWork
      exact inner.onward worked keeps.1 sorts coversOnward
        fun result after tracks => (next result).run_excerpt tracks

/-- Polling a suspended caller that leads no kept call, and begins none. -/
theorem Suspended.resume_skipped (place : Suspended σ α)
    (tracks : flight.Tracks (place.led ++ rest)) (skips : excerpt.Skips place)
    (sorts : excerpt.Sorts (place.resume now words flight).2)
    (spares : excerpt.Spares (place.acts now words flight)) :
    excerpt.Hides flight (place.resume now words flight) := by
  induction place generalizing rest with
  | awaiting name next => exact (Plan.await name next).run_skipped tracks sorts spares
  | following id next =>
      cases answered : flight.answer? id with
      | none =>
          simp only [Suspended.resume, answered]
          refine ⟨rfl, ?_⟩
          rintro place ⟨⟩
          trivial
      | some result =>
          simp only [Suspended.resume, Suspended.acts, answered] at sorts spares ⊢
          exact (next result).run_skipped tracks sorts spares
  | leading id work next hyp =>
      rw [Suspended.led_leading_append] at tracks
      rw [Suspended.resume_leading] at sorts ⊢
      obtain ⟨sparesWork, sparesOnward⟩ := Excerpt.spares_append.mp spares
      have worked := (work.resume_evolves now words flight (id :: rest)).tracks tracks
      have inner := hyp tracks skips.2 sorts.of_onward sparesWork
      exact inner.onward worked skips.1 sorts sparesOnward
        fun result after tracks => (next result).run_skipped tracks

/-- Dropping a suspended caller all of whose calls are kept. -/
theorem Suspended.abandon_excerpt (place : Suspended σ α)
    (tracks : flight.Tracks (place.led ++ rest)) (keeps : excerpt.Keeps place)
    (sorts : excerpt.Sorts (place.abandon flight)) :
    (place.renamed excerpt.name).abandon (excerpt.ofFlight flight) =
        excerpt.ofFlight (place.abandon flight) ∧
      (place.renamed excerpt.name).abandonActs (excerpt.ofFlight flight) =
        place.abandonActs flight := by
  induction place generalizing rest with
  | awaiting name next => exact ⟨rfl, rfl⟩
  | following id next => exact ⟨rfl, rfl⟩
  | leading id work next hyp =>
      rw [Suspended.led_leading_append] at tracks
      have inner := (work.abandon_evolves flight (id :: rest)).tracks tracks
      obtain ⟨flights, acts⟩ := hyp tracks keeps.2 sorts.of_settle
      constructor
      · rw [Suspended.renamed, Suspended.abandon, flights, Suspended.abandon,
          Excerpt.settle_ofFlight inner sorts.of_settle keeps.1]
      · rw [Suspended.renamed, Suspended.abandonActs, flights, acts,
          Excerpt.endActs_ofFlight keeps.1, Suspended.abandonActs]

/-- Dropping a suspended caller none of whose calls is kept. -/
theorem Suspended.abandon_skipped (place : Suspended σ α)
    (tracks : flight.Tracks (place.led ++ rest)) (skips : excerpt.Skips place)
    (sorts : excerpt.Sorts (place.abandon flight)) :
    excerpt.ofFlight (place.abandon flight) = excerpt.ofFlight flight := by
  induction place generalizing rest with
  | awaiting name next => rfl
  | following id next => rfl
  | leading id work next hyp =>
      rw [Suspended.led_leading_append] at tracks
      have inner := (work.abandon_evolves flight (id :: rest)).tracks tracks
      rw [Suspended.abandon, Excerpt.settle_skipped inner sorts.of_settle skips.1]
      exact hyp tracks skips.2 sorts.of_settle

end Callers

end PeerCache
