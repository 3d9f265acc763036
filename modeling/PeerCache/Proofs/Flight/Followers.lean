/-
Module: PeerCache.Proofs.Flight.Followers
Purpose: A follower is answered when the leader of its own call has ended, with its result.
Main exports:
  endingOf?, Flight.Records, Flight.Evolves.records, Suspended.front,
  Session.follower_hears_its_leader
-/
import PeerCache.Proofs.Flight.Leaders

/-!
A follower keeps the name of the call that it found at its first poll.  What becomes of
the key later does not matter to it: the record of a call says for ever how its leader
ended, and a call ends once.  `Flight.Records` ties the record of every call to the guards
that were dropped, and `Session.follower_hears_its_leader` reads off what a follower gets.

A follower may itself be work of another call, at any depth: `Suspended.front` is where a
caller really waits, and a poll of the caller polls its front, on the flight as it is.
-/

namespace PeerCache

variable {σ α : Type}

/-- How the leader of a call ended, as the dropped guards tell it. -/
def endingOf? (drops : List (GuardDrop α)) (id : CallId) : Option (LeaderEnd α) :=
  (drops.find? fun drop => drop.id = id).map GuardDrop.ending

theorem endingOf?_eq_none_iff {drops : List (GuardDrop α)} {id : CallId} :
    endingOf? drops id = none ↔ id ∉ drops.map GuardDrop.id := by
  simp only [endingOf?, Option.map_eq_none_iff, List.find?_eq_none, decide_eq_true_eq,
    List.mem_map, not_exists, not_and]

theorem endingOf?_append_singleton {drops : List (GuardDrop α)} {drop : GuardDrop α}
    (fresh : endingOf? drops drop.id = none) (id : CallId) :
    endingOf? (drops ++ [drop]) id =
      if id = drop.id then some drop.ending else endingOf? drops id := by
  unfold endingOf? at fresh ⊢
  rw [List.find?_append, Option.map_or]
  by_cases same : id = drop.id
  · subst same
    simp [fresh]
  · have apart : ¬ drop.id = id := by
      intro equal
      exact same equal.symm
    simp [same, apart]

namespace Flight

variable {flight last : Flight α} {live left : List CallId} {past drops : List (GuardDrop α)}

/-- The state of a call whose leader ended so, or has not ended. -/
def stateAfter : Option (LeaderEnd α) → CallState α
  | none => .running
  | some ending => .ended ending.result?

/-- Every call is recorded as its leader has left it, given the guards dropped so far. -/
structure Records (flight : Flight α) (past : List (GuardDrop α)) : Prop where
  known : ∀ drop ∈ past, drop.id < flight.calls.length
  /-- No call ends twice. -/
  once : (past.map GuardDrop.id).Nodup
  state : ∀ id call, flight.calls[id]? = some call → call.state = stateAfter (endingOf? past id)

namespace Records

theorem empty : (Flight.empty : Flight α).Records [] where
  known := nofun
  once := List.Pairwise.nil
  state id call found := by cases found

theorem endingOf?_of_length_le (records : flight.Records past) {id : CallId}
    (new : flight.calls.length ≤ id) : endingOf? past id = none := by
  rw [endingOf?_eq_none_iff, List.mem_map]
  rintro ⟨drop, member, rfl⟩
  exact Nat.not_lt.mpr new (records.known drop member)

/-- A call that runs has not been ended. -/
theorem endingOf?_of_running (records : flight.Records past) {id : CallId} {key : String}
    (running : flight.Running id key) : endingOf? past id = none := by
  obtain ⟨call, found, -, isRunning⟩ := running
  have state := records.state id call found
  rw [isRunning] at state
  cases ended : endingOf? past id with
  | none => rfl
  | some ending => rw [ended] at state; cases state

/-- A call that has not been ended runs. -/
theorem running_of_endingOf? (records : flight.Records past) {id : CallId}
    (known : id < flight.calls.length) (unended : endingOf? past id = none) :
    ∃ key, flight.Running id key := by
  have found := List.getElem?_eq_getElem known
  have state := records.state id _ found
  rw [unended] at state
  exact ⟨_, _, found, rfl, state⟩

theorem begin (records : flight.Records past) (label key : String) (now : Instant) :
    (flight.begin label key now).2.Records past where
  known drop member := by
    rw [calls_begin, List.length_append]
    exact Nat.lt_add_right _ (records.known drop member)
  once := records.once
  state id call found := by
    rw [calls_begin, List.getElem?_append] at found
    split at found
    case isTrue => exact records.state id call found
    case isFalse late =>
        rw [List.getElem?_singleton] at found
        split at found
        case isTrue =>
            rw [Option.some.injEq] at found
            subst found
            rw [records.endingOf?_of_length_le (Nat.le_of_not_lt late)]
            rfl
        case isFalse => cases found

theorem settle (records : flight.Records past) {id : CallId} {key : String}
    (running : flight.Running id key) (ending : LeaderEnd α) :
    (flight.settle id ending.result?).Records (past ++ [⟨id, ending, flight⟩]) := by
  have fresh := records.endingOf?_of_running running
  have bound := running.lt_length
  obtain ⟨call, found, -, -⟩ := running
  constructor
  · intro drop member
    rw [length_calls_settle]
    rcases List.mem_append.mp member with old | new
    · exact records.known drop old
    · rw [List.mem_singleton.mp new]
      exact bound
  · rw [List.map_append]
    exact (List.perm_append_singleton _ _).nodup_iff.mpr
      (List.nodup_cons.mpr ⟨endingOf?_eq_none_iff.mp fresh, records.once⟩)
  · intro other call' found'
    rw [endingOf?_append_singleton fresh]
    rw [calls_settle found, List.getElem?_set] at found'
    by_cases same : id = other
    · subst same
      rw [if_pos rfl, if_pos bound, Option.some.injEq] at found'
      subst found'
      simp [stateAfter]
    · rw [if_neg same] at found'
      rw [if_neg (Ne.symm same)]
      exact records.state other call' found'

/-- What followers of a call get is told by how its leader ended. -/
theorem answer?_eq (records : flight.Records past) {id : CallId}
    (known : id < flight.calls.length) :
    flight.answer? id = (endingOf? past id).map LeaderEnd.answer := by
  have found := List.getElem?_eq_getElem known
  have state := records.state id _ found
  generalize flight.calls[id] = call at found state
  obtain ⟨label, key, created, reached⟩ := call
  simp only at state
  subst state
  unfold answer?
  rw [found]
  cases endingOf? past id with
  | none => rfl
  | some ending => cases ending <;> rfl

end Records

/-- Through all that can become of a flight, its record tells how the leaders ended. -/
theorem Evolves.records (evolves : flight.Evolves live drops last left)
    (start : flight.Tracks live) (records : flight.Records past) :
    last.Records (past ++ drops) := by
  induction evolves generalizing past with
  | refl => simpa using records
  | reorder same _ hyp => exact hyp (start.perm same) records
  | begin label key now free _ hyp =>
      exact hyp (start.begin label now free) (records.begin label key now)
  | settle id ending _ hyp =>
      obtain ⟨key, running, -⟩ := start.find?_of_live (List.mem_cons_self ..)
      simpa using hyp (start.settle _) (records.settle running ending)

end Flight

/-! ## Where callers wait -/

/-- Where a caller really waits: inside all the calls that it leads. -/
def Suspended.front : Suspended σ α → Suspended σ α
  | .awaiting name next => .awaiting name next
  | .following id next => .following id next
  | .leading _ work _ => work.front

/-- The call whose end a caller waits for after a poll that got so far. -/
def Progress.waitsFor? : Progress σ α → Option CallId
  | .waiting place => place.waitsFor?
  | _ => none

/-- The call whose end a caller waits for. -/
def Caller.waitsFor? : Caller σ α → Option CallId
  | .suspended place => place.waitsFor?
  | _ => none

theorem Suspended.waitsFor?_of_front {place : Suspended σ α} {id : CallId}
    {next : Result α → Plan σ α} (front : place.front = .following id next) :
    place.waitsFor? = some id := by
  induction place with
  | awaiting name next => cases front
  | following id' next' => cases front; rfl
  | leading id' work next' hyp => exact hyp front

/-- While the call that it waits for has no answer, a poll leaves a caller where it is. -/
theorem Suspended.resume_of_unanswered {place : Suspended σ α} {id : CallId}
    {next : Result α → Plan σ α} {flight : Flight α} (front : place.front = .following id next)
    (unanswered : flight.answer? id = none) (now : Instant) (words : Words σ) :
    place.resume now words flight = (.waiting place, flight) := by
  induction place with
  | awaiting name next => cases front
  | following id' next' =>
      cases front
      simp only [resume, unanswered]
  | leading id' work next' hyp => simp only [resume, hyp front]

/-- A caller that comes to wait for a call waits for one that was begun. -/
theorem Plan.run_waitsFor (now : Instant) (words : Words σ) (plan : Plan σ α)
    {flight : Flight α} {rest : List CallId} (tracks : flight.Tracks rest) {id : CallId}
    (waits : (plan.run now words flight).1.waitsFor? = some id) :
    id < (plan.run now words flight).2.calls.length := by
  induction plan generalizing flight rest with
  | finish result => cases waits
  | panic message => cases waits
  | await name next hyp =>
      unfold Plan.run at waits ⊢
      cases said : words name with
      | none => rw [said] at waits; cases waits
      | some word => rw [said] at waits; exact hyp word tracks waits
  | call label key work next hypWork hypNext =>
      unfold Plan.run at waits ⊢
      cases found : flight.find? key with
      | some known =>
          cases answered : flight.answer? known with
          | none =>
              simp only [found, answered] at waits ⊢
              cases waits
              exact (tracks.find?_eq_some_iff.mp found).lt_length
          | some result =>
              simp only [found, answered] at waits ⊢
              exact hypNext result tracks waits
      | none =>
          have begun := tracks.begin label now found
          have inner := hypWork begun
          have worked := (work.run_evolves now words (flight.begin label key now).2
            (flight.calls.length :: rest)).tracks begun
          simp only [found, Flight.begin] at waits inner worked ⊢
          cases ran : work.run now words
              { calls := flight.calls ++ [⟨label, key, now, .running⟩]
                entries := flight.entries ++ [(key, flight.calls.length)] } with
          | mk progress after =>
              rw [ran] at waits inner worked
              cases progress with
              | returned result => exact hypNext result (worked.settle _) waits
              | panicked message => cases waits
              | waiting place => exact inner waits

theorem Suspended.resume_waitsFor (now : Instant) (words : Words σ) (place : Suspended σ α)
    {flight : Flight α} {rest : List CallId} (tracks : flight.Tracks (place.led ++ rest))
    (knows : ∀ id, place.waitsFor? = some id → id < flight.calls.length) {id : CallId}
    (waits : (place.resume now words flight).1.waitsFor? = some id) :
    id < (place.resume now words flight).2.calls.length := by
  induction place generalizing flight rest with
  | awaiting name next => exact (Plan.await name next).run_waitsFor now words tracks waits
  | following known next =>
      unfold Suspended.resume at waits ⊢
      cases answered : flight.answer? known with
      | none =>
          simp only [answered] at waits ⊢
          exact knows id waits
      | some result =>
          simp only [answered] at waits ⊢
          exact (next result).run_waitsFor now words tracks waits
  | leading call work next hyp =>
      rw [Suspended.led_leading_append] at tracks
      have inner := hyp tracks knows
      have worked := (work.resume_evolves now words flight (call :: rest)).tracks tracks
      unfold Suspended.resume at waits ⊢
      cases ran : work.resume now words flight with
      | mk progress after =>
          rw [ran] at inner worked
          simp only [ran] at waits ⊢
          cases progress with
          | returned result => exact (next result).run_waitsFor now words (worked.settle _) waits
          | panicked message => cases waits
          | waiting place => exact inner waits

namespace Caller

/-- The caller waits for no call but one that was begun. -/
def Knows (caller : Caller σ α) (flight : Flight α) : Prop :=
  ∀ id, caller.waitsFor? = some id → id < flight.calls.length

theorem waitsFor?_ofProgress (progress : Progress σ α) :
    (ofProgress progress).waitsFor? = progress.waitsFor? := by
  cases progress <;> rfl

theorem poll_knows (now : Instant) (words : Words σ) {caller : Caller σ α} {flight : Flight α}
    {rest : List CallId} (tracks : flight.Tracks (caller.led ++ rest))
    (knows : caller.Knows flight) :
    (caller.poll now words flight).1.Knows (caller.poll now words flight).2 := by
  intro id waits
  cases caller with
  | unpolled plan =>
      simp only [poll, waitsFor?_ofProgress] at waits ⊢
      exact plan.run_waitsFor now words tracks waits
  | suspended place =>
      simp only [poll, waitsFor?_ofProgress] at waits ⊢
      exact place.resume_waitsFor now words tracks knows waits
  | returned result => cases waits
  | panicked message => cases waits
  | dropped => cases waits

theorem drop_knows (caller : Caller σ α) (flight : Flight α) :
    (caller.drop flight).1.Knows (caller.drop flight).2 := by
  intro id waits
  cases caller <;> cases waits

end Caller

namespace Session

/-- What is done to one caller, if it may be done, leaves callers that know their calls. -/
theorem onCaller_knows {session : Session σ α} {index : Nat}
    {operation : Caller σ α → Flight α → Caller σ α × Flight α}
    (longer : session.flight.calls.length ≤ (session.onCaller index operation).flight.calls.length)
    (operates : ∀ caller, session.callers[index]? = some caller →
      (operation caller session.flight).1.Knows (operation caller session.flight).2)
    (knows : ∀ caller ∈ session.callers, caller.Knows session.flight) :
    ∀ caller ∈ (session.onCaller index operation).callers,
      caller.Knows (session.onCaller index operation).flight := by
  cases at_ : session.callers[index]? with
  | none => simpa only [onCaller, at_] using knows
  | some caller =>
      simp only [onCaller, at_] at longer ⊢
      intro other member
      rcases List.mem_or_eq_of_mem_set member with old | new
      · intro id waits
        exact Nat.lt_of_lt_of_le (knows other old id waits) longer
      · rw [new]
        exact operates caller at_

theorem step_knows (now : Instant) (session : Session σ α) (step : Step σ α)
    (tracks : session.flight.Tracks session.led)
    (knows : ∀ caller ∈ session.callers, caller.Knows session.flight) :
    ∀ caller ∈ (session.step now step).callers, caller.Knows (session.step now step).flight := by
  have longer := (session.step_evolves now step).length_le
  cases step with
  | create plan =>
      intro caller member
      rcases List.mem_append.mp member with old | new
      · exact knows caller old
      · rw [List.mem_singleton.mp new]
        exact nofun
  | poll index words =>
      apply onCaller_knows longer _ knows
      intro caller at_
      obtain ⟨others, before, -⟩ := flatMap_set_perm Caller.led at_
      exact caller.poll_knows now words (tracks.perm before)
        (knows caller (List.mem_of_getElem? at_))
  | drop index => exact onCaller_knows longer (fun caller _ => caller.drop_knows _) knows

/-- After every run, callers wait for calls that were begun. -/
theorem run_knows (steps : List (Instant × Step σ α)) :
    ∀ caller ∈ ((empty : Session σ α).run steps).callers,
      caller.Knows ((empty : Session σ α).run steps).flight := by
  suffices general : ∀ session : Session σ α, session.flight.Tracks session.led →
      (∀ caller ∈ session.callers, caller.Knows session.flight) →
      ∀ caller ∈ (session.run steps).callers, caller.Knows (session.run steps).flight from
    general empty .empty nofun
  induction steps with
  | nil =>
      intro session tracks knows
      exact knows
  | cons timed rest hyp =>
      intro session tracks knows
      rw [run_cons]
      exact hyp _ ((session.step_evolves timed.1 timed.2).tracks tracks)
        (session.step_knows timed.1 timed.2 tracks knows)

/-- A caller that waits for a call waits for one that was begun, at its front too. -/
theorem front_lt_length (steps : List (Instant × Step σ α)) {index : Nat}
    {place : Suspended σ α} {id : CallId} {next : Result α → Plan σ α}
    (at_ : ((empty : Session σ α).run steps).callers[index]? = some (.suspended place))
    (front : place.front = .following id next) :
    id < ((empty : Session σ α).run steps).flight.calls.length :=
  run_knows steps _ (List.mem_of_getElem? at_) id (Suspended.waitsFor?_of_front front)

/-- Polling a caller whose call has no answer changes nothing. -/
theorem poll_of_unanswered {session : Session σ α} {index : Nat} {place : Suspended σ α}
    {id : CallId} {next : Result α → Plan σ α}
    (at_ : session.callers[index]? = some (.suspended place))
    (front : place.front = .following id next) (unanswered : session.flight.answer? id = none)
    (now : Instant) (words : Words σ) : session.step now (.poll index words) = session := by
  simp only [Session.step, onCaller, at_, Caller.poll, Caller.ofProgress,
    Suspended.resume_of_unanswered front unanswered]
  have same : session.callers.set index (.suspended place) = session.callers := by
    obtain ⟨bound, here⟩ := List.getElem?_eq_some_iff.mp at_
    rw [← here, List.set_getElem_self]
  rw [same]

/-- A follower whose call has no answer stays in its place through every step but its own
drop. -/
theorem step_of_unanswered {session : Session σ α} {index : Nat} {place : Suspended σ α}
    {id : CallId} {next : Result α → Plan σ α}
    (at_ : session.callers[index]? = some (.suspended place))
    (front : place.front = .following id next) (unanswered : session.flight.answer? id = none)
    (now : Instant) (step : Step σ α) :
    step = .drop index ∨ (session.step now step).callers[index]? = some (.suspended place) := by
  rw [caller?_step at_]
  cases step with
  | create plan => exact Or.inr rfl
  | poll other words =>
      right
      have stays : (Caller.suspended place).poll now words session.flight =
          (.suspended place, session.flight) := by
        simp only [Caller.poll, Suspended.resume_of_unanswered front unanswered, Caller.ofProgress]
      rw [Step.on, stays, ite_self]
  | drop other =>
      by_cases same : other = index
      · exact Or.inl (by rw [same])
      · exact Or.inr (by rw [Step.on, if_neg same])

/-- After every run, let `drops` be the guards dropped in it.  No call ends twice.

A caller that runs work for a key with a call under way follows that call: a live leader
leads it, the caller waits, its own work does not begin, and the flight stays as it is.

A follower waits for one call.  Until the leader of that call has ended, no poll of it is
ready: it changes nothing at all, and only its own drop moves the follower.  Once that
leader has ended, whatever else was begun for the key since, a poll goes on at once with
the leader's result, or with the news that the leader failed. -/
theorem follower_hears_its_leader (steps : List (Instant × Step σ α)) :
    let session := (empty : Session σ α).run steps
    let drops := (empty : Session σ α).drops steps
    (drops.map GuardDrop.id).Nodup ∧
    (∀ label key work next id now words, session.flight.find? key = some id →
      (∃ index, session.Leads index key id) ∧ endingOf? drops id = none ∧
      (Plan.call label key work next).run now words session.flight =
        ((.waiting (.following id next), session.flight) : Progress σ α × Flight α)) ∧
    ∀ index place id next, session.callers[index]? = some (.suspended place) →
      place.front = .following id next →
      ((∃ leader key, session.Leads leader key id) ↔ endingOf? drops id = none) ∧
      (endingOf? drops id = none →
        (∀ now words, session.step now (.poll index words) = session) ∧
        ∀ now step, step = .drop index ∨
          (session.step now step).callers[index]? = some (.suspended place)) ∧
      ∀ ending, endingOf? drops id = some ending → ∀ now words,
        (Suspended.following id next).resume now words session.flight =
          (next ending.answer).run now words session.flight := by
  intro session drops
  have evolves : (empty : Session σ α).flight.Evolves [] drops session.flight session.led :=
    run_evolves empty steps
  have tracks : session.flight.Tracks session.led := evolves.tracks .empty
  have records : session.flight.Records drops := evolves.records .empty .empty
  refine ⟨records.once, ?_, ?_⟩
  · intro label key work next id now words found
    have running := tracks.find?_eq_some_iff.mp found
    refine ⟨(exists_leads_iff tracks).mpr running, records.endingOf?_of_running running, ?_⟩
    simp only [Plan.run, found, running.answer?_eq_none]
  · intro index place id next at_ front
    have known : id < session.flight.calls.length := front_lt_length steps at_ front
    have answer := records.answer?_eq known
    refine ⟨⟨?_, ?_⟩, fun unended => ?_, fun ending ended now words => ?_⟩
    · rintro ⟨leader, key, leads⟩
      exact records.endingOf?_of_running ((exists_leads_iff tracks).mp ⟨leader, leads⟩)
    · intro unended
      obtain ⟨key, running⟩ := records.running_of_endingOf? known unended
      obtain ⟨leader, leads⟩ := (exists_leads_iff tracks).mpr running
      exact ⟨leader, key, leads⟩
    · rw [unended] at answer
      exact ⟨poll_of_unanswered at_ front answer, step_of_unanswered at_ front answer⟩
    · rw [ended] at answer
      simp only [Suspended.resume, answer, Option.map_some]

/-- A follower waits as long as its leader is there.  The leader is dropped, and another caller
leads a new call for the same key: the follower hears that its own leader failed. -/
theorem follower_hears_of_dropped_leader :
    let asks : Plan Unit Nat := .call "get" "k" (.await "go" fun _ => .finish (.ok 0)) .finish
    let closed : Words Unit := fun _ => none
    let before : List (Instant × Step Unit Nat) := [(⟨0⟩, .create asks), (⟨0⟩, .create asks),
      (⟨0⟩, .create asks), (⟨1⟩, .poll 0 closed), (⟨2⟩, .poll 1 closed)]
    let after : List (Instant × Step Unit Nat) := [(⟨3⟩, .drop 0), (⟨4⟩, .poll 2 closed)]
    let session := (empty : Session Unit Nat).run before
    let later := (empty : Session Unit Nat).run (before ++ after)
    session.callers[1]? = some (.suspended (.following 0 .finish)) ∧
      (∃ leader key, session.Leads leader key 0) ∧
      (∀ now words, session.step now (.poll 1 words) = session) ∧
      later.Leads 2 "k" 1 ∧
      ∀ now words, (Suspended.following 0 .finish).resume now words later.flight =
        (Plan.finish (.error .leaderFailed) : Plan Unit Nat).run now words later.flight := by
  intro asks closed before after session later
  have waiting : session.callers[1]? = some (.suspended (.following 0 .finish)) := rfl
  have waitingLater : later.callers[1]? = some (.suspended (.following 0 .finish)) := rfl
  have underWay : endingOf? ((empty : Session Unit Nat).drops before) 0 = none := rfl
  have lost : endingOf? ((empty : Session Unit Nat).drops (before ++ after)) 0 =
    some .dropped := rfl
  have leads : later.Leads 2 "k" 1 := ⟨_, rfl, by decide, _, rfl, rfl⟩
  obtain ⟨live, waits, -⟩ := (follower_hears_its_leader before).2.2 1 _ 0 _ waiting rfl
  obtain ⟨-, -, hears⟩ := (follower_hears_its_leader (before ++ after)).2.2 1 _ 0 _ waitingLater rfl
  exact ⟨waiting, live.mpr underWay, (waits underWay).1, leads, hears .dropped lost⟩

end Session

end PeerCache
