/-
Module: PeerCache.Proofs.Flight.WaitCycles
Purpose: Callers that wait for one another in a circle wait until one is dropped, and then all end.
Main exports:
  Suspended.Relays, Session.AwaitsCallOf, Session.SparesAll, Session.Polls, Session.chain_run,
  Session.RelayAll, Session.Dissolving, Session.wait_cycle_persists_then_dissolves
-/
import Mathlib.Data.List.Cycle
import PeerCache.Proofs.Flight.Followers

/-!
A caller may lead a call whose work waits for another call, led by a caller that waits in its turn.
If the callers that wait so come round to the first, none of them can go on: each waits for a call
that ends only when the next one goes on.  So the circle stays for as long as none of its members is
dropped, whatever else happens (`Session.chain_run`).

When a member is dropped all its calls end without a result, and the member that waits for one of
them hears at its next poll that its leader failed.  If its work hands this on, all calls that it
leads end with the same news, innermost first (`Suspended.resume_relays`), and the member before it
is next.  So the news travels backwards round the circle, one member at least with every round of
polls.  What is kept all the while is that a member either still waits where it did or has ended
with the news, and then so have all its calls (`Session.Dissolving`).
-/

namespace PeerCache

variable {σ α : Type}

/-! ## What a waiting caller hands on -/

/-- When it hears this result, the caller ends with it, and so does all work in between. -/
def Suspended.Relays (result : Result α) : Suspended σ α → Prop
  | .awaiting _ _ => True
  | .following _ next => next result = .finish result
  | .leading _ work next => work.Relays result ∧ next result = .finish result

theorem Suspended.exists_front {place : Suspended σ α} {id : CallId}
    (waits : place.waitsFor? = some id) : ∃ next, place.front = .following id next := by
  induction place with
  | awaiting name next => cases waits
  | following call next =>
      cases waits
      exact ⟨next, rfl⟩
  | leading call work next hyp => exact hyp waits

/-- Where inner calls have ended in a way, and the call around them ends so, all have. -/
theorem Flight.Tracks.answers_settle {flight : Flight α} {inner rest : List CallId} {id : CallId}
    (tracks : flight.Tracks (id :: rest)) (ending : LeaderEnd α)
    (ended : ∀ call ∈ inner, flight.answer? call = some ending.answer) :
    ∀ call ∈ inner ++ [id],
      (flight.settle id ending.result?).answer? call = some ending.answer := by
  obtain ⟨key, running, -⟩ := tracks.find?_of_live (List.mem_cons_self ..)
  have settles : flight.Evolves (id :: rest) _ (flight.settle id ending.result?) rest :=
    .settle id ending (.refl _ rest)
  intro call member
  rcases List.mem_append.mp member with before | own
  · exact settles.answer? tracks (ended call before)
  · rw [List.mem_singleton.mp own, running.answer?_settle]
    cases ending <;> rfl

/-- A caller that hears a result and hands it on ends with it, and ends all its calls with it. -/
theorem Suspended.resume_relays (now : Instant) (words : Words σ) {place : Suspended σ α}
    {flight : Flight α} {rest : List CallId} {id : CallId} {result : Result α}
    (tracks : flight.Tracks (place.led ++ rest)) (waits : place.waitsFor? = some id)
    (answered : flight.answer? id = some result) (relays : place.Relays result) :
    (place.resume now words flight).1 = .returned result ∧
      ∀ call ∈ place.led, (place.resume now words flight).2.answer? call = some result := by
  induction place generalizing rest with
  | awaiting name next => cases waits
  | following known next =>
      cases waits
      have onward : next result = .finish result := relays
      simp only [Suspended.resume, answered, onward, Plan.run]
      exact ⟨trivial, fun call member => absurd member List.not_mem_nil⟩
  | leading call work next hyp =>
      rw [Suspended.led_leading_append] at tracks
      obtain ⟨returned, ended⟩ := hyp tracks waits relays.1
      have worked := (work.resume_evolves now words flight (call :: rest)).tracks tracks
      have onward : next result = .finish result := relays.2
      cases ran : work.resume now words flight with
      | mk progress after =>
          rw [ran] at returned ended worked
          obtain rfl : progress = .returned result := returned
          simp only [Suspended.resume, ran, onward, Plan.run]
          exact ⟨trivial, worked.answers_settle (.returned result) ended⟩

/-- All calls of a caller that is dropped end without a result. -/
theorem Suspended.abandon_answers {place : Suspended σ α} {flight : Flight α} {rest : List CallId}
    (tracks : flight.Tracks (place.led ++ rest)) :
    ∀ call ∈ place.led, (place.abandon flight).answer? call = some (.error .leaderFailed) := by
  induction place generalizing rest with
  | awaiting name next => exact fun call member => absurd member List.not_mem_nil
  | following known next => exact fun call member => absurd member List.not_mem_nil
  | leading call work next hyp =>
      rw [Suspended.led_leading_append] at tracks
      have abandoned := (work.abandon_evolves flight (call :: rest)).tracks tracks
      exact abandoned.answers_settle .dropped (hyp tracks)

/-! ## Callers that go round in a circle -/

section Circles

variable {members : Cycle Nat} {relation : Nat → Nat → Prop} {member : Nat}

/-- A circle can be told from any of its members. -/
theorem exists_coe_cons (inside : member ∈ members) :
    ∃ rest : List Nat, members = ((member :: rest : List Nat) : Cycle Nat) := by
  induction members using Quotient.inductionOn' with
  | h list =>
      obtain ⟨front, back, rfl⟩ := List.append_of_mem (Cycle.mem_coe_iff.mp inside)
      exact ⟨back ++ front, Cycle.coe_eq_coe.mpr List.isRotated_append⟩

theorem exists_next (circle : members.Chain relation) (inside : member ∈ members) :
    ∃ next ∈ members, relation member next := by
  obtain ⟨rest, rfl⟩ := exists_coe_cons inside
  rw [Cycle.chain_coe_cons] at circle
  cases rest with
  | nil => exact ⟨member, inside, (List.isChain_cons_cons.mp circle).1⟩
  | cons next rest =>
      have known : next ∈ member :: next :: rest := by simp
      exact ⟨next, Cycle.mem_coe_iff.mpr known, (List.isChain_cons_cons.mp circle).1⟩

theorem chain_imp_of_mem {other : Nat → Nat → Prop} (circle : members.Chain relation)
    (imp : ∀ one ∈ members, ∀ next ∈ members, relation one next → other one next) :
    members.Chain other := by
  induction members with
  | nil => exact Cycle.Chain.nil _
  | cons first rest =>
      rw [Cycle.chain_coe_cons] at circle ⊢
      have known : ∀ one ∈ first :: rest ++ [first],
          one ∈ ((first :: rest : List Nat) : Cycle Nat) := by
        intro one inside
        rw [Cycle.mem_coe_iff]
        rcases List.mem_append.mp inside with inList | last
        · exact inList
        · rw [List.mem_singleton.mp last]
          exact List.mem_cons_self ..
      exact circle.imp_of_mem_imp fun one next inside insideToo =>
        imp one (known one inside) next (known next insideToo)

end Circles

namespace Session

variable {start session : Session σ α} {members : Cycle Nat} {member next index broken : Nat}
  {move : Step σ α} {steps : List (Instant × Step σ α)}

/-! ## Circles of waiting callers -/

/-- One caller waits, inside all the calls that it leads, for a call that the next one leads. -/
def AwaitsCallOf (session : Session σ α) (member next : Nat) : Prop :=
  ∃ place id key, session.callers[member]? = some (.suspended place) ∧
    place.waitsFor? = some id ∧ session.Leads next key id

/-- Some caller is polled. -/
def Polls (index : Nat) (steps : List (Instant × Step σ α)) : Prop :=
  ∃ now words, (now, .poll index words) ∈ steps

/-- None of these callers is dropped. -/
def SparesAll (members : Cycle Nat) (steps : List (Instant × Step σ α)) : Prop :=
  ∀ member ∈ members, ∀ now, (now, .drop member) ∉ steps

theorem sparesAll_cons {timed : Instant × Step σ α} :
    SparesAll members (timed :: steps) ↔
      (∀ member ∈ members, timed.2 ≠ .drop member) ∧ SparesAll members steps := by
  constructor
  · intro spares
    constructor
    · intro member inside same
      exact spares member inside timed.1 (same ▸ List.mem_cons_self ..)
    · intro member inside now dropped
      exact spares member inside now (List.mem_cons_of_mem _ dropped)
  · rintro ⟨first, rest⟩ member inside now dropped
    rcases List.mem_cons.mp dropped with rfl | later
    · exact first member inside rfl
    · exact rest member inside now later

theorem sparesAll_append {later : List (Instant × Step σ α)} :
    SparesAll members (steps ++ later) ↔ SparesAll members steps ∧ SparesAll members later := by
  induction steps with
  | nil => exact ⟨fun spares => ⟨fun _ _ _ => List.not_mem_nil, spares⟩, And.right⟩
  | cons timed rest hyp => rw [List.cons_append, sparesAll_cons, hyp, sparesAll_cons, and_assoc]

/-- Who waits for a call of a caller that waits too waits for a call without an answer. -/
theorem Leads.answer?_eq_none {key : String} {id : CallId}
    (tracks : session.flight.Tracks session.led) (leads : session.Leads index key id) :
    session.flight.answer? id = none :=
  ((exists_leads_iff tracks).mp ⟨index, leads⟩).answer?_eq_none

/-- Where the callers are as they were, they still wait for one another. -/
theorem AwaitsCallOf.transfer (awaits : start.AwaitsCallOf member next)
    (known : ∀ id key, start.flight.IsFor id key → session.flight.IsFor id key)
    (same : session.callers[member]? = start.callers[member]?)
    (sameNext : session.callers[next]? = start.callers[next]?) :
    session.AwaitsCallOf member next := by
  obtain ⟨place, id, key, at_, waits, placeNext, atNext, inLed, isFor⟩ := awaits
  exact ⟨place, id, key, same.trans at_, waits, placeNext, sameNext.trans atNext, inLed,
    known id key isFor⟩

/-- A caller that waits for another of a circle moves in no step but its own drop. -/
theorem AwaitsCallOf.caller?_step (awaits : session.AwaitsCallOf member next)
    (tracks : session.flight.Tracks session.led) (now : Instant) (spared : move ≠ .drop member) :
    (session.step now move).callers[member]? = session.callers[member]? := by
  obtain ⟨place, id, key, at_, waits, leads⟩ := awaits
  obtain ⟨onward, front⟩ := Suspended.exists_front waits
  rcases step_of_unanswered at_ front (leads.answer?_eq_none tracks) now move with dropped | stays
  · exact absurd dropped spared
  · exact stays.trans at_.symm

/-- In whatever happens to a circle but the drop of a member, all members stay where they are. -/
theorem chain_run (tracks : session.flight.Tracks session.led)
    (circle : members.Chain session.AwaitsCallOf) (spares : SparesAll members steps) :
    members.Chain (session.run steps).AwaitsCallOf ∧
      ∀ member ∈ members, (session.run steps).callers[member]? = session.callers[member]? := by
  induction steps generalizing session with
  | nil => exact ⟨circle, fun _ _ => rfl⟩
  | cons timed rest hyp =>
      obtain ⟨now, step⟩ := timed
      obtain ⟨spared, spares⟩ := sparesAll_cons.mp spares
      have evolves := session.step_evolves now step
      have stays : ∀ member ∈ members,
          (session.step now step).callers[member]? = session.callers[member]? := by
        intro member inside
        obtain ⟨next, -, awaits⟩ := exists_next circle inside
        exact awaits.caller?_step tracks now (spared member inside)
      have still : members.Chain (session.step now step).AwaitsCallOf :=
        chain_imp_of_mem circle fun one inside next insideToo awaits =>
          awaits.transfer (fun _ _ => evolves.isFor) (stays one inside) (stays next insideToo)
      obtain ⟨last, stay⟩ := hyp (evolves.tracks tracks) still spares
      exact ⟨last, fun member inside => (stay member inside).trans (stays member inside)⟩

/-! ## A broken circle -/

/-- A caller has come to this end, and followers of any call that it led at the start learn that
their leader failed. -/
structure Gone (start session : Session σ α) (member : Nat) (ended : Caller σ α) : Prop where
  isEnd : ended.isPending = false
  stands : session.callers[member]? = some ended
  answers : ∀ key id, start.Leads member key id →
    session.flight.answer? id = some (.error .leaderFailed)

/-- What becomes of the members of a circle of which one is dropped: the others end with the news
that their leader failed. -/
def lot (broken member : Nat) : Caller σ α :=
  if member = broken then .dropped else .returned (.error .leaderFailed)

/-- The members other than the broken one hand on that their leader failed. -/
def RelayAll (session : Session σ α) (members : Cycle Nat) (broken : Nat) : Prop :=
  ∀ member ∈ members, member ≠ broken → ∀ place,
    session.callers[member]? = some (.suspended place) → place.Relays (.error .leaderFailed)

/-- Since a member was dropped, every other one waits as it did at the start, or is gone with the
news that its leader failed. -/
structure Dissolving (start session : Session σ α) (members : Cycle Nat) (broken : Nat) : Prop where
  tracks : session.flight.Tracks session.led
  known : ∀ id key, start.flight.IsFor id key → session.flight.IsFor id key
  dropped : start.Gone session broken (lot broken broken)
  each : ∀ member ∈ members, session.callers[member]? = start.callers[member]? ∨
    start.Gone session member (lot broken member)

theorem Gone.step {ended : Caller σ α} (gone : start.Gone session member ended)
    (tracks : session.flight.Tracks session.led) (now : Instant) (step : Step σ α) :
    start.Gone (session.step now step) member ended where
  isEnd := gone.isEnd
  stands := by rw [caller?_step gone.stands, Step.on_ended gone.isEnd]
  answers key id leads := (session.step_evolves now step).answer? tracks (gone.answers key id leads)

theorem Gone.run {ended : Caller σ α} (gone : start.Gone session member ended)
    (tracks : session.flight.Tracks session.led) (steps : List (Instant × Step σ α)) :
    start.Gone (session.run steps) member ended := by
  induction steps generalizing session with
  | nil => exact gone
  | cons timed rest hyp =>
      exact hyp (gone.step tracks timed.1 timed.2)
        ((session.step_evolves timed.1 timed.2).tracks tracks)

theorem isPending_lot (broken member : Nat) :
    (lot broken member : Caller σ α).isPending = false := by
  unfold lot
  split <;> rfl

/-- The drop of a member ends all its calls, and moves nobody else. -/
theorem dissolving_drop (tracks : start.flight.Tracks start.led) (now : Instant)
    (awaits : start.AwaitsCallOf broken next) :
    start.Dissolving (start.step now (.drop broken)) members broken := by
  obtain ⟨place, -, -, at_, -⟩ := awaits
  have evolves := start.step_evolves now (.drop broken)
  have stands : (start.step now (.drop broken)).callers[broken]? = some .dropped := by
    rw [caller?_step at_, Step.on, if_pos rfl]
    rfl
  have flight : (start.step now (.drop broken)).flight = place.abandon start.flight := by
    simp only [Session.step, onCaller, at_, Caller.drop]
  have dropped : start.Gone (start.step now (.drop broken)) broken (lot broken broken) := by
    refine ⟨isPending_lot broken broken, ?_, ?_⟩
    · rw [stands, lot, if_pos rfl]
    · rintro key id ⟨other, there, inLed, -⟩
      cases at_.symm.trans there
      obtain ⟨rest, before, -⟩ := flatMap_set_perm Caller.led at_
      rw [flight]
      exact Suspended.abandon_answers (tracks.perm before) id inLed
  refine ⟨evolves.tracks tracks, fun _ _ => evolves.isFor, dropped, ?_⟩
  · intro member _
    by_cases same : member = broken
    · subst same
      exact Or.inr dropped
    · left
      simp only [Session.step, onCaller, at_, List.getElem?_set_ne (Ne.symm same)]

/-- A member that waits where it did hears, at its next poll, what has become of the member that it
waits for; then it is gone with all its calls. -/
theorem Dissolving.poll (dissolving : start.Dissolving session members broken)
    (relay : start.RelayAll members broken) (inside : member ∈ members)
    (awaits : start.AwaitsCallOf member next) (gone : start.Gone session next (lot broken next))
    (now : Instant) (words : Words σ) :
    start.Gone (session.step now (.poll member words)) member (lot broken member) := by
  rcases dissolving.each member inside with waiting | already
  case inr => exact already.step dissolving.tracks now _
  obtain ⟨place, id, key, atStart, waits, leads⟩ := awaits
  have apart : member ≠ broken := by
    rintro rfl
    have same := (waiting.trans atStart).symm.trans dissolving.dropped.stands
    rw [lot, if_pos rfl] at same
    cases same
  have at_ := waiting.trans atStart
  have answered := gone.answers key id leads
  obtain ⟨rest, before, -⟩ := flatMap_set_perm Caller.led at_
  obtain ⟨returned, ended⟩ := Suspended.resume_relays now words (dissolving.tracks.perm before)
    waits answered (relay member inside apart place atStart)
  have flight : (session.step now (.poll member words)).flight =
      (place.resume now words session.flight).2 := by
    simp only [Session.step, onCaller, at_, Caller.poll]
  refine ⟨isPending_lot broken member, ?_, ?_⟩
  · have stops : ((Caller.suspended place).poll now words session.flight).1 =
        .returned (.error .leaderFailed) := congrArg Caller.ofProgress returned
    rw [caller?_step at_, Step.on, if_pos rfl, stops, lot, if_neg apart]
  · rintro name call ⟨other, there, inLed, -⟩
    cases atStart.symm.trans there
    rw [flight]
    exact ended call inLed

/-- Whoever has an answer for a member that waits is gone. -/
theorem Dissolving.gone_of_answered (dissolving : start.Dissolving session members broken)
    (inside : next ∈ members) {key : String} {id : CallId} {result : Result α}
    (leads : start.Leads next key id) (answered : session.flight.answer? id = some result) :
    start.Gone session next (lot broken next) := by
  rcases dissolving.each next inside with waiting | gone
  · obtain ⟨place, at_, inLed, isFor⟩ := leads
    have leads : session.Leads next key id :=
      ⟨place, waiting.trans at_, inLed, dissolving.known id key isFor⟩
    rw [leads.answer?_eq_none dissolving.tracks] at answered
    cases answered
  · exact gone

theorem Dissolving.step (dissolving : start.Dissolving session members broken)
    (circle : members.Chain start.AwaitsCallOf) (relay : start.RelayAll members broken)
    (now : Instant) (spares : ∀ member ∈ members, move ≠ .drop member) :
    start.Dissolving (session.step now move) members broken := by
  have evolves := session.step_evolves now move
  refine ⟨evolves.tracks dissolving.tracks, fun id key isFor => evolves.isFor
    (dissolving.known id key isFor), dissolving.dropped.step dissolving.tracks now move, ?_⟩
  intro member inside
  rcases dissolving.each member inside with waiting | gone
  case inr => exact Or.inr (gone.step dissolving.tracks now move)
  obtain ⟨next, insideNext, awaits⟩ := exists_next circle inside
  obtain ⟨place, id, key, at_, waits, leads⟩ := awaits
  cases answered : session.flight.answer? id with
  | none =>
      obtain ⟨onward, front⟩ := Suspended.exists_front waits
      rcases step_of_unanswered (waiting.trans at_) front answered now move with drops | stays
      · exact absurd drops (spares member inside)
      · exact Or.inl (stays.trans at_.symm)
  | some result =>
      have gone := dissolving.gone_of_answered insideNext leads answered
      by_cases polled : ∃ words, move = .poll member words
      · obtain ⟨words, rfl⟩ := polled
        exact Or.inr
          (dissolving.poll relay inside ⟨place, id, key, at_, waits, leads⟩ gone now words)
      · left
        rw [caller?_step (waiting.trans at_), at_]
        cases move with
        | create plan => rfl
        | poll other words =>
            have apart : other ≠ member := fun same => polled ⟨words, by rw [same]⟩
            rw [Step.on, if_neg apart]
        | drop other =>
            have apart : other ≠ member := fun same => spares member inside (by rw [same])
            rw [Step.on, if_neg apart]

theorem Dissolving.run (dissolving : start.Dissolving session members broken)
    (circle : members.Chain start.AwaitsCallOf) (relay : start.RelayAll members broken)
    (spares : SparesAll members steps) :
    start.Dissolving (session.run steps) members broken := by
  induction steps generalizing session with
  | nil => exact dissolving
  | cons timed rest hyp =>
      obtain ⟨first, later⟩ := sparesAll_cons.mp spares
      exact hyp (dissolving.step circle relay timed.1 first) later

/-- In a round in which a member is polled that waits for one that is gone, it goes too. -/
theorem Dissolving.round (dissolving : start.Dissolving session members broken)
    (circle : members.Chain start.AwaitsCallOf) (relay : start.RelayAll members broken)
    (inside : member ∈ members) (awaits : start.AwaitsCallOf member next)
    (gone : start.Gone session next (lot broken next)) (spares : SparesAll members steps)
    (polls : member ≠ broken → Polls member steps) :
    start.Gone (session.run steps) member (lot broken member) := by
  by_cases same : member = broken
  · subst same
    exact dissolving.dropped.run dissolving.tracks steps
  · obtain ⟨now, words, polled⟩ := polls same
    obtain ⟨first, later, rfl⟩ := List.append_of_mem polled
    obtain ⟨sparesFirst, sparesLater⟩ := sparesAll_append.mp spares
    have before := dissolving.run circle relay sparesFirst
    have goneBefore := gone.run dissolving.tracks first
    have heard := before.poll relay inside awaits goneBefore now words
    have tracks := ((session.run first).step_evolves now (.poll member words)).tracks before.tracks
    rw [run_append, run_cons]
    exact heard.run tracks later

/-- With every round of polls one more member is gone, backwards from one that is. -/
theorem Dissolving.rounds {front : List Nat} {rounds : List (List (Instant × Step σ α))}
    (dissolving : start.Dissolving session members broken)
    (circle : members.Chain start.AwaitsCallOf) (relay : start.RelayAll members broken)
    (inside : ∀ member ∈ front, member ∈ members)
    (path : (front ++ [next]).IsChain start.AwaitsCallOf)
    (gone : start.Gone session next (lot broken next))
    (fair : ∀ round ∈ rounds, SparesAll members round ∧
      ∀ member ∈ members, member ≠ broken → Polls member round)
    (enough : front.length ≤ rounds.length) :
    ∀ member ∈ front, start.Gone (session.run rounds.flatten) member (lot broken member) := by
  induction front using List.reverseRecOn generalizing session next rounds with
  | nil => exact fun member listed => absurd listed List.not_mem_nil
  | append_singleton front last hyp =>
      cases rounds with
      | nil => simp at enough
      | cons round rest =>
          obtain ⟨spares, polls⟩ := fair round (List.mem_cons_self ..)
          have insideLast : last ∈ members := inside last (by simp)
          rw [List.append_assoc, List.singleton_append, List.isChain_append_cons_cons] at path
          obtain ⟨pathFront, awaits, -⟩ := path
          have goneLast := dissolving.round circle relay insideLast awaits gone spares
            (polls last insideLast)
          have after := dissolving.run circle relay spares
          rw [List.flatten_cons, run_append]
          intro member shown
          rcases List.mem_append.mp shown with inFront | isLast
          · refine hyp after (fun one known => inside one (List.mem_append_left _ known)) pathFront
              goneLast (fun later known => fair later (List.mem_cons_of_mem _ known)) ?_ member
              inFront
            simp only [List.length_append, List.length_cons, List.length_nil] at enough
            omega
          · rw [List.mem_singleton.mp isLast]
            exact goneLast.run after.tracks _

/-! ## Both together -/

/-- Let some callers wait in a circle after any run: each, in work that it leads, for a call that
the next one leads.  In whatever happens but the drop of one of them they all stay where they are.

If one is dropped, and the work of the others hands on the failure of its leader, then every round
that polls each of the others once at least, in any order and whatever else happens in it, lets one
more of them end.  After as many rounds as there are others these have all ended with the news that
their leader failed, and no call that any member has led is under way any more. -/
theorem wait_cycle_persists_then_dissolves (before : List (Instant × Step σ α))
    (members : Cycle Nat)
    (circle : members.Chain ((empty : Session σ α).run before).AwaitsCallOf) :
    let session := (empty : Session σ α).run before
    (∀ steps, SparesAll members steps →
      members.Chain (session.run steps).AwaitsCallOf ∧
        ∀ member ∈ members, (session.run steps).callers[member]? = session.callers[member]?) ∧
    ∀ broken ∈ members, session.RelayAll members broken →
      ∀ (now : Instant) (rounds : List (List (Instant × Step σ α))),
      (∀ round ∈ rounds, SparesAll members round ∧
        ∀ member ∈ members, member ≠ broken → Polls member round) →
      members.length ≤ rounds.length + 1 →
      let last := session.run ((now, .drop broken) :: rounds.flatten)
      (∀ member ∈ members, member ≠ broken →
        last.callers[member]? = some (.returned (.error .leaderFailed))) ∧
      ∀ member ∈ members, ∀ key id, session.Leads member key id →
        ∀ other, last.flight.find? other ≠ some id := by
  intro session
  have tracks : session.flight.Tracks session.led := run_tracks before
  refine ⟨fun steps spares => chain_run tracks circle spares, ?_⟩
  intro broken inside relay now rounds fair enough last
  obtain ⟨rest, rfl⟩ := exists_coe_cons inside
  obtain ⟨next, -, awaits⟩ := exists_next circle inside
  have dropped : session.Dissolving (session.step now (.drop broken))
      ((broken :: rest : List Nat) : Cycle Nat) broken := dissolving_drop tracks now awaits
  have path : (broken :: rest ++ [broken]).IsChain session.AwaitsCallOf := circle
  have goes : ∀ member ∈ rest, session.Gone last member (lot broken member) := by
    refine dropped.rounds circle relay ?_ path.tail dropped.dropped fair ?_
    · intro member known
      exact Cycle.mem_coe_iff.mpr (List.mem_cons_of_mem _ known)
    · rw [Cycle.length_coe, List.length_cons] at enough
      exact Nat.le_of_succ_le_succ enough
  have gone : ∀ member ∈ ((broken :: rest : List Nat) : Cycle Nat),
      session.Gone last member (lot broken member) := by
    intro member known
    rcases List.mem_cons.mp (Cycle.mem_coe_iff.mp known) with rfl | other
    · exact dropped.dropped.run dropped.tracks rounds.flatten
    · exact goes member other
  constructor
  · intro member known apart
    rw [(gone member known).stands, lot, if_neg apart]
  · intro member known key id leads other found
    have tracksLast : last.flight.Tracks last.led := (run_evolves session _).tracks tracks
    have running := tracksLast.find?_eq_some_iff.mp found
    have answered := (gone member known).answers key id leads
    rw [running.answer?_eq_none] at answered
    cases answered

/-- Three callers wait in a circle, one of them at the second depth, and a fourth one looks on.  The
first is dropped; in the first round only the third can end, and in the second the second does. -/
theorem nested_circle_of_three_dissolves :
    let asks := fun key : String => (.await "go" fun _ =>
      .call "inner" key (.finish (.ok 0)) .finish : Plan Unit Nat)
    let leads := fun (key : String) (work : Plan Unit Nat) => Plan.call "outer" key work .finish
    let closed : Words Unit := fun _ => none
    let opened : Words Unit := fun _ => some ()
    let before : List (Instant × Step Unit Nat) :=
      [(⟨1⟩, .create (leads "a" (asks "b"))), (⟨1⟩, .create (leads "b" (leads "c" (asks "d")))),
        (⟨1⟩, .create (leads "d" (asks "a"))), (⟨1⟩, .create (leads "c" (asks "a"))),
        (⟨2⟩, .poll 0 closed), (⟨2⟩, .poll 1 closed), (⟨2⟩, .poll 2 closed), (⟨2⟩, .poll 3 closed),
        (⟨3⟩, .poll 0 opened), (⟨3⟩, .poll 1 opened), (⟨3⟩, .poll 2 opened)]
    let members : Cycle Nat := ([0, 1, 2] : List Nat)
    let session := (empty : Session Unit Nat).run before
    let rounds : List (List (Instant × Step Unit Nat)) :=
      [[(⟨5⟩, .poll 1 closed), (⟨5⟩, .poll 2 closed), (⟨5⟩, .poll 3 closed)],
        [(⟨6⟩, .create (leads "a" (asks "d"))), (⟨6⟩, .poll 2 closed), (⟨6⟩, .poll 1 closed)]]
    members.Chain session.AwaitsCallOf ∧ session.RelayAll members 0 ∧
      (∀ round ∈ rounds, SparesAll members round ∧
        ∀ member ∈ members, member ≠ 0 → Polls member round) ∧
      (∀ member, member = 1 ∨ member = 2 →
        (session.run ((⟨4⟩, .drop 0) :: rounds.flatten)).callers[member]? =
          some (.returned (.error .leaderFailed))) ∧
      session.Leads 1 "c" 2 ∧
      ∀ other, (session.run ((⟨4⟩, .drop 0) :: rounds.flatten)).flight.find? other ≠ some 2 := by
  intro asks leads closed opened before members session rounds
  have stands : session.callers =
      [.suspended (.leading 0 (.following 1 .finish) .finish),
        .suspended (.leading 1 (.leading 2 (.following 3 .finish) .finish) .finish),
        .suspended (.leading 3 (.following 0 .finish) .finish),
        .suspended (.following 2 .finish)] ∧
      session.flight.calls.map Call.key = ["a", "b", "c", "d"] := by
    simp [session, before, asks, leads, closed, opened, empty, Session.run, Session.step, onCaller,
      Caller.poll, Caller.ofProgress, Plan.run, Suspended.resume, Flight.find?, Flight.begin,
      Flight.answer?, Flight.empty, List.lookup_cons]
  have isFor : ∀ (id : CallId) (key : String), ["a", "b", "c", "d"][id]? = some key →
      session.flight.IsFor id key := by
    intro id key known
    rw [← stands.2, List.getElem?_map] at known
    exact Option.map_eq_some_iff.mp known
  have circle : members.Chain session.AwaitsCallOf := by
    rw [Cycle.chain_coe_cons]
    refine .cons_cons ?_ (.cons_cons ?_ (.cons_cons ?_ (.singleton 0)))
    · exact ⟨_, 1, "b", by rw [stands.1]; rfl, rfl, _, by rw [stands.1]; rfl, by decide,
        isFor 1 "b" rfl⟩
    · exact ⟨_, 3, "d", by rw [stands.1]; rfl, rfl, _, by rw [stands.1]; rfl, by decide,
        isFor 3 "d" rfl⟩
    · exact ⟨_, 0, "a", by rw [stands.1]; rfl, rfl, _, by rw [stands.1]; rfl, by decide,
        isFor 0 "a" rfl⟩
  have others : ∀ member ∈ members, member ≠ 0 → member = 1 ∨ member = 2 := by
    intro member inside apart
    simpa [members, apart] using inside
  have relay : session.RelayAll members 0 := by
    intro member inside apart place at_
    rw [stands.1] at at_
    rcases others member inside apart with rfl | rfl
    · cases at_
      exact ⟨⟨rfl, rfl⟩, rfl⟩
    · cases at_
      exact ⟨rfl, rfl⟩
  have fair : ∀ round ∈ rounds, SparesAll members round ∧
      ∀ member ∈ members, member ≠ 0 → Polls member round := by
    have spares : ∀ round ∈ rounds, SparesAll members round := by simp [rounds, SparesAll]
    refine fun round inside => ⟨spares round inside, fun member known apart => ?_⟩
    rcases List.mem_cons.mp inside with rfl | last
    · rcases others member known apart with rfl | rfl <;> exact ⟨⟨5⟩, closed, by simp⟩
    · rw [List.mem_singleton.mp last]
      rcases others member known apart with rfl | rfl <;> exact ⟨⟨6⟩, closed, by simp⟩
  obtain ⟨ended, freed⟩ := (wait_cycle_persists_then_dissolves before members circle).2 0
    (by decide) relay ⟨4⟩ rounds fair (by decide)
  have inner : session.Leads 1 "c" 2 := ⟨_, by rw [stands.1]; rfl, by decide, isFor 2 "c" rfl⟩
  refine ⟨circle, relay, fair, ?_, inner, freed 1 (by decide) "c" 2 inner⟩
  rintro member (rfl | rfl)
  · exact ended 1 (by decide) (by decide)
  · exact ended 2 (by decide) (by decide)

end Session

end PeerCache
