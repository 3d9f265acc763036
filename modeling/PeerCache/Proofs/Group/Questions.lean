/-
Module: PeerCache.Proofs.Group.Questions
Purpose: What the gets of a group wait for.
Main exports:
  Place.isOfGet, Place.question?, Group.Move.Answers, Group.step_question, Group.step_raised,
  Group.Heeds, Group.poll_heeds, Group.Orderly.exists_question
-/
import PeerCache.Proofs.Group.Dialogue

/-!
A get that leads a load waits for the answer to a question, which it has asked as it came to its
place (`Place.question?`).  As long as it stays there, the question has not been answered
(`Group.step_question`); whoever asks a question stands where it is waited for
(`Group.step_raised`).

A get that follows a load waits for its leader, and so in the end for the answer to a question too
(`Group.Orderly.exists_question`).  It has to be polled for that: a poll asks for nothing, and
leaves nobody to wait for a load that has ended (`Group.poll_heeds`).
-/

namespace PeerCache

variable {P : Type}

namespace Place

/-- Whether the place is one of a get. -/
def isOfGet : Place P → Bool
  | .joinedRemoval _ => false
  | .askingOwner _ _ => false
  | .broadcasting _ _ _ => false
  | .removed _ => false
  | _ => true

/-- The question that a get at the place waits to be answered. -/
def question? (caller : Nat) (key : String) : Place P → Option (Group.Event P)
  | .askingPeer _ peer => some (.askedPeer caller key peer)
  | .loading _ => some (.calledLoader caller key)
  | _ => none

theorem isOfGet_of_question? {caller : Nat} {key : String} {place : Place P}
    {event : Group.Event P} (asks : place.question? caller key = some event) :
    place.isOfGet = true := by
  cases place <;> first | rfl | cases asks

/-- A leader of a load that is not at work asks something. -/
theorem exists_question?_of_leads {place : Place P} {call : CallId}
    (leads : place.load? = some (.leads call)) (rests : place.isAtWork = false) (caller : Nat)
    (key : String) : ∃ event, place.question? caller key = some event := by
  cases place with
  | leading | found => cases rests
  | askingPeer other peer => exact ⟨_, rfl⟩
  | loading other => exact ⟨_, rfl⟩
  | _ => cases leads

end Place

namespace Group

/-- The move answers the question. -/
def Move.Answers : Move → Event P → Prop
  | .peerReplied caller _, .askedPeer asker _ _ => caller = asker
  | .loaderReplied caller _, .calledLoader asker _ => caller = asker
  | _, _ => False

/-- The event is a question of a get for the key. -/
def Event.IsQuestion (key : String) : Event P → Prop
  | .askedPeer _ name _ => name = key
  | .calledLoader _ name => name = key
  | _ => False

/-- A caller that waits for a load waits for one that has not ended. -/
def Heeds (group : Group P) (caller : Nat) : Prop :=
  ∀ entry call, group.callers[caller]? = some entry → entry.place = .joinedLoad call →
    group.loads.answer? call = none

/-- A question is answered by a move that its asker hears. -/
theorem Move.Answers.hears {move : Move} {event : Event P} (answers : move.Answers event)
    {caller : Nat} {key : String} {place : Place P}
    (asks : place.question? caller key = some event) :
    move.caller? = some caller ∧ place.hears move = true := by
  cases place with
  | askingPeer call peer =>
      cases asks
      cases move with
      | peerReplied index reply => exact ⟨congrArg some answers, rfl⟩
      | _ => exact answers.elim
  | loading call =>
      cases asks
      cases move with
      | loaderReplied index reply => exact ⟨congrArg some answers, rfl⟩
      | _ => exact answers.elim
  | _ => cases asks

section Steps

variable [PeerHandle P] {near : Surroundings P} {group after : Group P} {move : Move}
  {events : List (Event P)} {caller : Nat} {entry : GroupCaller P} {event : Event P}
  {place next : Place P} {key : String}

/-- A get remains one. -/
theorem Goes.isOfGet {heard : List (Surroundings P × Move)} {asked : List (Event P)}
    (goes : Goes near group after caller key place heard asked next)
    (isGet : place.isOfGet = true) : next.isOfGet = true := by
  cases goes with
  | stays => exact isGet
  | ownerRemoved | ownerFailed | peerRemoved | endBroadcast | hearRemoval => cases isGet
  | _ => rfl

/-- Who comes with a get stands at a place of one. -/
theorem Transition.isOfGet_of_get {context : CallContext}
    (transition : Transition near group (.get context key) after events) :
    ∃ place, after.callers[group.callers.length]? = some ⟨context, key, place⟩ ∧
      place.isOfGet = true := by
  cases transition with
  | idle _ nobody => cases nobody
  | _ => exact ⟨_, List.getElem?_concat_length, rfl⟩

/-- A get that comes and waits for an answer has asked its question. -/
theorem Transition.question_of_arrival (transition : Transition near group move after events)
    (new : group.callers.length ≤ caller) (at_ : after.callers[caller]? = some entry)
    (asks : entry.place.question? caller entry.key = some event) : event ∈ events := by
  obtain ⟨there, -⟩ := List.getElem?_eq_some_iff.mp at_
  obtain ⟨_, rfl, -, comes⟩ := transition.shift.arrival_of_new new there
  -- who comes stands where the transition says
  have arrived {context : CallContext} {key : String} {place : Place P} {before : Group P}
      (callers : before.callers = group.callers)
      (here : (before.arrive context key place).callers[group.callers.length]? = some entry) :
      entry = ⟨context, key, place⟩ := by
    rw [arrive, callers, List.getElem?_concat_length] at here
    exact (Option.some.inj here).symm
  cases transition with
  | askPeer | callLoader =>
      obtain rfl := arrived rfl at_
      cases asks
      exact List.mem_singleton.mpr rfl
  | hit | joinLoad | lateLoad | startHit | startMiss | joinRemoval | lateRemoval | askOwner
  | removeHere =>
      obtain rfl := arrived rfl at_
      cases asks
  | idle _ nobody => rw [nobody] at comes; cases comes
  | _ => cases comes

/-- Where a get waits for an answer, it has just asked its question, or waited there already and
has not been answered. -/
theorem step_question (near : Surroundings P) (move : Move)
    (at_ : (group.step near move).1.callers[caller]? = some entry)
    (asks : entry.place.question? caller entry.key = some event) :
    event ∈ (group.step near move).2 ∨
      group.callers[caller]? = some entry ∧ ¬ move.Answers event := by
  rcases Nat.lt_or_ge caller group.callers.length with old | new
  case inr =>
      exact Or.inl ((step_transition near group move).question_of_arrival new at_ asks)
  case inl =>
      obtain ⟨⟨context, key, place⟩, before⟩ : ∃ before, group.callers[caller]? = some before :=
        ⟨_, List.getElem?_eq_getElem old⟩
      obtain ⟨next, there, goes⟩ := step_goes near move before
      obtain rfl := Option.some.inj (at_.symm.trans there)
      have raised {more : List (Event P)} (isAsked : asked caller (group.step near move).2 = more)
          (member : event ∈ more) : event ∈ (group.step near move).2 :=
        (List.mem_filter.mp (isAsked ▸ member)).1
      generalize hears : heardOf near group caller move = heard at goes
      generalize isAsked : asked caller (group.step near move).2 = more at goes
      cases goes with
      | stays =>
          refine Or.inr ⟨before, fun answers => ?_⟩
          obtain ⟨named, told⟩ := answers.hears asks
          have heardIt := heardOf_of_hears near before named told
          rw [hears] at heardIt
          cases heardIt
      | peerFailed | leadToPeer | leadToLoader =>
          cases asks
          exact Or.inl (raised isAsked (List.mem_singleton.mpr rfl))
      | _ => cases asks

/-- Whoever asks a question stands where it is waited for. -/
theorem step_raised (near : Surroundings P) (move : Move)
    (member : event ∈ (group.step near move).2) (isQuestion : event.IsQuestion key) :
    ∃ entry, (group.step near move).1.callers[event.caller]? = some entry ∧ entry.key = key ∧
      entry.place.question? event.caller key = some event := by
  have transition := step_transition near group move
  generalize (group.step near move).1 = after at transition ⊢
  generalize (group.step near move).2 = events at transition member
  have nobody {owner : Option P} {caller : Nat} {name : String}
      (announced : event ∈ announce near owner caller name) : False := by
    obtain ⟨told, -, rfl⟩ := List.mem_map.mp announced
    exact isQuestion
  cases transition with
  | askPeer | callLoader =>
      obtain rfl := List.mem_singleton.mp member
      obtain rfl := isQuestion
      exact ⟨_, List.getElem?_concat_length, rfl, rfl⟩
  | peerFailed caller context key call peer error at_ =>
      obtain rfl := List.mem_singleton.mp member
      obtain rfl := isQuestion
      exact ⟨_, getElem?_moveTo at_ _, rfl, rfl⟩
  | leadToPeer caller context key call peer at_ | leadToLoader caller context key call at_ =>
      obtain rfl := List.mem_singleton.mp member
      obtain rfl := isQuestion
      exact ⟨_, getElem?_moveTo (show (group.missingAgain _).callers[caller]? = _ from at_) _,
        rfl, rfl⟩
  | askOwner =>
      obtain rfl := List.mem_singleton.mp member
      exact isQuestion.elim
  | removeHere | ownerRemoved => exact (nobody member).elim
  | _ => cases member

/-! ## Polls -/

theorem events_poll (near : Surroundings P) (group : Group P) (polled : Nat) :
    (group.step near (.poll polled)).2 = [] := by
  simp only [step]
  split <;> rfl

omit [PeerHandle P] in
theorem loads_pollPlace (group : Group P) (place : Place P) :
    (group.pollPlace place).2.loads = group.loads ∧
      (group.pollPlace place).2.callers = group.callers := by
  unfold pollPlace
  split
  case h_1 => split <;> exact ⟨rfl, rfl⟩
  case h_2 => split <;> exact ⟨rfl, rfl⟩
  case h_3 =>
      rw [endRemoval_eq]
      exact ⟨rfl, rfl⟩
  case h_4 => exact ⟨rfl, rfl⟩

omit [PeerHandle P] in
/-- Who still waits for a load after it was polled waits for one that has not ended. -/
theorem answer?_of_pollPlace {call : CallId}
    (joined : (group.pollPlace place).1 = .joinedLoad call) : group.loads.answer? call = none := by
  unfold pollPlace at joined
  split at joined
  case h_1 =>
      split at joined
      case h_1 => cases joined
      case h_2 unanswered =>
          cases joined
          exact unanswered
  case h_2 => split at joined <;> cases joined
  case h_3 =>
      rw [endRemoval_eq] at joined
      cases joined
  case h_4 noLoad _ _ => exact absurd joined (noLoad call)

/-- Who is polled does not wait for a load that has ended, nor do those who did not before. -/
theorem poll_heeds (near : Surroundings P) (polled : Nat)
    (before : polled = caller ∨ group.Heeds caller) :
    (group.step near (.poll polled)).1.Heeds caller := by
  intro entry call at_ joined
  cases here : group.callers[polled]? with
  | none =>
      have still : group.step near (.poll polled) = (group, []) := by simp only [step, here]
      rw [still] at at_ ⊢
      rcases before with rfl | heeds
      · cases here.symm.trans at_
      · exact heeds entry call at_ joined
  | some first =>
      have went : (group.step near (.poll polled)).1 =
          (group.pollPlace first.place).2.moveTo polled (group.pollPlace first.place).1 := by
        simp only [step, here]
      obtain ⟨loads, callers⟩ := group.loads_pollPlace first.place
      rw [went] at at_ ⊢
      rw [moveTo, loads]
      by_cases same : polled = caller
      case pos =>
          subst same
          rw [← callers] at here
          obtain rfl := Option.some.inj (at_.symm.trans (getElem?_moveTo here _))
          exact answer?_of_pollPlace joined
      case neg =>
          rw [moveTo, callers] at at_
          have old := (move_cases here at_).resolve_right fun moved => same moved.1
          exact before.resolve_left same entry call old joined

end Steps

/-- Where nobody is at work, a get that waits, and not for a load that has ended, waits in the end
for the answer to a question about its key. -/
theorem Orderly.exists_question {group : Group P} (orderly : group.Orderly)
    (rests : group.Rests) {caller : Nat} {entry : GroupCaller P}
    (at_ : group.callers[caller]? = some entry)
    (heeds : group.Heeds caller) (isGet : entry.place.isOfGet = true)
    (waits : entry.place.isWaiting = true) :
    ∃ (asker : Nat) (lead : GroupCaller P) (event : Event P),
      group.callers[asker]? = some lead ∧ lead.key = entry.key ∧
      lead.place.question? asker lead.key = some event := by
  obtain ⟨context, key, place⟩ := entry
  cases place with
  | askingPeer call peer => exact ⟨caller, _, _, at_, rfl, rfl⟩
  | loading call => exact ⟨caller, _, _, at_, rfl, rfl⟩
  | joinedLoad call =>
      have isFor := orderly.loads.isFor caller _ _ at_ rfl
      obtain ⟨asker, lead, there, leads, same⟩ :=
        orderly.loads.exists_leads (isFor.running (heeds _ call at_ rfl))
      have idle := rests lead (List.mem_of_getElem? there)
      obtain ⟨event, asks⟩ := Place.exists_question?_of_leads leads idle asker lead.key
      exact ⟨asker, lead, event, there, same, asks⟩
  | missed | leading | found => cases rests _ (List.mem_of_getElem? at_)
  | joinedRemoval | askingOwner | broadcasting | removed => cases isGet
  | got | panicked | dropped => cases waits

end Group

end PeerCache
