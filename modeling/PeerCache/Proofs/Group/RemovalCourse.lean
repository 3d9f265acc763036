/-
Module: PeerCache.Proofs.Group.RemovalCourse
Purpose: Whom a removal asks, in which order, and what it can come to.
Main exports:
  Group.endings, Group.firstFailure, Group.pending, Group.RemovalCourse,
  Group.lasting_removalCourse, Group.LeavesStore, Group.FansOut, Group.exists_fansOut
-/
import PeerCache.Proofs.Group.Dialogue

/-!
A removal that leads asks the owner of its key first, if the key has one elsewhere.  If the owner
fails, that is the end of it.  If not, the removal drops the key from the store and asks every
other peer at once; then it waits until all of these have ended, however they do, and returns the
first failure that it has heard of, if any (`RemovalCourse`).

A peer at which the removal panics has ended too, but counts as no failure.

When the key is dropped is a matter of the moves of this one caller: it touches the store in the
move in which it goes on from the owner, and in no other (`FansOut`).
-/

namespace PeerCache

variable {P : Type}

/-- Whether a removal at this place is past the owner. -/
def Place.isPastOwner : Place P → Bool
  | .broadcasting _ _ _ => true
  | .removed _ => true
  | .panicked _ => true
  | .dropped => true
  | _ => false

/-- Whether a caller at this place has no load and will enter none. -/
def Place.isUnloaded : Place P → Bool
  | .missed => false
  | .leading _ => false
  | .found _ _ => false
  | .joinedLoad _ => false
  | .askingPeer _ _ => false
  | .loading _ => false
  | _ => true

namespace Group

/-- The end of a removal at one of the other peers, with the peer's number. -/
def Move.ending? : Move → Option (Nat × Reply CacheError Unit)
  | .broadcastEnded _ number reply => some (number, reply)
  | _ => none

/-- How removals at other peers have ended, in order. -/
def endings (heard : List (Surroundings P × Move)) : List (Nat × Reply CacheError Unit) :=
  heard.filterMap fun timed => timed.2.ending?

/-- The error with which a removal at another peer ends. -/
def failure? : Reply CacheError Unit → Option CacheError
  | .returned (.error error) => some error
  | _ => none

/-- The first error with which a removal at another peer has ended. -/
def firstFailure (heard : List (Surroundings P × Move)) : Option CacheError :=
  (endings heard).findSome? fun ending => failure? ending.2

/-- The numbers of those that were told and have not ended. -/
def pending (told : List (P × Nat)) (heard : List (Surroundings P × Move)) : List Nat :=
  (told.map Prod.snd).filter fun number => number ∉ (endings heard).map Prod.fst

section Endings

variable {heard : List (Surroundings P × Move)} {told : List (P × Nat)}

theorem endings_append (heard more : List (Surroundings P × Move)) :
    endings (heard ++ more) = endings heard ++ endings more :=
  List.filterMap_append ..

theorem pending_nil : pending told [] = told.map Prod.snd := by
  simp [pending, endings]

theorem firstFailure_ended (near : Surroundings P) (caller number : Nat)
    (reply : Reply CacheError Unit) :
    firstFailure (heard ++ [(near, .broadcastEnded caller number reply)]) =
      noteFailure (firstFailure heard) reply := by
  have last : endings [(near, .broadcastEnded caller number reply)] = [(number, reply)] := rfl
  rw [firstFailure, endings_append, last, List.findSome?_append, ← firstFailure]
  match reply with
  | .returned (.ok _) => simp [failure?, noteFailure]
  | .returned (.error error) => cases firstFailure heard <;> rfl
  | .panicked _ => simp [failure?, noteFailure]

theorem pending_ended (near : Surroundings P) (caller number : Nat)
    (reply : Reply CacheError Unit) :
    pending told (heard ++ [(near, .broadcastEnded caller number reply)]) =
      (pending told heard).filter (· ≠ number) := by
  have last : endings [(near, .broadcastEnded caller number reply)] = [(number, reply)] := rfl
  rw [pending, pending, endings_append, last, List.map_append, List.filter_filter]
  apply List.filter_congr
  intro other _
  rw [Bool.eq_iff_iff]
  simp only [decide_eq_true_eq, Bool.and_eq_true, List.mem_append, not_or, and_comm,
    List.map_singleton, List.mem_singleton]

theorem firstFailure_congr {other : List (Surroundings P × Move)}
    (same : endings other = endings heard) : firstFailure other = firstFailure heard := by
  rw [firstFailure, same, ← firstFailure]

theorem pending_congr {other : List (Surroundings P × Move)} (told : List (P × Nat))
    (same : endings other = endings heard) : pending told other = pending told heard := by
  rw [pending, same, ← pending]

/-- Nobody is pending any more when everybody has ended. -/
theorem pending_eq_nil_iff :
    pending told heard = [] ↔ ∀ entry ∈ told, ∃ reply, (entry.2, reply) ∈ endings heard := by
  have numbers : pending told heard = [] ↔
      ∀ number ∈ told.map Prod.snd, number ∈ (endings heard).map Prod.fst := by
    simp [pending, List.filter_eq_nil_iff]
  rw [numbers]
  constructor
  · intro ended entry member
    obtain ⟨⟨number, reply⟩, inEndings, same⟩ :=
      List.mem_map.mp (ended entry.2 (List.mem_map_of_mem member))
    cases same
    exact ⟨reply, inEndings⟩
  · intro ended number listed
    obtain ⟨entry, member, rfl⟩ := List.mem_map.mp listed
    obtain ⟨reply, inEndings⟩ := ended entry member
    exact List.mem_map.mpr ⟨_, inEndings, rfl⟩

end Endings

/-- What a removal's leader has heard when it goes on from the owner, and in what surroundings it
does: with nothing if the key has no owner elsewhere, and else with the owner's consent. -/
inductive Opening (begun : Surroundings P) (caller : Nat) (key : String) (near : Surroundings P) :
    List (Surroundings P × Move) → Prop where
  | alone (nobody : begun.pick? key = none) (same : near = begun) :
      Opening begun caller key near []
  | agreed (owner : P) (picked : begun.pick? key = some owner) :
      Opening begun caller key near [(near, .ownerReplied caller (.returned (.ok ())))]

/-- The surroundings in which a removal's leader goes on from the owner: those in which it came,
if the key has no owner elsewhere, and else those in which it has heard of the owner's consent. -/
def PastOwner (begun : Surroundings P) (caller : Nat) (key : String)
    (heard : List (Surroundings P × Move)) (near : Surroundings P) : Prop :=
  begun.pick? key = none ∧ near = begun ∨
    (near, .ownerReplied caller (.returned (.ok ()))) ∈ heard

/-- Nothing of this comes from the owner. -/
def Aside (heard : List (Surroundings P × Move)) : Prop :=
  ∀ timed ∈ heard, ∀ caller reply, timed.2 ≠ .ownerReplied caller reply

section Openings

variable {begun near : Surroundings P} {caller : Nat} {key : String}
  {later : List (Surroundings P × Move)}

theorem Aside.snoc (aside : Aside later) {move : Move}
    (other : ∀ caller reply, move ≠ .ownerReplied caller reply) :
    Aside (later ++ [(near, move)]) := by
  intro timed member
  rcases List.mem_append.mp member with before | last
  · exact aside timed before
  · rw [List.mem_singleton.mp last]
    exact other

theorem aside_nil : Aside ([] : List (Surroundings P × Move)) :=
  fun _ member => absurd member List.not_mem_nil

theorem Aside.unagreed (aside : Aside later) (near : Surroundings P) :
    (near, .ownerReplied caller (.returned (.ok ()))) ∉ later :=
  fun agreed => aside _ agreed caller _ rfl

/-- No peer but the owner has been heard of when a leader goes on. -/
theorem Opening.endings_append {opening : List (Surroundings P × Move)}
    (opens : Opening begun caller key near opening) :
    endings (opening ++ later) = endings later := by
  cases opens with
  | alone => rfl
  | agreed => rfl

theorem Opening.pastOwner {opening : List (Surroundings P × Move)}
    (opens : Opening begun caller key near opening) (later : List (Surroundings P × Move)) :
    PastOwner begun caller key (opening ++ later) near := by
  cases opens with
  | alone nobody same => exact Or.inl ⟨nobody, same⟩
  | agreed owner picked => exact Or.inr List.mem_cons_self

/-- A leader goes on once. -/
theorem Opening.unique {other : Surroundings P} {opening : List (Surroundings P × Move)}
    (opens : Opening begun caller key other opening) (aside : Aside later)
    (past : PastOwner begun caller key (opening ++ later) near) : other = near := by
  rcases past with ⟨nobody, here⟩ | agreed
  · cases opens with
    | alone _ same => rw [same, here]
    | agreed owner picked =>
        rw [picked] at nobody
        cases nobody
  · rcases List.mem_append.mp agreed with first | after
    · cases opens with
      | alone => cases first
      | agreed => exact (congrArg Prod.fst (List.mem_singleton.mp first)).symm
    · exact absurd rfl (aside _ after caller _)

theorem not_pastOwner_nil {owner : P} (picked : begun.pick? key = some owner) :
    ¬ PastOwner begun caller key [] near := by
  simp [PastOwner, picked]

theorem not_pastOwner_singleton {owner : P} (picked : begun.pick? key = some owner)
    {timed : Surroundings P × Move} (other : timed.2 ≠ .ownerReplied caller (.returned (.ok ()))) :
    ¬ PastOwner begun caller key [timed] near := by
  rintro (⟨nobody, -⟩ | agreed)
  · rw [picked] at nobody
    cases nobody
  · rw [← List.mem_singleton.mp agreed] at other
    exact other rfl

end Openings

/-- The question to the owner, if there is one. -/
def toOwner (begun : Surroundings P) (caller : Nat) (key : String) : List (Event P) :=
  (begun.pick? key).toList.map (.askedOwner caller key)

/-- How far a removal's leader may have come, by what it has heard and asked for. -/
inductive RemovalCourse [PeerHandle P] (begun : Surroundings P) (caller : Nat) (key : String)
    (call : CallId) : List (Surroundings P × Move) → List (Event P) → Place P → Prop where
  | asking (owner : P) (picked : begun.pick? key = some owner) :
      RemovalCourse begun caller key call [] (toOwner begun caller key) (.askingOwner call owner)
  | refused (owner : P) (picked : begun.pick? key = some owner) (near : Surroundings P)
      (error : CacheError) :
      RemovalCourse begun caller key call
        [(near, .ownerReplied caller (.returned (.error error)))] (toOwner begun caller key)
        (.removed (.error error))
  | panicked (owner : P) (picked : begun.pick? key = some owner) (near : Surroundings P)
      (message : String) :
      RemovalCourse begun caller key call [(near, .ownerReplied caller (.panicked message))]
        (toOwner begun caller key) (.panicked message)
  | droppedAsking (owner : P) (picked : begun.pick? key = some owner) (near : Surroundings P) :
      RemovalCourse begun caller key call [(near, .drop caller)] (toOwner begun caller key)
        .dropped
  | telling {near : Surroundings P} {opening later : List (Surroundings P × Move)}
      {awaited : List Nat} {failure : Option CacheError}
      (opens : Opening begun caller key near opening) (aside : Aside later)
      (awaits : awaited = pending (broadcastTo near (begun.pick? key)) later)
      (notes : failure = firstFailure later) :
      RemovalCourse begun caller key call (opening ++ later)
        (toOwner begun caller key ++ announce near (begun.pick? key) caller key)
        (.broadcasting call awaited failure)
  | told {near : Surroundings P} {opening later : List (Surroundings P × Move)}
      (opens : Opening begun caller key near opening) (aside : Aside later)
      (done : pending (broadcastTo near (begun.pick? key)) later = []) :
      RemovalCourse begun caller key call (opening ++ later)
        (toOwner begun caller key ++ announce near (begun.pick? key) caller key)
        (.removed (removalResult (firstFailure later)))
  | droppedTelling {near : Surroundings P} {opening later : List (Surroundings P × Move)}
      (opens : Opening begun caller key near opening) (aside : Aside later) :
      RemovalCourse begun caller key call (opening ++ later)
        (toOwner begun caller key ++ announce near (begun.pick? key) caller key) .dropped

section Leaders

variable [PeerHandle P] {begun near : Surroundings P} {caller : Nat} {context : CallContext}
  {key : String} {call : CallId} {heard : List (Surroundings P × Move)}
  {asked : List (Event P)} {place : Place P}

/-- A removal's leader goes on in this way. -/
theorem lasting_removalCourse (begun : Surroundings P) (caller : Nat) (context : CallContext)
    (key : String) (call : CallId) :
    Lasting caller context key fun _ heard asked place =>
      RemovalCourse begun caller key call heard asked place := by
  intro near group move place next heard added asked more orderly at_ goes course
  cases goes with
  | stays => simpa using course
  | ownerRemoved call owner erased =>
      cases course with
      | asking _ picked =>
          have opens : Opening begun caller key near _ := .agreed owner picked
          rw [← picked]
          exact @RemovalCourse.telling P _ begun caller key call near [(near, _)] [] _ _ opens
            aside_nil pending_nil.symm rfl
  | ownerFailed _ owner error =>
      rw [List.append_nil]
      cases course with
      | asking _ picked => exact .refused owner picked near error
  | ownerPanicked _ owner message =>
      rw [List.append_nil]
      cases course with
      | asking _ picked => exact .panicked owner picked near message
  | peerRemoved _ awaited failure number reply =>
      rw [List.append_nil]
      cases course with
      | telling opens aside awaits notes =>
          rw [List.append_assoc]
          apply RemovalCourse.telling opens (aside.snoc (by nofun))
          · rw [awaits, pending_ended]
          · rw [notes, firstFailure_ended]
  | endBroadcast _ failure =>
      rw [List.append_nil, List.append_nil]
      cases course with
      | telling opens aside awaits notes =>
          rw [notes]
          exact .told opens aside awaits.symm
  | dropped _ waiting =>
      rw [List.append_nil]
      cases course with
      | asking owner picked => exact .droppedAsking owner picked near
      | telling opens aside =>
          rw [List.append_assoc]
          exact .droppedTelling opens (aside.snoc (by nofun))
      | _ => cases waiting
  | _ => cases course

namespace RemovalCourse

/-- A removal that the owner has refused is over. -/
theorem of_refused (course : RemovalCourse begun caller key call heard asked place)
    {error : CacheError}
    (refused : (near, .ownerReplied caller (.returned (.error error))) ∈ heard) :
    begun.pick? key ≠ none ∧ heard = [(near, .ownerReplied caller (.returned (.error error)))] ∧
      place = .removed (.error error) ∧ asked = toOwner begun caller key := by
  have later : ∀ {near' : Surroundings P} {opening later : List (Surroundings P × Move)},
      Opening begun caller key near' opening → Aside later →
      (near, .ownerReplied caller (.returned (.error error))) ∉ opening ++ later := by
    intro near' opening later opens aside member
    rcases List.mem_append.mp member with first | after
    · cases opens with
      | alone => cases first
      | agreed => cases List.mem_singleton.mp first
    · exact aside _ after caller _ rfl
  cases course with
  | asking => cases refused
  | refused owner picked near' other =>
      cases List.mem_singleton.mp refused
      exact ⟨by simp [picked], rfl, rfl, rfl⟩
  | panicked => cases List.mem_singleton.mp refused
  | droppedAsking => cases List.mem_singleton.mp refused
  | telling opens aside => exact absurd refused (later opens aside)
  | told opens aside => exact absurd refused (later opens aside)
  | droppedTelling opens aside => exact absurd refused (later opens aside)

/-- A removal past the owner has told every other peer; when it has returned, all of these have
ended, and its result is the first failure among them. -/
theorem of_pastOwner (course : RemovalCourse begun caller key call heard asked place)
    (past : PastOwner begun caller key heard near) :
    asked = toOwner begun caller key ++ announce near (begun.pick? key) caller key ∧
      (place = .dropped ∨
        place = .broadcasting call (pending (broadcastTo near (begun.pick? key)) heard)
          (firstFailure heard) ∨
        place = .removed (removalResult (firstFailure heard)) ∧
          pending (broadcastTo near (begun.pick? key)) heard = []) := by
  cases course with
  | asking owner picked => exact absurd past (not_pastOwner_nil picked)
  | refused owner picked | panicked owner picked | droppedAsking owner picked =>
      exact absurd past (not_pastOwner_singleton picked nofun)
  | telling opens aside awaits notes =>
      obtain rfl := opens.unique aside past
      refine ⟨rfl, Or.inr (Or.inl ?_)⟩
      rw [awaits, notes, pending_congr _ opens.endings_append,
        firstFailure_congr opens.endings_append]
  | told opens aside done =>
      obtain rfl := opens.unique aside past
      refine ⟨rfl, Or.inr (Or.inr ⟨?_, ?_⟩)⟩
      · rw [firstFailure_congr opens.endings_append]
      · rw [pending_congr _ opens.endings_append, done]
  | droppedTelling opens aside =>
      obtain rfl := opens.unique aside past
      exact ⟨rfl, Or.inl rfl⟩

/-- What a removal past the owner has heard. -/
theorem opens (course : RemovalCourse begun caller key call heard asked place)
    (past : PastOwner begun caller key heard near) :
    ∃ opening later, heard = opening ++ later ∧ Opening begun caller key near opening ∧
      Aside later := by
  cases course with
  | asking owner picked => exact absurd past (not_pastOwner_nil picked)
  | refused owner picked | panicked owner picked | droppedAsking owner picked =>
      exact absurd past (not_pastOwner_singleton picked nofun)
  | telling opens aside | told opens aside | droppedTelling opens aside =>
      obtain rfl := opens.unique aside past
      exact ⟨_, _, rfl, opens, aside⟩

/-- A removal that has returned without an error has gone on from the owner. -/
theorem exists_pastOwner (course : RemovalCourse begun caller key call heard asked place)
    (removed : place = .removed (.ok ())) : ∃ near, PastOwner begun caller key heard near := by
  cases course with
  | @told near opening later opens aside done => exact ⟨near, opens.pastOwner later⟩
  | _ => cases removed

end RemovalCourse

end Leaders

/-! ## In which order -/

/-- Whose move it is: that of the caller that comes with it, or that it is for. -/
def actor? (group : Group P) (move : Move) : Option Nat :=
  match move.arrival? with
  | some _ => some group.callers.length
  | none => move.caller?

/-- No move of the caller's own changes the store. -/
def LeavesStore [PeerHandle P] (group : Group P) (caller : Nat) :
    List (Surroundings P × Move) → Prop
  | [] => True
  | (near, move) :: rest =>
      (group.actor? move = some caller → (group.step near move).1.store = group.store) ∧
        (group.step near move).1.LeavesStore caller rest

/-- A removal that goes on from the owner in the given move: it has asked the owner, if there is
one, and nobody else; then it drops the key from the store and asks every other peer; and after
that it asks nobody any more.  It touches the store in this one move. -/
structure FansOut [PeerHandle P] (start : Group P) (caller : Nat) (key : String)
    (owner : Option P) (first : List (Surroundings P × Move)) (near : Surroundings P)
    (move : Move) (rest : List (Surroundings P × Move)) : Prop where
  asksOwner : asked caller (start.run first).2 = owner.toList.map (.askedOwner caller key)
  untouched : start.LeavesStore caller first
  erases : ((start.run first).1.step near move).1.store = (start.run first).1.store.erase key
  tells : asked caller ((start.run first).1.step near move).2 = announce near owner caller key
  isQuiet : asked caller (((start.run first).1.step near move).1.run rest).2 = []
  isSettled : ((start.run first).1.step near move).1.LeavesStore caller rest

section Order

variable [PeerHandle P] {near begun : Surroundings P} {group after : Group P} {move : Move}
  {events : List (Event P)} {caller : Nat} {context : CallContext} {key : String}
  {call : CallId} {place : Place P} {moves : List (Surroundings P × Move)}

/-- A caller that has no load and enters none touches the store only with the owner's consent. -/
theorem Transition.store_of_named (transition : Transition near group move after events)
    (at_ : group.callers[caller]? = some ⟨context, key, place⟩)
    (named : move.caller? = some caller) (unloaded : place.isUnloaded = true)
    (unagreed : place.hears move = true → move ≠ .ownerReplied caller (.returned (.ok ()))) :
    after.store = group.store := by
  cases transition with
  | loaderGave index other name call view here | leadToPeer index other name call peer here
  | leadToLoader index other name call here =>
      cases named
      cases here.symm.trans at_
      cases unloaded
  | ownerRemoved index other name call owner here =>
      cases named
      cases here.symm.trans at_
      exact absurd rfl (unagreed rfl)
  | joinLoad | lateLoad | askPeer | callLoader | startMiss | removeHere | lookMissed
  | removeLocally => cases named
  | _ => rfl

/-- A caller that has no load and enters none stays without one. -/
theorem Goes.unloaded {next : Place P} {heard : List (Surroundings P × Move)}
    {asked : List (Event P)} (goes : Goes near group after caller key place heard asked next)
    (unloaded : place.isUnloaded = true) : next.isUnloaded = true := by
  cases goes with
  | stays => exact unloaded
  | enterJoin | enterLead | findAgain | leadToPeer | leadToLoader | peerFailed => cases unloaded
  | _ => rfl

/-- A removal that does not hear of the owner's consent leaves the store alone. -/
theorem leavesStore_of_unagreed (at_ : group.callers[caller]? = some ⟨context, key, place⟩)
    (unloaded : place.isUnloaded = true)
    (unagreed : ∀ near, (near, .ownerReplied caller (.returned (.ok ()))) ∉
      group.heard caller moves) :
    group.LeavesStore caller moves := by
  induction moves generalizing group place with
  | nil => trivial
  | cons timed rest hyp =>
      obtain ⟨near, move⟩ := timed
      have here := (List.getElem?_eq_some_iff.mp at_).1
      constructor
      · intro own
        have named : move.caller? = some caller := by
          unfold actor? at own
          split at own
          case h_1 => exact absurd (Option.some.inj own) (Nat.ne_of_gt here)
          case h_2 => exact own
        apply (step_transition near group move).store_of_named at_ named unloaded
        rintro hears rfl
        apply unagreed near
        rw [heard, heardOf_of_hears near at_ named hears]
        exact List.mem_append_left _ List.mem_cons_self
      · obtain ⟨next, there, goes⟩ := step_goes near move at_
        apply hyp there (goes.unloaded unloaded)
        intro other member
        exact unagreed other (List.mem_append_right _ member)

omit [PeerHandle P] in
/-- A removal past the owner has no load. -/
theorem unloaded_of_pastOwner (past : place.isPastOwner = true) : place.isUnloaded = true := by
  cases place with
  | missed | leading | found | joinedLoad | askingPeer | loading => cases past
  | _ => rfl

/-- A removal past the owner asks nobody any more. -/
theorem run_of_pastOwner (orderly : group.Orderly)
    (at_ : group.callers[caller]? = some ⟨context, key, place⟩)
    (past : place.isPastOwner = true) (moves : List (Surroundings P × Move)) :
    asked caller (group.run moves).2 = [] := by
  have lasting : Lasting (P := P) caller context key fun _ _ asked next =>
      next.isPastOwner = true ∧ asked = [] := by
    rintro near group move place next _ _ _ more - - goes ⟨past, rfl⟩
    cases goes with
    | stays => exact ⟨past, rfl⟩
    | peerRemoved | endBroadcast | dropped => exact ⟨rfl, rfl⟩
    | _ => cases past
  obtain ⟨_, -, -, quiet⟩ := follow_run lasting orderly at_ [] [] ⟨past, rfl⟩ moves
  exact quiet

/-- A removal that hears nothing while it asks the owner goes on asking. -/
theorem run_of_unheard (orderly : group.Orderly) {owner : P}
    (at_ : group.callers[caller]? = some ⟨context, key, .askingOwner call owner⟩)
    (unheard : group.heard caller moves = []) :
    (group.run moves).1.callers[caller]? = some ⟨context, key, .askingOwner call owner⟩ ∧
      asked caller (group.run moves).2 = [] := by
  have lasting : Lasting caller context key fun _ heard asked next =>
      heard = [] → next = .askingOwner call owner ∧ asked = [] := by
    intro near group move place next heard added asked more _ _ goes holds quiet
    obtain ⟨rfl, rfl⟩ := List.append_eq_nil_iff.mp quiet
    obtain ⟨rfl, rfl⟩ := holds rfl
    cases goes with
    | stays => exact ⟨rfl, rfl⟩
  obtain ⟨_, there, still⟩ := follow_run lasting orderly at_ [] [] (fun _ => ⟨rfl, rfl⟩) moves
  obtain ⟨rfl, quiet⟩ := still unheard
  exact ⟨there, quiet⟩

/-- The owner's consent makes a removal go on. -/
theorem step_agreed (near : Surroundings P) {owner : P}
    (at_ : group.callers[caller]? = some ⟨context, key, .askingOwner call owner⟩) :
    ∃ next, (group.step near (.ownerReplied caller (.returned (.ok ())))).1.callers[caller]? =
        some ⟨context, key, next⟩ ∧ next.isPastOwner = true ∧
      (group.step near (.ownerReplied caller (.returned (.ok ())))).1.store =
        group.store.erase key ∧
      asked caller (group.step near (.ownerReplied caller (.returned (.ok ())))).2 =
        announce near (some owner) caller key := by
  obtain ⟨next, there, goes⟩ := step_goes near (.ownerReplied caller (.returned (.ok ()))) at_
  rw [heardOf_of_hears near at_ rfl rfl] at goes
  generalize asked caller _ = asks at goes ⊢
  refine ⟨next, there, ?_⟩
  cases goes with
  | ownerRemoved _ _ erased => exact ⟨rfl, erased, rfl⟩

/-- A removal that finds no other one of its key asks the owner, or goes on at once. -/
theorem Transition.removal_begins
    (transition : Transition near group (.remove context key) after events)
    (free : group.removals.find? key = none) :
    (∃ owner, near.pick? key = some owner ∧
      after.callers[group.callers.length]? =
        some ⟨context, key, .askingOwner group.removals.calls.length owner⟩ ∧
      after.store = group.store ∧ events = [.askedOwner group.callers.length key owner]) ∨
    near.pick? key = none ∧ after.store = group.store.erase key ∧
      events = announce near none group.callers.length key ∧
      after.callers[group.callers.length]? = some ⟨context, key,
        .broadcasting group.removals.calls.length ((broadcastTo near none).map Prod.snd)
          none⟩ := by
  cases transition with
  | joinRemoval _ _ call found => rw [free] at found; cases found
  | lateRemoval _ _ call result found => rw [free] at found; cases found
  | askOwner _ _ owner _ picked =>
      exact Or.inl ⟨owner, picked, List.getElem?_concat_length, rfl, rfl⟩
  | removeHere _ _ _ picked =>
      exact Or.inr ⟨picked, rfl, rfl, List.getElem?_concat_length⟩
  | idle _ nobody => cases nobody

/-- A removal that leads begins its course. -/
theorem Transition.removalCourse
    (transition : Transition near group (.remove context key) after events)
    (free : group.removals.find? key = none) :
    ∃ place, after.callers[group.callers.length]? = some ⟨context, key, place⟩ ∧
      RemovalCourse near group.callers.length key group.removals.calls.length []
        (asked group.callers.length events) place := by
  rcases transition.removal_begins free with
    ⟨owner, picked, at_, -, rfl⟩ | ⟨nobody, -, rfl, at_⟩
  · have asks : asked group.callers.length [.askedOwner group.callers.length key owner] =
        toOwner near group.callers.length key := by
      rw [toOwner, picked]
      exact asked_self (.askedOwner group.callers.length key owner)
    rw [asks]
    exact ⟨_, at_, .asking owner picked⟩
  · have opens : Opening near group.callers.length key near [] := .alone nobody rfl
    have asks : announce near none group.callers.length key =
        toOwner near group.callers.length key ++
          announce near (near.pick? key) group.callers.length key := by
      rw [toOwner, nobody]
      rfl
    rw [asked_announce_self, asks]
    refine ⟨_, at_, .telling opens aside_nil ?_ rfl⟩
    rw [nobody, pending_nil]

/-- A removal that leads fans out, once it goes on from the owner. -/
theorem exists_fansOut (orderly : group.Orderly) (context : CallContext)
    (free : group.removals.find? key = none) {opening later : List (Surroundings P × Move)}
    (opens : Opening begun group.callers.length key near opening) (aside : Aside later)
    (hears : (group.step begun (.remove context key)).1.heard group.callers.length moves =
      opening ++ later) :
    ∃ first move rest, (begun, .remove context key) :: moves = first ++ (near, move) :: rest ∧
      FansOut group group.callers.length key (begun.pick? key) first near move rest := by
  have orderlyNext := step_orderly begun (.remove context key) orderly
  have begins := (step_transition begun group (.remove context key)).removal_begins free
  cases opens with
  | alone nobody same =>
      subst same
      obtain ⟨-, erased, asks, at_⟩ := begins.resolve_left fun ⟨owner, picked, _⟩ => by
        rw [picked] at nobody
        cases nobody
      refine ⟨[], .remove context key, moves, rfl, ?_⟩
      rw [nobody]
      constructor
      · rfl
      · trivial
      · exact erased
      · show asked _ (group.step near (.remove context key)).2 = _
        rw [asks, asked_announce_self]
      · exact run_of_pastOwner orderlyNext at_ rfl moves
      · apply leavesStore_of_unagreed at_ rfl
        rw [hears]
        exact aside.unagreed
  | agreed owner picked =>
      obtain ⟨_, same, at_, store, asks⟩ := begins.resolve_right fun alone => by
        rw [alone.1] at picked
        cases picked
      obtain rfl := Option.some.inj (same.symm.trans picked)
      obtain ⟨before, rest, rfl, unheard, -, onward⟩ := exists_of_heard hears
      obtain ⟨asking, quiet⟩ := run_of_unheard orderlyNext at_ unheard
      obtain ⟨next, there, past, erased, tells⟩ := step_agreed near asking
      have orderlyBefore := run_orderly orderlyNext before
      refine ⟨(begun, .remove context key) :: before, _, rest, rfl, ?_⟩
      rw [picked]
      constructor
      · rw [asked_run_cons, quiet, asks, List.append_nil]
        exact asked_self (.askedOwner group.callers.length key _)
      · refine ⟨fun _ => store, leavesStore_of_unagreed at_ rfl ?_⟩
        rw [unheard]
        exact aside_nil.unagreed
      · exact erased
      · exact tells
      · exact run_of_pastOwner (step_orderly near _ orderlyBefore) there past rest
      · apply leavesStore_of_unagreed there (unloaded_of_pastOwner past)
        rw [onward]
        exact aside.unagreed

/-- What a removal that leads has come to. -/
theorem run_removalCourse (orderly : group.Orderly) (begun : Surroundings P)
    (context : CallContext) (free : group.removals.find? key = none)
    (moves : List (Surroundings P × Move)) :
    let all := (begun, Move.remove context key) :: moves
    ∃ place, (group.run all).1.callers[group.callers.length]? = some ⟨context, key, place⟩ ∧
      RemovalCourse begun group.callers.length key group.removals.calls.length
        (group.heard group.callers.length all) (asked group.callers.length (group.run all).2)
        place := by
  intro all
  have orderlyNext := step_orderly begun (.remove context key) orderly
  have transition := step_transition begun group (.remove context key)
  obtain ⟨place, at_, course⟩ := transition.removalCourse free
  obtain ⟨next, there, ends⟩ := follow_run (lasting_removalCourse begun group.callers.length
    context key group.removals.calls.length) orderlyNext at_ _ _ course moves
  rw [List.nil_append, ← asked_run_cons] at ends
  exact ⟨next, there, ends⟩

/-- A removal of which all peers have ended returns when it is polled. -/
theorem poll_of_ended (near : Surroundings P) (call : CallId) {failure : Option CacheError}
    (at_ : group.callers[caller]? = some ⟨context, key, .broadcasting call [] failure⟩ ∨
      group.callers[caller]? = some ⟨context, key, .removed (removalResult failure)⟩) :
    (group.step near (.poll caller)).1.callers[caller]? =
      some ⟨context, key, .removed (removalResult failure)⟩ := by
  rcases at_ with at_ | at_
  · simp only [step, at_, pollPlace, endRemoval_eq]
    have here : (group.settleRemoval call (some (removalResult failure))).callers[caller]? = _ :=
      at_
    exact getElem?_moveTo here _
  · obtain ⟨next, there, goes⟩ := step_goes near (.poll caller) at_
    obtain ⟨rfl, -⟩ := goes.stays_of_ended rfl
    exact there

/-- A removal that the owner refuses returns the owner's error, and has done nothing else. -/
theorem refused_removal (orderly : group.Orderly) (context : CallContext)
    (free : group.removals.find? key = none) {error : CacheError} :
    let all := (begun, Move.remove context key) :: moves
    (near, .ownerReplied group.callers.length (.returned (.error error))) ∈
      group.heard group.callers.length all →
    (group.run all).1.callers[group.callers.length]? =
        some ⟨context, key, .removed (.error error)⟩ ∧
      asked group.callers.length (group.run all).2 = toOwner begun group.callers.length key ∧
      group.LeavesStore group.callers.length all := by
  intro all refused
  obtain ⟨place, at_, course⟩ := run_removalCourse orderly begun context free moves
  obtain ⟨elsewhere, only, rfl, asks⟩ := course.of_refused refused
  have begins := (step_transition begun group (.remove context key)).removal_begins free
  obtain ⟨owner, -, here, store, -⟩ := begins.resolve_right fun alone => elsewhere alone.1
  refine ⟨at_, asks, fun _ => store, leavesStore_of_unagreed here rfl ?_⟩
  intro other agreed
  have same : (group.step begun (.remove context key)).1.heard group.callers.length moves = _ :=
    only
  rw [same] at agreed
  cases List.mem_singleton.mp agreed

/-- A removal past the owner fans out, and returns when those that were told have ended. -/
theorem pastOwner_removal (orderly : group.Orderly) (context : CallContext)
    (free : group.removals.find? key = none) :
    let all := (begun, Move.remove context key) :: moves
    let heard := group.heard group.callers.length all
    let owner := begun.pick? key
    PastOwner begun group.callers.length key heard near →
    (∃ first move rest, all = first ++ (near, move) :: rest ∧
      FansOut group group.callers.length key owner first near move rest) ∧
    (∀ result, (group.run all).1.callers[group.callers.length]? =
        some ⟨context, key, .removed result⟩ →
      pending (broadcastTo near owner) heard = [] ∧
        result = removalResult (firstFailure heard)) ∧
    (pending (broadcastTo near owner) heard = [] →
      (group.run all).1.callers[group.callers.length]? = some ⟨context, key, .dropped⟩ ∨
      ∀ next, ((group.run all).1.step next (.poll group.callers.length)).1.callers[
        group.callers.length]? =
          some ⟨context, key, .removed (removalResult (firstFailure heard))⟩) := by
  intro all heard owner past
  obtain ⟨place, at_, course⟩ := run_removalCourse orderly begun context free moves
  obtain ⟨opening, later, hears, opens, aside⟩ := course.opens past
  obtain ⟨-, ends⟩ := course.of_pastOwner past
  refine ⟨exists_fansOut orderly context free opens aside hears, ?_, ?_⟩
  · intro result removed
    cases at_.symm.trans removed
    rcases ends with same | same | ⟨same, done⟩
    · cases same
    · cases same
    · cases same
      exact ⟨done, rfl⟩
  · intro done
    rw [done] at ends
    rcases ends with rfl | rfl | ⟨rfl, -⟩
    · exact Or.inl at_
    · exact Or.inr fun next => poll_of_ended next _ (Or.inl at_)
    · exact Or.inr fun next =>
        poll_of_ended next group.removals.calls.length (Or.inr at_)

end Order

end Group

end PeerCache
