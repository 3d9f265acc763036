/-
Module: PeerCache.Proofs.Group.Accounting
Purpose: What the counters of a group amount to, whatever has happened to it.
Main exports:
  Occurrence, Occurrence.counted, Group.occurrence?, Group.occurrences, Group.Accounts,
  Group.run_accounts, Group.serverRequests_run, Group.loaderKeys, Group.Past, Group.run_of_past,
  Group.counters_balance
-/
import PeerCache.Proofs.Group.Fallback

/-!
`Group.occurrence?` reads off a move, and off what the group was like before it, what becomes of
a get by the move: it is answered from the store, joins a load or leads one, or hears from the
peer or from the loader, or is lost; and what it comes to by a move of its own, if it does not run
up to its first wait at once.  It looks neither at the counters nor at what the move leaves.

Each occurrence is counted in certain ways (`Occurrence.counted`), and nothing else is counted;
loads come under way and end with occurrences as well.  That is what `Group.Accounts` says of a
state and one before it, `Group.step_accounts` proves of a move and `Group.run_accounts` of a run.
How the counters balance is then a matter of adding up, occurrence by occurrence.  They balance if
gets run up to their first waits; if not, a get may be a miss and then a hit as well, which two of
the counters tell and the others do not.

A leader whose peer has failed calls the loader in that same move, and is past its peer from then
on (`Group.Past`), so that it never calls the loader again.
-/

namespace PeerCache

variable {P : Type}

/-- What a group may count: what becomes of a get, and requests that come from peers. -/
inductive Occurrence where
  /-- It is answered from the store. -/
  | hit
  /-- It joins another caller's load. -/
  | joined
  /-- It begins a load of its own. -/
  | led
  /-- The peer that it has asked gives a value. -/
  | peerGave
  /-- The peer that it has asked fails. -/
  | peerFailed
  /-- The loader that it has called gives a value. -/
  | loaderGave
  /-- The loader that it has called fails. -/
  | loaderFailed
  /-- It panics or is dropped while it leads a load. -/
  | lost
  /-- It misses the store, and stops before it enters a load. -/
  | missed
  /-- It begins a load by a move of its own. -/
  | begun
  /-- It finds its key in the store when it looks again. -/
  | foundAgain
  /-- It looks again in vain by a move of its own. -/
  | wentOn
  /-- It ends its load with what it has found. -/
  | gaveFound
  /-- A peer's request arrives. -/
  | served
deriving Repr, DecidableEq

namespace Occurrence

/-- The counters that an occurrence counts for. -/
def counted : Occurrence → List Counter
  | .hit => [.gets, .cacheHits]
  | .joined => [.gets, .loads]
  | .led => [.gets, .loads, .loadsDeduped]
  | .peerGave => [.peerLoads]
  | .peerFailed => [.peerErrors]
  | .loaderGave => [.localLoads]
  | .loaderFailed => [.localLoadErrors]
  | .lost => []
  | .missed => [.gets, .loads]
  | .begun => []
  | .foundAgain => [.cacheHits]
  | .wentOn => [.loadsDeduped]
  | .gaveFound => []
  | .served => [.serverRequests]

/-- Whether a get comes. -/
def comes : Occurrence → Bool
  | .hit => true
  | .joined => true
  | .led => true
  | .missed => true
  | _ => false

/-- Whether a load begins. -/
def beginsLoad : Occurrence → Bool
  | .led => true
  | .begun => true
  | _ => false

/-- Whether a load ends. -/
def endsLoad : Occurrence → Bool
  | .peerGave => true
  | .loaderGave => true
  | .loaderFailed => true
  | .lost => true
  | .gaveFound => true
  | _ => false

/-- Whether no get stops before its first wait. -/
def isWhole : Occurrence → Bool
  | .missed => false
  | .begun => false
  | .foundAgain => false
  | .wentOn => false
  | .gaveFound => false
  | _ => true

end Occurrence

namespace GroupStats

/-- What a counter says. -/
def read (stats : GroupStats) : Counter → Nat
  | .gets => stats.gets
  | .cacheHits => stats.cacheHits
  | .loads => stats.loads
  | .loadsDeduped => stats.loadsDeduped
  | .peerLoads => stats.peerLoads
  | .peerErrors => stats.peerErrors
  | .localLoads => stats.localLoads
  | .localLoadErrors => stats.localLoadErrors
  | .serverRequests => stats.serverRequests

/-- Counts one more for each of some counters. -/
def bumpAll (stats : GroupStats) (counters : List Counter) : GroupStats :=
  counters.foldl bump stats

theorem bumpAll_append (stats : GroupStats) (first second : List Counter) :
    stats.bumpAll (first ++ second) = (stats.bumpAll first).bumpAll second :=
  List.foldl_append

theorem read_bump (stats : GroupStats) (counter other : Counter) :
    (stats.bump counter).read other = stats.read other + if counter = other then 1 else 0 := by
  cases counter <;> cases other <;> rfl

/-- A counter is raised once for each time that it is named. -/
theorem read_bumpAll (stats : GroupStats) (counters : List Counter) (counter : Counter) :
    (stats.bumpAll counters).read counter = stats.read counter + counters.count counter := by
  induction counters generalizing stats with
  | nil => rfl
  | cons first rest hyp =>
      have one := stats.read_bump first counter
      have later := hyp (stats.bump first)
      rw [bumpAll, List.foldl_cons, ← bumpAll, later, one, List.count_cons]
      simp only [beq_iff_eq]
      omega

end GroupStats

/-! ## Adding up -/

namespace Occurrence

/-- How often each counter is raised by occurrences. -/
theorem count_counted (happened : List Occurrence) :
    let raised := fun counter => (happened.flatMap counted).count counter
    raised .gets = happened.countP comes ∧
    raised .cacheHits = happened.count .hit + happened.count .foundAgain ∧
    raised .loads = happened.count .joined + happened.count .led + happened.count .missed ∧
    raised .loadsDeduped = happened.count .led + happened.count .wentOn ∧
    raised .peerLoads = happened.count .peerGave ∧
    raised .peerErrors = happened.count .peerFailed ∧
    raised .localLoads = happened.count .loaderGave ∧
    raised .localLoadErrors = happened.count .loaderFailed := by
  induction happened with
  | nil => simp
  | cons first rest hyp =>
      cases first <;> simp [counted, comes, List.countP_cons] at hyp ⊢ <;> omega

/-- What comes, begins and ends as gets run up to their first waits. -/
theorem countP_of_isWhole {happened : List Occurrence}
    (whole : ∀ occurrence ∈ happened, occurrence.isWhole = true) :
    happened.countP comes = happened.count .hit + happened.count .joined + happened.count .led ∧
    happened.countP beginsLoad = happened.count .led ∧
    happened.countP endsLoad = happened.count .peerGave + happened.count .loaderGave +
      happened.count .loaderFailed + happened.count .lost := by
  induction happened with
  | nil => exact ⟨rfl, rfl, rfl⟩
  | cons first rest hyp =>
      have now := whole first List.mem_cons_self
      have later := hyp fun occurrence member => whole occurrence (List.mem_cons_of_mem _ member)
      cases first with
      | missed | begun | foundAgain | wentOn | gaveFound => cases now
      | _ => simp [List.countP_cons, comes, beginsLoad, endsLoad, later] <;> omega

/-- Nothing happens to a get at work if gets run up to their first waits. -/
theorem count_eq_zero_of_isWhole {happened : List Occurrence}
    (whole : ∀ occurrence ∈ happened, occurrence.isWhole = true) {occurrence : Occurrence}
    (partway : occurrence.isWhole = false) : happened.count occurrence = 0 := by
  apply List.count_eq_zero.mpr
  intro member
  rw [whole occurrence member] at partway
  cases partway

/-- Requests of peers are counted one by one. -/
theorem count_counted_serverRequests (happened : List Occurrence) :
    (happened.flatMap counted).count .serverRequests = happened.count .served := by
  induction happened with
  | nil => rfl
  | cons first rest hyp => cases first <;> simp [counted, hyp]

/-- No occurrence counts twice for one counter. -/
theorem count_counted_le (happened : List Occurrence) (counter : Counter) :
    (happened.flatMap counted).count counter ≤ happened.length := by
  induction happened with
  | nil => exact Nat.le_refl 0
  | cons first rest hyp =>
      have once : first.counted.count counter ≤ 1 := by
        cases first <;> cases counter <;> decide
      rw [List.flatMap_cons, List.count_append, List.length_cons]
      omega

end Occurrence

/-! ## What one move is for the counters -/

/-- Whether a get at this place may still come to call the loader. -/
def Place.isAhead : Place P → Bool
  | .missed => true
  | .leading _ => true
  | .askingPeer _ _ => true
  | _ => false

namespace Group

/-- What a move is for the counters. -/
def occurrence? (near : Surroundings P) (group : Group P) : Move → Option Occurrence
  | .get _ key =>
      match (group.lookUp near.now key).1, group.loads.find? key with
      | some _, _ => some .hit
      | none, some _ => some .joined
      | none, none => some .led
  | .startGet _ key =>
      match (group.lookUp near.now key).1 with
      | some _ => some .hit
      | none => some .missed
  | .goOn caller =>
      match group.callers[caller]? with
      | some ⟨_, key, .missed⟩ =>
          match group.loads.find? key with
          | some _ => none
          | none => some .begun
      | some ⟨_, key, .leading _⟩ =>
          match (group.lookUp near.now key).1 with
          | some _ => some .foundAgain
          | none => some .wentOn
      | some ⟨_, _, .found _ _⟩ => some .gaveFound
      | _ => none
  | .peerReplied caller reply =>
      match group.callers[caller]? with
      | some ⟨_, _, .askingPeer _ _⟩ =>
          match reply with
          | .returned (.ok _) => some .peerGave
          | .returned (.error _) => some .peerFailed
          | .panicked _ => some .lost
      | _ => none
  | .loaderReplied caller reply =>
      match group.callers[caller]? with
      | some ⟨_, _, .loading _⟩ =>
          match reply with
          | .returned (.ok _) => some .loaderGave
          | .returned (.error _) => some .loaderFailed
          | .panicked _ => some .lost
      | _ => none
  | .drop caller =>
      match group.callers[caller]? with
      | some ⟨_, _, .askingPeer _ _⟩ => some .lost
      | some ⟨_, _, .loading _⟩ => some .lost
      | _ => none
  | .serve => some .served
  | _ => none

/-- What a list of moves is for the counters, in order. -/
def occurrences [PeerHandle P] (group : Group P) : List (Surroundings P × Move) → List Occurrence
  | [] => []
  | (near, move) :: rest =>
      (group.occurrence? near move).toList ++ (group.step near move).1.occurrences rest

/-- The counters are raised by what has happened, and loads come under way and end by it. -/
structure Accounts (group after : Group P) (happened : List Occurrence) : Prop where
  stats : after.stats = group.stats.bumpAll (happened.flatMap Occurrence.counted)
  loads : after.loads.count + happened.countP Occurrence.endsLoad =
    group.loads.count + happened.countP Occurrence.beginsLoad

theorem Accounts.trans {group between after : Group P} {first second : List Occurrence}
    (one : Accounts group between first) (two : Accounts between after second) :
    Accounts group after (first ++ second) := by
  constructor
  · rw [two.stats, one.stats, List.flatMap_append, GroupStats.bumpAll_append]
  · have before := one.loads
    have later := two.loads
    rw [List.countP_append, List.countP_append]
    omega

/-- Moves that no get has to do with: those of removals, of callers that wait for others, and of
the store alone. -/
def Move.sparesGets : Move → Bool
  | .remove _ _ => true
  | .ownerReplied _ _ => true
  | .broadcastEnded _ _ _ => true
  | .poll _ => true
  | .removeLocally _ => true
  | .look _ => true
  | _ => false

/-- Whether a get comes with the move. -/
def Move.isGet : Move → Bool
  | .get _ _ => true
  | .startGet _ _ => true
  | _ => false

/-- Whether a move is the arrival of a peer's request. -/
def Move.isServe : Move → Bool
  | .serve => true
  | _ => false

theorem accounts_of_same {group after : Group P} (stats : after.stats = group.stats)
    (loads : after.loads = group.loads) : Accounts group after [] :=
  ⟨stats, by rw [loads]; rfl⟩

/-- The leader of a load ends it, and there is one load less under way. -/
theorem Orderly.count_settle {group : Group P} (orderly : group.Orderly) {caller : Nat}
    {entry : GroupCaller P} {call : CallId} (at_ : group.callers[caller]? = some entry)
    (leads : entry.place.load? = some (.leads call)) (result : Option (Result View)) :
    (group.loads.settle call result).count + 1 = group.loads.count := by
  have running := orderly.loads.running_of_leads at_ leads
  have member := orderly.loads.tracks.mem_live_iff.mpr ⟨_, running⟩
  obtain ⟨before, later, split⟩ := List.append_of_mem member
  have tracks := orderly.loads.tracks.perm (split ▸ List.perm_middle)
  have ended := (tracks.settle result).count_eq
  have led := tracks.count_eq
  rw [List.length_cons] at led
  omega

section Steps

variable [PeerHandle P] {near : Surroundings P} {group after : Group P} {events : List (Event P)}

private theorem Transition.accounts_spared {move : Move}
    (transition : Transition near group move after events) (spares : move.sparesGets = true) :
    Accounts group after [] := by
  cases transition with
  | _ => first | exact accounts_of_same rfl rfl | cases spares

private theorem Transition.accounts_get {context : CallContext} {key : String}
    (transition : Transition near group (.get context key) after events) :
    Accounts group after (group.occurrence? near (.get context key)).toList := by
  cases transition with
  | hit _ _ view kept valid =>
      simp only [occurrence?, lookUp_of_some kept valid]
      exact ⟨rfl, rfl⟩
  | joinLoad _ _ call misses found =>
      simp only [occurrence?, lookUp_of_misses misses, found]
      exact ⟨rfl, rfl⟩
  | lateLoad _ _ call result misses found =>
      simp only [occurrence?, lookUp_of_misses misses, found]
      exact ⟨rfl, rfl⟩
  | askPeer _ _ peer misses free =>
      simp only [occurrence?, lookUp_of_misses misses, free]
      exact ⟨rfl, Flight.count_begin _ _ _ _⟩
  | callLoader _ _ misses free =>
      simp only [occurrence?, lookUp_of_misses misses, free]
      exact ⟨rfl, Flight.count_begin _ _ _ _⟩
  | idle _ nobody => cases nobody

private theorem Transition.accounts_startGet {context : CallContext} {key : String}
    (transition : Transition near group (.startGet context key) after events) :
    Accounts group after (group.occurrence? near (.startGet context key)).toList := by
  cases transition with
  | startHit _ _ view kept valid =>
      simp only [occurrence?, lookUp_of_some kept valid]
      exact ⟨rfl, rfl⟩
  | startMiss _ _ misses =>
      simp only [occurrence?, lookUp_of_misses misses]
      exact ⟨rfl, rfl⟩
  | idle _ nobody => cases nobody

variable (near)

private theorem accounts_goOn (orderly : group.Orderly) (caller : Nat) :
    Accounts group (group.step near (.goOn caller)).1
      (group.occurrence? near (.goOn caller)).toList := by
  simp only [step, occurrence?]
  cases at_ : group.callers[caller]? with
  | none => exact accounts_of_same rfl rfl
  | some entry =>
      obtain ⟨context, key, place⟩ := entry
      cases place with
      | missed =>
          simp only [goOn, enterLoad]
          cases found : group.loads.find? key with
          | some call =>
              dsimp only
              cases group.loads.answer? call <;> exact accounts_of_same rfl rfl
          | none => exact ⟨rfl, Flight.count_begin _ _ _ _⟩
      | leading call =>
          simp only [goOn]
          rcases group.misses_or_exists near.now key with misses | ⟨view, kept, valid⟩
          · simp only [leadLoad_of_misses near group misses, lookUp_of_misses misses]
            cases near.pick? key <;> exact ⟨rfl, rfl⟩
          · simp only [leadLoad, lookUp_of_some kept valid]
            exact ⟨rfl, rfl⟩
      | found call view => exact ⟨rfl, orderly.count_settle at_ rfl _⟩
      | _ => exact accounts_of_same rfl rfl

private theorem accounts_peerReplied (orderly : group.Orderly) (caller : Nat)
    (reply : Reply CacheError Response) :
    Accounts group (group.step near (.peerReplied caller reply)).1
      (group.occurrence? near (.peerReplied caller reply)).toList := by
  simp only [step, occurrence?]
  cases at_ : group.callers[caller]? with
  | none => exact accounts_of_same rfl rfl
  | some entry =>
      obtain ⟨context, key, place⟩ := entry
      cases place with
      | askingPeer call peer =>
          cases reply with
          | returned result =>
              cases result with
              | ok response => exact ⟨rfl, orderly.count_settle at_ rfl _⟩
              | error error => exact ⟨rfl, rfl⟩
          | panicked message => exact ⟨rfl, orderly.count_settle at_ rfl none⟩
      | _ => exact accounts_of_same rfl rfl

private theorem accounts_loaderReplied (orderly : group.Orderly) (caller : Nat)
    (reply : Reply Chain View) :
    Accounts group (group.step near (.loaderReplied caller reply)).1
      (group.occurrence? near (.loaderReplied caller reply)).toList := by
  simp only [step, occurrence?]
  cases at_ : group.callers[caller]? with
  | none => exact accounts_of_same rfl rfl
  | some entry =>
      obtain ⟨context, key, place⟩ := entry
      cases place with
      | loading call =>
          cases reply with
          | returned result =>
              cases result with
              | ok view => exact ⟨rfl, orderly.count_settle at_ rfl _⟩
              | error cause => exact ⟨rfl, orderly.count_settle at_ rfl _⟩
          | panicked message => exact ⟨rfl, orderly.count_settle at_ rfl none⟩
      | _ => exact accounts_of_same rfl rfl

private theorem accounts_drop (orderly : group.Orderly) (caller : Nat) :
    Accounts group (group.step near (.drop caller)).1
      (group.occurrence? near (.drop caller)).toList := by
  simp only [step, occurrence?]
  cases at_ : group.callers[caller]? with
  | none => exact accounts_of_same rfl rfl
  | some entry =>
      obtain ⟨context, key, place⟩ := entry
      cases place with
      | askingPeer call peer => exact ⟨rfl, orderly.count_settle at_ rfl none⟩
      | loading call => exact ⟨rfl, orderly.count_settle at_ rfl none⟩
      | _ => exact accounts_of_same rfl rfl

/-- A move raises the counters for what becomes of a get by it, and nothing else does. -/
theorem step_accounts (orderly : group.Orderly) (move : Move) :
    Accounts group (group.step near move).1 (group.occurrence? near move).toList := by
  have transition := step_transition near group move
  cases move with
  | get context key => exact transition.accounts_get
  | startGet context key => exact transition.accounts_startGet
  | goOn caller => exact accounts_goOn near orderly caller
  | peerReplied caller reply => exact accounts_peerReplied near orderly caller reply
  | loaderReplied caller reply => exact accounts_loaderReplied near orderly caller reply
  | drop caller => exact accounts_drop near orderly caller
  | serve => exact ⟨rfl, rfl⟩
  | remove context key => exact transition.accounts_spared rfl
  | ownerReplied caller reply => exact transition.accounts_spared rfl
  | broadcastEnded caller number reply => exact transition.accounts_spared rfl
  | poll caller => exact transition.accounts_spared rfl
  | removeLocally key => exact transition.accounts_spared rfl
  | look key => exact transition.accounts_spared rfl

/-- The counters after a run are raised for what has happened in it. -/
theorem run_accounts (orderly : group.Orderly) (moves : List (Surroundings P × Move)) :
    Accounts group (group.run moves).1 (group.occurrences moves) := by
  induction moves generalizing group with
  | nil => exact accounts_of_same rfl rfl
  | cons timed rest hyp =>
      obtain ⟨near, move⟩ := timed
      exact (step_accounts near orderly move).trans (hyp (step_orderly near move orderly))

omit [PeerHandle P] in
/-- What a move is for the counters tells whether a get comes with it, or a peer's request. -/
theorem countP_occurrence? (group : Group P) (move : Move) :
    (group.occurrence? near move).toList.countP Occurrence.comes = (if move.isGet then 1 else 0) ∧
    (group.occurrence? near move).toList.count .served = if move.isServe then 1 else 0 := by
  cases move with
  | get context key | startGet context key =>
      simp only [occurrence?]
      split <;> exact ⟨rfl, rfl⟩
  | goOn caller =>
      simp only [occurrence?]
      split
      case h_1 | h_2 => split <;> exact ⟨rfl, rfl⟩
      case h_3 | h_4 => exact ⟨rfl, rfl⟩
  | peerReplied caller reply | loaderReplied caller reply =>
      simp only [occurrence?]
      split
      case h_1 => split <;> exact ⟨rfl, rfl⟩
      case h_2 => exact ⟨rfl, rfl⟩
  | drop caller =>
      simp only [occurrence?]
      split <;> exact ⟨rfl, rfl⟩
  | _ => exact ⟨rfl, rfl⟩

theorem countP_occurrences (group : Group P) (moves : List (Surroundings P × Move)) :
    (group.occurrences moves).countP Occurrence.comes =
      (moves.countP fun timed => timed.2.isGet) ∧
    (group.occurrences moves).count .served = moves.countP fun timed => timed.2.isServe := by
  induction moves generalizing group with
  | nil => exact ⟨rfl, rfl⟩
  | cons timed rest hyp =>
      obtain ⟨near, move⟩ := timed
      obtain ⟨gets, serves⟩ := countP_occurrence? near group move
      obtain ⟨laterGets, laterServes⟩ := hyp (group.step near move).1
      rw [occurrences, List.countP_append, List.count_append, gets, serves, laterGets, laterServes,
        List.countP_cons, List.countP_cons]
      exact ⟨Nat.add_comm _ _, Nat.add_comm _ _⟩

omit [PeerHandle P] in
theorem isWhole_of_occurrence? (rests : group.Rests) {move : Move} (whole : move.isWhole = true)
    {occurrence : Occurrence} (happens : group.occurrence? near move = some occurrence) :
    occurrence.isWhole = true := by
  have idle {caller : Nat} {entry : GroupCaller P} (at_ : group.callers[caller]? = some entry) :
      entry.place.isAtWork = false := rests entry (List.mem_of_getElem? at_)
  cases move with
  | startGet => cases whole
  | goOn caller =>
      simp only [occurrence?] at happens
      split at happens
      case h_1 at_ | h_2 at_ | h_3 at_ => cases idle at_
      case h_4 => cases happens
  | get context key =>
      simp only [occurrence?] at happens
      split at happens <;> cases happens <;> rfl
  | peerReplied caller reply | loaderReplied caller reply =>
      simp only [occurrence?] at happens
      split at happens
      case h_1 => split at happens <;> cases happens <;> rfl
      case h_2 => cases happens
  | drop caller =>
      simp only [occurrence?] at happens
      split at happens <;> cases happens <;> rfl
  | serve =>
      cases happens
      rfl
  | _ => cases happens

/-- As long as gets run up to their first waits, nothing happens to a get at work. -/
theorem isWhole_of_mem_occurrences (rests : group.Rests) (moves : List (Surroundings P × Move))
    (whole : ∀ timed ∈ moves, timed.2.isWhole = true) :
    ∀ occurrence ∈ group.occurrences moves, occurrence.isWhole = true := by
  induction moves generalizing group with
  | nil => exact fun _ member => absurd member List.not_mem_nil
  | cons timed rest hyp =>
      obtain ⟨near, move⟩ := timed
      have now := whole (near, move) List.mem_cons_self
      intro occurrence member
      rcases List.mem_append.mp member with first | later
      · exact isWhole_of_occurrence? near rests now (Option.mem_toList.mp first)
      · exact hyp (step_rests near now rests)
          (fun timed member => whole timed (List.mem_cons_of_mem _ member)) occurrence later

/-- How many requests of peers a group has counted after a run. -/
theorem serverRequests_run (orderly : group.Orderly) (moves : List (Surroundings P × Move)) :
    (group.run moves).1.stats.serverRequests =
      group.stats.serverRequests + moves.countP fun timed => timed.2.isServe := by
  have counted := GroupStats.read_bumpAll group.stats
    ((group.occurrences moves).flatMap Occurrence.counted) .serverRequests
  rw [← (run_accounts orderly moves).stats, Occurrence.count_counted_serverRequests,
    (countP_occurrences group moves).2] at counted
  exact counted

/-- A move is at most one occurrence. -/
theorem length_occurrences_le (group : Group P) (moves : List (Surroundings P × Move)) :
    (group.occurrences moves).length ≤ moves.length := by
  induction moves generalizing group with
  | nil => exact Nat.le_refl 0
  | cons timed rest hyp =>
      obtain ⟨near, move⟩ := timed
      have one : (group.occurrence? near move).toList.length ≤ 1 := by
        cases group.occurrence? near move <;> simp
      have later := hyp (group.step near move).1
      rw [occurrences, List.length_append, List.length_cons]
      omega

end Steps

/-! ## Calls of the loader -/

/-- The keys for which a caller calls the loader, in order. -/
def loaderKeys (caller : Nat) (events : List (Event P)) : List String :=
  events.filterMap fun event =>
    match event with
    | .calledLoader index key => if index = caller then some key else none
    | _ => none

theorem loaderKeys_append (caller : Nat) (first second : List (Event P)) :
    loaderKeys caller (first ++ second) = loaderKeys caller first ++ loaderKeys caller second :=
  List.filterMap_append

theorem loaderKeys_eq_nil_iff {caller : Nat} {events : List (Event P)} :
    loaderKeys caller events = [] ↔ ∀ key, Event.calledLoader caller key ∉ events := by
  rw [loaderKeys, List.filterMap_eq_nil_iff]
  constructor
  · intro none key called
    simpa using none _ called
  · intro absent event member
    cases event with
    | calledLoader index key =>
        have other : index ≠ caller := by
          rintro rfl
          exact absent key member
        simp [other]
    | _ => rfl

/-- The caller has come, asks no peer or does so no longer, and is not about to load. -/
def Past (group : Group P) (caller : Nat) : Prop :=
  ∃ entry, group.callers[caller]? = some entry ∧ entry.place.isAhead = false

section Calls

variable [PeerHandle P] {near : Surroundings P} {group after : Group P} {move : Move}
  {events : List (Event P)} {caller : Nat}

/-- Who calls the loader was not past its peer before, and is so then. -/
theorem Transition.past_of_calledLoader (transition : Transition near group move after events)
    {key : String} (called : Event.calledLoader caller key ∈ events) :
    ¬ group.Past caller ∧ after.Past caller := by
  have ahead {index : Nat} {entry : GroupCaller P} (at_ : group.callers[index]? = some entry)
      (before : entry.place.isAhead = true) : ¬ group.Past index := by
    rintro ⟨_, same, past⟩
    cases at_.symm.trans same
    rw [before] at past
    cases past
  cases transition with
  | callLoader context name misses free picked =>
      obtain ⟨rfl, rfl⟩ : caller = group.callers.length ∧ key = name := by simpa using called
      constructor
      · rintro ⟨entry, at_, -⟩
        exact absurd (List.getElem?_eq_some_iff.mp at_).1 (Nat.lt_irrefl _)
      · exact ⟨_, List.getElem?_concat_length, rfl⟩
  | leadToLoader index context name call at_ =>
      obtain ⟨rfl, rfl⟩ : caller = index ∧ key = name := by simpa using called
      exact ⟨ahead at_ rfl, _,
        getElem?_moveTo (show (group.missingAgain key).callers[caller]? = _ from at_) _, rfl⟩
  | peerFailed index context name call peer error at_ =>
      obtain ⟨rfl, rfl⟩ : caller = index ∧ key = name := by simpa using called
      exact ⟨ahead at_ rfl, _, getElem?_moveTo at_ _, rfl⟩
  | askPeer | leadToPeer | askOwner => simp at called
  | removeHere | ownerRemoved => exact absurd called not_calledLoader_of_announce
  | _ => cases called

/-- A caller that is past its peer stays so: only gets that come ask peers. -/
theorem Transition.past (transition : Transition near group move after events)
    (past : group.Past caller) : after.Past caller := by
  obtain ⟨entry, at_, asksNot⟩ := past
  by_cases named : move.caller? = some caller
  case neg => exact ⟨entry, transition.shift.callers_stay at_ named, asksNot⟩
  case pos =>
      cases transition with
      | idle => exact ⟨entry, at_, asksNot⟩
      | enterJoin _ _ _ _ here | enterLate _ _ _ _ _ here | enterLead _ _ _ here
      | findAgain _ _ _ _ _ here | leadToPeer _ _ _ _ _ here | leadToLoader _ _ _ _ here =>
          cases named
          cases here.symm.trans at_
          cases asksNot
      | hit | joinLoad | lateLoad | askPeer | callLoader | startHit | startMiss | joinRemoval
      | lateRemoval | askOwner | removeHere | removeLocally | lookMissed | serve => cases named
      | _ =>
          cases named
          exact ⟨_, getElem?_moveTo ‹_› _, rfl⟩

theorem Transition.loaderKeys_of_past (transition : Transition near group move after events)
    (past : group.Past caller) : loaderKeys caller events = [] := by
  apply loaderKeys_eq_nil_iff.mpr
  intro key called
  exact (transition.past_of_calledLoader called).1 past

/-- Who is past its peer calls the loader no more. -/
theorem run_of_past (past : group.Past caller) (moves : List (Surroundings P × Move)) :
    (group.run moves).1.Past caller ∧ loaderKeys caller (group.run moves).2 = [] := by
  induction moves generalizing group with
  | nil => exact ⟨past, rfl⟩
  | cons timed rest hyp =>
      obtain ⟨near, move⟩ := timed
      have transition := step_transition near group move
      obtain ⟨stays, silent⟩ := hyp (transition.past past)
      refine ⟨stays, ?_⟩
      rw [run, loaderKeys_append, transition.loaderKeys_of_past past, silent]
      rfl

/-- Who is not yet past its peer has never called the loader. -/
theorem loaderKeys_run_of_not_past (moves : List (Surroundings P × Move))
    (ahead : ¬ (group.run moves).1.Past caller) : loaderKeys caller (group.run moves).2 = [] := by
  induction moves generalizing group with
  | nil => rfl
  | cons timed rest hyp =>
      obtain ⟨near, move⟩ := timed
      have transition := step_transition near group move
      have now : loaderKeys caller (group.step near move).2 = [] := by
        apply loaderKeys_eq_nil_iff.mpr
        intro key called
        exact ahead (run_of_past (transition.past_of_calledLoader called).2 rest).1
      have silent : loaderKeys caller ((group.step near move).1.run rest).2 = [] := hyp ahead
      rw [run, loaderKeys_append, now, silent]
      rfl

/-- A leader whose peer has failed calls the loader for its key, and does so once. -/
theorem loaderKeys_of_peerFailed {context : CallContext} {key : String} {call : CallId} {peer : P}
    (at_ : group.callers[caller]? = some ⟨context, key, .askingPeer call peer⟩)
    (near : Surroundings P) (error : CacheError) (later : List (Surroundings P × Move)) :
    loaderKeys caller (group.run
      ((near, .peerReplied caller (.returned (.error error))) :: later)).2 = [key] := by
  have calls : (group.step near (.peerReplied caller (.returned (.error error)))).2 =
      [.calledLoader caller key] := by
    simp only [step, at_, afterPeer]
  have transition := step_transition near group (.peerReplied caller (.returned (.error error)))
  have called : Event.calledLoader caller key ∈
      (group.step near (.peerReplied caller (.returned (.error error)))).2 := by
    rw [calls]
    exact List.mem_singleton_self _
  obtain ⟨-, silent⟩ := run_of_past (transition.past_of_calledLoader called).2 later
  rw [run, loaderKeys_append, silent, calls]
  simp [loaderKeys]

end Calls

/-- The counters of a group balance after every run in which gets run up to their first waits.
Every get was a hit or a miss; every miss joined a load or led one; every load that was led has
given a value of the peer or of the loader, or has failed at the loader, or is under way, or was
lost with its leader; the hits are the gets that were answered from the store as they came.

Whatever gets do, they are counted one by one as they come, and every peer that was asked and has
returned gave a value or failed.  No counter says more than there were moves.  A leader whose peer
fails has not called the loader before, and from then on calls it just once, for its key. -/
theorem counters_balance [PeerHandle P] (name : String) (moves : List (Surroundings P × Move)) :
    let group := ((new name : Group P).run moves).1
    let happened := (new name : Group P).occurrences moves
    ((∀ timed ∈ moves, timed.2.isWhole = true) →
      group.stats.gets = group.stats.cacheHits + group.stats.loads ∧
      group.stats.loads = group.stats.loadsDeduped + happened.count .joined ∧
      group.stats.loadsDeduped = group.stats.peerLoads + group.stats.localLoads +
        group.stats.localLoadErrors + group.loads.count + happened.count .lost ∧
      group.stats.cacheHits = happened.count .hit ∧
      group.stats.loadsDeduped = happened.count .led) ∧
    group.stats.gets = (moves.countP fun timed => timed.2.isGet) ∧
    group.stats.peerLoads + group.stats.peerErrors =
      happened.count .peerGave + happened.count .peerFailed ∧
    (∀ counter, group.stats.read counter ≤ moves.length) ∧
    (∀ before near caller error later,
      let asked := (new name : Group P).run before
      ∀ context key call peer,
        asked.1.callers[caller]? = some ⟨context, key, .askingPeer call peer⟩ →
        loaderKeys caller asked.2 = [] ∧
        loaderKeys caller (asked.1.run
          ((near, .peerReplied caller (.returned (.error error))) :: later)).2 = [key]) := by
  intro group happened
  have accounts := run_accounts (orderly_new name) moves
  have counted (counter : Counter) : group.stats.read counter =
      (happened.flatMap Occurrence.counted).count counter := by
    show ((new name : Group P).run moves).1.stats.read counter = _
    rw [accounts.stats, GroupStats.read_bumpAll]
    cases counter <;> exact Nat.zero_add _
  have loads : group.loads.count + happened.countP Occurrence.endsLoad =
      happened.countP Occurrence.beginsLoad := by
    have balance := accounts.loads
    rw [show (new name : Group P).loads.count = 0 from rfl, Nat.zero_add] at balance
    exact balance
  have comes : happened.countP Occurrence.comes = _ := (countP_occurrences _ moves).1
  have raised := Occurrence.count_counted happened
  simp only [← counted, GroupStats.read] at raised
  refine ⟨?_, by omega, by omega, ?_, ?_⟩
  · intro whole
    have wholly : ∀ occurrence ∈ happened, occurrence.isWhole = true :=
      isWhole_of_mem_occurrences (rests_new name) moves whole
    obtain ⟨gets, begins, ends⟩ := Occurrence.countP_of_isWhole wholly
    have partway {occurrence : Occurrence} (stops : occurrence.isWhole = false) :
        happened.count occurrence = 0 := Occurrence.count_eq_zero_of_isWhole wholly stops
    have missed : happened.count .missed = 0 := partway rfl
    have foundAgain : happened.count .foundAgain = 0 := partway rfl
    have wentOn : happened.count .wentOn = 0 := partway rfl
    omega
  · intro counter
    rw [counted]
    exact Nat.le_trans (Occurrence.count_counted_le happened counter)
      (length_occurrences_le _ moves)
  · intro before near caller error later asked context key call peer at_
    constructor
    · apply loaderKeys_run_of_not_past before
      rintro ⟨entry, same, asksNot⟩
      rw [at_] at same
      cases same
      cases asksNot
    · exact loaderKeys_of_peerFailed at_ near error later

/-- Seven gets, of which one is answered from the store and one joins a load.  Of the five loads,
the peer gives one and has failed at another, which then fails at the loader; the loader gives one
itself, one is lost, and one is under way. -/
theorem seven_gets_balance :
    let near : Surroundings String :=
      ⟨.epoch, fun key => if key = "far" then some "p" else none, ["p"]⟩
    let context : CallContext := ⟨.fresh, none⟩
    let moves := [(near, Move.get context "k"), (near, .get context "k"),
      (near, .loaderReplied 0 (.returned (.ok ⟨[1], none⟩))), (near, .poll 1),
      (near, .get context "k"), (near, .get context "far"),
      (near, .peerReplied 3 (.returned (.error .leaderFailed))),
      (near, .loaderReplied 3 (.returned (.error (.single "down")))), (near, .get context "far"),
      (near, .peerReplied 4 (.returned (.ok ⟨[2], 0⟩))), (near, .get context "far"),
      (near, .drop 5), (near, .get context "other")]
    let group := ((new "users" : Group String).run moves).1
    let happened := (new "users" : Group String).occurrences moves
    group.stats = ⟨7, 1, 6, 5, 1, 1, 1, 1, 0⟩ ∧ group.loads.count = 1 ∧
      group.stats.gets = group.stats.cacheHits + group.stats.loads ∧
      group.stats.loads = group.stats.loadsDeduped + happened.count .joined ∧
      group.stats.loadsDeduped = group.stats.peerLoads + group.stats.localLoads +
        group.stats.localLoadErrors + group.loads.count + happened.count .lost ∧
      group.stats.cacheHits = happened.count .hit ∧
      group.stats.loadsDeduped = happened.count .led := by
  intro near context moves group happened
  have stats : group.stats = ⟨7, 1, 6, 5, 1, 1, 1, 1, 0⟩ := by decide +kernel
  have underWay : group.loads.count = 1 := by decide +kernel
  have whole : ∀ timed ∈ moves, timed.2.isWhole = true := by simp [moves, Move.isWhole]
  have balance := (counters_balance "users" moves).1 whole
  -- the equations are to be compared as they stand, and not to be evaluated
  clear_value moves
  exact ⟨stats, underWay, balance⟩

end Group

end PeerCache
