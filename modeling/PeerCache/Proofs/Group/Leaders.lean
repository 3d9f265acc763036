/-
Module: PeerCache.Proofs.Group.Leaders
Purpose: The loads and removals under way in a group are those that its callers lead.
Main exports:
  Stake, Flight.Turn, Flight.Shift, Flight.Serves, Group.Shift, Group.Transition.shift,
  Group.Rests, Group.Transition.rests, Group.Orderly, Group.run_orderly
-/
import PeerCache.Proofs.Flight.Evolution
import PeerCache.Proofs.Group.Transition

/-!
A group has two flights, and its callers lead and follow calls of both.  A move gives one
caller a turn: it comes, or goes on from where it stands, and what that does to a flight
depends only on the caller's stakes in it before and after (`Flight.Turn`).

In every state that a group can come to, each flight tracks the calls that callers lead,
and whatever call a caller has a stake in is for the caller's own key (`Flight.Serves`):
such a group is orderly.
-/

namespace PeerCache

/-- What a caller has to do with a call. -/
inductive Stake where
  | leads (call : CallId)
  | follows (call : CallId)

namespace Stake

def call : Stake → CallId
  | .leads call => call
  | .follows call => call

/-- The call that is led, if one is. -/
def led : Option Stake → List CallId
  | some (.leads call) => [call]
  | _ => []

end Stake

/-- What a caller's turn does to a flight, by the stakes that the caller has in it before
and after. -/
inductive Flight.Turn {α : Type} (flight : Flight α) (key : String) :
    Option Stake → Option Stake → Flight α → Prop where
  | keeps (stake : Option Stake) : Turn flight key stake stake flight
  | joins {call : CallId} (found : flight.find? key = some call) :
      Turn flight key none (some (.follows call)) flight
  | leaves (call : CallId) : Turn flight key (some (.follows call)) none flight
  | begins (free : flight.find? key = none) (label : String) (now : Instant) :
      Turn flight key none (some (.leads flight.calls.length)) (flight.begin label key now).2
  | ends (call : CallId) (result : Option (Result α)) :
      Turn flight key (some (.leads call)) none (flight.settle call result)

/-- Whatever a call ends with, some leader ends so. -/
theorem LeaderEnd.exists_result? {α : Type} (result : Option (Result α)) :
    ∃ ending : LeaderEnd α, ending.result? = result := by
  cases result with
  | none => exact ⟨.dropped, rfl⟩
  | some result => exact ⟨.returned result, rfl⟩

namespace Flight.Turn

variable {α : Type} {flight after : Flight α} {key : String} {was is : Option Stake}

/-- Whatever else is led, calls are begun and ended by the caller whose turn it is. -/
theorem evolves (turn : flight.Turn key was is after) (rest : List CallId) :
    ∃ drops, flight.Evolves (Stake.led was ++ rest) drops after (Stake.led is ++ rest) := by
  cases turn with
  | keeps => exact ⟨[], .refl _ _⟩
  | joins found => exact ⟨[], .refl _ _⟩
  | leaves call => exact ⟨[], .refl _ _⟩
  | begins free label now => exact ⟨[], .begin label key now free (.refl _ _)⟩
  | ends call result =>
      obtain ⟨ending, rfl⟩ := LeaderEnd.exists_result? result
      exact ⟨_, .settle call ending (.refl _ _)⟩

/-- A stake was held before, or is one in the key's call, or in a new one. -/
theorem stake_cases {stake : Stake} (turn : flight.Turn key was (some stake) after) :
    was = some stake ∧ after = flight ∨ flight.find? key = some stake.call ∧ after = flight ∨
      stake.call = flight.calls.length ∧ after.IsFor stake.call key := by
  cases turn with
  | keeps => exact Or.inl ⟨rfl, rfl⟩
  | joins found => exact Or.inr (Or.inl ⟨found, rfl⟩)
  | begins free label now =>
      have running : (flight.begin label key now).2.Running flight.calls.length key :=
        running_begin_iff.mpr (Or.inr ⟨rfl, rfl⟩)
      exact Or.inr (Or.inr ⟨rfl, running.isFor⟩)

/-- Stakes are in calls for the caller's key. -/
theorem isFor {live : List CallId} {stake : Stake} (tracks : flight.Tracks live)
    (turn : flight.Turn key was (some stake) after)
    (before : ∀ stake, was = some stake → flight.IsFor stake.call key) :
    after.IsFor stake.call key := by
  rcases turn.stake_cases with ⟨held, rfl⟩ | ⟨found, rfl⟩ | ⟨-, isFor⟩
  · exact before stake held
  · exact (tracks.find?_eq_some_iff.mp found).isFor
  · exact isFor

end Flight.Turn

variable {P : Type}

namespace Place

/-- The stake in a load that comes with a place. -/
def load? : Place P → Option Stake
  | .leading call => some (.leads call)
  | .found call _ => some (.leads call)
  | .joinedLoad call => some (.follows call)
  | .askingPeer call _ => some (.leads call)
  | .loading call => some (.leads call)
  | _ => none

/-- The stake in a removal that comes with a place. -/
def removal? : Place P → Option Stake
  | .joinedRemoval call => some (.follows call)
  | .askingOwner call _ => some (.leads call)
  | .broadcasting call _ _ => some (.leads call)
  | _ => none

end Place

/-! ## The calls that callers lead -/

/-- The calls that callers lead, given the stakes that come with their places. -/
def leadersBy (stake : Place P → Option Stake) (callers : List (GroupCaller P)) : List CallId :=
  callers.flatMap fun caller => Stake.led (stake caller.place)

section Leaders

variable {callers : List (GroupCaller P)} {index : Nat} {entry : GroupCaller P}
  {stake : Place P → Option Stake}

theorem mem_leadersBy_iff {call : CallId} :
    call ∈ leadersBy stake callers ↔
      ∃ (index : Nat) (entry : GroupCaller P), callers[index]? = some entry ∧
        stake entry.place = some (.leads call) := by
  have led : ∀ held : Option Stake, call ∈ Stake.led held ↔ held = some (.leads call) := by
    intro held
    match held with
    | none => simp [Stake.led]
    | some (.leads other) => simp [Stake.led, eq_comm]
    | some (.follows other) => simp [Stake.led]
  rw [leadersBy, List.mem_flatMap]
  constructor
  · rintro ⟨entry, member, inLed⟩
    obtain ⟨index, at_⟩ := List.getElem?_of_mem member
    exact ⟨index, entry, at_, (led _).mp inLed⟩
  · rintro ⟨index, entry, at_, held⟩
    exact ⟨entry, List.mem_of_getElem? at_, (led _).mpr held⟩

/-- A call is led by one caller. -/
theorem leader_unique (nodup : (leadersBy stake callers).Nodup) {one two : Nat}
    {first second : GroupCaller P} {call : CallId} (first_at : callers[one]? = some first)
    (second_at : callers[two]? = some second) (first_leads : stake first.place = some (.leads call))
    (second_leads : stake second.place = some (.leads call)) : one = two := by
  obtain ⟨-, apart⟩ := List.pairwise_flatMap.mp nodup
  rw [List.pairwise_iff_getElem] at apart
  obtain ⟨bound, rfl⟩ := List.getElem?_eq_some_iff.mp first_at
  obtain ⟨bound', rfl⟩ := List.getElem?_eq_some_iff.mp second_at
  rcases Nat.lt_trichotomy one two with less | same | more
  · have disjoint := apart one two bound bound' less
    simp [first_leads, second_leads, Stake.led] at disjoint
  · exact same
  · have disjoint := apart two one bound' bound more
    simp [first_leads, second_leads, Stake.led] at disjoint

/-- Who is among the callers after one has come. -/
theorem arrival_cases {new : GroupCaller P} (at_ : (callers ++ [new])[index]? = some entry) :
    callers[index]? = some entry ∨ index = callers.length ∧ entry = new := by
  rw [List.getElem?_append] at at_
  split at at_
  case isTrue => exact Or.inl at_
  case isFalse late =>
      rw [List.getElem?_singleton] at at_
      split at at_
      case isTrue last => exact Or.inr ⟨by omega, (Option.some.inj at_).symm⟩
      case isFalse => cases at_

/-- Who is among the callers after one has moved. -/
theorem move_cases {caller : Nat} {old : GroupCaller P} {place : Place P}
    (before : callers[caller]? = some old)
    (at_ : (callers.modify caller fun other => { other with place })[index]? = some entry) :
    callers[index]? = some entry ∨ caller = index ∧ entry = { old with place } := by
  rw [Group.modify_place before, List.getElem?_set] at at_
  split at at_
  case isTrue here =>
      split at at_
      case isTrue => exact Or.inr ⟨here, (Option.some.inj at_).symm⟩
      case isFalse => cases at_
  case isFalse => exact Or.inl at_

/-- What holds of all callers and of one that comes holds of all after that. -/
theorem forall_arrive {holds : GroupCaller P → Prop} (all : ∀ entry ∈ callers, holds entry)
    {new : GroupCaller P} (fresh : holds new) : ∀ entry ∈ callers ++ [new], holds entry := by
  intro other member
  rcases List.mem_append.mp member with old | last
  · exact all other old
  · rw [List.mem_singleton.mp last]
    exact fresh

/-- What holds of all callers, and of one of them where it moves to, holds of all after that. -/
theorem forall_moveTo {holds : GroupCaller P → Prop} (all : ∀ entry ∈ callers, holds entry)
    {caller : Nat} {was : GroupCaller P} (before : callers[caller]? = some was) {place : Place P}
    (fresh : holds { was with place }) :
    ∀ entry ∈ callers.modify caller fun other => { other with place }, holds entry := by
  intro other member
  obtain ⟨position, here⟩ := List.getElem?_of_mem member
  rcases move_cases before here with old | ⟨-, rfl⟩
  · exact all other (List.mem_of_getElem? old)
  · exact fresh

end Leaders

/-- What a move does to a flight and to the callers that may have stakes in it. -/
inductive Flight.Shift {α : Type} (stake : Place P → Option Stake)
    (callers : List (GroupCaller P)) (flight : Flight α) :
    List (GroupCaller P) → Flight α → Prop where
  | still : Shift stake callers flight callers flight
  | arrives {after : Flight α} (entry : GroupCaller P)
      (turn : flight.Turn entry.key none (stake entry.place) after) :
      Shift stake callers flight (callers ++ [entry]) after
  | moves {after : Flight α} {index : Nat} {entry : GroupCaller P}
      (at_ : callers[index]? = some entry) (place : Place P)
      (turn : flight.Turn entry.key (stake entry.place) (stake place) after) :
      Shift stake callers flight
        (callers.modify index fun other => { other with place }) after

/-- The flight tracks the calls that callers lead, and callers have stakes in calls for
their own keys. -/
structure Flight.Serves {α : Type} (flight : Flight α) (stake : Place P → Option Stake)
    (callers : List (GroupCaller P)) : Prop where
  tracks : flight.Tracks (leadersBy stake callers)
  isFor : ∀ (index : Nat) (entry : GroupCaller P) (held : Stake),
    callers[index]? = some entry → stake entry.place = some held →
    flight.IsFor held.call entry.key

namespace Flight.Serves

variable {α : Type} {stake : Place P → Option Stake} {callers : List (GroupCaller P)}
  {flight : Flight α} {index : Nat} {entry : GroupCaller P} {key : String} {call : CallId}

theorem running_of_find? (serves : flight.Serves stake callers)
    (found : flight.find? key = some call) : flight.Running call key :=
  serves.tracks.find?_eq_some_iff.mp found

/-- The call that a caller leads runs for the caller's key. -/
theorem running_of_leads (serves : flight.Serves stake callers)
    (at_ : callers[index]? = some entry) (leads : stake entry.place = some (.leads call)) :
    flight.Running call entry.key := by
  have member := mem_leadersBy_iff.mpr ⟨index, entry, at_, leads⟩
  obtain ⟨key, running⟩ := serves.tracks.mem_live_iff.mp member
  have same : key = entry.key := running.isFor.key_unique (serves.isFor index entry _ at_ leads)
  exact same ▸ running

/-- A call that runs for a key is led by a caller for the key. -/
theorem exists_leads (serves : flight.Serves stake callers) (running : flight.Running call key) :
    ∃ (index : Nat) (entry : GroupCaller P), callers[index]? = some entry ∧
      stake entry.place = some (.leads call) ∧ entry.key = key := by
  have member := serves.tracks.mem_live_iff.mpr ⟨key, running⟩
  obtain ⟨index, entry, at_, leads⟩ := mem_leadersBy_iff.mp member
  have same := (serves.isFor index entry _ at_ leads).key_unique running.isFor
  exact ⟨index, entry, at_, leads, same⟩

end Flight.Serves

namespace Flight.Shift

variable {α : Type} {stake : Place P → Option Stake} {callers callers' : List (GroupCaller P)}
  {flight after : Flight α}

/-- Calls are begun and ended by those that lead them. -/
theorem evolves (shift : Shift stake callers flight callers' after) :
    ∃ drops, flight.Evolves (leadersBy stake callers) drops after (leadersBy stake callers') := by
  cases shift with
  | still => exact ⟨[], .refl _ _⟩
  | arrives entry turn =>
      obtain ⟨drops, evolves⟩ := turn.evolves (leadersBy stake callers)
      have leaders : (leadersBy stake (callers ++ [entry])).Perm
          (Stake.led (stake entry.place) ++ leadersBy stake callers) := by
        simpa [leadersBy] using List.perm_append_comm
      have moved := evolves.trans (.reorder leaders.symm (.refl _ _))
      exact ⟨_, moved⟩
  | @moves _ index entry at_ place turn =>
      obtain ⟨others, before, later⟩ :=
        flatMap_set_perm (fun caller : GroupCaller P => Stake.led (stake caller.place)) at_
      obtain ⟨drops, evolves⟩ := turn.evolves others
      rw [Group.modify_place at_ place]
      have moved := evolves.trans (.reorder (later { entry with place }).symm (.refl _ _))
      exact ⟨_, .reorder before moved⟩

/-- A caller is as it was, or has just come, or has gone on from another place. -/
theorem callers_cases (shift : Shift stake callers flight callers' after) {index : Nat}
    {entry : GroupCaller P} (at_ : callers'[index]? = some entry) :
    callers[index]? = some entry ∨
    (index = callers.length ∧ flight.Turn entry.key none (stake entry.place) after) ∨
    ∃ place, callers[index]? = some { entry with place } ∧
      flight.Turn entry.key (stake place) (stake entry.place) after := by
  cases shift with
  | still => exact Or.inl at_
  | arrives new turn =>
      rcases arrival_cases at_ with old | ⟨last, rfl⟩
      · exact Or.inl old
      · exact Or.inr (Or.inl ⟨last, turn⟩)
  | moves before place turn =>
      rcases move_cases before at_ with stayed | ⟨rfl, rfl⟩
      · exact Or.inl stayed
      · exact Or.inr (Or.inr ⟨_, before, turn⟩)

theorem serves (shift : Shift stake callers flight callers' after)
    (serves : flight.Serves stake callers) : after.Serves stake callers' := by
  obtain ⟨_, evolves⟩ := shift.evolves
  constructor
  · exact evolves.tracks serves.tracks
  · intro index entry held at_ holds
    rcases shift.callers_cases at_ with old | ⟨-, turn⟩ | ⟨place, before, turn⟩
    · exact evolves.isFor (serves.isFor index entry held old holds)
    · rw [holds] at turn
      exact turn.isFor serves.tracks nofun
    · rw [holds] at turn
      apply turn.isFor serves.tracks
      intro held was
      exact serves.isFor index { entry with place } held before was

end Flight.Shift

namespace Group

/-- How a caller for a key that goes on from a place comes by a view: it hears of the load that
it followed, or has ended the one that it led, or finds that the one for its key has ended. -/
def Obtains (group after : Group P) (key : String) (view : View) (place : Place P) : Prop :=
  match place.load? with
  | some (.follows call) => group.loads.answer? call = some (.ok view)
  | some (.leads call) => after.loads = group.loads.settle call (some (.ok view))
  | none =>
      ∃ call, group.loads.find? key = some call ∧ group.loads.answer? call = some (.ok view)

/-- Whose turn a move is, what the turn does to the flights of the group, and where the
caller has a view from if it gets one. -/
inductive Shift (group : Group P) (move : Move) (after : Group P) : Prop where
  | still (nobody : move.arrival? = none) (callers : after.callers = group.callers)
      (loads : after.loads = group.loads) (removals : after.removals = group.removals)
  | arrives (entry : GroupCaller P) (comes : move.arrival? = some (entry.context, entry.key))
      (callers : after.callers = group.callers ++ [entry])
      (loads : group.loads.Turn entry.key none entry.place.load? after.loads)
      (removals : group.removals.Turn entry.key none entry.place.removal? after.removals)
      (view : ∀ view, entry.place = .got (.ok view) →
        (move = .get entry.context entry.key ∨ move = .startGet entry.context entry.key) ∧
        (group.store.find? entry.key = some view ∨
          ∃ call, group.loads.find? entry.key = some call ∧
            group.loads.answer? call = some (.ok view)))
  | moves (caller : Nat) (entry : GroupCaller P) (place : Place P)
      (named : move.caller? = some caller) (at_ : group.callers[caller]? = some entry)
      (callers : after.callers = group.callers.modify caller fun other => { other with place })
      (loads : group.loads.Turn entry.key entry.place.load? place.load? after.loads)
      (removals : group.removals.Turn entry.key entry.place.removal? place.removal?
        after.removals)
      (view : ∀ view, place = .got (.ok view) → group.Obtains after entry.key view entry.place)

theorem Transition.shift [PeerHandle P] {near : Surroundings P} {group after : Group P}
    {move : Move} {events : List (Event P)} (transition : Transition near group move after events) :
    Shift group move after := by
  cases transition with
  | hit context key view kept valid =>
      refine .arrives ⟨context, key, _⟩ rfl rfl (.keeps _) (.keeps _) ?_
      intro other same
      cases same
      exact ⟨Or.inl rfl, Or.inl kept⟩
  | joinLoad context key call misses found unanswered =>
      exact .arrives ⟨context, key, _⟩ rfl rfl (.joins found) (.keeps _) nofun
  | lateLoad context key call result misses found answered =>
      refine .arrives ⟨context, key, _⟩ rfl rfl (.keeps _) (.keeps _) ?_
      intro view same
      cases same
      exact ⟨Or.inl rfl, Or.inr ⟨call, found, answered⟩⟩
  | askPeer context key peer misses free picked =>
      exact .arrives ⟨context, key, _⟩ rfl rfl (.begins free _ _) (.keeps _) nofun
  | callLoader context key misses free picked =>
      exact .arrives ⟨context, key, _⟩ rfl rfl (.begins free _ _) (.keeps _) nofun
  | startHit context key view kept valid =>
      refine .arrives ⟨context, key, _⟩ rfl rfl (.keeps _) (.keeps _) ?_
      intro other same
      cases same
      exact ⟨Or.inr rfl, Or.inl kept⟩
  | startMiss context key misses =>
      exact .arrives ⟨context, key, _⟩ rfl rfl (.keeps _) (.keeps _) nofun
  | enterJoin caller context key call at_ found unanswered =>
      exact .moves caller _ _ rfl at_ rfl (.joins found) (.keeps _) nofun
  | enterLate caller context key call result at_ found answered =>
      refine .moves caller _ _ rfl at_ rfl (.keeps _) (.keeps _) ?_
      intro view same
      cases same
      exact ⟨call, found, answered⟩
  | enterLead caller context key at_ free =>
      exact .moves caller _ _ rfl at_ rfl (.begins free _ _) (.keeps _) nofun
  | findAgain caller context key call view at_ kept valid =>
      exact .moves caller _ _ rfl at_ rfl (.keeps _) (.keeps _) nofun
  | leadToPeer caller context key call peer at_ misses picked =>
      exact .moves caller _ _ rfl at_ rfl (.keeps _) (.keeps _) nofun
  | leadToLoader caller context key call at_ misses picked =>
      exact .moves caller _ _ rfl at_ rfl (.keeps _) (.keeps _) nofun
  | endFound caller context key call view at_ =>
      refine .moves caller _ _ rfl at_ rfl (.ends call _) (.keeps _) ?_
      intro other same
      cases same
      rfl
  | peerGave caller context key call peer response at_ =>
      refine .moves caller _ _ rfl at_ rfl (.ends call _) (.keeps _) ?_
      intro view same
      cases same
      rfl
  | peerFailed caller context key call peer error at_ =>
      exact .moves caller _ _ rfl at_ rfl (.keeps _) (.keeps _) nofun
  | peerPanicked caller context key call peer message at_ =>
      exact .moves caller _ _ rfl at_ rfl (.ends call _) (.keeps _) nofun
  | loaderGave caller context key call view at_ =>
      refine .moves caller _ _ rfl at_ rfl (.ends call _) (.keeps _) ?_
      intro other same
      cases same
      rfl
  | loaderFailed caller context key call cause at_ =>
      exact .moves caller _ _ rfl at_ rfl (.ends call _) (.keeps _) nofun
  | loaderPanicked caller context key call message at_ =>
      exact .moves caller _ _ rfl at_ rfl (.ends call _) (.keeps _) nofun
  | joinRemoval context key call found unanswered =>
      exact .arrives ⟨context, key, _⟩ rfl rfl (.keeps _) (.joins found) nofun
  | lateRemoval context key call result found answered =>
      exact .arrives ⟨context, key, _⟩ rfl rfl (.keeps _) (.keeps _) nofun
  | askOwner context key owner free picked =>
      exact .arrives ⟨context, key, _⟩ rfl rfl (.keeps _) (.begins free _ _) nofun
  | removeHere context key free picked =>
      exact .arrives ⟨context, key, _⟩ rfl rfl (.keeps _) (.begins free _ _) nofun
  | ownerRemoved caller context key call owner at_ =>
      exact .moves caller _ _ rfl at_ rfl (.keeps _) (.keeps _) nofun
  | ownerFailed caller context key call owner error at_ =>
      exact .moves caller _ _ rfl at_ rfl (.keeps _) (.ends call _) nofun
  | ownerPanicked caller context key call owner message at_ =>
      exact .moves caller _ _ rfl at_ rfl (.keeps _) (.ends call _) nofun
  | peerRemoved caller context key call awaited failure number reply at_ expected =>
      exact .moves caller _ _ rfl at_ rfl (.keeps _) (.keeps _) nofun
  | endBroadcast caller context key call failure at_ =>
      exact .moves caller _ _ rfl at_ rfl (.keeps _) (.ends call _) nofun
  | hearLoad caller context key call result at_ answered =>
      refine .moves caller _ _ rfl at_ rfl (.leaves call) (.keeps _) ?_
      intro view same
      cases same
      exact answered
  | hearRemoval caller context key call result at_ answered =>
      exact .moves caller _ _ rfl at_ rfl (.keeps _) (.leaves call) nofun
  | dropGet caller context key call at_ =>
      exact .moves caller _ _ rfl at_ rfl (.leaves call) (.keeps _) nofun
  | dropRemove caller context key call at_ =>
      exact .moves caller _ _ rfl at_ rfl (.keeps _) (.leaves call) nofun
  | dropAskingPeer caller context key call peer at_ =>
      exact .moves caller _ _ rfl at_ rfl (.ends call _) (.keeps _) nofun
  | dropLoading caller context key call at_ =>
      exact .moves caller _ _ rfl at_ rfl (.ends call _) (.keeps _) nofun
  | dropAskingOwner caller context key call owner at_ =>
      exact .moves caller _ _ rfl at_ rfl (.keeps _) (.ends call _) nofun
  | dropBroadcasting caller context key call awaited failure at_ =>
      exact .moves caller _ _ rfl at_ rfl (.keeps _) (.ends call _) nofun
  | removeLocally key => exact .still rfl rfl rfl rfl
  | lookMissed key misses => exact .still rfl rfl rfl rfl
  | serve => exact .still rfl rfl rfl rfl
  | idle move nobody => exact .still nobody rfl rfl rfl

namespace Shift

variable {group after : Group P} {move : Move}

theorem loads (shift : Shift group move after) :
    Flight.Shift Place.load? group.callers group.loads after.callers after.loads := by
  cases shift with
  | still nobody callers loads removals =>
      rw [callers, loads]
      exact .still
  | arrives entry comes callers loads removals =>
      rw [callers]
      exact .arrives entry loads
  | moves caller entry place named at_ callers loads removals =>
      rw [callers]
      exact .moves at_ place loads

theorem removals (shift : Shift group move after) :
    Flight.Shift Place.removal? group.callers group.removals after.callers after.removals := by
  cases shift with
  | still nobody callers loads removals =>
      rw [callers, removals]
      exact .still
  | arrives entry comes callers loads removals =>
      rw [callers]
      exact .arrives entry removals
  | moves caller entry place named at_ callers loads removals =>
      rw [callers]
      exact .moves at_ place removals

/-- No caller goes away. -/
theorem length_le (shift : Shift group move after) :
    group.callers.length ≤ after.callers.length := by
  cases shift with
  | still nobody callers => exact Nat.le_of_eq (by rw [callers])
  | arrives entry comes callers =>
      rw [callers, List.length_append]
      exact Nat.le_add_right _ _
  | moves caller entry place named at_ callers =>
      exact Nat.le_of_eq (by rw [callers, List.length_modify])

/-- A caller stays where it is unless a move is for it. -/
theorem callers_stay (shift : Shift group move after) {index : Nat} {entry : GroupCaller P}
    (at_ : group.callers[index]? = some entry) (other : move.caller? ≠ some index) :
    after.callers[index]? = some entry := by
  cases shift with
  | still nobody callers => rw [callers, at_]
  | arrives new comes callers =>
      have bound := (List.getElem?_eq_some_iff.mp at_).1
      rw [callers, List.getElem?_append_left bound, at_]
  | moves caller old place named before callers =>
      have apart : caller ≠ index := by
        rintro rfl
        exact other named
      rw [callers, List.getElem?_modify, at_]
      simp [apart]

/-- Who is new after a move has come with it. -/
theorem arrival_of_new (shift : Shift group move after) {index : Nat}
    (new : group.callers.length ≤ index) (there : index < after.callers.length) :
    ∃ entry, index = group.callers.length ∧ after.callers[index]? = some entry ∧
      move.arrival? = some (entry.context, entry.key) := by
  cases shift with
  | still nobody callers => rw [callers] at there; omega
  | arrives entry comes callers =>
      rw [callers, List.length_append, List.length_singleton] at there
      obtain rfl : index = group.callers.length := by omega
      exact ⟨entry, rfl, by rw [callers]; exact List.getElem?_concat_length, comes⟩
  | moves caller entry place named at_ callers =>
      rw [callers, List.length_modify] at there
      omega

end Shift

/-! ## Groups at rest -/

/-- Whether a get that comes with the move runs up to its first wait. -/
def Move.isWhole : Move → Bool
  | .startGet _ _ => false
  | _ => true

/-- No caller is at work: all of them wait or have ended. -/
def Rests (group : Group P) : Prop :=
  ∀ entry ∈ group.callers, entry.place.isAtWork = false

theorem rests_new (name : String) : (new name : Group P).Rests :=
  fun _ member => absurd member List.not_mem_nil

/-- As long as gets run up to their first waits, nobody is at work between two moves. -/
theorem Transition.rests [PeerHandle P] {near : Surroundings P} {group after : Group P}
    {move : Move} {events : List (Event P)} (transition : Transition near group move after events)
    (whole : move.isWhole = true) (rests : group.Rests) : after.Rests := by
  have works {caller : Nat} {entry : GroupCaller P} (at_ : group.callers[caller]? = some entry)
      (working : entry.place.isAtWork = true) : False := by
    rw [rests entry (List.mem_of_getElem? at_)] at working
    cases working
  cases transition with
  | startHit | startMiss => cases whole
  | enterJoin _ _ _ _ at_ | enterLate _ _ _ _ _ at_ | enterLead _ _ _ at_
  | findAgain _ _ _ _ _ at_ | leadToPeer _ _ _ _ _ at_ | leadToLoader _ _ _ _ at_
  | endFound _ _ _ _ _ at_ => exact (works at_ rfl).elim
  | hit | joinLoad | lateLoad | askPeer | callLoader | joinRemoval | lateRemoval | askOwner
  | removeHere => exact forall_arrive rests rfl
  | removeLocally | lookMissed | serve | idle => exact rests
  | _ => exact forall_moveTo rests ‹_› rfl

/-! ## Orderly groups -/

/-- Both flights of the group serve its callers. -/
structure Orderly (group : Group P) : Prop where
  loads : group.loads.Serves Place.load? group.callers
  removals : group.removals.Serves Place.removal? group.callers

theorem orderly_new (name : String) : (new name : Group P).Orderly := by
  constructor
  · exact ⟨.empty, by simp [new]⟩
  · exact ⟨.empty, by simp [new]⟩

theorem Shift.orderly {group after : Group P} {move : Move} (shift : Shift group move after)
    (orderly : group.Orderly) : after.Orderly := by
  constructor
  · exact shift.loads.serves orderly.loads
  · exact shift.removals.serves orderly.removals

section Runs

variable [PeerHandle P]

/-- A run can be cut anywhere. -/
theorem run_append (group : Group P) (before later : List (Surroundings P × Move)) :
    group.run (before ++ later) =
      (((group.run before).1.run later).1,
        (group.run before).2 ++ ((group.run before).1.run later).2) := by
  induction before generalizing group with
  | nil => rfl
  | cons timed rest hyp => simp only [List.cons_append, run, hyp, List.append_assoc]

theorem step_shift (near : Surroundings P) (group : Group P) (move : Move) :
    Shift group move (group.step near move).1 :=
  (step_transition near group move).shift

theorem step_rests (near : Surroundings P) {group : Group P} {move : Move}
    (whole : move.isWhole = true) (rests : group.Rests) : (group.step near move).1.Rests :=
  (step_transition near group move).rests whole rests

theorem step_orderly (near : Surroundings P) {group : Group P} (move : Move)
    (orderly : group.Orderly) : (group.step near move).1.Orderly :=
  (step_shift near group move).orderly orderly

/-- What holds at first and after every move holds after every run. -/
theorem run_of_step {holds : Group P → Prop}
    (step : ∀ near (group : Group P) move, holds group → holds (group.step near move).1)
    {group : Group P} (start : holds group) (moves : List (Surroundings P × Move)) :
    holds (group.run moves).1 := by
  induction moves generalizing group with
  | nil => exact start
  | cons timed rest hyp => exact hyp (step timed.1 group timed.2 start)

/-- Whatever happens to an orderly group, it stays orderly. -/
theorem run_orderly {group : Group P} (orderly : group.Orderly)
    (moves : List (Surroundings P × Move)) : (group.run moves).1.Orderly :=
  run_of_step (fun near _ move => step_orderly near move) orderly moves

end Runs

end Group

end PeerCache
