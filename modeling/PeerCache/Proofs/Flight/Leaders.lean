/-
Module: PeerCache.Proofs.Flight.Leaders
Purpose: In every reachable state the call map holds the live leaders' calls, and no others.
Main exports:
  Flight.CreatedAt, Session.Leads, GuardDrop.FreesOwnCall, Session.callMap_of_leaders
-/
import PeerCache.Proofs.Flight.Evolution

/-!
Whatever the callers of a session do, and in whatever order they are polled and dropped,
an entry of the flight is the call of a live leader, under the leader's key, and every
live leader has its entry.  So one work runs for a key at most, the count of the entries
is that of the leaders, and the oldest start is the earliest among the leaders' calls.

The guard of a leader looks its key up before it removes anything.  It always finds its
own call there, however the leader ends, and leaves all other keys as they are.
-/

namespace PeerCache

variable {σ α : Type}

namespace Instant

theorem le_refl (instant : Instant) : instant ≤ instant := Int.le_refl instant.nanos

theorem le_trans {first second third : Instant} (one : first ≤ second) (two : second ≤ third) :
    first ≤ third :=
  Int.le_trans (a := first.nanos) one two

theorem le_antisymm {first second : Instant} (one : first ≤ second) (two : second ≤ first) :
    first = second := by
  cases first
  cases second
  exact congrArg Instant.mk (Int.le_antisymm one two)

theorem earlier_cases (first second : Instant) :
    (earlier first second = first ∧ first ≤ second) ∨
      (earlier first second = second ∧ second ≤ first) := by
  unfold earlier
  split
  case isTrue before => exact Or.inl ⟨rfl, before⟩
  case isFalse after => exact Or.inr ⟨rfl, Int.le_of_lt (Int.not_le.mp after)⟩

/-- Folding `earlier` over instants gives one of them, and none is before it. -/
theorem foldl_earlier (first : Instant) (rest : List Instant) :
    rest.foldl earlier first ∈ first :: rest ∧
      ∀ instant ∈ first :: rest, rest.foldl earlier first ≤ instant := by
  induction rest generalizing first with
  | nil => exact ⟨List.mem_singleton_self first, fun _ member => by
      rw [List.mem_singleton.mp member]; exact le_refl first⟩
  | cons next rest hyp =>
      obtain ⟨member, least⟩ := hyp (earlier first next)
      have bound := least _ (List.mem_cons_self ..)
      rw [List.foldl_cons]
      rcases earlier_cases first next with ⟨same, before⟩ | ⟨same, before⟩
      · rw [same] at member least bound ⊢
        constructor
        · rcases List.mem_cons.mp member with here | later
          · rw [here]
            exact List.mem_cons_self ..
          · exact List.mem_cons_of_mem _ (List.mem_cons_of_mem _ later)
        · intro instant inList
          rcases List.mem_cons.mp inList with rfl | later
          · exact bound
          · rcases List.mem_cons.mp later with rfl | last
            · exact le_trans bound before
            · exact least _ (List.mem_cons_of_mem _ last)
      · rw [same] at member least bound ⊢
        constructor
        · exact List.mem_cons_of_mem _ member
        · intro instant inList
          rcases List.mem_cons.mp inList with rfl | later
          · exact le_trans bound before
          · exact least _ later

end Instant

namespace Flight

variable {flight : Flight α} {live : List CallId}

/-- A call was begun at a time. -/
def CreatedAt (flight : Flight α) (id : CallId) (created : Instant) : Prop :=
  ∃ call, flight.calls[id]? = some call ∧ call.created = created

/-- The calls under way are the live ones, whatever their order. -/
theorem Tracks.mem_underWay_iff (tracks : flight.Tracks live) {call : Call α} :
    call ∈ flight.underWay ↔ ∃ id ∈ live, flight.calls[id]? = some call := by
  rw [underWay, List.mem_filterMap]
  constructor
  · rintro ⟨⟨key, id⟩, member, found⟩
    exact ⟨id, tracks.ids.mem_iff.mp (List.mem_map.mpr ⟨_, member, rfl⟩), found⟩
  · rintro ⟨id, member, found⟩
    obtain ⟨entry, inEntries, rfl⟩ := List.mem_map.mp (tracks.ids.mem_iff.mpr member)
    exact ⟨entry, inEntries, found⟩

theorem Tracks.mem_created_iff (tracks : flight.Tracks live) (created : Instant) :
    created ∈ flight.underWay.map Call.created ↔ ∃ id ∈ live, flight.CreatedAt id created := by
  rw [List.mem_map]
  constructor
  · rintro ⟨call, member, rfl⟩
    obtain ⟨id, inLive, found⟩ := tracks.mem_underWay_iff.mp member
    exact ⟨id, inLive, call, found, rfl⟩
  · rintro ⟨id, inLive, call, found, rfl⟩
    exact ⟨call, tracks.mem_underWay_iff.mpr ⟨id, inLive, found⟩, rfl⟩

/-- The oldest start is the earliest at which a live call was begun. -/
theorem Tracks.oldestStart?_eq_some_iff (tracks : flight.Tracks live) {start : Instant} :
    flight.oldestStart? = some start ↔
      (∃ id ∈ live, flight.CreatedAt id start) ∧
        ∀ id ∈ live, ∀ created, flight.CreatedAt id created → start ≤ created := by
  have members := tracks.mem_created_iff
  unfold oldestStart?
  cases starts : flight.underWay.map Call.created with
  | nil =>
      simp only [starts, List.not_mem_nil, false_iff] at members
      exact ⟨nofun, fun present => absurd present.1 (members start)⟩
  | cons first rest =>
      rw [starts] at members
      obtain ⟨member, least⟩ := Instant.foldl_earlier first rest
      simp only [Option.some.injEq]
      constructor
      · rintro rfl
        exact ⟨(members _).mp member, fun id inLive created at_ =>
          least created ((members created).mpr ⟨id, inLive, at_⟩)⟩
      · rintro ⟨created, before⟩
        obtain ⟨id, inLive, at_⟩ := (members _).mp member
        exact Instant.le_antisymm (least start ((members start).mpr created))
          (before id inLive _ at_)

theorem Tracks.oldestStart?_eq_none_iff (tracks : flight.Tracks live) :
    flight.oldestStart? = none ↔ live = [] := by
  constructor
  · intro idle
    rw [List.eq_nil_iff_forall_not_mem]
    intro id member
    obtain ⟨key, call, found, -, -⟩ := tracks.mem_live_iff.mp member
    have created := (tracks.mem_created_iff _).mpr ⟨id, member, call, found, rfl⟩
    unfold oldestStart? at idle
    split at idle
    case h_1 none_ => rw [none_] at created; cases created
    case h_2 => cases idle
  · rintro rfl
    have idle : flight.underWay = [] := by
      rw [List.eq_nil_iff_forall_not_mem]
      intro call member
      obtain ⟨id, inNone, -⟩ := tracks.mem_underWay_iff.mp member
      cases inNone
    simp only [oldestStart?, idle, List.map_nil]

end Flight

/-- The guard finds the call that it is for under the call's key, and all that dropping
it does to the entries is to free this key. -/
def GuardDrop.FreesOwnCall (drop : GuardDrop α) : Prop :=
  ∃ key, drop.found.Running drop.id key ∧ drop.found.find? key = some drop.id ∧
    ∀ other id, (other, id) ∈ (drop.found.settle drop.id drop.ending.result?).entries ↔
      (other, id) ∈ drop.found.entries ∧ other ≠ key

theorem Flight.Tracks.freesOwnCall {flight : Flight α} {live : List CallId} {id : CallId}
    (tracks : flight.Tracks (id :: live)) (ending : LeaderEnd α) :
    GuardDrop.FreesOwnCall ⟨id, ending, flight⟩ := by
  obtain ⟨key, running, found⟩ := tracks.find?_of_live (List.mem_cons_self ..)
  refine ⟨key, running, found, ?_⟩
  intro other id'
  rw [tracks.entries_settle running _, List.mem_filter, decide_eq_true_iff]

theorem Flight.Evolves.freeOwnCalls {flight last : Flight α} {live left : List CallId}
    {drops : List (GuardDrop α)} (evolves : flight.Evolves live drops last left)
    (start : flight.Tracks live) : ∀ drop ∈ drops, drop.FreesOwnCall := by
  induction evolves with
  | refl => intro drop member; cases member
  | reorder same _ hyp => exact hyp (start.perm same)
  | begin label key now free _ hyp => exact hyp (start.begin label now free)
  | settle id ending _ hyp =>
      intro drop member
      rcases List.mem_cons.mp member with rfl | later
      · exact start.freesOwnCall ending
      · exact hyp (start.settle _) drop later

namespace Session

/-- The caller at a position leads a call for a key: its first poll found none and
inserted this one, and it has not returned from it, panicked or been dropped. -/
def Leads (session : Session σ α) (index : Nat) (key : String) (id : CallId) : Prop :=
  ∃ place, session.callers[index]? = some (.suspended place) ∧ id ∈ place.led ∧
    session.flight.IsFor id key

theorem mem_led_iff {session : Session σ α} {id : CallId} :
    id ∈ session.led ↔ ∃ (index : Nat) (place : Suspended σ α),
      session.callers[index]? = some (.suspended place) ∧ id ∈ place.led := by
  rw [led, List.mem_flatMap]
  constructor
  · rintro ⟨caller, member, inLed⟩
    obtain ⟨index, at_⟩ := List.getElem?_of_mem member
    cases caller with
    | suspended place => exact ⟨index, place, at_, inLed⟩
    | _ => cases inLed
  · rintro ⟨index, place, at_, inLed⟩
    exact ⟨.suspended place, List.mem_of_getElem? at_, inLed⟩

/-- The callers that lead are those whose calls are running. -/
theorem exists_leads_iff {session : Session σ α} (tracks : session.flight.Tracks session.led)
    {key : String} {id : CallId} :
    (∃ index, session.Leads index key id) ↔ session.flight.Running id key := by
  constructor
  · rintro ⟨index, place, at_, inLed, isFor⟩
    obtain ⟨other, running⟩ := tracks.mem_live_iff.mp (mem_led_iff.mpr ⟨index, place, at_, inLed⟩)
    have same : other = key := running.isFor.key_unique isFor
    exact same ▸ running
  · intro running
    obtain ⟨index, place, at_, inLed⟩ := mem_led_iff.mp (tracks.mem_live_iff.mpr ⟨key, running⟩)
    exact ⟨index, place, at_, inLed, running.isFor⟩

/-- A call has one leader. -/
theorem leader_unique {session : Session σ α} (distinct : session.led.Nodup)
    {first second : Nat} {one other : String} {id : CallId} (leads : session.Leads first one id)
    (leadsToo : session.Leads second other id) : first = second := by
  obtain ⟨place, at_, inLed, -⟩ := leads
  obtain ⟨place', at', inLed', -⟩ := leadsToo
  have apart := List.pairwise_iff_getElem.mp (List.pairwise_flatMap.mp distinct).2
  obtain ⟨bound, here⟩ := List.getElem?_eq_some_iff.mp at_
  obtain ⟨bound', here'⟩ := List.getElem?_eq_some_iff.mp at'
  rcases Nat.lt_trichotomy first second with before | same | after
  · exact absurd rfl (apart first second bound bound' before id (here ▸ inLed) id (here' ▸ inLed'))
  · exact same
  · exact absurd rfl (apart second first bound' bound after id (here' ▸ inLed') id (here ▸ inLed))

/-- After every run, the entries of the flight are the calls of the live leaders: each
under its leader's key, no key twice, and one leader for a key at most.  The count is the
number of live leaders, the oldest start is the earliest of their calls', and every guard
that was dropped on the way found its own call and removed nothing else. -/
theorem callMap_of_leaders (steps : List (Instant × Step σ α)) :
    let session := (empty : Session σ α).run steps
    (∀ key id, (key, id) ∈ session.flight.entries ↔ ∃ index, session.Leads index key id) ∧
    (session.flight.entries.map Prod.fst).Nodup ∧
    (∀ key first second one other, session.Leads first key one →
      session.Leads second key other → first = second ∧ one = other) ∧
    session.flight.count = session.led.length ∧
    (session.flight.oldestStart? = none ↔ session.led = []) ∧
    (∀ start, session.flight.oldestStart? = some start ↔
      (∃ id ∈ session.led, session.flight.CreatedAt id start) ∧
        ∀ id ∈ session.led, ∀ created, session.flight.CreatedAt id created → start ≤ created) ∧
    ∀ drop ∈ (empty : Session σ α).drops steps, drop.FreesOwnCall := by
  intro session
  have tracks : session.flight.Tracks session.led := run_tracks steps
  refine ⟨fun key id => ?_, tracks.keys, ?_, tracks.count_eq, tracks.oldestStart?_eq_none_iff,
    fun start => tracks.oldestStart?_eq_some_iff,
    (run_evolves empty steps).freeOwnCalls .empty⟩
  · rw [tracks.mem_entries_iff, exists_leads_iff tracks]
  · intro key first second one other leads leadsToo
    have found := tracks.find?_eq_some_iff.mpr ((exists_leads_iff tracks).mp ⟨first, leads⟩)
    have found' := tracks.find?_eq_some_iff.mpr ((exists_leads_iff tracks).mp ⟨second, leadsToo⟩)
    have same : one = other := Option.some.inj (found.symm.trans found')
    subst same
    exact ⟨leader_unique tracks.nodup leads leadsToo, rfl⟩

/-- A caller leads a call whose work leads another one, and a third call has ended as its work
panicked: the first two are the entries, and the guard of the third has freed its own call. -/
theorem callMap_of_nested_leader :
    let nested : Plan Unit Nat := .call "outer" "a"
      (.call "inner" "b" (.await "go" fun _ => .finish (.ok 0)) .finish) .finish
    let failing : Plan Unit Nat := .call "outer" "c" (.panic "boom") .finish
    let closed : Words Unit := fun _ => none
    let steps : List (Instant × Step Unit Nat) := [(⟨1⟩, .create nested), (⟨1⟩, .create failing),
      (⟨2⟩, .poll 0 closed), (⟨3⟩, .poll 1 closed)]
    let session := (empty : Session Unit Nat).run steps
    let drops := (empty : Session Unit Nat).drops steps
    session.Leads 0 "a" 0 ∧ session.Leads 0 "b" 1 ∧
      ("a", 0) ∈ session.flight.entries ∧ ("b", 1) ∈ session.flight.entries ∧
      session.flight.count = 2 ∧ session.flight.oldestStart? = some ⟨2⟩ ∧
      drops.map GuardDrop.id = [2] ∧ ∀ drop ∈ drops, drop.FreesOwnCall := by
  intro nested failing closed steps session drops
  obtain ⟨entries, -, -, count, -, oldest, freed⟩ := callMap_of_leaders steps
  have outer : session.Leads 0 "a" 0 := ⟨_, rfl, by decide, _, rfl, rfl⟩
  have inner : session.Leads 0 "b" 1 := ⟨_, rfl, by decide, _, rfl, rfl⟩
  have led : session.led = [1, 0] := rfl
  refine ⟨outer, inner, (entries "a" 0).mpr ⟨0, outer⟩, (entries "b" 1).mpr ⟨0, inner⟩,
    count, (oldest ⟨2⟩).mpr ⟨⟨0, by rw [led]; decide, _, rfl, rfl⟩, ?_⟩, rfl, freed⟩
  intro id member created begun
  rw [led] at member
  obtain ⟨call, at_, rfl⟩ := begun
  rcases List.mem_cons.mp member with rfl | last
  · cases at_
    exact Int.le_refl 2
  · obtain rfl := List.mem_singleton.mp last
    cases at_
    exact Int.le_refl 2

end Session

end PeerCache
