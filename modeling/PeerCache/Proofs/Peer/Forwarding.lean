/-
Module: PeerCache.Proofs.Peer.Forwarding
Purpose: Where a miss goes while nodes learn of new peers one after another.
Main exports:
  PeerPool.address, PeerPool.Forwards, PeerPool.Rolling, PeerPool.hopsLeft,
  PeerPool.Rolling.hopsLeft_lt, PeerPool.Walk, PeerPool.Rolling.exists_walk,
  PeerPool.Rolling.walk_short
-/
import PeerCache.Proofs.Peer.Pick

/-!
While peers are being added, some nodes know the old list and some the new one, and they may
name different owners for a key.  A node that is asked for a key which it does not think its
own asks on.

This ends soon.  A key stays with its owner or goes to a new peer
(`Ring.owner?_of_more_peers`), and new peers know the new list.  So who names a new peer names
one that owns the key in its own eyes; and who names an old peer names one that either owns
the key in its own eyes, or knows the new list and names a new peer.
-/

namespace PeerCache

namespace PeerPool

/-- The address below which a node serves its peers. -/
def address (pool : PeerPool) : String :=
  pool.selfUrl ++ pool.options.basePath

/-- The first node picks the second for the key. -/
def Forwards (key : String) (first second : PeerPool) : Prop :=
  ∃ transport, first.pick? key = some transport ∧ transport.baseUrl = second.address

/-- Nodes that know the old list of peers or the new one, which has some peers added, wherever
they were put in.  All peers are nodes, and those that were added know the new list. -/
structure Rolling (options : PoolOptions) (added : String → Bool) (old new : List String)
    (pools : List PeerPool) : Prop where
  kept : new.filter (fun peer => !added peer) = old
  knows : ∀ pool ∈ pools, pool.Knows options old ∨ pool.Knows options new
  switched : ∀ pool ∈ pools, pool.selfUrl ∈ new → added pool.selfUrl = true →
    pool.Knows options new
  reached : ∀ peer ∈ new, ∃ pool ∈ pools, pool.selfUrl = peer

/-- How often a miss for the key goes on at most. -/
def hopsLeft (added : String → Bool) (key : String) (pool : PeerPool) : Nat :=
  match pool.topology.ring.owner? key with
  | none => 0
  | some owner => if owner = pool.selfUrl then 0 else if added owner then 1 else 2

theorem hopsLeft_le_two (added : String → Bool) (key : String) (pool : PeerPool) :
    hopsLeft added key pool ≤ 2 := by
  unfold hopsLeft
  split
  · exact Nat.zero_le 2
  · split
    · exact Nat.zero_le 2
    · split <;> decide

theorem options_of_knows {pool : PeerPool} {options : PoolOptions} {peers : List String}
    (knows : pool.Knows options peers) : pool.options = options.normalized := by
  rw [knows]
  rfl

namespace Rolling

variable {options : PoolOptions} {added : String → Bool} {old new : List String}
  {pools : List PeerPool} {key owner : String} {pool first second third : PeerPool}

theorem options_eq (rolling : Rolling options added old new pools) (member : pool ∈ pools) :
    pool.options = options.normalized :=
  (rolling.knows pool member).elim options_of_knows options_of_knows

/-- What a node takes for the owner is a new peer that owns the key among all, or a peer that
owned it before. -/
theorem owner_cases (rolling : Rolling options added old new pools) (member : pool ∈ pools)
    (names : pool.topology.ring.owner? key = some owner) :
    (added owner = true ∧ ownerAmong options new key = some owner) ∨
      (added owner = false ∧ ownerAmong options old key = some owner) := by
  rcases rolling.knows pool member with knows | knows
  · rw [knows.owner? key] at names
    have inOld := ownerAmong_mem names
    rw [← rolling.kept, List.mem_filter, Bool.not_eq_true'] at inOld
    exact Or.inr ⟨inOld.2, names⟩
  · rw [knows.owner? key] at names
    cases isNew : added owner with
    | true => exact Or.inl ⟨rfl, names⟩
    | false => exact Or.inr ⟨rfl, Ring.owner?_of_more_peers rolling.kept names isNew⟩

/-- A node picks whom it takes for the owner. -/
theorem pick?_eq_some_iff (rolling : Rolling options added old new pools) (member : pool ∈ pools)
    {transport : Transport} :
    pool.pick? key = some transport ↔ ∃ owner, pool.topology.ring.owner? key = some owner ∧
      owner ≠ pool.selfUrl ∧ reach options owner = transport := by
  rcases rolling.knows pool member with knows | knows
  · rw [knows.pick?_eq_some_iff, knows.owner? key]
  · rw [knows.pick?_eq_some_iff, knows.owner? key]

theorem forwards_iff (rolling : Rolling options added old new pools) (one : first ∈ pools)
    (two : second ∈ pools) :
    Forwards key first second ↔
      first.topology.ring.owner? key = some second.selfUrl ∧ second.selfUrl ≠ first.selfUrl := by
  unfold Forwards
  constructor
  · rintro ⟨transport, picked, same⟩
    obtain ⟨owner, names, apart, rfl⟩ := (rolling.pick?_eq_some_iff one).mp picked
    rw [address, rolling.options_eq two] at same
    obtain rfl : owner = second.selfUrl := (String.append_left_inj _).mp same
    exact ⟨names, apart⟩
  · rintro ⟨names, apart⟩
    refine ⟨_, (rolling.pick?_eq_some_iff one).mpr ⟨_, names, apart, rfl⟩, ?_⟩
    rw [address, rolling.options_eq two]
    rfl

/-- Who owns the key in its own eyes does not ask on. -/
theorem hopsLeft_of_owner (added : String → Bool)
    (names : pool.topology.ring.owner? key = some pool.selfUrl) :
    hopsLeft added key pool = 0 := by
  simp only [hopsLeft, names, if_true]

/-- A new peer that owns the key among all owns it in its own eyes. -/
theorem owns_of_added (rolling : Rolling options added old new pools) (member : pool ∈ pools)
    (isNew : added pool.selfUrl = true)
    (owns : ownerAmong options new key = some pool.selfUrl) :
    pool.topology.ring.owner? key = some pool.selfUrl := by
  have knows := rolling.switched pool member (ownerAmong_mem owns) isNew
  rw [knows.owner? key]
  exact owns

/-- With every step on the way fewer steps are left. -/
theorem hopsLeft_lt (rolling : Rolling options added old new pools) (one : first ∈ pools)
    (two : second ∈ pools) (forwards : Forwards key first second) :
    hopsLeft added key second < hopsLeft added key first := by
  obtain ⟨names, apart⟩ := (rolling.forwards_iff one two).mp forwards
  rcases rolling.owner_cases one names with ⟨isNew, owns⟩ | ⟨isOld, owns⟩
  · rw [hopsLeft_of_owner added (rolling.owns_of_added two isNew owns)]
    simp [hopsLeft, names, apart, isNew]
  · have far : hopsLeft added key first = 2 := by simp [hopsLeft, names, apart, isOld]
    rw [far]
    -- the second node either names a new peer, or agrees about the old owner: itself
    cases seen : second.topology.ring.owner? key with
    | none => simp [hopsLeft, seen]
    | some owner =>
        rcases rolling.owner_cases two seen with ⟨isNew, -⟩ | ⟨-, owned⟩
        · simp only [hopsLeft, seen, isNew, if_true]
          split <;> decide
        · obtain rfl := Option.some.inj (owns.symm.trans owned)
          rw [hopsLeft_of_owner added seen]
          decide

/-- Who does not serve the key passes the miss on to some node. -/
theorem serves_or_forwards (rolling : Rolling options added old new pools)
    (member : pool ∈ pools) :
    pool.pick? key = none ∨ ∃ next ∈ pools, Forwards key pool next := by
  cases picked : pool.pick? key with
  | none => exact Or.inl rfl
  | some transport =>
      obtain ⟨owner, names, apart, -⟩ := (rolling.pick?_eq_some_iff member).mp picked
      have inNew : owner ∈ new := by
        rcases rolling.owner_cases member names with ⟨-, owns⟩ | ⟨-, owns⟩
        · exact ownerAmong_mem owns
        · have inOld := ownerAmong_mem owns
          rw [← rolling.kept] at inOld
          exact (List.mem_filter.mp inOld).1
      obtain ⟨next, there, rfl⟩ := rolling.reached owner inNew
      exact Or.inr ⟨next, there, (rolling.forwards_iff member there).mpr ⟨names, apart⟩⟩

/-- Telling one more node of the new peers goes on with the change. -/
theorem tell (rolling : Rolling options added old new pools) {position : Nat}
    (at_ : pools[position]? = some pool) :
    Rolling options added old new (pools.set position (pool.set new)) := by
  have told : (pool.set new).Knows options new :=
    (rolling.knows pool (List.mem_of_getElem? at_)).elim (fun knows => knows.set new)
      fun knows => knows.set new
  constructor
  · exact rolling.kept
  · intro other member
    rcases List.mem_or_eq_of_mem_set member with before | rfl
    · exact rolling.knows other before
    · exact Or.inr told
  · intro other member inNew isNew
    rcases List.mem_or_eq_of_mem_set member with before | rfl
    · exact rolling.switched other before inNew isNew
    · exact told
  · intro peer inNew
    obtain ⟨other, member, rfl⟩ := rolling.reached peer inNew
    obtain ⟨index, there⟩ := List.getElem?_of_mem member
    by_cases same : position = index
    · subst same
      obtain rfl := Option.some.inj (at_.symm.trans there)
      have bound := (List.getElem?_eq_some_iff.mp at_).1
      exact ⟨pool.set new, List.mem_set bound _, rfl⟩
    · have stays : (pools.set position (pool.set new))[index]? = some other :=
        (List.getElem?_set_ne same).trans there
      exact ⟨other, List.mem_of_getElem? stays, rfl⟩

end Rolling

/-! ## Whole ways -/

/-- Nodes through which a miss for the key goes, one after another. -/
inductive Walk (key : String) (pools : List PeerPool) : List PeerPool → Prop where
  | one {pool : PeerPool} (member : pool ∈ pools) : Walk key pools [pool]
  | more {first next : PeerPool} {rest : List PeerPool} (member : first ∈ pools)
      (forwards : Forwards key first next) (walk : Walk key pools (next :: rest)) :
      Walk key pools (first :: next :: rest)

theorem Walk.head_mem {key : String} {pools rest : List PeerPool} {first : PeerPool}
    (walk : Walk key pools (first :: rest)) : first ∈ pools := by
  cases walk with
  | one member => exact member
  | more member forwards walk => exact member

namespace Rolling

variable {options : PoolOptions} {added : String → Bool} {old new : List String}
  {pools walk rest : List PeerPool} {key : String} {first second third : PeerPool}

theorem length_le_hopsLeft (rolling : Rolling options added old new pools)
    (walk : Walk key pools (first :: rest)) : rest.length ≤ hopsLeft added key first := by
  induction rest generalizing first with
  | nil => exact Nat.zero_le _
  | cons next rest hyp =>
      cases walk with
      | more member forwards walk =>
          have fewer := rolling.hopsLeft_lt member walk.head_mem forwards
          have short := hyp walk
          simp only [List.length_cons]
          omega

/-- The third node on the way is not the first again: if it were, the second would name a new
peer, who knows what the second knows. -/
theorem third_ne_first (rolling : Rolling options added old new pools) (one : first ∈ pools)
    (two : second ∈ pools) (three : third ∈ pools) (forwards : Forwards key first second)
    (again : Forwards key second third) : third.selfUrl ≠ first.selfUrl := by
  intro same
  obtain ⟨names, -⟩ := (rolling.forwards_iff one two).mp forwards
  obtain ⟨names', apart'⟩ := (rolling.forwards_iff two three).mp again
  have near : hopsLeft added key second ≤ 1 := by
    have fewer := rolling.hopsLeft_lt one two forwards
    have bound := hopsLeft_le_two added key first
    omega
  cases isNew : added third.selfUrl with
  | false => simp [hopsLeft, names', apart', isNew] at near
  | true =>
      rcases rolling.owner_cases two names' with ⟨-, owns⟩ | ⟨isOld, -⟩
      · rw [same] at isNew owns
        have self := rolling.owns_of_added one isNew owns
        have fewer := rolling.hopsLeft_lt one two forwards
        rw [hopsLeft_of_owner added self] at fewer
        exact Nat.not_lt_zero _ fewer
      · rw [isNew] at isOld
        cases isOld

/-- A miss is passed on twice at most, and never back to a node where it has been. -/
theorem walk_short (rolling : Rolling options added old new pools) (walks : Walk key pools walk) :
    walk.length ≤ 3 ∧ (walk.map selfUrl).Nodup := by
  have apart {first second : PeerPool} (one : first ∈ pools) (two : second ∈ pools)
      (forwards : Forwards key first second) : first.selfUrl ≠ second.selfUrl :=
    ((rolling.forwards_iff one two).mp forwards).2.symm
  cases walks with
  | one member => simp
  | @more first second rest one forwards walks =>
      have two := walks.head_mem
      cases walks with
      | one member => simp [apart one two forwards]
      | @more _ third rest _ again walks =>
          have three := walks.head_mem
          have short := rolling.length_le_hopsLeft (.more one forwards (.more two again walks))
          have bound := hopsLeft_le_two added key first
          obtain rfl : rest = [] := by
            cases rest with
            | nil => rfl
            | cons fourth rest =>
                simp only [List.length_cons] at short
                omega
          have back := rolling.third_ne_first one two three forwards again
          simp [apart one two forwards, apart two three again, back.symm]

/-- From every node there is a way to one that serves the key. -/
theorem exists_walk (rolling : Rolling options added old new pools) (start : first ∈ pools) :
    ∃ rest last, Walk key pools (first :: rest) ∧ (first :: rest).getLast? = some last ∧
      last.pick? key = none := by
  induction hops : hopsLeft added key first using Nat.strongRecOn generalizing first with
  | ind hops hyp =>
      rcases rolling.serves_or_forwards start with serves | ⟨next, there, forwards⟩
      · exact ⟨[], first, .one start, rfl, serves⟩
      · have fewer := rolling.hopsLeft_lt start there forwards
        obtain ⟨rest, last, walk, ends, serves⟩ := hyp _ (hops ▸ fewer) there rfl
        exact ⟨next :: rest, last, .more start forwards walk, by simpa using ends, serves⟩

end Rolling

end PeerPool

end PeerCache
