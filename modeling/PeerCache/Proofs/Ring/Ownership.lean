/-
Module: PeerCache.Proofs.Ring.Ownership
Purpose: How the owner of a key depends on the list of peers.
Main exports:
  Ring.servedAt?, Ring.owner?_added, Ring.owner?_of_sublist, Ring.owner?_of_more_peers,
  Ring.owner?_of_same_peers
-/
import PeerCache.Proofs.Ring.Placement

/-!
The place that serves a key depends only on the set of peers, and the owner is the last peer
of the list among those with a copy at this place.  So two lists of the same peers can
disagree about a key only where several peers share a place, and there they do disagree if
the peers come in another order (`default_rings_disagree`).

When peers are added to a list, wherever they are put in, a key stays with its owner or goes
to one of the new peers (`owner?_of_more_peers`).  This holds for shared places too: those
who were there before keep their order.
-/

namespace PeerCache

namespace Ring

/-- The place that serves a key. -/
def servedAt? (ring : Ring) (key : String) : Option UInt32 :=
  (successor? ring.points (ring.hash (Bytes.ofString key))).map RingPoint.place

variable {hash : RingHash} {replicas : Nat} {peers old new first second : List String}
  {key owner : String}

/-- The owner of a key sits at the point that serves the key. -/
theorem owner?_eq_some_iff :
    ((empty replicas hash).add peers).owner? key = some owner ↔
      ∃ place, Serves ((empty replicas hash).add peers).points (hash (Bytes.ofString key))
        ⟨place, owner⟩ := by
  have ordered := ordered_added hash replicas peers
  rw [owner?, hash_add, Option.map_eq_some_iff]
  constructor
  · rintro ⟨point, found, rfl⟩
    exact ⟨point.place, (successor?_eq_some_iff ordered).mp found⟩
  · rintro ⟨place, serves⟩
    exact ⟨⟨place, owner⟩, (successor?_eq_some_iff ordered).mpr serves, rfl⟩

/-- The owner of a key is the last peer with a copy at the place that serves the key. -/
theorem owner?_added (hash : RingHash) (replicas : Nat) (peers : List String) (key : String) :
    ((empty replicas hash).add peers).owner? key =
      (((empty replicas hash).add peers).servedAt? key).bind (lastAt? hash replicas peers) := by
  unfold owner? servedAt?
  cases found : successor? ((empty replicas hash).add peers).points
      (((empty replicas hash).add peers).hash (Bytes.ofString key)) with
  | none => rfl
  | some point =>
      have serves := serves_of_successor? (ordered_added hash replicas peers) found
      exact (mem_points_add_iff.mp serves.member).symm

/-- Only a ring without points has a key without an owner. -/
theorem owner?_eq_none_iff (ring : Ring) (key : String) :
    ring.owner? key = none ↔ ring.points = [] := by
  rw [owner?, Option.map_eq_none_iff, successor?_eq_none_iff]

/-- Owners are among the peers. -/
theorem owner_mem (found : ((empty replicas hash).add peers).owner? key = some owner) :
    owner ∈ peers := by
  obtain ⟨place, serves⟩ := owner?_eq_some_iff.mp found
  exact peer_mem_of_mem_points serves.member

/-- Some peer has a copy, so every key has an owner. -/
theorem exists_owner (some_replica : 0 < replicas) (some_peer : peers ≠ []) (key : String) :
    ∃ owner, ((empty replicas hash).add peers).owner? key = some owner := by
  cases found : ((empty replicas hash).add peers).owner? key with
  | some owner => exact ⟨owner, rfl⟩
  | none =>
      obtain ⟨peer, member⟩ := List.exists_mem_of_ne_nil peers some_peer
      have here : sitsAt hash replicas (placeOf hash peer 0) peer = true := by
        rw [sitsAt, List.any_eq_true]
        exact ⟨0, List.mem_range.mpr some_replica, decide_eq_true rfl⟩
      obtain ⟨last, isLast⟩ := exists_lastAt?_iff.mpr ⟨peer, member, here⟩
      have taken : ⟨placeOf hash peer 0, last⟩ ∈ ((empty replicas hash).add peers).points :=
        mem_points_add_iff.mpr isLast
      rw [(owner?_eq_none_iff _ key).mp found] at taken
      cases taken

/-! ## More peers -/

/-- Whoever comes to a shared place last is last there among fewer peers too, if none of its own
entries in the list is left out. -/
theorem lastAt?_of_sublist {place : UInt32} (part : old.Sublist new)
    (all : new.count owner = old.count owner)
    (last : lastAt? hash replicas new place = some owner) :
    lastAt? hash replicas old place = some owner := by
  have here := (mem_of_lastAt? last).2
  obtain ⟨before, split⟩ := List.getLast?_eq_some_iff.mp last
  have partHere := part.filter (sitsAt hash replicas place)
  rw [split, List.sublist_append_iff] at partHere
  obtain ⟨earlier, ending, isSplit, isEarlier, isEnding⟩ := partHere
  rw [lastAt?, isSplit]
  cases isEnding with
  | cons _ nothing =>
      obtain rfl := List.sublist_nil.mp nothing
      -- then the owner would sit there less often than it does on the longer list
      have counts := List.count_filter (l := new) here
      rw [all, ← List.count_filter (l := old) here, split, isSplit] at counts
      have fewest := isEarlier.count_le owner
      simp at counts
      omega
  | cons_cons _ nothing =>
      obtain rfl := List.sublist_nil.mp nothing
      exact List.getLast?_concat

/-- A place that is taken stays taken when there are more peers. -/
theorem exists_point_of_more_peers {point : RingPoint} (fewer : ∀ peer ∈ old, peer ∈ new)
    (member : point ∈ ((empty replicas hash).add old).points) :
    ∃ other ∈ ((empty replicas hash).add new).points, other.place = point.place := by
  obtain ⟨inOld, here⟩ := mem_of_lastAt? (mem_points_add_iff.mp member)
  obtain ⟨last, isLast⟩ := exists_lastAt?_iff.mpr ⟨point.peer, fewer _ inOld, here⟩
  exact ⟨⟨point.place, last⟩, mem_points_add_iff.mpr isLast, rfl⟩

/-- Entries were put into a list, at any positions.  A key that belongs to a peer without new
entries belonged to this peer before. -/
theorem owner?_of_sublist (part : old.Sublist new) (all : new.count owner = old.count owner)
    (found : ((empty replicas hash).add new).owner? key = some owner) :
    ((empty replicas hash).add old).owner? key = some owner := by
  obtain ⟨place, serves⟩ := owner?_eq_some_iff.mp found
  have last := lastAt?_of_sublist part all (mem_points_add_iff.mp serves.member)
  have stillServes : Serves ((empty replicas hash).add old).points (hash (Bytes.ofString key))
      ⟨place, owner⟩ :=
    serves.transfer (mem_points_add_iff.mpr last) rfl
      fun one member => exists_point_of_more_peers (fun _ => part.mem) member
  exact owner?_eq_some_iff.mpr ⟨place, stillServes⟩

/-- Peers were put into a list, at any positions.  A key that does not go to one of them
belongs to whom it belonged. -/
theorem owner?_of_more_peers {added : String → Bool}
    (kept : new.filter (fun peer => !added peer) = old)
    (found : ((empty replicas hash).add new).owner? key = some owner)
    (stays : added owner = false) : ((empty replicas hash).add old).owner? key = some owner := by
  subst kept
  apply owner?_of_sublist List.filter_sublist _ found
  rw [List.count_filter]
  rw [stays]
  rfl

/-! ## The same peers in another list -/

/-- The place that serves a key depends on the set of peers alone. -/
theorem servedAt?_of_same_peers (same : ∀ peer, peer ∈ first ↔ peer ∈ second) (key : String) :
    ((empty replicas hash).add first).servedAt? key =
      ((empty replicas hash).add second).servedAt? key := by
  have carried : ∀ {one two : List String}, (∀ peer, peer ∈ one ↔ peer ∈ two) → ∀ {place},
      ((empty replicas hash).add one).servedAt? key = some place →
      ((empty replicas hash).add two).servedAt? key = some place := by
    intro one two same place found
    rw [servedAt?, hash_add, Option.map_eq_some_iff] at found ⊢
    obtain ⟨point, here, rfl⟩ := found
    have serves := serves_of_successor? (ordered_added hash replicas one) here
    obtain ⟨other, member, equal⟩ :=
      exists_point_of_more_peers (fun peer => (same peer).mp) serves.member
    have alsoServes := serves.transfer member equal
      fun point member => exists_point_of_more_peers (fun peer => (same peer).mpr) member
    exact ⟨other, (successor?_eq_some_iff (ordered_added hash replicas two)).mpr alsoServes, equal⟩
  apply Option.ext
  intro place
  exact ⟨carried same, carried fun peer => (same peer).symm⟩

/-- Two lists of the same peers serve every key at the same place, and agree about its owner
exactly when the same peer comes last in both of those with a copy at this place.  In
particular they agree about every key if no two peers share a place. -/
theorem owner?_of_same_peers (hash : RingHash) (replicas : Nat) (first second : List String)
    (same : ∀ peer, peer ∈ first ↔ peer ∈ second) :
    let one := (empty replicas hash).add first
    let two := (empty replicas hash).add second
    (∀ key, one.servedAt? key = two.servedAt? key) ∧
    (∀ key, one.owner? key = two.owner? key ↔
      ∀ place, one.servedAt? key = some place →
        lastAt? hash replicas first place = lastAt? hash replicas second place) ∧
    ((∀ place, ∀ peer ∈ first, ∀ other ∈ first, sitsAt hash replicas place peer = true →
        sitsAt hash replicas place other = true → peer = other) →
      ∀ key, one.owner? key = two.owner? key) := by
  intro one two
  have served : ∀ key, one.servedAt? key = two.servedAt? key := servedAt?_of_same_peers same
  have agree : ∀ key, one.owner? key = two.owner? key ↔
      ∀ place, one.servedAt? key = some place →
        lastAt? hash replicas first place = lastAt? hash replicas second place := by
    intro key
    rw [owner?_added, owner?_added, ← served key]
    cases one.servedAt? key with
    | none => simp
    | some place => simp
  refine ⟨served, agree, ?_⟩
  intro untied key
  rw [agree key]
  intro place _
  cases last : lastAt? hash replicas second place with
  | some peer =>
      obtain ⟨inSecond, here⟩ := mem_of_lastAt? last
      have inFirst := (same peer).mpr inSecond
      obtain ⟨other, isLast⟩ := exists_lastAt?_iff.mpr ⟨peer, inFirst, here⟩
      obtain ⟨otherInFirst, alsoHere⟩ := mem_of_lastAt? isLast
      rw [isLast, untied place other otherInFirst peer inFirst alsoHere here]
  | none =>
      cases isLast : lastAt? hash replicas first place with
      | none => rfl
      | some other =>
          obtain ⟨inFirst, here⟩ := mem_of_lastAt? isLast
          obtain ⟨peer, found⟩ := exists_lastAt?_iff.mpr ⟨other, (same other).mp inFirst, here⟩
          rw [last] at found
          cases found

/-- Two peers without a shared place, named in two orders, one of them twice. -/
theorem untied_rings_agree :
    let one := (empty 1 RingHash.byteSum).add ["a", "c"]
    let two := (empty 1 RingHash.byteSum).add ["c", "a", "c"]
    (∀ peer, peer ∈ ["a", "c"] ↔ peer ∈ ["c", "a", "c"]) ∧
      (∀ key, one.servedAt? key = two.servedAt? key) ∧ ∀ key, one.owner? key = two.owner? key := by
  have same : ∀ peer, peer ∈ ["a", "c"] ↔ peer ∈ ["c", "a", "c"] := by
    intro peer
    simp only [List.mem_cons, List.not_mem_nil, or_false]
    grind
  obtain ⟨served, -, agree⟩ :=
    owner?_of_same_peers RingHash.byteSum 1 ["a", "c"] ["c", "a", "c"] same
  refine ⟨same, served, agree ?_⟩
  have placeA : placeOf RingHash.byteSum "a" 0 = 145 := by decide +kernel
  have placeC : placeOf RingHash.byteSum "c" 0 = 147 := by decide +kernel
  have places : ∀ place, ∀ peer ∈ ["a", "c"], sitsAt RingHash.byteSum 1 place peer = true →
      peer = "a" ∧ place = 145 ∨ peer = "c" ∧ place = 147 := by
    intro place peer member here
    simp only [List.mem_cons, List.not_mem_nil, or_false] at member
    rcases member with rfl | rfl
    · exact Or.inl ⟨rfl, by simpa [sitsAt, List.range_succ, placeA, eq_comm] using here⟩
    · exact Or.inr ⟨rfl, by simpa [sitsAt, List.range_succ, placeC, eq_comm] using here⟩
  intro place peer inFirst other alsoInFirst here alsoHere
  rcases places place peer inFirst here with ⟨rfl, at_⟩ | ⟨rfl, at_⟩
  · rcases places place other alsoInFirst alsoHere with ⟨rfl, -⟩ | ⟨-, alsoAt⟩
    · rfl
    · exact absurd (at_.symm.trans alsoAt) (by decide)
  · rcases places place other alsoInFirst alsoHere with ⟨-, alsoAt⟩ | ⟨rfl, -⟩
    · exact absurd (at_.symm.trans alsoAt) (by decide)
    · rfl

/-- Two peers of a cluster with the usual settings share a place, and a key is served there:
each order of the two names gives the key to another one. -/
theorem default_rings_disagree :
    let here := "http://10.0.22.9:8000"
    let there := "http://10.0.61.20:8000"
    (∀ peer, peer ∈ [here, there] ↔ peer ∈ [there, here]) ∧
      ((empty defaultReplicas RingHash.crc32).add [here, there]).owner? "9" = some there ∧
      ((empty defaultReplicas RingHash.crc32).add [there, here]).owner? "9" = some here := by
  refine ⟨fun peer => ?_, ?_, ?_⟩
  · simp [or_comm]
  · decide +kernel
  · decide +kernel

end Ring

end PeerCache
