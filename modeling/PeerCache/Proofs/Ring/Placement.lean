/-
Module: PeerCache.Proofs.Ring.Placement
Purpose: Who sits where on a ring to which peers were added, and which point serves a place.
Main exports:
  Ring.sitsAt, Ring.lastAt?, Ring.Ordered, Ring.mem_points_add_iff, Ring.Serves,
  Ring.successor?_eq_some_iff, Ring.Serves.transfer
-/
import PeerCache.Ring

/-!
Two facts say all about a ring that its users rely on.

* A peer sits at a place exactly when it is the last of the added ones that has a copy
  there (`mem_points_add_iff`).  So the places that are taken do not depend on the order in
  which peers are added; who holds a place that several peers want does.
* The point that serves a place is the nearest one at or after it, or the first of all
  when none is left (`successor?_eq_some_iff`).  This says nothing of lists, so what one
  ring answers can be carried over to another (`Serves.transfer`).
-/

namespace PeerCache

namespace Ring

/-- Some copy of the peer has its place here. -/
def sitsAt (hash : RingHash) (replicas : Nat) (place : UInt32) (peer : String) : Bool :=
  (List.range replicas).any fun index => placeOf hash peer index = place

/-- The last of the peers that have a copy at the place. -/
def lastAt? (hash : RingHash) (replicas : Nat) (peers : List String) (place : UInt32) :
    Option String :=
  (peers.filter (sitsAt hash replicas place)).getLast?

/-- The places of the points increase. -/
def Ordered (points : List RingPoint) : Prop :=
  points.Pairwise fun earlier later => earlier.place < later.place

/-! ## Putting points on a ring -/

section Points

variable {points : List RingPoint} {point other : RingPoint}

/-- No two points share a place. -/
theorem Ordered.eq_of_place (ordered : Ordered points) (one : point ∈ points)
    (two : other ∈ points) (same : point.place = other.place) : point = other := by
  have unique : points.Pairwise fun one two => one.place = two.place → one = two := by
    apply ordered.imp
    intro one two before same
    exact absurd before (same ▸ UInt32.lt_irrefl _)
  have flipped : points.Pairwise (flip fun one two => one.place = two.place → one = two) :=
    unique.imp fun once same => (once same.symm).symm
  exact unique.forall_of_forall_of_flip (fun _ _ _ => rfl) flipped one two same

/-- A new point takes its place from whatever point was there. -/
theorem mem_insertPoint_iff (ordered : Ordered points) :
    other ∈ insertPoint point points ↔
      other = point ∨ other ∈ points ∧ other.place ≠ point.place := by
  induction points with
  | nil => simp [insertPoint]
  | cons head rest hyp =>
      obtain ⟨after, ordered⟩ := List.pairwise_cons.mp ordered
      unfold insertPoint
      split
      case isTrue before =>
          have ahead : ∀ old ∈ head :: rest, old.place ≠ point.place := by
            intro old member same
            rcases List.mem_cons.mp member with rfl | later
            · exact UInt32.lt_irrefl _ (same ▸ before)
            · exact UInt32.lt_irrefl _ (same ▸ UInt32.lt_trans before (after old later))
          rw [List.mem_cons]
          exact or_congr_right ⟨fun member => ⟨member, ahead other member⟩, And.left⟩
      case isFalse notBefore =>
          split
          case isTrue here =>
              have kept : ∀ old ∈ rest, old.place ≠ point.place := by
                intro old later same
                exact UInt32.lt_irrefl _ (here ▸ same ▸ after old later)
              rw [List.mem_cons, List.mem_cons]
              apply or_congr_right
              constructor
              · intro later
                exact ⟨Or.inr later, kept other later⟩
              · rintro ⟨rfl | later, apart⟩
                · exact absurd here.symm apart
                · exact later
          case isFalse elsewhere =>
              rw [List.mem_cons, hyp ordered, List.mem_cons]
              constructor
              · rintro (rfl | rfl | ⟨later, apart⟩)
                · exact Or.inr ⟨Or.inl rfl, Ne.symm elsewhere⟩
                · exact Or.inl rfl
                · exact Or.inr ⟨Or.inr later, apart⟩
              · rintro (rfl | ⟨rfl | later, apart⟩)
                · exact Or.inr (Or.inl rfl)
                · exact Or.inl rfl
                · exact Or.inr (Or.inr ⟨later, apart⟩)

theorem Ordered.insertPoint (ordered : Ordered points) (point : RingPoint) :
    Ordered (insertPoint point points) := by
  induction points with
  | nil => exact List.pairwise_singleton _ _
  | cons head rest hyp =>
      obtain ⟨after, rest_ordered⟩ := List.pairwise_cons.mp ordered
      unfold Ring.insertPoint
      split
      case isTrue before =>
          refine List.pairwise_cons.mpr ⟨?_, ordered⟩
          intro old member
          rcases List.mem_cons.mp member with rfl | later
          · exact before
          · exact UInt32.lt_trans before (after old later)
      case isFalse notBefore =>
          split
          case isTrue here =>
              refine List.pairwise_cons.mpr ⟨?_, rest_ordered⟩
              intro old later
              exact here ▸ after old later
          case isFalse elsewhere =>
              refine List.pairwise_cons.mpr ⟨?_, hyp rest_ordered⟩
              intro old member
              rcases (mem_insertPoint_iff rest_ordered).mp member with rfl | ⟨later, -⟩
              · exact UInt32.lt_of_le_of_ne (UInt32.not_lt.mp notBefore) (Ne.symm elsewhere)
              · exact after old later

end Points

/-! ## Adding peers -/

/-- The ring's settings stay. -/
@[simp] theorem replicas_addPeer (ring : Ring) (peer : String) :
    (ring.addPeer peer).replicas = ring.replicas := rfl

@[simp] theorem hash_addPeer (ring : Ring) (peer : String) :
    (ring.addPeer peer).hash = ring.hash := rfl

@[simp] theorem hash_add (ring : Ring) (peers : List String) :
    (ring.add peers).hash = ring.hash := by
  induction peers generalizing ring with
  | nil => rfl
  | cons peer rest hyp => exact hyp (ring.addPeer peer)

section Adding

variable {ring : Ring} {point : RingPoint} {peer : String}

private theorem place_copies (hash : RingHash) (peer : String) (indices : List Nat)
    {points : List RingPoint} (ordered : Ordered points) :
    let copies := (indices.map fun index => RingPoint.mk (placeOf hash peer index) peer).foldl
      (fun points point => insertPoint point points) points
    Ordered copies ∧ ∀ point, (point ∈ copies ↔
      if indices.any fun index => placeOf hash peer index = point.place then point.peer = peer
      else point ∈ points) := by
  induction indices generalizing points with
  | nil => exact ⟨ordered, by simp⟩
  | cons index rest hyp =>
      have placed := hyp (ordered.insertPoint ⟨placeOf hash peer index, peer⟩)
      refine ⟨placed.1, fun point => (placed.2 point).trans ?_⟩
      rw [mem_insertPoint_iff ordered, List.any_cons]
      obtain ⟨place, name⟩ := point
      by_cases later : (rest.any fun index => placeOf hash peer index = place) = true
      · simp [later]
      · by_cases here : placeOf hash peer index = place
        · simp [later, here]
        · simp [later, here, Ne.symm here]

theorem Ordered.addPeer (ordered : Ordered ring.points) (peer : String) :
    Ordered (ring.addPeer peer).points :=
  (place_copies ring.hash peer (List.range ring.replicas) ordered).1

/-- A peer takes all places of its copies, and leaves the others as they are. -/
theorem mem_addPeer_iff (ordered : Ordered ring.points) :
    point ∈ (ring.addPeer peer).points ↔
      if sitsAt ring.hash ring.replicas point.place peer then point.peer = peer
      else point ∈ ring.points :=
  (place_copies ring.hash peer (List.range ring.replicas) ordered).2 point

theorem Ordered.add (ordered : Ordered ring.points) (peers : List String) :
    Ordered (ring.add peers).points := by
  induction peers generalizing ring with
  | nil => exact ordered
  | cons peer rest hyp => exact hyp (ordered.addPeer peer)

theorem lastAt?_cons (hash : RingHash) (replicas : Nat) (peer : String) (rest : List String)
    (place : UInt32) :
    lastAt? hash replicas (peer :: rest) place =
      (lastAt? hash replicas rest place).or
        (if sitsAt hash replicas place peer then some peer else none) := by
  unfold lastAt?
  rw [List.filter_cons]
  split
  case isTrue here =>
      rw [List.getLast?_cons]
      cases (rest.filter (sitsAt hash replicas place)).getLast? with
      | none => rfl
      | some last => rfl
  case isFalse elsewhere => rw [Option.or_none]

/-- A place belongs to the last of the added peers with a copy there; where none has one,
it stays as it was. -/
theorem mem_add_iff (ordered : Ordered ring.points) (peers : List String) :
    point ∈ (ring.add peers).points ↔
      lastAt? ring.hash ring.replicas peers point.place = some point.peer ∨
        lastAt? ring.hash ring.replicas peers point.place = none ∧ point ∈ ring.points := by
  induction peers generalizing ring with
  | nil => simp [add, lastAt?]
  | cons peer rest hyp =>
      have placed := (hyp (ordered.addPeer peer)).trans
        (or_congr_right (and_congr_right fun _ => mem_addPeer_iff ordered))
      refine placed.trans ?_
      rw [lastAt?_cons, replicas_addPeer, hash_addPeer]
      cases lastAt? ring.hash ring.replicas rest point.place with
      | some last => simp
      | none =>
          by_cases here : sitsAt ring.hash ring.replicas point.place peer = true
          · simp [here, eq_comm]
          · simp [here]

end Adding

section Added

variable {hash : RingHash} {replicas : Nat} {peers : List String}

theorem ordered_added (hash : RingHash) (replicas : Nat) (peers : List String) :
    Ordered ((empty replicas hash).add peers).points := by
  have nobody : Ordered (empty replicas hash).points := List.Pairwise.nil
  exact nobody.add peers

/-- On a ring made from a list, a peer sits at a place exactly when it is the last of the
list that has a copy there. -/
theorem mem_points_add_iff {point : RingPoint} :
    point ∈ ((empty replicas hash).add peers).points ↔
      lastAt? hash replicas peers point.place = some point.peer := by
  have nobody : Ordered (empty replicas hash).points := List.Pairwise.nil
  rw [mem_add_iff nobody peers]
  simp [empty]

theorem mem_of_lastAt? {place : UInt32} {peer : String}
    (last : lastAt? hash replicas peers place = some peer) :
    peer ∈ peers ∧ sitsAt hash replicas place peer = true :=
  List.mem_filter.mp (List.mem_of_getLast? last)

/-- A place is taken as soon as some peer has a copy there. -/
theorem exists_lastAt?_iff {place : UInt32} :
    (∃ peer, lastAt? hash replicas peers place = some peer) ↔
      ∃ peer ∈ peers, sitsAt hash replicas place peer = true := by
  constructor
  · rintro ⟨peer, last⟩
    exact ⟨peer, mem_of_lastAt? last⟩
  · rintro ⟨peer, member, here⟩
    cases last : lastAt? hash replicas peers place with
    | some other => exact ⟨other, rfl⟩
    | none =>
        have nobody := List.filter_eq_nil_iff.mp (List.getLast?_eq_none_iff.mp last)
        exact absurd here (nobody peer member)

/-- Whoever has a point is one of the peers. -/
theorem peer_mem_of_mem_points {point : RingPoint}
    (member : point ∈ ((empty replicas hash).add peers).points) : point.peer ∈ peers :=
  (mem_of_lastAt? (mem_points_add_iff.mp member)).1

end Added

/-! ## The point that serves a place -/

/-- The point is the nearest at or after the place; or all points are before the place, and
it is the first of them. -/
inductive Serves (points : List RingPoint) (place : UInt32) (point : RingPoint) : Prop where
  | ahead (member : point ∈ points) (le : place ≤ point.place)
      (nearest : ∀ other ∈ points, place ≤ other.place → point.place ≤ other.place)
  | around (member : point ∈ points) (past : ∀ other ∈ points, other.place < place)
      (first : ∀ other ∈ points, point.place ≤ other.place)

section Serving

variable {points others : List RingPoint} {place : UInt32} {point other : RingPoint}

theorem Serves.member (serves : Serves points place point) : point ∈ points := by
  cases serves with
  | ahead member => exact member
  | around member => exact member

/-- What serves a place on one ring serves it on another one too that has a point in the same
place, and no points but in places of the first ring. -/
theorem Serves.transfer (serves : Serves points place point) (member : other ∈ others)
    (same : other.place = point.place)
    (places : ∀ one ∈ others, ∃ two ∈ points, two.place = one.place) :
    Serves others place other := by
  cases serves with
  | ahead _ le nearest =>
      refine .ahead member (same ▸ le) ?_
      intro one inOthers after
      obtain ⟨two, inPoints, equal⟩ := places one inOthers
      rw [same, ← equal]
      exact nearest two inPoints (equal ▸ after)
  | around _ past first =>
      refine .around member ?_ ?_
      · intro one inOthers
        obtain ⟨two, inPoints, equal⟩ := places one inOthers
        exact equal ▸ past two inPoints
      · intro one inOthers
        obtain ⟨two, inPoints, equal⟩ := places one inOthers
        rw [same, ← equal]
        exact first two inPoints

theorem Serves.place_unique (one : Serves points place point) (two : Serves points place other) :
    point.place = other.place := by
  cases one with
  | ahead mem le nearest =>
      cases two with
      | ahead mem' le' nearest' =>
          exact UInt32.le_antisymm (nearest other mem' le') (nearest' point mem le)
      | around mem' past first =>
          exact absurd le (UInt32.not_le.mpr (past point mem))
  | around mem past first =>
      cases two with
      | ahead mem' le' nearest' =>
          exact absurd le' (UInt32.not_le.mpr (past other mem'))
      | around mem' past' first' =>
          exact UInt32.le_antisymm (first other mem') (first' point mem)

theorem serves_of_successor? (ordered : Ordered points)
    (found : successor? points place = some point) : Serves points place point := by
  unfold successor? at found
  rcases Option.or_eq_some_iff.mp found with ahead | ⟨none_ahead, head⟩
  · obtain ⟨le, before, after, rfl, behind⟩ := List.find?_eq_some_iff_append.mp ahead
    refine .ahead (List.mem_append_right _ (List.mem_cons_self ..)) (by simpa using le) ?_
    intro other member reached
    rcases List.mem_append.mp member with early | here
    · have notReached := behind other early
      simp [reached] at notReached
    · rcases List.mem_cons.mp here with rfl | later
      · exact UInt32.le_refl _
      · have increasing := (List.pairwise_append.mp ordered).2.1
        exact UInt32.le_of_lt ((List.pairwise_cons.mp increasing).1 other later)
  · obtain ⟨rest, rfl⟩ := List.head?_eq_some_iff.mp head
    refine .around (List.mem_cons_self ..) ?_ ?_
    · intro other member
      have notReached := List.find?_eq_none.mp none_ahead other member
      exact UInt32.not_le.mp (by simpa using notReached)
    · intro other member
      rcases List.mem_cons.mp member with rfl | later
      · exact UInt32.le_refl _
      · exact UInt32.le_of_lt ((List.pairwise_cons.mp ordered).1 other later)

theorem successor?_eq_none_iff : successor? points place = none ↔ points = [] := by
  unfold successor?
  rw [Option.or_eq_none_iff, List.head?_eq_none_iff]
  constructor
  · exact And.right
  · rintro rfl
    exact ⟨rfl, rfl⟩

/-- The search for a point finds the one that serves the place. -/
theorem successor?_eq_some_iff (ordered : Ordered points) :
    successor? points place = some point ↔ Serves points place point := by
  constructor
  · exact serves_of_successor? ordered
  · intro serves
    cases found : successor? points place with
    | none =>
        rw [successor?_eq_none_iff] at found
        have member := serves.member
        rw [found] at member
        cases member
    | some other =>
        have also := serves_of_successor? ordered found
        rw [ordered.eq_of_place also.member serves.member (also.place_unique serves)]

end Serving

end Ring

end PeerCache
