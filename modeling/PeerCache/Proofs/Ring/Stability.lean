/-
Module: PeerCache.Proofs.Ring.Stability
Purpose: Which keys move when peers come or go.
Main exports:
  Ring.only_changed_peers_move_keys
-/
import PeerCache.Proofs.Ring.Ownership

/-!
When peers go, the keys that move are those that they owned; when peers come, a key that moves goes
to one of them.  The two are one statement, about a list and a longer list that has further entries
anywhere: a key that does not belong to one of the further entries on the longer list belongs to
the same peer on both.

Where places are shared, a peer that comes may take a place from another one, and gives it back
when it goes.  So the points of the two rings differ in peers as well as in places, but not at the
place that serves such a key.
-/

namespace PeerCache

namespace Ring

/-- Peers without entries among those that were left out keep all of theirs. -/
theorem count_eq_of_perm {fewer more others : List String} {owner : String}
    (parts : more.Perm (fewer ++ others)) (other : owner ∉ others) :
    more.count owner = fewer.count owner := by
  rw [parts.count_eq, List.count_append, List.count_eq_zero_of_not_mem other, Nat.add_zero]

/-- For every hash function and every number of copies:

When the peers of any set are taken off a list, every key that belonged to another peer stays with
it.

And when a list is part of another one, which has further entries at any positions, then a key
either belongs to the same peer on both, or on the longer list to a peer of these entries: peers
that come take keys only for themselves, and peers that go give away only their own. -/
theorem only_changed_peers_move_keys (hash : RingHash) (replicas : Nat) (key : String) :
    (∀ (peers : List String) (gone : String → Bool) (owner : String),
      ((empty replicas hash).add peers).owner? key = some owner → gone owner = false →
      ((empty replicas hash).add (peers.filter fun peer => !gone peer)).owner? key = some owner) ∧
    (∀ fewer more others : List String, fewer.Sublist more → more.Perm (fewer ++ others) →
      ((empty replicas hash).add fewer).owner? key = ((empty replicas hash).add more).owner? key ∨
      ∃ owner ∈ others, ((empty replicas hash).add more).owner? key = some owner) := by
  constructor
  · intro peers gone owner found stays
    exact owner?_of_more_peers rfl found stays
  · intro fewer more others part parts
    cases found : ((empty replicas hash).add more).owner? key with
    | none =>
        -- nobody at all owns the key on the longer list, so the shorter one has no points either
        left
        rw [owner?_eq_none_iff, List.eq_nil_iff_forall_not_mem] at found ⊢
        intro point member
        obtain ⟨other, there, -⟩ := exists_point_of_more_peers (fun _ => part.mem) member
        exact found other there
    | some owner =>
        by_cases among : owner ∈ others
        · exact Or.inr ⟨owner, among, rfl⟩
        · exact Or.inl (owner?_of_sublist part (count_eq_of_perm parts among) found)

/-- Two peers share their only place, under a hash that is always 7.  The later one owns every key.
It keeps them when the other one goes; and it is the only one to gain any when it comes back after
the other. -/
theorem later_peer_moves_keys_of_shared_place :
    (((empty 3 .constantSeven).add ["a", "b"]).owner? "k" = some "b" ∧
      ((empty 3 .constantSeven).add ["b"]).owner? "k" = some "b") ∧
    (((empty 3 .constantSeven).add ["a"]).owner? "k" = some "a" ∧
      ∃ owner ∈ ["b"], ((empty 3 .constantSeven).add ["a", "b"]).owner? "k" = some owner) := by
  obtain ⟨leaving, coming⟩ := only_changed_peers_move_keys .constantSeven 3 "k"
  have both : ((empty 3 .constantSeven).add ["a", "b"]).owner? "k" = some "b" := by decide +kernel
  have alone : ((empty 3 .constantSeven).add ["a"]).owner? "k" = some "a" := by decide +kernel
  refine ⟨⟨both, leaving ["a", "b"] (· == "a") "b" both (by decide)⟩, alone, ?_⟩
  rcases coming ["a"] ["a", "b"] ["b"] (by decide) (List.Perm.refl _) with same | moved
  · rw [alone, both] at same
    exact absurd same (by decide)
  · exact moved

end Ring

end PeerCache
