/-
Module: PeerCache.Proofs.Peer.Hops
Purpose: What a value is after it was sent from peer to peer, once or more often.
Main exports:
  Expiration.carried_carried, Expiration.carried_eq_self_iff, Expiration.toNanos_ofNanos,
  View.hop_normalizes
-/
import PeerCache.Proofs.Peer.ClockTime

/-!
A value that is received from a peer has an expiration that a word can name, or none.  So it goes
on to the next peer as it is, however often it is sent: one hop brings it into this form
(`Expiration.carried`), and further hops do nothing.

Of two expirations after the epoch, the one that was not later before the hop is not later after it.
-/

namespace PeerCache

namespace Expiration

variable {expire : Option Instant} {early late : Instant}

/-- What is left of an expiration after the epoch. -/
theorem carried_some (after : Instant.epoch < late) :
    carried (some late) = some ⟨min late.nanos lastNanos⟩ := by
  have kept : ¬ late ≤ Instant.epoch := Int.not_le.mpr after
  rw [carried, Option.bind_some, if_neg kept]

/-- An expiration arrives as it was sent just if a word can name it. -/
theorem carried_eq_self_iff :
    carried expire = expire ↔ ∀ instant, expire = some instant →
      Instant.epoch < instant ∧ instant.nanos ≤ lastNanos := by
  cases expire with
  | none => simp [carried]
  | some instant =>
      obtain ⟨nanos⟩ := instant
      by_cases lost : (⟨nanos⟩ : Instant) ≤ Instant.epoch
      · have notAfter : ¬ Instant.epoch < ⟨nanos⟩ := Int.not_lt.mpr lost
        simp [carried, lost, notAfter]
      · have after : Instant.epoch < ⟨nanos⟩ := Int.not_le.mp lost
        simp only [carried_some after, Option.some.injEq, Instant.mk.injEq, forall_eq', after,
          true_and]
        omega

/-- What is left after one hop is left after two. -/
theorem carried_carried (expire : Option Instant) : carried (carried expire) = carried expire := by
  rw [carried_eq_self_iff]
  intro instant left
  cases expire with
  | none => cases left
  | some sent =>
      by_cases lost : sent ≤ Instant.epoch
      · rw [carried, Option.bind_some, if_pos lost] at left
        cases left
      · have after : Instant.epoch < sent := Int.not_le.mp lost
        rw [carried_some after] at left
        cases left
        have positive : 0 < lastNanos := by decide
        exact ⟨Int.lt_min.mpr ⟨after, positive⟩, Int.min_le_right _ _⟩

/-- The order of expirations after the epoch stays, though they may become equal. -/
theorem carried_mono (after : Instant.epoch < early) (ordered : early ≤ late) :
    ∃ one two, carried (some early) = some one ∧ carried (some late) = some two ∧ one ≤ two := by
  have afterToo : Instant.epoch < late := Int.lt_of_lt_of_le after ordered
  refine ⟨_, _, carried_some after, carried_some afterToo, ?_⟩
  change min early.nanos lastNanos ≤ min late.nanos lastNanos
  have inOrder : early.nanos ≤ late.nanos := ordered
  omega

/-- A word that is read and written again is the same, or zero if it was negative. -/
theorem toNanos_ofNanos (word : Int64) : toNanos (ofNanos word) = max word 0 := by
  have larger : max word 0 = if word ≤ 0 then 0 else word := rfl
  rw [larger, ofNanos]
  split
  case isTrue => rfl
  case isFalse positive =>
      rw [Int64.le_iff_toInt_le, Int64.toInt_zero] at positive
      have bound := word.toInt_lt
      rw [← Int64.toInt_inj, toInt_toNanos_some, lastNanos]
      dsimp only
      omega

end Expiration

namespace View

/-- Only the expiration of a view changes when it is received. -/
theorem carried_eq_self_iff (view : View) :
    (⟨view.value, Expiration.carried view.expire⟩ : View) = view ↔
      Expiration.carried view.expire = view.expire := by
  obtain ⟨value, expire⟩ := view
  simp

/-- A view whose value fits is received with its value.  It is received as it was sent just if it
never expires or its expiration is after the epoch and no more than `2 ^ 63 - 1` nanoseconds after
it; and what was received is received as it is, when it is sent on.

Of two views with expirations after the epoch, the one that does not expire later than the other is
received as one that does not.

A word of an expiration that is read and written again is the same, or zero if it was negative; and
when a clock's time is written, or a word is read as one, no word of the machine overflows. -/
theorem hop_normalizes :
    (∀ view : View, view.toResponse.Fits →
      ∃ once, view.received? = some once ∧ once.value = view.value ∧
        (once = view ↔ ∀ expire, view.expire = some expire →
          Instant.epoch < expire ∧ expire.nanos ≤ Int64.maxValue.toInt) ∧
        once.received? = some once) ∧
    (∀ (first second : View) (early late : Instant),
      first.toResponse.Fits → second.toResponse.Fits →
      first.expire = some early → second.expire = some late →
      Instant.epoch < early → Instant.epoch < late → early ≤ late →
      ∃ one two early' late', first.received? = some one ∧ second.received? = some two ∧
        one.expire = some early' ∧ two.expire = some late' ∧ early' ≤ late') ∧
    (∀ word : Int64, Expiration.toNanos (Expiration.ofNanos word) = max word 0) ∧
    (∀ expire : Option ClockTime, ClockTime.toWord? expire =
      some (Expiration.toNanos (expire.map ClockTime.instant))) ∧
    (∀ word : Int64, (ClockTime.ofWord? word).map (Option.map ClockTime.instant) =
      some (Expiration.ofNanos word)) := by
  refine ⟨?_, ?_, Expiration.toNanos_ofNanos, ClockTime.toWord?_eq, ClockTime.map_ofWord?⟩
  · intro view fits
    refine ⟨_, received?_eq_some fits, rfl, ?_, ?_⟩
    · have last : Int64.maxValue.toInt = Expiration.lastNanos := by decide
      rw [carried_eq_self_iff, Expiration.carried_eq_self_iff, last]
    · have fitsAgain : (toResponse ⟨view.value, Expiration.carried view.expire⟩).Fits := fits
      rw [received?_eq_some fitsAgain, Expiration.carried_carried]
  · intro first second early late fits fitsToo expires expiresToo after _ ordered
    obtain ⟨one, two, left, leftToo, stays⟩ := Expiration.carried_mono after ordered
    exact ⟨_, _, one, two, received?_eq_some fits, received?_eq_some fitsToo,
      expires ▸ left, expiresToo ▸ leftToo, stays⟩

/-- A time that is 9999999999 seconds after the epoch is too late for a word.  A view with it is
received with the last time that a word names, and goes on with that; a view that expires a second
after the epoch is received as one that does not expire later.  The word -1 is zero when it is
written again.  A clock that holds the late time writes the last word, and the word of a thousand
million nanoseconds is read as the time of one second. -/
theorem hop_of_far_expiration :
    let near : View := ⟨[119], some (.ofParts 1 0)⟩
    let far : View := ⟨[118], some (.ofParts 9999999999 0)⟩
    (∃ once, far.received? = some once ∧ once.value = [118] ∧ once ≠ far ∧
      once.received? = some once) ∧
    (∃ one two early late, near.received? = some one ∧ far.received? = some two ∧
      one.expire = some early ∧ two.expire = some late ∧ early ≤ late) ∧
    Expiration.toNanos (Expiration.ofNanos (-1)) = 0 ∧
    ClockTime.toWord? (some ⟨9999999999, 0, by decide⟩) = some Int64.maxValue ∧
    (ClockTime.ofWord? 1000000000).map (Option.map ClockTime.instant) =
      some (some (.ofParts 1 0)) := by
  intro near far
  have nearFits : near.toResponse.Fits := by
    unfold Response.Fits
    decide
  have fits : far.toResponse.Fits := by
    unfold Response.Fits
    decide
  obtain ⟨single, ordered, word, written, read⟩ := hop_normalizes
  obtain ⟨once, received, value, same_iff, again⟩ := single far fits
  refine ⟨⟨once, received, value, fun same => ?_, again⟩, ?_, ?_, ?_, ?_⟩
  · obtain ⟨-, nearby⟩ := same_iff.mp same _ rfl
    exact absurd nearby (by decide)
  · exact ordered near far _ _ nearFits fits rfl rfl (by decide) (by decide) (by decide)
  · exact (word (-1)).trans (by decide)
  · exact (written _).trans (by decide)
  · exact (read _).trans (by decide)

end View

end PeerCache
