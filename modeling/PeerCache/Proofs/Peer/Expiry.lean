/-
Module: PeerCache.Proofs.Peer.Expiry
Purpose: What becomes of an expiration that is sent to a peer and read there.
Main exports:
  Expiration.carried, Expiration.ofNanos_toNanos, View.received?, View.received?_eq_some,
  View.expiry_of_received
-/
import PeerCache.View
import PeerCache.Proofs.Peer.WireFormat

/-!
An expiration is written as a word and read back from it.  What is left of it then is said by one
function, `Expiration.carried`: an expiration after the epoch and within the reach of a word stays
what it is, one past that reach becomes the last that a word can name, and one that is not after
the epoch is lost, since the words for it are those that stand for "never".

So the expiry of a value is seen on the other side as it was sent, for as long as the last word
is not past, unless the expiration is lost and past.
-/

namespace PeerCache

namespace Expiration

/-- What is left of an expiration that was written as a word: nothing of one that is not after the
epoch, and the last instant of all in place of a later one. -/
def carried (expire : Option Instant) : Option Instant :=
  expire.bind fun instant =>
    if instant ≤ Instant.epoch then none else some ⟨min instant.nanos lastNanos⟩

/-- The word of an instant is the instant, clamped to what is neither before the epoch nor past
the last word. -/
theorem toInt_toNanos_some (instant : Instant) :
    (toNanos (some instant)).toInt = max 0 (min instant.nanos lastNanos) := by
  unfold toNanos
  dsimp only
  split
  next before =>
    have clamped : max 0 (min instant.nanos lastNanos) = 0 := by
      rw [lastNanos]
      omega
    rw [clamped, Int64.toInt_zero]
  next reached =>
    rw [Int64.toInt_ofInt_of_le]
    · rw [lastNanos]
      omega
    · rw [lastNanos]
      omega
    · rw [lastNanos]
      omega

/-- What is read from the word of an expiration is what is left of it. -/
theorem ofNanos_toNanos (expire : Option Instant) : ofNanos (toNanos expire) = carried expire := by
  cases expire with
  | none => rfl
  | some instant =>
      have word := toInt_toNanos_some instant
      have positive : toNanos (some instant) ≤ 0 ↔ instant ≤ Instant.epoch := by
        rw [Int64.le_iff_toInt_le, Int64.toInt_zero, word]
        change _ ↔ instant.nanos ≤ 0
        rw [lastNanos]
        omega
      unfold ofNanos carried
      rw [Option.bind_some]
      split
      next lost => rw [if_pos (positive.mp lost)]
      next kept =>
        have after : ¬ instant.nanos ≤ 0 := fun early => kept (positive.mpr early)
        have clamped : max 0 (min instant.nanos lastNanos) = min instant.nanos lastNanos := by
          rw [lastNanos]
          omega
        rw [if_neg (fun early => kept (positive.mpr early)), word, clamped]

/-- Just the expirations that are not after the epoch are lost. -/
theorem carried_eq_none_iff {expire : Option Instant} :
    carried expire = none ↔ ∀ instant, expire = some instant → instant ≤ Instant.epoch := by
  cases expire with
  | none => simp [carried]
  | some instant => simp [carried]

end Expiration

namespace View

/-- The view that a peer makes of the bytes in which a view is sent to it. -/
def received? (view : View) : Option View :=
  (Response.decode? view.toResponse.encode).map ofResponse

/-- A view whose value fits is received, with what is left of its expiration. -/
theorem received?_eq_some {view : View} (fits : view.toResponse.Fits) :
    view.received? = some ⟨view.value, Expiration.carried view.expire⟩ := by
  have read : Response.decode? view.toResponse.encode = some view.toResponse :=
    Response.decode?_eq_some_iff.mpr ⟨fits, [], (List.append_nil _).symm⟩
  have arrived : ofResponse view.toResponse = ⟨view.value, Expiration.carried view.expire⟩ := by
    rw [← Expiration.ofNanos_toNanos]
    rfl
  rw [received?, read, Option.map_some, arrived]

/-- Before the last word is past, an expiration is past just if the earlier of the two is. -/
theorem clamped_le_iff {expire now : Instant} (before : now.nanos < Expiration.lastNanos) :
    (⟨min expire.nanos Expiration.lastNanos⟩ : Instant) ≤ now ↔ expire ≤ now := by
  change min expire.nanos Expiration.lastNanos ≤ now.nanos ↔ expire.nanos ≤ now.nanos
  omega

/-- A view is received with its value, and before the last word is past it counts as expired there
just when it counts as expired where it was sent, unless its expiration is past and not after the
epoch.  It is received as one that never expires just if it never expires or its expiration is
not after the epoch. -/
theorem expiry_of_received {view : View} {now : Instant} (fits : view.toResponse.Fits)
    (before : now.nanos < Expiration.lastNanos) :
    ∃ arrived, view.received? = some arrived ∧ arrived.value = view.value ∧
      (arrived.isExpiredAt now = view.isExpiredAt now ↔
        ∀ expire, view.expire = some expire → Instant.epoch < expire ∨ now < expire) ∧
      (arrived.expire = none ↔
        ∀ expire, view.expire = some expire → expire ≤ Instant.epoch) := by
  refine ⟨_, received?_eq_some fits, rfl, ?_, Expiration.carried_eq_none_iff⟩
  obtain ⟨value, expire⟩ := view
  cases expire with
  | none => simp [Expiration.carried]
  | some expire =>
      by_cases lost : expire ≤ Instant.epoch
      · -- The expiration is lost: here the two differ just when it is past.
        have notAfter : ¬ Instant.epoch < expire := fun after =>
          Int.not_lt.mpr lost after
        have ahead : now < expire ↔ ¬ expire ≤ now := Int.not_le.symm
        simp [Expiration.carried, lost, notAfter, ahead]
      · have after : Instant.epoch < expire := Int.not_le.mp lost
        simp [Expiration.carried, lost, after, clamped_le_iff before]

/-- A view that expires past the last word, as seen one second before its peer takes it to be
expired: neither of the two counts it so. -/
theorem expiry_of_far_expiration :
    (toResponse ⟨[118], some (.ofParts 9999999999 0)⟩).Fits ∧
    (Instant.ofParts 9223372035 0).nanos < Expiration.lastNanos ∧
    ∃ arrived, received? ⟨[118], some (.ofParts 9999999999 0)⟩ = some arrived ∧
      arrived.value = [118] ∧
      (arrived.isExpiredAt (.ofParts 9223372035 0) =
          isExpiredAt ⟨[118], some (.ofParts 9999999999 0)⟩ (.ofParts 9223372035 0) ↔
        ∀ expire, some (.ofParts 9999999999 0) = some expire →
          Instant.epoch < expire ∨ Instant.ofParts 9223372035 0 < expire) ∧
      (arrived.expire = none ↔
        ∀ expire, some (.ofParts 9999999999 0) = some expire → expire ≤ Instant.epoch) := by
  have fits : (toResponse ⟨[118], some (.ofParts 9999999999 0)⟩).Fits := by
    unfold Response.Fits
    decide
  have before : (Instant.ofParts 9223372035 0).nanos < Expiration.lastNanos := by decide
  exact ⟨fits, before, expiry_of_received fits before⟩

/-- A view that expired one second before the epoch is received as one that never expires, and so
does not count as expired at the epoch, where the view that was sent does. -/
theorem early_expiration_is_lost :
    ∃ view arrived : View, view = ⟨[118], some (.ofParts (-1) 0)⟩ ∧ view.toResponse.Fits ∧
      Instant.epoch.nanos < Expiration.lastNanos ∧ view.received? = some arrived ∧
      arrived.expire = none ∧ view.isExpiredAt Instant.epoch = true ∧
      arrived.isExpiredAt Instant.epoch = false := by
  have fits : (toResponse ⟨[118], some (.ofParts (-1) 0)⟩).Fits := by
    unfold Response.Fits
    decide
  exact ⟨_, ⟨[118], none⟩, rfl, fits, by decide, received?_eq_some fits, rfl, by decide, rfl⟩

end View

end PeerCache
