/-
Module: PeerCache.View
Purpose: An immutable cached value with its optional expiration.
Main exports:
  View, View.size, View.isExpiredAt, View.ofResponse
-/
import PeerCache.Response

/-!
A view is what a cache stores and hands out.  It is expired from the very instant of
its expiration on, and a view without one never is.
-/

namespace PeerCache

/-- A cached value and the instant from which it no longer counts. -/
structure View where
  value : Bytes
  expire : Option Instant
deriving Repr, DecidableEq, Inhabited

namespace View

/-- The number of bytes of the value. -/
def size (view : View) : Nat :=
  view.value.length

/-- Whether the view no longer counts at `now`: its expiration is not after `now`. -/
def isExpiredAt (view : View) (now : Instant) : Bool :=
  match view.expire with
  | none => false
  | some expire => decide (expire ≤ now)

/-- The view that a peer's response stands for. -/
def ofResponse (response : Response) : View :=
  ⟨response.value, response.expiresAt⟩

/-- The response in which a view is sent to a peer. -/
def toResponse (view : View) : Response :=
  .ofParts view.value view.expire

@[simp] theorem isExpiredAt_of_expire_none (value : Bytes) (now : Instant) :
    isExpiredAt ⟨value, none⟩ now = false := rfl

@[simp] theorem isExpiredAt_of_expire_some (value : Bytes) (expire now : Instant) :
    isExpiredAt ⟨value, some expire⟩ now = decide (expire ≤ now) := rfl

end View

end PeerCache
