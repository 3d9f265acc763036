/-
Module: PeerCache.Ring
Purpose: Consistent hashing of keys to peers.
Main exports:
  Ring, Ring.empty, Ring.add, Ring.owner?, Ring.fingerprint
-/
import PeerCache.Ring.Hash
import PeerCache.Text.Quoted

/-!
A ring holds points, each a place (a 32-bit word) with the peer that sits there.  Every
peer is placed `replicas` times, at the hash of its index followed by its name.  No two
points share a place: a later peer takes over a place that it shares with an earlier
one.  A key belongs to the peer at the first place at or after the key's own, and past
the last place the ring starts over.

The points are kept in increasing order of their places, so the owner is the first
point that is not before the key, or the first of all.
-/

namespace PeerCache

/-- A place on the ring and the peer that sits there. -/
structure RingPoint where
  place : UInt32
  peer : String
deriving Repr, DecidableEq

/-- A consistent-hash ring. -/
structure Ring where
  replicas : Nat
  hash : RingHash
  points : List RingPoint

namespace Ring

/-- The usual number of places for each peer. -/
def defaultReplicas : Nat := 50

/-- The ring without points. -/
def empty (replicas : Nat) (hash : RingHash) : Ring :=
  ⟨replicas, hash, []⟩

/-- Puts a point among points in increasing order, in place of one at the same place. -/
def insertPoint (point : RingPoint) : List RingPoint → List RingPoint
  | [] => [point]
  | head :: rest =>
      if point.place < head.place then point :: head :: rest
      else if point.place = head.place then point :: rest
      else head :: insertPoint point rest

/-- The place of a peer's copy with the given index. -/
def placeOf (hash : RingHash) (peer : String) (index : Nat) : UInt32 :=
  hash (Bytes.ofString (toString index ++ peer))

/-- The points of one peer, by increasing index. -/
def pointsOf (ring : Ring) (peer : String) : List RingPoint :=
  (List.range ring.replicas).map fun index => ⟨placeOf ring.hash peer index, peer⟩

/-- Places one peer on the ring. -/
def addPeer (ring : Ring) (peer : String) : Ring :=
  { ring with
    points := (ring.pointsOf peer).foldl (fun points point => insertPoint point points)
      ring.points }

/-- Places peers on the ring, one after another. -/
def add (ring : Ring) (peers : List String) : Ring :=
  peers.foldl addPeer ring

/-- Whether nobody sits on the ring. -/
def isEmpty (ring : Ring) : Bool :=
  ring.points.isEmpty

/-- The point that a place belongs to: the first at or after it, or the first of all. -/
def successor? (points : List RingPoint) (place : UInt32) : Option RingPoint :=
  (points.find? fun point => place ≤ point.place).or points.head?

/-- The peer that a key belongs to; none on an empty ring. -/
def owner? (ring : Ring) (key : String) : Option String :=
  (successor? ring.points (ring.hash (Bytes.ofString key))).map RingPoint.peer

/-- The text whose place shows which hash function a ring uses. -/
def fingerprintProbe : String := "ring-fingerprint-probe"

/-- A word as eight hexadecimal digits. -/
def hexWord (word : UInt32) : String :=
  let digits := Text.hexDigits word.toNat
  String.ofList (List.replicate (8 - digits.length) '0' ++ digits)

/-- A short text that two rings share if they place keys alike: the number of places
for each peer, and the place of a fixed probe. -/
def fingerprint (ring : Ring) : String :=
  toString ring.replicas ++ "-" ++ hexWord (ring.hash (Bytes.ofString fingerprintProbe))

end Ring

end PeerCache
