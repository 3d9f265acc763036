/-
Module: PeerCache.Response
Purpose: The message in which a node answers a peer's get, and its wire format.
Main exports:
  Response, Response.encode, Response.decode?, Response.expiresAt
-/
import PeerCache.Bytes
import PeerCache.Instant

/-!
A response is a value and the word of its expiration.  On the wire it is

* the value's length, eight bytes, least byte first,
* the value itself,
* the expiration word, eight bytes in two's complement, least byte first.

A reader takes exactly these and leaves whatever follows alone; it fails only where
the bytes end too soon.
-/

namespace PeerCache

/-- A value as one node sends it to another. -/
structure Response where
  value : Bytes
  /-- Nanoseconds since the epoch; a word that is not positive means "never". -/
  expire : Int64
deriving DecidableEq, Inhabited

namespace Response

/-- The response for a value with an optional expiration. -/
def ofParts (value : Bytes) (expire : Option Instant) : Response :=
  ⟨value, Expiration.toNanos expire⟩

/-- The expiration that the response stands for. -/
def expiresAt (response : Response) : Option Instant :=
  Expiration.ofNanos response.expire

/-- The width of a word on the wire. -/
def wordWidth : Nat := 8

/-- The wire form of a response. -/
def encode (response : Response) : Bytes :=
  Bytes.littleEndian wordWidth response.value.length ++
    (response.value ++ Bytes.littleEndian wordWidth response.expire.toUInt64.toNat)

/-- The response at the front of the bytes, and what follows it. -/
def read? (bytes : Bytes) : Option (Response × Bytes) := do
  let (size, afterSize) ← Bytes.splitAt? wordWidth bytes
  let (value, afterValue) ← Bytes.splitAt? (Bytes.ofLittleEndian size) afterSize
  let (word, rest) ← Bytes.splitAt? wordWidth afterValue
  pure (⟨value, (UInt64.ofNat (Bytes.ofLittleEndian word)).toInt64⟩, rest)

/-- The response that the bytes begin with; none if they end too soon. -/
def decode? (bytes : Bytes) : Option Response :=
  (read? bytes).map Prod.fst

/-- What a reader reports when the bytes end too soon. -/
def endOfInputMessage : String := "io error: unexpected end of file"

end Response

end PeerCache
