/-
Module: PeerCache.Ring.Hash
Purpose: Functions from byte strings to places on the ring.
Main exports:
  RingHash, RingHash.crc32, RingHash.fnv1a, RingHash.numeral
-/
import PeerCache.Bytes
import PeerCache.Text.Numeral

/-!
A ring places peers and keys by a function from byte strings to 32-bit words.  The
usual one is the cyclic redundancy check CRC-32; a ring may be given any other, and a
few simple ones are here for rings whose places are to be seen at a glance.
-/

namespace PeerCache

/-- A function that gives every byte string its place on the ring. -/
abbrev RingHash := Bytes → UInt32

namespace RingHash

/-- The reversed generator polynomial of CRC-32. -/
def crcPolynomial : UInt32 := 0xEDB88320

/-- One bit of the division by the generator polynomial. -/
def crcBit (remainder : UInt32) : UInt32 :=
  if remainder &&& 1 = 1 then (remainder >>> 1) ^^^ crcPolynomial else remainder >>> 1

/-- Eight bits of the division: one byte is taken into the remainder. -/
def crcByte (remainder : UInt32) (byte : UInt8) : UInt32 :=
  crcBit (crcBit (crcBit (crcBit (crcBit (crcBit (crcBit (crcBit
    (remainder ^^^ byte.toUInt32))))))))

/-- The cyclic redundancy check CRC-32, bits reversed, begun and ended with ones. -/
def crc32 : RingHash := fun bytes =>
  ~~~ (bytes.foldl crcByte 0xFFFFFFFF)

/-- The bitwise complement of CRC-32. -/
def invertedCrc32 : RingHash := fun bytes =>
  ~~~ (crc32 bytes)

/-- The number that the bytes spell in decimal, zero if they spell none below `2^32`. -/
def numeral : RingHash := fun bytes =>
  match (Bytes.toString? bytes).map (Text.readNatural 4294967295) with
  | some (.ok number) => UInt32.ofNat number
  | _ => 0

/-- Seven, whatever the bytes are. -/
def constantSeven : RingHash := fun _ => 7

/-- The number of bytes. -/
def byteCount : RingHash := fun bytes =>
  UInt32.ofNat bytes.length

/-- The sum of the bytes. -/
def byteSum : RingHash := fun bytes =>
  bytes.foldl (fun sum byte => sum + byte.toUInt32) 0

/-- The Fowler-Noll-Vo hash of 32 bits: each byte is taken in, then multiplied. -/
def fnv1a : RingHash := fun bytes =>
  bytes.foldl (fun hash byte => (hash ^^^ byte.toUInt32) * 16777619) 2166136261

/-- The last byte as the top byte of the word, zero for no bytes. -/
def lastByte : RingHash := fun bytes =>
  match bytes.getLast? with
  | none => 0
  | some byte => byte.toUInt32 <<< 24

/-- The check value of the nine digits. -/
example : crc32 [0x31, 0x32, 0x33, 0x34, 0x35, 0x36, 0x37, 0x38, 0x39] = 0xCBF43926 := by
  decide +kernel

end RingHash

end PeerCache
