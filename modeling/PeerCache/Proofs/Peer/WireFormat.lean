/-
Module: PeerCache.Proofs.Peer.WireFormat
Purpose: Which bytes are read as a response, and as which response.
Main exports:
  Response.Fits, Response.declaredSize, Response.read?_eq_some_iff,
  Response.decode?_eq_none_iff, Response.decode?_eq_some_iff_grammar
-/
import Mathlib.Algebra.Group.Nat.Defs
import PeerCache.Peer.Transport

/-!
A response is read back from its wire form whatever follows that (`read?_encode_append`), and
bytes from which a response is read begin with the wire form of this response
(`eq_encode_append_of_read?`).  The two together are the grammar of the format; all else about
reading follows from them without another look at the reader.

The length of a value travels in one word, so a wire form is that of its response only if the
length fits (`Fits`).  A value that is held in the memory of a machine does.
-/

namespace PeerCache

namespace Response

/-- The length of the value can be written in a word. -/
def Fits (response : Response) : Prop :=
  response.value.length < 2 ^ 64

/-- The length of the value that the first word of some bytes declares. -/
def declaredSize (bytes : Bytes) : Nat :=
  Bytes.ofLittleEndian (bytes.take wordWidth)

theorem wordCount_wordWidth : Bytes.wordCount wordWidth = 2 ^ 64 := by decide

/-- A length that fits is read back from its word. -/
theorem ofLittleEndian_size {response : Response} (fits : response.Fits) :
    Bytes.ofLittleEndian (Bytes.littleEndian wordWidth response.value.length) =
      response.value.length := by
  rw [Bytes.ofLittleEndian_littleEndian, wordCount_wordWidth]
  exact Nat.mod_eq_of_lt fits

/-- An expiration is read back from its word. -/
theorem toInt64_ofLittleEndian_littleEndian (expire : Int64) :
    (UInt64.ofNat (Bytes.ofLittleEndian
      (Bytes.littleEndian wordWidth expire.toUInt64.toNat))).toInt64 = expire := by
  rw [Bytes.ofLittleEndian_littleEndian, wordCount_wordWidth]
  simp

/-- The word of an expiration is written back from it. -/
theorem littleEndian_toInt64_ofLittleEndian {word : Bytes} (width : word.length = wordWidth) :
    Bytes.littleEndian wordWidth
      (UInt64.ofNat (Bytes.ofLittleEndian word)).toInt64.toUInt64.toNat = word := by
  have bound := Bytes.ofLittleEndian_lt word
  rw [width, wordCount_wordWidth] at bound
  rw [UInt64.toUInt64_toInt64, UInt64.toNat_ofNat_of_lt' bound, ← width]
  exact Bytes.littleEndian_ofLittleEndian word

theorem length_encode (response : Response) :
    response.encode.length = wordWidth + response.value.length + wordWidth := by
  simp [encode, Nat.add_assoc]

/-! ## The grammar -/

/-- A response is read back from its wire form, and what follows is left. -/
theorem read?_encode_append {response : Response} (fits : response.Fits) (tail : Bytes) :
    read? (response.encode ++ tail) = some (response, tail) := by
  have size := Bytes.splitAt?_append (Bytes.littleEndian wordWidth response.value.length)
    (response.value ++
      (Bytes.littleEndian wordWidth response.expire.toUInt64.toNat ++ tail))
  have value := Bytes.splitAt?_append response.value
    (Bytes.littleEndian wordWidth response.expire.toUInt64.toNat ++ tail)
  have expire := Bytes.splitAt?_append
    (Bytes.littleEndian wordWidth response.expire.toUInt64.toNat) tail
  rw [Bytes.length_littleEndian] at size expire
  simp only [read?, encode, List.append_assoc, size, Option.bind_eq_bind, Option.bind_some,
    ofLittleEndian_size fits, value, expire, toInt64_ofLittleEndian_littleEndian, Option.pure_def]

/-- Bytes from which a response is read begin with the wire form of this response. -/
theorem eq_encode_append_of_read? {bytes tail : Bytes} {response : Response}
    (found : read? bytes = some (response, tail)) :
    response.Fits ∧ bytes = response.encode ++ tail := by
  simp only [read?, Option.bind_eq_bind, Option.bind_eq_some_iff, Option.pure_def,
    Option.some.injEq, Prod.mk.injEq, Prod.exists] at found
  obtain ⟨size, afterSize, first, value, afterValue, second, word, rest, third, rfl, rfl⟩ := found
  obtain ⟨rfl, sizeWidth⟩ := Bytes.eq_append_of_splitAt? first
  obtain ⟨rfl, valueLength⟩ := Bytes.eq_append_of_splitAt? second
  obtain ⟨rfl, wordLength⟩ := Bytes.eq_append_of_splitAt? third
  have bound := Bytes.ofLittleEndian_lt size
  rw [sizeWidth, wordCount_wordWidth, ← valueLength] at bound
  refine ⟨bound, ?_⟩
  have sizeBack := Bytes.littleEndian_ofLittleEndian size
  rw [sizeWidth, ← valueLength] at sizeBack
  simp only [encode, sizeBack, littleEndian_toInt64_ofLittleEndian wordLength, List.append_assoc]

theorem read?_eq_some_iff {bytes tail : Bytes} {response : Response} :
    read? bytes = some (response, tail) ↔ response.Fits ∧ bytes = response.encode ++ tail := by
  constructor
  · exact eq_encode_append_of_read?
  · rintro ⟨fits, rfl⟩
    exact read?_encode_append fits tail

theorem decode?_eq_some_iff {bytes : Bytes} {response : Response} :
    decode? bytes = some response ↔ response.Fits ∧ ∃ tail, bytes = response.encode ++ tail := by
  simp [decode?, read?_eq_some_iff]

/-! ## Where bytes end too soon -/

/-- Bytes that hold two words and the value that the first of them declares begin with the wire
form of a response. -/
theorem exists_response {bytes : Bytes}
    (enough : wordWidth + declaredSize bytes + wordWidth ≤ bytes.length) :
    ∃ response, decode? bytes = some response := by
  have first : Bytes.splitAt? wordWidth bytes =
      some (bytes.take wordWidth, bytes.drop wordWidth) := by
    rw [Bytes.splitAt?, if_pos (by omega)]
  have second : Bytes.splitAt? (declaredSize bytes) (bytes.drop wordWidth) =
      some ((bytes.drop wordWidth).take (declaredSize bytes),
        (bytes.drop wordWidth).drop (declaredSize bytes)) := by
    rw [Bytes.splitAt?, if_pos (by rw [List.length_drop]; omega)]
  have third : Bytes.splitAt? wordWidth ((bytes.drop wordWidth).drop (declaredSize bytes)) =
      some (((bytes.drop wordWidth).drop (declaredSize bytes)).take wordWidth,
        ((bytes.drop wordWidth).drop (declaredSize bytes)).drop wordWidth) := by
    rw [Bytes.splitAt?, if_pos (by rw [List.length_drop, List.length_drop]; omega)]
  unfold declaredSize at second third
  simp only [decode?, read?, Option.bind_eq_bind, first, Option.bind_some, second, third,
    Option.pure_def, Option.map_some]
  exact ⟨_, rfl⟩

/-- The first word of a wire form declares the length of the value. -/
theorem declaredSize_encode_append {response : Response} (fits : response.Fits) (tail : Bytes) :
    declaredSize (response.encode ++ tail) = response.value.length := by
  have word : (response.encode ++ tail).take wordWidth =
      Bytes.littleEndian wordWidth response.value.length := by
    rw [encode, List.append_assoc]
    exact List.take_left' (Bytes.length_littleEndian _ _)
  rw [declaredSize, word, ofLittleEndian_size fits]

/-- Reading fails just where the bytes end before two words and the declared value. -/
theorem decode?_eq_none_iff {bytes : Bytes} :
    decode? bytes = none ↔ bytes.length < wordWidth + declaredSize bytes + wordWidth := by
  constructor
  · intro failed
    apply Nat.lt_of_not_le
    intro enough
    obtain ⟨response, found⟩ := exists_response enough
    rw [failed] at found
    cases found
  · intro short
    rw [Option.eq_none_iff_forall_ne_some]
    intro response found
    obtain ⟨fits, tail, rfl⟩ := decode?_eq_some_iff.mp found
    rw [declaredSize_encode_append fits, List.length_append, length_encode] at short
    omega

/-- What the bytes hold is the whole of what was received. -/
theorem gather_eq (buffers : BufferPool) (received : Bytes) :
    (Transport.gather buffers received).1 = received := by
  simp [Transport.gather]

/-- Bytes are read as a response just if they begin with the length of its value, the value and
its expiration, and it is this response that is read.  So a response is read back whatever
follows its wire form; what is read, written again, is how the bytes began; no wire form is the
beginning of another; and reading fails just where the bytes end before the declared value and
the word behind it do, which a get from a peer reports as an unexpected end. -/
theorem decode?_eq_some_iff_grammar :
    (∀ bytes value expire, decode? bytes = some ⟨value, expire⟩ ↔
      value.length < 2 ^ 64 ∧ ∃ tail, bytes =
        Bytes.littleEndian 8 value.length ++ value ++
          Bytes.littleEndian 8 expire.toUInt64.toNat ++ tail) ∧
    (∀ (response : Response) (tail : Bytes), response.Fits →
      decode? (response.encode ++ tail) = some response) ∧
    (∀ bytes response, decode? bytes = some response → response.encode <+: bytes) ∧
    (∀ first second : Response, first.Fits → second.Fits → first.encode <+: second.encode →
      first = second) ∧
    (∀ bytes, decode? bytes = none ↔
      bytes.length < 8 ∨ bytes.length - 8 < declaredSize bytes ∨
        bytes.length - 8 - declaredSize bytes < 8) ∧
    (∀ bytes group key address status buffers, decode? bytes = none → status.isSuccess = true →
      (Transport.receiveResponse group key address (.answered status bytes true) buffers).1 =
        .error (.answered group key status (some bytes) .undecodable)) ∧
    RemoteCause.undecodable.message = endOfInputMessage := by
  refine ⟨?_, ?_, ?_, ?_, ?_, ?_, rfl⟩
  · intro bytes value expire
    simp only [decode?_eq_some_iff, encode, List.append_assoc]
    exact Iff.rfl
  · intro response tail fits
    exact decode?_eq_some_iff.mpr ⟨fits, tail, rfl⟩
  · intro bytes response found
    obtain ⟨-, tail, rfl⟩ := decode?_eq_some_iff.mp found
    exact List.prefix_append _ _
  · intro first second firstFits secondFits begins
    obtain ⟨tail, same⟩ := begins
    have one := read?_encode_append firstFits tail
    have two := read?_encode_append secondFits []
    rw [same, ← List.append_nil second.encode, two] at one
    exact (Prod.mk.inj (Option.some.inj one)).1.symm
  · intro bytes
    rw [decode?_eq_none_iff, wordWidth]
    omega
  · intro bytes group key address status buffers failed success
    simp [Transport.receiveResponse, gather_eq, success, failed]

end Response

end PeerCache
