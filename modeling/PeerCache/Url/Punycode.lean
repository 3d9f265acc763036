/-
Module: PeerCache.Url.Punycode
Purpose: Labels of a domain name that hold more than ASCII, written in ASCII.
Main exports:
  Punycode.encode, Punycode.decode?
-/

/-!
The ASCII characters of a label are written first.  The others follow in increasing
order of their code points, each as the distance from the previous insertion, in a
variable-length number of base thirty-six whose digit thresholds adapt to the distances
seen so far.

To read a label back, the last hyphen parts the ASCII characters from the digits; the
digits are read one by one, and each distance that is complete inserts a character.
-/

namespace PeerCache.Punycode

def base : Nat := 36
def minThreshold : Nat := 1
def maxThreshold : Nat := 26
def skew : Nat := 38
def firstDamping : Nat := 700
def initialBias : Nat := 72
def initialCode : Nat := 128

/-- A digit below thirty-six: the letters, then the decimal digits. -/
def digit (value : Nat) : Char :=
  if value < 26 then Char.ofNat (0x61 + value) else Char.ofNat (0x16 + value)

/-- The threshold of the digit with weight index `position`. -/
def threshold (bias position : Nat) : Nat :=
  if position ≤ bias + minThreshold then minThreshold
  else if bias + maxThreshold ≤ position then maxThreshold
  else position - bias

theorem threshold_pos (bias position : Nat) : 1 ≤ threshold bias position := by
  unfold threshold minThreshold maxThreshold
  split
  · omega
  · split <;> omega

/-- A distance as digits, beginning at a weight index. -/
def distance (bias position value : Nat) : List Char :=
  if _small : value < threshold bias position then [digit value]
  else
    digit (threshold bias position +
        (value - threshold bias position) % (base - threshold bias position)) ::
      distance bias (position + base)
        ((value - threshold bias position) / (base - threshold bias position))
termination_by value
decreasing_by
  have positive := threshold_pos bias position
  calc (value - threshold bias position) / (base - threshold bias position)
      ≤ value - threshold bias position := Nat.div_le_self _ _
    _ < value := by omega

/-- Divides until the distance is small, counting base steps. -/
def settle (delta steps : Nat) : Nat :=
  if _large : ((base - minThreshold) * maxThreshold) / 2 < delta then
    settle (delta / (base - minThreshold)) (steps + base)
  else steps + (base - minThreshold + 1) * delta / (delta + skew)
termination_by delta
decreasing_by
  unfold base minThreshold maxThreshold at *
  omega

/-- The bias after a distance was written. -/
def adapt (delta written : Nat) (first : Bool) : Nat :=
  let damped := if first then delta / firstDamping else delta / 2
  settle (damped + damped / written) 0

/-- What has been written, and the state of the distances. -/
structure State where
  output : List Char
  delta : Nat
  bias : Nat
  written : Nat

/-- Passes one character of the label while the characters with code `code` are written. -/
def pass (plain code : Nat) (state : State) (character : Char) : State :=
  if character.toNat < code then { state with delta := state.delta + 1 }
  else if character.toNat = code then
    { output := state.output ++ distance state.bias base state.delta
      delta := 0
      bias := adapt state.delta (state.written + 1) (state.written = plain)
      written := state.written + 1 }
  else state

/-- Writes the characters beyond ASCII for the given codes, smallest first. -/
def passes (label : List Char) (plain : Nat) : List Nat → Nat → State → State
  | [], _, state => state
  | code :: codes, next, state =>
      let entered := { state with delta := state.delta + (code - next) * (state.written + 1) }
      let left := label.foldl (pass plain code) entered
      passes label plain codes (code + 1) { left with delta := left.delta + 1 }

/-- A label in ASCII. -/
def encode (label : List Char) : List Char :=
  let plain := label.filter fun character => character.toNat < initialCode
  let codes := ((label.map Char.toNat).filter fun code => initialCode ≤ code).mergeSort.eraseDups
  let start : State :=
    ⟨if plain.isEmpty then [] else plain ++ ['-'], 0, initialBias, plain.length⟩
  (passes label plain.length codes initialCode start).output

/-! ## Reading -/

/-- The value of a digit. -/
def digitValue? (character : Char) : Option Nat :=
  if 'a' ≤ character ∧ character ≤ 'z' then some (character.toNat - 0x61)
  else if character.isDigit then some (character.toNat - 0x16)
  else none

/-- What has been read, and the distance that is being read. -/
structure Reading where
  output : List Char
  /-- The code of the character that was inserted last. -/
  code : Nat
  /-- Where the search for the next insertion began. -/
  start : Nat
  /-- The start and the digits of the distance so far. -/
  sum : Nat
  bias : Nat
  /-- The weight index of the next digit. -/
  position : Nat
  /-- What the next digit is multiplied with. -/
  weight : Nat

/-- Inserts the character that a complete distance leads to. -/
def insert? (reading : Reading) : Option Reading :=
  let count := reading.output.length + 1
  let code := reading.code + reading.sum / count
  let index := reading.sum % count
  if code.isValidChar then
    some
      { output := reading.output.take index ++ Char.ofNat code :: reading.output.drop index
        code
        start := index + 1
        sum := index + 1
        bias := adapt (reading.sum - reading.start) count (reading.start = 0)
        position := base
        weight := 1 }
  else none

/-- Reads one digit. -/
def readDigit (reading : Reading) (character : Char) : Option Reading := do
  let value ← digitValue? character
  let limit := threshold reading.bias reading.position
  let added := { reading with sum := reading.sum + value * reading.weight }
  if value < limit then insert? added
  else
    pure
      { added with
        position := reading.position + base
        weight := reading.weight * (base - limit) }

/-- The ASCII characters of an encoded label and its digits. -/
def splitDigits (encoded : List Char) : List Char × List Char :=
  let digits := (encoded.reverse.takeWhile (· ≠ '-')).reverse
  let plain := encoded.take (encoded.length - digits.length - 1)
  if plain.isEmpty then ([], encoded) else (plain, digits)

/-- The label that an encoded label stands for. -/
def decode? (encoded : List Char) : Option (List Char) := do
  let (plain, digits) := splitDigits encoded
  let reading ← digits.foldlM readDigit ⟨plain, initialCode, 0, 0, initialBias, base, 1⟩
  if reading.position = base then some reading.output else none

/-- A known label. -/
example : String.ofList (encode "bücher".toList) = "bcher-kva" := by decide +kernel

/-- The same label, read back. -/
example : (decode? "bcher-kva".toList).map String.ofList = some "bücher" := by decide +kernel

end PeerCache.Punycode
