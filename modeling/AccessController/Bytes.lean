/-!
# Bits, bytes and their digits

Words of the machine are cut into fields by inclusive bit ranges, and stored
elements are cut to their width by low masks; inside one transfer unit bytes stand
least significant first. Messages show all of them in base 16.
-/

namespace AccessController

/-!
## Bit slices

Masking is reduction modulo a power of two, which is the form every later
statement uses.
-/

namespace Bits

/-- The number whose `width` lowest bits are set and no other. -/
def lowMask (width : Nat) : Nat := (1 <<< width) - 1

theorem and_lowMask (value width : Nat) :
    value &&& lowMask width = value % (1 <<< width) := by
  rw [lowMask, Nat.one_shiftLeft, Nat.and_two_pow_sub_one_eq_mod]

/-- The mask of a 64-bit word. A width is a number of 32 bits, and widths above
64 cover the whole word. -/
def wordMask (width : Nat) : Nat := lowMask (min (width % 0x100000000) 64)

/-- A bit range that does not lie inside the word it is taken from. -/
structure BadSlice where
  msb : Nat
  lsb : Nat
  deriving Repr, DecidableEq

/-- The report of a bad range. -/
def BadSlice.message (slice : BadSlice) : String :=
  s!"bad slice [{slice.msb}:{slice.lsb}]"

/-- The mask of the lowest `span` bits of a word that is wider than that. -/
def spanMask (width span : Nat) : BitVec width := ((1 : BitVec width) <<< span) - 1

/-- The bits `msb` down to `lsb` of a word, both ends included, moved down to
bit 0. The range has to be in order and inside the word. -/
def slice? {width : Nat} (word : BitVec width) (msb lsb : Nat) :
    Except BadSlice (BitVec width) :=
  if lsb ≤ msb ∧ msb < width then
    let span := msb - lsb + 1
    let shifted := word >>> lsb
    -- the whole word has no mask: the bit above it would stand outside the word
    .ok (if span = width then shifted else shifted &&& spanMask width span)
  else
    .error ⟨msb, lsb⟩

end Bits

/-!
## Little-endian bytes

A list of bytes has a numeric value of any size; a stored element keeps its
lowest 64 bits.
-/

/-- A run of bytes, lowest address first. -/
abbrev Bytes := List UInt8

namespace Bytes

/-- The number written by the bytes, least significant byte first. -/
def value : Bytes → Nat
  | [] => 0
  | byte :: rest => byte.toNat + 256 * value rest

/-- The `count` lowest bytes of a number, least significant first. -/
def ofValue : (count : Nat) → (number : Nat) → Bytes
  | 0, _ => []
  | count + 1, number => UInt8.ofNat number :: ofValue count (number / 256)

/-- The 64-bit word written by the bytes; from the ninth byte on they are lost. -/
def word (bytes : Bytes) : UInt64 := UInt64.ofNat bytes.value

/-- The lowest bytes of a word, at most the eight that it has. -/
def ofWord (word : UInt64) (count : Nat) : Bytes :=
  ofValue (min count 8) word.toNat

@[simp] theorem length_ofValue (count number : Nat) :
    (ofValue count number).length = count := by
  induction count generalizing number with
  | zero => rfl
  | succ count ih => simp [ofValue, ih]

/-- Writing a number and reading it back keeps its lowest `count` bytes. -/
theorem value_ofValue (count number : Nat) :
    (ofValue count number).value = number % (1 <<< (8 * count)) := by
  induction count generalizing number with
  | zero => simp [ofValue, value, Nat.mod_one]
  | succ count ih =>
    have split : 1 <<< (8 * (count + 1)) = 256 * (1 <<< (8 * count)) := by
      simp only [Nat.one_shiftLeft, Nat.mul_add, Nat.pow_add]
      omega
    rw [ofValue, value, ih, split, Nat.mod_mul, UInt8.toNat_ofNat']

end Bytes

/-!
## Hexadecimal text

Numbers are written in base 16 with lower-case digits, either in the fewest
digits or filled with zeros up to a least number of digits.
-/

namespace Hex

/-- The hexadecimal digits of a number, lower case, without leading zeros. -/
def digits (number : Nat) : String :=
  String.ofList (Nat.toDigits 16 number)

/-- The hexadecimal digits, with zeros in front up to `least` digits. -/
def padded (least number : Nat) : String :=
  let text := Nat.toDigits 16 number
  String.ofList (List.replicate (least - text.length) '0' ++ text)

/-- The digits behind `0x`, at least `least` of them. -/
def marked (least number : Nat) : String :=
  "0x" ++ padded least number

/-- Two digits for each byte, one after the other. -/
def ofBytes (bytes : Bytes) : String :=
  String.join (bytes.map fun byte => padded 2 byte.toNat)

/-- A bracketed list of bytes with two digits each. -/
def bytesListing (bytes : Bytes) : String :=
  "[" ++ ", ".intercalate (bytes.map fun byte => padded 2 byte.toNat) ++ "]"

/-- A bracketed list of words in their fewest digits. -/
def wordsListing (words : List UInt64) : String :=
  "[" ++ ", ".intercalate (words.map fun word => digits word.toNat) ++ "]"

end Hex

end AccessController
