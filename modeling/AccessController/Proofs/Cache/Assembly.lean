import AccessController.Cache.Lines
import Mathlib.Algebra.Group.Nat.Defs

/-!
# How a configuration line is assembled

Merging a unit rotates the line by the size of the unit and sets the bits of the
unit below.  Over a whole block the rotation comes round to where it began, so
the line ends with the bits of the units and with all bits that it had before
(`foldl_mergeChunk`).
-/

namespace AccessController

theorem Bits.wordMask_eq {width : Nat} (word : width ≤ 64) : wordMask width = lowMask width := by
  have whole : min (width % 0x100000000) 64 = width := by omega
  rw [wordMask, whole]

namespace Bytes

theorem value_lt (bytes : Bytes) : bytes.value < 2 ^ (8 * bytes.length) := by
  induction bytes with
  | nil => exact Nat.one_pos
  | cons byte rest ih =>
    have byte_lt := byte.toNat_lt
    rw [value, List.length_cons, Nat.mul_succ, Nat.pow_add]
    omega

end Bytes

namespace Lines

variable (width : Nat)

theorem testBit_rotateLeft (chunk value index : Nat) :
    (rotateLeft width chunk value).testBit index =
      ((decide (index < width) && (decide (chunk ≤ index) && value.testBit (index - chunk))) ||
        value.testBit (width - chunk + index)) := by
  rw [rotateLeft, Bits.and_lowMask, Nat.one_shiftLeft, Nat.testBit_or, Nat.testBit_mod_two_pow,
    Nat.testBit_shiftLeft, Nat.testBit_shiftRight]

theorem rotateLeft_or (chunk left right : Nat) :
    rotateLeft width chunk (left ||| right) =
      rotateLeft width chunk left ||| rotateLeft width chunk right := by
  apply Nat.eq_of_testBit_eq
  intro index
  simp only [testBit_rotateLeft, Nat.testBit_or]
  grind

variable {width}

/-- Rotating twice rotates by the sum. -/
theorem rotateLeft_rotateLeft {first second value : Nat} (room : first + second ≤ width)
    (narrow : value < 2 ^ width) :
    rotateLeft width second (rotateLeft width first value) =
      rotateLeft width (first + second) value := by
  have high (index : Nat) (beyond : width ≤ index) : value.testBit index = false :=
    Nat.testBit_lt_two_pow (Nat.lt_of_lt_of_le narrow (Nat.pow_le_pow_right Nat.two_pos beyond))
  apply Nat.eq_of_testBit_eq
  intro index
  rw [testBit_rotateLeft, testBit_rotateLeft, testBit_rotateLeft, testBit_rotateLeft]
  have twice : value.testBit (width - first + (width - second + index)) = false :=
    high _ (by omega)
  rw [twice, Bool.or_false]
  by_cases inside : index < width
  · by_cases shifted : second ≤ index
    · have low : index - second - first = index - (first + second) := by omega
      have wrapped : width - first + (index - second) = width - (first + second) + index := by
        omega
      have past : ¬width - second + index < width := by omega
      rw [low, wrapped]
      grind
    · have wrapped : width - second + index - first = width - (first + second) + index := by omega
      rw [wrapped]
      grind
  · have past : ¬width - second + index < width := by omega
    have above : value.testBit (width - (first + second) + index) = false := high _ (by omega)
    rw [above]
    grind

theorem rotateLeft_zero {value : Nat} (narrow : value < 2 ^ width) :
    rotateLeft width 0 value = value := by
  rw [rotateLeft, Bits.and_lowMask, Nat.one_shiftLeft, Nat.shiftLeft_zero, Nat.sub_zero,
    Nat.shiftRight_eq_div_pow, Nat.div_eq_of_lt narrow, Nat.mod_eq_of_lt narrow, Nat.or_zero]

theorem rotateLeft_self (value : Nat) : rotateLeft width width value = value := by
  apply Nat.eq_of_testBit_eq
  intro index
  rw [testBit_rotateLeft, Nat.sub_self, Nat.zero_add]
  grind

/-- Bits that stay below the end of the line are only shifted. -/
theorem rotateLeft_of_low {chunk used value : Nat} (low : value < 2 ^ used)
    (room : used + chunk ≤ width) : rotateLeft width chunk value = value <<< chunk := by
  have high (index : Nat) (beyond : used ≤ index) : value.testBit index = false :=
    Nat.testBit_lt_two_pow (Nat.lt_of_lt_of_le low (Nat.pow_le_pow_right Nat.two_pos beyond))
  apply Nat.eq_of_testBit_eq
  intro index
  have wrapped : value.testBit (width - chunk + index) = false := high _ (by omega)
  rw [testBit_rotateLeft, wrapped, Nat.testBit_shiftLeft]
  by_cases shifted : chunk ≤ index
  · by_cases inside : index < width
    · simp [inside, shifted]
    · simp [inside, high (index - chunk) (by omega)]
  · simp [shifted]

/-- The number whose digits are the units, the first one highest. -/
def assemble (chunk : Nat) (units : List Bytes) : Nat :=
  units.foldl (fun number unit => number * 2 ^ chunk + unit.value) 0

/-- A unit of whole bytes that fits a word is merged as a whole. -/
theorem mergeChunk_eq {chunk : Nat} {unit : Bytes} (whole : 8 * unit.length = chunk)
    (word : chunk ≤ 64) (value : Nat) :
    mergeChunk width chunk unit value = rotateLeft width chunk value ||| unit.value := by
  have value_lt : unit.value < 2 ^ chunk := whole ▸ unit.value_lt
  have below : unit.value < 2 ^ 64 :=
    Nat.lt_of_lt_of_le value_lt (Nat.pow_le_pow_right Nat.two_pos word)
  rw [mergeChunk, Bytes.word, Bits.wordMask_eq word, Bits.and_lowMask, Nat.one_shiftLeft,
    UInt64.toNat_ofNat', Nat.mod_eq_of_lt below, Nat.mod_eq_of_lt value_lt]

/-- Merging further units into a line in which `done` of them have been merged. -/
theorem foldl_mergeChunk_from {chunk value : Nat} (word : chunk ≤ 64) (narrow : value < 2 ^ width)
    {units : List Bytes} (whole : ∀ unit ∈ units, 8 * unit.length = chunk) {done number : Nat}
    (room : (done + units.length) * chunk ≤ width) (low : number < 2 ^ (done * chunk)) :
    units.foldl (fun line unit => mergeChunk width chunk unit line)
        (rotateLeft width (done * chunk) value ||| number) =
      rotateLeft width ((done + units.length) * chunk) value |||
        units.foldl (fun number unit => number * 2 ^ chunk + unit.value) number := by
  induction units generalizing done number with
  | nil => rfl
  | cons unit rest ih =>
    have fits := whole unit (List.mem_cons_self ..)
    have digit : unit.value < 2 ^ chunk := fits ▸ unit.value_lt
    have more : done + (unit :: rest).length = done + 1 + rest.length := by
      rw [List.length_cons]
      omega
    rw [more] at room ⊢
    have next : (done + 1) * chunk ≤ width :=
      Nat.le_trans (Nat.mul_le_mul_right chunk (Nat.le_add_right ..)) room
    have grown : number * 2 ^ chunk + unit.value < 2 ^ ((done + 1) * chunk) :=
      calc
        number * 2 ^ chunk + unit.value < (number + 1) * 2 ^ chunk := by
          rw [Nat.succ_mul]
          exact Nat.add_lt_add_left digit _
        _ ≤ 2 ^ (done * chunk) * 2 ^ chunk := Nat.mul_le_mul_right _ low
        _ = 2 ^ ((done + 1) * chunk) := by rw [← Nat.pow_add, Nat.succ_mul]
    rw [Nat.succ_mul] at next
    rw [List.foldl_cons, List.foldl_cons, ← ih (fun unit member => whole unit
      (List.mem_cons_of_mem _ member)) room grown, mergeChunk_eq fits word, rotateLeft_or,
      rotateLeft_rotateLeft next narrow, rotateLeft_of_low low next, ← Nat.succ_mul,
      Nat.or_assoc, ← Nat.shiftLeft_add_eq_or_of_lt digit, Nat.shiftLeft_eq]

/-- Merging a whole line of units keeps every bit that the line had before. -/
theorem foldl_mergeChunk {chunk value : Nat} (word : chunk ≤ 64) (narrow : value < 2 ^ width)
    {units : List Bytes} (whole : ∀ unit ∈ units, 8 * unit.length = chunk)
    (block : units.length * chunk = width) :
    units.foldl (fun line unit => mergeChunk width chunk unit line) value =
      value ||| assemble chunk units := by
  have merged := foldl_mergeChunk_from word narrow whole
    (Nat.le_of_eq (by rw [Nat.zero_add, block])) (Nat.two_pow_pos (0 * chunk))
  rwa [Nat.zero_mul, Nat.zero_add, block, rotateLeft_self, rotateLeft_zero narrow,
    Nat.or_zero] at merged

end Lines

end AccessController
