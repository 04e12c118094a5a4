import AccessController.Instruction
import Mathlib.Algebra.Group.Nat.Defs

/-!
# Packing fields into words

A slice of a word is a quotient of its value, cut to the bits of the range.  The fields of an
instruction are four slices that cover its word, so a word is rebuilt from its fields, and a
field that is too wide for its slot is cut without a trace in the others (`packing_exact`).
-/

namespace AccessController

namespace Bits

variable {width : Nat}

theorem toNat_spanMask {span : Nat} (narrow : span < width) :
    (spanMask width span).toNat = 2 ^ span - 1 := by
  have one : (1 : BitVec width).toNat = 1 := BitVec.toNat_one (Nat.zero_lt_of_lt narrow)
  have shifted : ((1 : BitVec width) <<< span).toNat = 2 ^ span := BitVec.toNat_twoPow_of_lt narrow
  have le : (1 : BitVec width) ≤ (1 : BitVec width) <<< span := by
    rw [BitVec.le_def, one, shifted]
    exact Nat.one_le_two_pow
  rw [spanMask, BitVec.toNat_sub_of_le le, one, shifted]

/-- A slice is there exactly if its range is in order and inside the word, and then it is a
quotient of the word, cut to the bits of the range. -/
theorem map_toNat_slice? (word : BitVec width) (msb lsb : Nat) :
    (slice? word msb lsb).map BitVec.toNat =
      if lsb ≤ msb ∧ msb < width then .ok (word.toNat / 2 ^ lsb % 2 ^ (msb - lsb + 1))
      else .error ⟨msb, lsb⟩ := by
  rw [slice?]
  split
  next inside =>
    have shifted : (word >>> lsb).toNat = word.toNat / 2 ^ lsb := by
      rw [BitVec.toNat_ushiftRight, Nat.shiftRight_eq_div_pow]
    apply congrArg Except.ok
    by_cases whole : msb - lsb + 1 = width
    · -- nothing is masked, and nothing of the word lies beyond the range
      have below : word.toNat / 2 ^ lsb < 2 ^ width :=
        Nat.lt_of_le_of_lt (Nat.div_le_self ..) word.isLt
      rw [if_pos whole, whole, Nat.mod_eq_of_lt below, shifted]
    · have narrow : msb - lsb + 1 < width := by omega
      rw [if_neg whole, BitVec.toNat_and, shifted, toNat_spanMask narrow,
        Nat.and_two_pow_sub_one_eq_mod]
  next => rfl

theorem map_toNat_slice?_extract (word : BitVec width) {start span : Nat}
    (inside : start + (span + 1) ≤ width) :
    (slice? word (start + span) start).map BitVec.toNat =
      .ok (word.extractLsb' start (span + 1)).toNat := by
  rw [map_toNat_slice?, if_pos ⟨by omega, by omega⟩, BitVec.extractLsb'_toNat,
    Nat.shiftRight_eq_div_pow, Nat.add_sub_cancel_left]

end Bits

namespace Instruction

/-- The fields are the four slices of a word. -/
structure Slices (word : Word) (fields : Instruction) : Prop where
  opcode : (Bits.slice? word 5 0).map BitVec.toNat = .ok fields.opcode.toNat
  place : (Bits.slice? word 12 6).map BitVec.toNat = .ok fields.place.toNat
  line : (Bits.slice? word 15 13).map BitVec.toNat = .ok fields.line.toNat
  address : (Bits.slice? word 31 16).map BitVec.toNat = .ok fields.address.toNat

theorem slices_ofWord (word : Word) : Slices word (ofWord word) where
  opcode := Bits.map_toNat_slice?_extract word (by decide : 0 + (5 + 1) ≤ 32)
  place := Bits.map_toNat_slice?_extract word (by decide : 6 + (6 + 1) ≤ 32)
  line := Bits.map_toNat_slice?_extract word (by decide : 13 + (2 + 1) ≤ 32)
  address := Bits.map_toNat_slice?_extract word (by decide : 16 + (15 + 1) ≤ 32)

theorem ofFields_toNat (fields : Instruction) :
    ofFields fields.opcode.toNat fields.line.toNat fields.place.toNat fields.address.toNat =
      fields := by
  simp only [ofFields, BitVec.ofNat_toNat, BitVec.setWidth_eq]

/-- Each field is a number of its own, cut to its slot. -/
structure CutFrom (opcode line place : UInt8) (address : UInt16) (fields : Instruction) :
    Prop where
  opcode : fields.opcode.toNat = opcode.toNat % 64
  line : fields.line.toNat = line.toNat % 8
  place : fields.place.toNat = place.toNat % 128
  address : fields.address.toNat = address.toNat

/-- The laws of slicing words and of packing fields into them. -/
structure PackingLaws : Prop where
  slice : ∀ {width : Nat} (word : BitVec width) (msb lsb : Nat),
    (Bits.slice? word msb lsb).map BitVec.toNat =
      if lsb ≤ msb ∧ msb < width then .ok (word.toNat / 2 ^ lsb % 2 ^ (msb - lsb + 1))
      else .error ⟨msb, lsb⟩
  slices : ∀ word : Word, Slices word (ofWord word)
  toWord : ∀ word : Word, (ofWord word).toWord = word
  /-- The fields of a word pack into that word, also if each one is given as a number. -/
  repack : ∀ word : Word,
    let fields := ofWord word
    (ofFields fields.opcode.toNat fields.line.toNat fields.place.toNat
      fields.address.toNat).toWord = word
  /-- Packed fields are sliced off again. -/
  unpack : ∀ (opcode line place : UInt8) (address : UInt16), CutFrom opcode line place address
    (ofWord (ofFields opcode.toNat line.toNat place.toNat address.toNat).toWord)

/-- Slicing is exact, and packing and slicing are inverse: the slices of a word pack into that
word, and packed fields are sliced off again, each one cut to its own slot and independent of the
others. -/
theorem packing_exact : PackingLaws where
  slice := Bits.map_toNat_slice?
  slices := slices_ofWord
  toWord := toWord_ofWord
  repack word := by
    intro fields
    rw [ofFields_toNat]
    exact toWord_ofWord word
  unpack opcode line place address := by
    rw [ofWord_toWord]
    exact {
      opcode := BitVec.toNat_ofNat ..
      line := BitVec.toNat_ofNat ..
      place := BitVec.toNat_ofNat ..
      address := (BitVec.toNat_ofNat ..).trans (Nat.mod_eq_of_lt address.toNat_lt) }

end Instruction

end AccessController
