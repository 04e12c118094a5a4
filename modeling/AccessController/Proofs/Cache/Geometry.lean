import AccessController.Cache.Geometry

/-!
# Sound geometries

What follows from the shape of a cache that is sound: nothing divides by zero or falls below zero,
and the number of units of a line, which is rounded, is tied to the number of bits in it
(`units_mul_granularityBits`).
-/

namespace AccessController

namespace Geometry

theorem roundedUp_eq {bits unit : Nat} (positive : 0 < unit) :
    (bits + unit - 1) / unit = if bits % unit = 0 then bits / unit else bits / unit + 1 := by
  have whole := Nat.div_add_mod' bits unit
  have part := Nat.mod_lt bits positive
  split
  next exact =>
    apply Nat.div_eq_of_lt_le
    · omega
    · rw [Nat.succ_mul]
      omega
  next rest =>
    apply Nat.div_eq_of_lt_le
    · rw [Nat.succ_mul]
      omega
    · rw [Nat.succ_mul, Nat.succ_mul]
      omega

/-- A line takes as many units as go into it, or two more if there is a part of a unit left. -/
theorem units_eq {geometry : Geometry} (positive : 0 < geometry.granularityBits)
    (fits : geometry.granularityBits ≤ geometry.lineBits) :
    geometry.blockTransferCount + 1 =
      if geometry.lineBits % geometry.granularityBits = 0 then
        geometry.lineBits / geometry.granularityBits
      else geometry.lineBits / geometry.granularityBits + 2 := by
  have some : 0 < geometry.lineBits / geometry.granularityBits := Nat.div_pos fits positive
  simp only [blockTransferCount, roundedUp_eq positive]
  split
  next => exact Nat.sub_add_cancel some
  next => rfl

namespace Sound

variable {geometry : Geometry} (sound : geometry.Sound)

include sound

theorem mul_stepBytes : 8 * geometry.stepBytes = geometry.granularityBits :=
  Nat.mul_div_cancel' (Nat.dvd_of_mod_eq_zero sound.granularity_bytes)

theorem bootOutputLine_lt : geometry.bootOutputLine < geometry.lineCount := by
  have lines := sound.lineCount_pos
  rw [bootOutputLine]
  omega

/-- A line that is a whole number of units has as many bits as its units. Another line has fewer:
the units cover it and the rest of one more unit. -/
theorem units_mul_granularityBits :
    (geometry.blockTransferCount + 1) * geometry.granularityBits =
      if geometry.lineBits % geometry.granularityBits = 0 then geometry.lineBits
      else geometry.lineBits + 2 * geometry.granularityBits -
        geometry.lineBits % geometry.granularityBits := by
  have whole := Nat.div_add_mod' geometry.lineBits geometry.granularityBits
  rw [units_eq sound.granularityBits_pos sound.granularity_le]
  split
  next exact =>
    rw [exact] at whole
    exact whole
  next =>
    rw [Nat.add_mul]
    omega

theorem lineBits_le :
    geometry.lineBits ≤ (geometry.blockTransferCount + 1) * geometry.granularityBits := by
  have part := Nat.mod_lt geometry.lineBits sound.granularityBits_pos
  rw [sound.units_mul_granularityBits]
  split <;> omega

end Sound

end Geometry

end AccessController
