import AccessController.Proofs.Cache.Representation

/-!
# Streaming into a configuration line

Each datum that is merged rotates a line by one chunk, so behind any number of them the old
line has been rotated by all chunks and each datum by the chunks behind it.  The rotations wrap
as often as the stream is longer than the line, and need not come round at the end of a chunk.
`Lines.foldlM_merge_config` gives the line in closed form.
-/

namespace AccessController

namespace Bytes

theorem value_take (count : Nat) (bytes : Bytes) :
    value (bytes.take count) = bytes.value % 2 ^ (8 * count) := by
  induction count generalizing bytes with
  | zero => simp [value, Nat.mod_one]
  | succ count ih =>
    cases bytes with
    | nil => simp [value]
    | cons byte rest =>
      have more : 2 ^ (8 * (count + 1)) = 256 * 2 ^ (8 * count) := by
        rw [Nat.mul_succ, Nat.pow_add]
        omega
      have byte_lt := byte.toNat_lt
      rw [List.take_succ_cons, value, value, ih, more, Nat.mod_mul, Nat.add_mul_mod_self_left,
        Nat.add_mul_div_left _ _ (by omega), Nat.mod_eq_of_lt byte_lt, Nat.div_eq_of_lt byte_lt,
        Nat.zero_add]

theorem toNat_word (bytes : Bytes) : bytes.word.toNat = value (bytes.take 8) := by
  rw [word, UInt64.toNat_ofNat', value_take]

end Bytes

namespace Lines

/-! ## Rotations -/

/-- A number of some bits rotated to the left, by any amount. -/
def rotated (width value amount : Nat) : Nat :=
  ((BitVec.ofNat width value).rotateLeft amount).toNat

variable {width value : Nat}

theorem rotated_eq (narrow : value < 2 ^ width) (amount : Nat) :
    rotated width value amount = rotateLeft width (amount % width) value := by
  rw [rotated, BitVec.toNat_rotateLeft, BitVec.toNat_ofNat, Nat.mod_eq_of_lt narrow, rotateLeft,
    Bits.and_lowMask, Nat.one_shiftLeft]

theorem rotated_lt (narrow : value < 2 ^ width) (amount : Nat) :
    rotated width value amount < 2 ^ width := by
  rw [rotated_eq narrow]
  exact rotateLeft_lt narrow _

theorem rotated_zero (narrow : value < 2 ^ width) : rotated width value 0 = value := by
  rw [rotated_eq narrow, Nat.zero_mod, rotateLeft_zero narrow]

theorem rotateLeft_eq_rotated (narrow : value < 2 ^ width) {chunk : Nat} (fits : chunk ≤ width) :
    rotateLeft width chunk value = rotated width value chunk := by
  rw [rotated_eq narrow]
  rcases Nat.lt_or_eq_of_le fits with part | rfl
  · rw [Nat.mod_eq_of_lt part]
  · rw [Nat.mod_self, rotateLeft_self, rotateLeft_zero narrow]

theorem rotated_or {other : Nat} (narrow : value < 2 ^ width) (also : other < 2 ^ width)
    (amount : Nat) :
    rotated width (value ||| other) amount =
      rotated width value amount ||| rotated width other amount := by
  rw [rotated_eq (Nat.or_lt_two_pow narrow also), rotated_eq narrow, rotated_eq also, rotateLeft_or]

/-- Two rotations by less than a turn are one, or one and a whole turn. -/
theorem rotateLeft_rotateLeft_of_lt {first second : Nat} (one : first < width)
    (other : second < width) (narrow : value < 2 ^ width) :
    rotateLeft width second (rotateLeft width first value) =
      rotateLeft width ((first + second) % width) value := by
  rcases Nat.lt_or_ge (first + second) width with part | turn
  · rw [rotateLeft_rotateLeft (Nat.le_of_lt part) narrow, Nat.mod_eq_of_lt part]
  · -- the second rotation first comes round and then goes on
    have round : second = width - first + (first + second - width) := by omega
    have room : width - first + (first + second - width) ≤ width := by omega
    rw [Nat.mod_eq_sub_mod turn, Nat.mod_eq_of_lt (by omega), round,
      ← rotateLeft_rotateLeft room (rotateLeft_lt narrow first),
      rotateLeft_rotateLeft (Nat.le_of_eq (Nat.add_sub_of_le (Nat.le_of_lt one))) narrow,
      Nat.add_sub_of_le (Nat.le_of_lt one), rotateLeft_self]
    congr 1
    omega

/-- Rotations add up, however often they wrap. -/
theorem rotated_rotated (narrow : value < 2 ^ width) (first second : Nat) :
    rotated width (rotated width value first) second = rotated width value (first + second) := by
  rcases Nat.eq_zero_or_pos width with rfl | positive
  · exact congrArg BitVec.toNat (BitVec.eq_of_zero_length rfl)
  · rw [rotated_eq (rotated_lt narrow first), rotated_eq narrow, rotated_eq narrow,
      rotateLeft_rotateLeft_of_lt (Nat.mod_lt _ positive) (Nat.mod_lt _ positive) narrow,
      ← Nat.add_mod]

/-! ## Streams -/

/-- A line behind a stream of data: the old line and the data, each rotated by the chunks
behind it. -/
def streamed (width chunk value : Nat) (data : List Bytes) : Nat :=
  rotated width value (data.length * chunk) |||
    (data.mapIdx fun index datum =>
      rotated width (Bytes.value (datum.take 8) % 2 ^ chunk)
        ((data.length - 1 - index) * chunk)).foldr (· ||| ·) 0

variable {chunk : Nat}

/-- What a datum adds to a line. -/
theorem mergeChunk_eq_rotated (narrow : value < 2 ^ width) (word : chunk ≤ 64)
    (fits : chunk ≤ width) (datum : Bytes) :
    mergeChunk width chunk datum value =
      rotated width value chunk ||| Bytes.value (datum.take 8) % 2 ^ chunk := by
  rw [mergeChunk, rotateLeft_eq_rotated narrow fits, Bits.wordMask_eq word, Bits.and_lowMask,
    Nat.one_shiftLeft, Bytes.toNat_word]

theorem chunk_lt (fits : chunk ≤ width) (number : Nat) : number % 2 ^ chunk < 2 ^ width :=
  Nat.lt_of_lt_of_le (Nat.mod_lt _ (Nat.two_pow_pos chunk))
    (Nat.pow_le_pow_right Nat.two_pos fits)

theorem streamed_cons (narrow : value < 2 ^ width) (word : chunk ≤ 64) (fits : chunk ≤ width)
    (datum : Bytes) (data : List Bytes) :
    streamed width chunk value (datum :: data) =
      streamed width chunk (mergeChunk width chunk datum value) data := by
  rw [streamed, streamed, mergeChunk_eq_rotated narrow word fits,
    rotated_or (rotated_lt narrow chunk) (chunk_lt fits _), rotated_rotated narrow,
    List.mapIdx_cons, List.foldr_cons, List.length_cons, Nat.or_assoc]
  simp only [Nat.add_sub_cancel, Nat.sub_zero, Nat.succ_mul, Nat.add_comm chunk, Nat.sub_sub,
    Nat.add_comm 1]

theorem streamed_nil (narrow : value < 2 ^ width) : streamed width chunk value [] = value := by
  simp [streamed, rotated_zero narrow]

/-- Merging a stream of data into a line of a cache, each at a place of its own that does not
matter, never fails. It leaves the streamed line, which fits the width, and no other line
changes. -/
theorem foldlM_merge_config {geometry : Geometry} (word : geometry.granularityBits ≤ 64)
    (fits : geometry.granularityBits ≤ geometry.lineBits) {values : List Nat} {line value : Nat}
    (before : values[line]? = some value) (narrow : value < 2 ^ geometry.lineBits)
    (units : List (Nat × Bytes)) :
    let merged := streamed geometry.lineBits geometry.granularityBits value (units.map Prod.snd)
    units.foldlM (fun lines unit => lines.merge? geometry line unit.1 unit.2)
          (Lines.config values) = .ok (.config (values.set line merged)) ∧
      merged < 2 ^ geometry.lineBits := by
  induction units generalizing values value with
  | nil =>
    obtain ⟨bound, rfl⟩ := List.getElem?_eq_some_iff.1 before
    intro merged
    have stays : merged = values[line] := streamed_nil narrow
    rw [stays, List.set_getElem_self]
    exact ⟨rfl, narrow⟩
  | cons unit rest ih =>
    obtain ⟨place, datum⟩ := unit
    obtain ⟨bound, same⟩ := List.getElem?_eq_some_iff.1 before
    have faultless : (Lines.config values).mergeFault? geometry line place = none := by
      rw [mergeFault?, indexFault?, if_pos bound, if_neg (Nat.not_lt.2 fits)]
      rfl
    have merged : (Lines.config values).merge? geometry line place datum =
        .ok (.config (values.set line
          (mergeChunk geometry.lineBits geometry.granularityBits datum value))) := by
      rw [merge?, faultless, merge, List.modify_eq_set, before]
      rfl
    obtain ⟨streams, fit⟩ := ih (List.getElem?_set_self bound)
      (mergeChunk_lt fits narrow datum)
    rw [List.foldlM_cons, merged, List.map_cons, streamed_cons narrow word fits]
    refine ⟨?_, fit⟩
    rw [List.set_set] at streams
    exact streams

/-- Three chunks of 16 bits pass through a line of 20: a long datum, an empty one and a short
one. -/
theorem foldlM_merge_config_wraps :
    let geometry : Geometry := ⟨some .confCc, 4, 2, 20, 16⟩
    let units : List (Nat × Bytes) :=
      [(0, [0x12, 0x34, 1, 2, 3, 4, 5, 6, 7, 8]), (5, []), (1, [0xff, 0x01])]
    geometry.granularityBits ≤ 64 ∧ geometry.granularityBits ≤ geometry.lineBits ∧
      [7, 0xabcde][1]? = some 0xabcde ∧ 0xabcde < 2 ^ geometry.lineBits ∧
      units.foldlM (fun lines unit => lines.merge? geometry 1 unit.1 unit.2)
          (Lines.config [7, 0xabcde]) = .ok (.config [7, 0xdffff]) := by
  intro geometry units
  have word : geometry.granularityBits ≤ 64 := by decide
  have fits : geometry.granularityBits ≤ geometry.lineBits := by decide
  have before : [7, 0xabcde][1]? = some 0xabcde := rfl
  have narrow : 0xabcde < 2 ^ geometry.lineBits := by decide
  have streams := (foldlM_merge_config word fits before narrow units).1
  have line : streamed geometry.lineBits geometry.granularityBits 0xabcde (units.map Prod.snd) =
      0xdffff := by decide +kernel
  rw [line] at streams
  exact ⟨word, fits, before, narrow, streams⟩

end Lines

end AccessController
