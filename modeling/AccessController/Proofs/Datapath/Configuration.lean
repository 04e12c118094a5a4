import AccessController.Proofs.Cache.Representation
import AccessController.Proofs.Datapath.ConfigLine

/-!
# Every configuration can be loaded

A line that is no whole number of units takes one unit more than it has room for, so loading it
shifts in more bits than it is wide.  The surplus are zeros that stand in front of the
configuration: at any time the line holds the units that have come in as a number that has still
room for those to come, and nothing is ever rotated past its end
(`Idle.configuration_loaded`).
-/

namespace AccessController

namespace Lines

/-- Merging the next unit of a number behind the ones in front of it. -/
theorem mergeChunk_unit {width chunk step value count : Nat} (whole : 8 * step = chunk)
    (word : chunk ≤ 64) (fits : chunk ≤ width) (narrow : value < 2 ^ width) :
    mergeChunk width chunk (Bytes.ofValue step (value / 2 ^ (count * chunk)))
        (value / 2 ^ ((count + 1) * chunk)) =
      value / 2 ^ (count * chunk) := by
  have low : value / 2 ^ ((count + 1) * chunk) < 2 ^ (width - chunk) := by
    apply Nat.div_lt_of_lt_mul
    refine Nat.lt_of_lt_of_le narrow ?_
    rw [← Nat.pow_add, Nat.succ_mul]
    exact Nat.pow_le_pow_right Nat.two_pos (by omega)
  have split : value / 2 ^ ((count + 1) * chunk) = value / 2 ^ (count * chunk) / 2 ^ chunk := by
    rw [Nat.div_div_eq_div_mul, ← Nat.pow_add, Nat.succ_mul]
  rw [mergeChunk_eq (by rw [Bytes.length_ofValue, whole]) word, Bytes.value_ofValue, whole,
    Nat.one_shiftLeft, rotateLeft_of_low low (Nat.le_of_eq (Nat.sub_add_cancel fits)),
    ← Nat.shiftLeft_add_eq_or_of_lt (Nat.mod_lt _ (Nat.two_pow_pos chunk)), split, Nat.shiftLeft_eq,
    Nat.div_add_mod']

/-- Merging the units of a number one after the other makes the number. -/
theorem foldl_mergeChunk_units {width chunk step value : Nat} (whole : 8 * step = chunk)
    (word : chunk ≤ 64) (fits : chunk ≤ width) (narrow : value < 2 ^ width) {memory : Memory}
    {address count : Nat}
    (stored : ∀ index < count, memory.readBytes (address + index * step) step =
      Bytes.ofValue step (value / 2 ^ ((count - 1 - index) * chunk))) :
    (memory.units address step count).foldl (fun merged unit => mergeChunk width chunk unit merged)
        (value / 2 ^ (count * chunk)) =
      value := by
  induction count generalizing address with
  | zero => rw [Nat.zero_mul, Nat.pow_zero, Nat.div_one]; rfl
  | succ count ih =>
    have first := stored 0 (Nat.zero_lt_succ count)
    rw [Nat.zero_mul, Nat.add_zero, Nat.add_sub_cancel, Nat.sub_zero] at first
    rw [Memory.units_succ, List.foldl_cons, first, mergeChunk_unit whole word fits narrow]
    refine ih fun index inside => ?_
    have next := stored (index + 1) (Nat.succ_lt_succ inside)
    have weight : count + 1 - 1 - (index + 1) = count - 1 - index := by omega
    rwa [Nat.succ_mul, Nat.add_comm (index * step), ← Nat.add_assoc, weight] at next

end Lines

namespace Datapath

/-- The inputs ask for a load of a whole configuration line that is there and that the array does
not see, and memory has the units of a number from the address on, the most significant one first
and each with its lowest byte first. -/
structure LoadsConfiguration (datapath : Datapath) (inputs : DatapathInputs) (kind : CacheKind)
    (value : Nat) : Prop where
  config : kind.isConfig
  selector : inputs.selector = kind.selector
  whole : inputs.place = TransferRequest.wholeLinePlace
  inRange : (inputs.selectIn.get kind).toNat < (datapath.engine.features.get kind).lineCount
  hidden : (inputs.selectIn.get kind).toNat ≠ (datapath.caches.get kind).outputLine
  narrow : value < 2 ^ (datapath.engine.features.get kind).widthBits
  stored : ∀ index ≤ (datapath.engine.features.get kind).blockTransferCount,
    datapath.engine.memory.read
        (inputs.address.toNat + index * (datapath.engine.features.get kind).stepBytes)
        (datapath.engine.features.get kind).stepBytes =
      .ok (Bytes.ofValue (datapath.engine.features.get kind).stepBytes
        (value / 2 ^ (((datapath.engine.features.get kind).blockTransferCount - index) *
          (datapath.engine.features.get kind).granularityBits)))

variable {datapath : Datapath} {inputs : DatapathInputs} {kind : CacheKind} {value : Nat}

namespace LoadsConfiguration

variable (loads : datapath.LoadsConfiguration inputs kind value)

include loads

theorem lineBits_eq : (datapath.engine.features.get kind).lineBits =
    (datapath.engine.features.get kind).widthBits := by
  apply Geometry.lineBits_of_isConfig
  simpa [Geometry.isConfig] using loads.config

theorem unitCount_eq : inputs.request.unitCount (datapath.engine.features.get kind) =
    (datapath.engine.features.get kind).blockTransferCount + 1 := by
  have whole : inputs.request.isWholeLine := by
    rw [TransferRequest.isWholeLine, DatapathInputs.request, loads.whole]
    rfl
  rw [TransferRequest.unitCount, if_pos whole]

theorem stored_units {index : Nat}
    (inside : index < (datapath.engine.features.get kind).blockTransferCount + 1) :
    inputs.address.toNat + index * (datapath.engine.features.get kind).stepBytes +
        (datapath.engine.features.get kind).stepBytes ≤ datapath.engine.memory.size ∧
      datapath.engine.memory.readBytes
          (inputs.address.toNat + index * (datapath.engine.features.get kind).stepBytes)
          (datapath.engine.features.get kind).stepBytes =
        Bytes.ofValue (datapath.engine.features.get kind).stepBytes
          (value / 2 ^ (((datapath.engine.features.get kind).blockTransferCount - index) *
            (datapath.engine.features.get kind).granularityBits)) := by
  have stored := loads.stored index (Nat.le_of_lt_succ inside)
  rw [Memory.read_eq] at stored
  split at stored
  next room => exact ⟨room, Except.ok.inj stored⟩
  next => cases stored

theorem room : inputs.request.address.toNat +
    inputs.request.unitCount (datapath.engine.features.get kind) *
      (datapath.engine.features.get kind).stepBytes ≤ datapath.engine.memory.size := by
  have last := (loads.stored_units (Nat.lt_succ_self _)).1
  rw [loads.unitCount_eq, Nat.succ_mul, ← Nat.add_assoc]
  exact last

theorem foldl_units :
    (datapath.engine.memory.units inputs.request.address.toNat
        (datapath.engine.features.get kind).stepBytes
        (inputs.request.unitCount (datapath.engine.features.get kind))).foldl
      (fun merged unit =>
        Lines.mergeChunk (datapath.engine.features.get kind).widthBits
          (datapath.engine.features.get kind).granularityBits unit merged)
      0 = value := by
  have sound := datapath.engine.features.sound_get kind
  have covered := sound.lineBits_le
  have fits := sound.granularity_le
  rw [loads.lineBits_eq] at covered fits
  have above : value / 2 ^ (((datapath.engine.features.get kind).blockTransferCount + 1) *
      (datapath.engine.features.get kind).granularityBits) = 0 :=
    Nat.div_eq_of_lt (Nat.lt_of_lt_of_le loads.narrow (Nat.pow_le_pow_right Nat.two_pos covered))
  have merged := Lines.foldl_mergeChunk_units sound.mul_stepBytes sound.granularity_word fits
    loads.narrow (fun index inside => (loads.stored_units inside).2)
  rwa [above, ← loads.unitCount_eq] at merged

end LoadsConfiguration

/-- Whatever the widths of a cache and of its units are, a load of a whole line leaves the number
that memory has in a line that was blank, and no other line changes. -/
theorem Idle.configuration_loaded (idle : datapath.Idle) (quiet : datapath.Quiet inputs.selectOut)
    (loads : datapath.LoadsConfiguration inputs kind value) {values : List Nat}
    (lines : (datapath.caches.get kind).lines = .config values)
    (blank : values[(inputs.selectIn.get kind).toNat]? = some 0) :
    ((datapath.afterStart inputs
        (inputs.request.answerTicks datapath.engine.features)).caches.get kind).lines =
      .config (values.set (inputs.selectIn.get kind).toNat value) := by
  have hidden := loads.hidden
  rw [← get_outputLine_contents] at hidden
  rw [← get_lines_contents] at lines
  have selector : inputs.request.selector = kind.selector := loads.selector
  have merged := Contents.get_lines_transfer_config loads.config selector loads.inRange hidden
    loads.room lines
  rwa [← idle.contents_answered quiet, get_lines_contents, List.modify_eq_set, blank,
    Option.getD_some, memory_contents, loads.foldl_units] at merged

/-- A line of 20 bits takes four bytes, of which the first one is surplus and the second one half
full. -/
theorem configuration_loaded_partial :
    let memory : Memory := ⟨#[0xff, 0x00, 0x0a, 0xbc, 0xde, 0xff]⟩
    let inputs : DatapathInputs := { firstLineLoad with address := 1 }
    ∃ features, FeatureTable.ofList? [16, 2, 32, 16, 2, 32, 3, 2, 20, 4, 2, 32] 8 = .ok features ∧
      let datapath := withConfPe features memory [0, 0x55]
      datapath.Idle ∧ datapath.Quiet inputs.selectOut ∧
        datapath.LoadsConfiguration inputs .confPe 0xabcde ∧
        ((datapath.afterStart inputs 27).caches.get .confPe).lines = .config [0xabcde, 0x55] := by
  intro memory inputs
  obtain ⟨features, built, quiet, loads, ticks⟩ :
      ∃ features, FeatureTable.ofList? [16, 2, 32, 16, 2, 32, 3, 2, 20, 4, 2, 32] 8 = .ok features ∧
        (withConfPe features memory [0, 0x55]).Quiet inputs.selectOut ∧
        (withConfPe features memory [0, 0x55]).LoadsConfiguration inputs .confPe 0xabcde ∧
        inputs.request.answerTicks features = 27 :=
    ⟨_, rfl, fun kind => .inl (by cases kind <;> rfl),
      ⟨rfl, rfl, rfl, by decide, by decide, by decide, fun index inside => by
        replace inside : index ≤ 3 := Nat.le_trans inside (by decide)
        obtain rfl | rfl | rfl | rfl : index = 0 ∨ index = 1 ∨ index = 2 ∨ index = 3 := by omega
        all_goals
          rw [Memory.read_eq, if_pos (by decide)]
          exact congrArg Except.ok (by decide +kernel)⟩, rfl⟩
  have idle := idle_withConfPe features memory [0, 0x55]
  have loaded := idle.configuration_loaded quiet loads rfl rfl
  have same : (withConfPe features memory [0, 0x55]).engine.features = features := rfl
  rw [same, ticks] at loaded
  exact ⟨features, built, idle, quiet, loads, loaded⟩

end Datapath

end AccessController
