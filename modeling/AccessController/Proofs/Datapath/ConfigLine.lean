import AccessController.Proofs.Cache.Assembly
import AccessController.Proofs.Cache.Geometry
import AccessController.Proofs.Datapath.Request

/-!
# Loading a configuration line

A load of a whole configuration line merges the units of memory one by one into
the line.  The bits that the line had before are not cleared on the way: they
come back to their places and stay set, so a line is replaced only if they are
among the bits that memory has (`Idle.configLine_loaded`).
-/

namespace AccessController

/-- Consecutive units of a memory. -/
def Memory.units (memory : Memory) (address step count : Nat) : List Bytes :=
  (List.range count).map fun index => memory.readBytes (address + index * step) step

theorem Memory.units_succ (memory : Memory) (address step count : Nat) :
    memory.units address step (count + 1) =
      memory.readBytes address step :: memory.units (address + step) step count := by
  have shifted (index : Nat) :
      address + (index + 1) * step = address + step + index * step := by
    rw [Nat.succ_mul]
    omega
  simp only [units, List.range_succ_eq_map, List.map_cons, List.map_map, Nat.zero_mul, Nat.add_zero]
  simp only [Function.comp_def, shifted]

theorem Memory.length_of_mem_units (memory : Memory) {address step count : Nat}
    (room : address + count * step ≤ memory.size) {unit : Bytes}
    (member : unit ∈ memory.units address step count) : unit.length = step := by
  simp only [units, List.mem_map, List.mem_range] at member
  obtain ⟨index, bound, rfl⟩ := member
  apply memory.length_readBytes
  have inside : (index + 1) * step ≤ count * step := Nat.mul_le_mul_right step bound
  rw [Nat.succ_mul] at inside
  omega

namespace Contents

/-- Loading units that are all granted and all in memory merges them in order. -/
theorem get_lines_moveUnits_config {geometry : Geometry} {kind : CacheKind}
    (config : geometry.isData = false) (loads : kind ≠ .dataOut) {contents : Contents}
    {line place address count : Nat} (inRange : line < geometry.lineCount)
    (hidden : line ≠ contents.outputLine.get kind)
    (room : address + count * geometry.stepBytes ≤ contents.memory.size) {values : List Nat}
    (lines : contents.lines.get kind = .config values) :
    (contents.moveUnits geometry kind line place address count).lines.get kind =
      .config (values.modify line fun value =>
        (contents.memory.units address geometry.stepBytes count).foldl
          (fun merged unit =>
            Lines.mergeChunk geometry.lineBits geometry.granularityBits unit merged)
          value) := by
  induction count generalizing contents place address values with
  | zero =>
    rw [moveUnits, lines]
    exact congrArg Lines.config (List.modify_id line values).symm
  | succ count ih =>
    rw [Nat.succ_mul] at room
    have grants : contents.Grants geometry kind line place :=
      ⟨inRange, fun data => by simp [config] at data, hidden⟩
    have memory := contents.memory_moveUnit geometry line place address loads
    have moved := contents.get_lines_moveUnit geometry line place address loads kind
    rw [if_pos ⟨rfl, grants, by omega⟩, lines, Lines.merge] at moved
    rw [moveUnits, ih (by rwa [outputLine_moveUnit]) (by rw [memory]; omega) moved, memory,
      List.modify_modify_eq, Memory.units_succ]
    rfl

/-- A request to a cache for configurations merges all of its units into the line. -/
theorem get_lines_transfer_config {contents : Contents} {features : FeatureTable}
    {kind : CacheKind} (config : kind.isConfig) {request : TransferRequest}
    (selector : request.selector = kind.selector) {selectIn : PerCache UInt8}
    (inRange : (selectIn.get kind).toNat < (features.get kind).lineCount)
    (hidden : (selectIn.get kind).toNat ≠ contents.outputLine.get kind)
    (room : request.address.toNat +
      request.unitCount (features.get kind) * (features.get kind).stepBytes ≤ contents.memory.size)
    {values : List Nat} (lines : contents.lines.get kind = .config values) :
    (contents.transfer features selectIn request).lines.get kind =
      .config (values.modify (selectIn.get kind).toNat fun value =>
        (contents.memory.units request.address.toNat (features.get kind).stepBytes
            (request.unitCount (features.get kind))).foldl
          (fun merged unit =>
            Lines.mergeChunk (features.get kind).widthBits (features.get kind).granularityBits unit
              merged)
          value) := by
  have known : CacheKind.ofSelector? request.selector = some kind := by
    rw [selector, CacheKind.ofSelector?_selector]
  have data : (features.get kind).isData = false := by
    simpa [Geometry.isData, CacheKind.isConfig] using config
  have lineBits : (features.get kind).lineBits = (features.get kind).widthBits := by
    simp [Geometry.lineBits, data]
  have loads : kind ≠ .dataOut := by
    rintro rfl
    exact absurd config (by decide)
  rw [transfer_eq _ known, get_lines_moveUnits_config data loads inRange hidden room lines,
    lineBits]

end Contents

theorem TransferRequest.unitCount_of_dvd {geometry : Geometry} (sound : geometry.Sound)
    (multiple : geometry.lineBits % geometry.granularityBits = 0) {request : TransferRequest}
    (whole : request.isWholeLine) :
    request.unitCount geometry = geometry.lineBits / geometry.granularityBits := by
  rw [unitCount, if_pos whole,
    Geometry.units_eq sound.granularityBits_pos sound.granularity_le, if_pos multiple]

namespace Datapath

/-- The inputs ask for a load of a whole configuration line that is a whole
number of units. The line is there, the array does not see it, and memory has
all units. -/
structure LoadsConfigLine (datapath : Datapath) (inputs : DatapathInputs) (kind : CacheKind) :
    Prop where
  config : kind.isConfig
  selector : inputs.selector = kind.selector
  whole : inputs.place = TransferRequest.wholeLinePlace
  multiple : (datapath.engine.features.get kind).widthBits %
    (datapath.engine.features.get kind).granularityBits = 0
  inRange : (inputs.selectIn.get kind).toNat < (datapath.engine.features.get kind).lineCount
  hidden : (inputs.selectIn.get kind).toNat ≠ (datapath.caches.get kind).outputLine
  room : inputs.address.toNat + (datapath.engine.features.get kind).widthBits / 8 ≤
    datapath.engine.memory.size

/-- The units of memory that a load of a whole configuration line takes. -/
def lineUnits (datapath : Datapath) (inputs : DatapathInputs) (kind : CacheKind) : List Bytes :=
  let geometry := datapath.engine.features.get kind
  datapath.engine.memory.units inputs.address.toNat geometry.stepBytes
    (geometry.widthBits / geometry.granularityBits)

/-- The line that these units make. -/
def assembledLine (datapath : Datapath) (inputs : DatapathInputs) (kind : CacheKind) : Nat :=
  Lines.assemble (datapath.engine.features.get kind).granularityBits
    (datapath.lineUnits inputs kind)

variable {datapath : Datapath} {inputs : DatapathInputs} {kind : CacheKind}

namespace LoadsConfigLine

variable (loads : datapath.LoadsConfigLine inputs kind)

include loads

theorem isData_eq : (datapath.engine.features.get kind).isData = false := by
  have config := loads.config
  simpa [Geometry.isData, CacheKind.isConfig] using config

theorem lineBits_eq : (datapath.engine.features.get kind).lineBits =
    (datapath.engine.features.get kind).widthBits := by
  rw [Geometry.lineBits, loads.isData_eq]
  rfl

theorem units_mul_granularityBits :
    (datapath.engine.features.get kind).widthBits /
        (datapath.engine.features.get kind).granularityBits *
      (datapath.engine.features.get kind).granularityBits =
    (datapath.engine.features.get kind).widthBits :=
  Nat.div_mul_cancel (Nat.dvd_of_mod_eq_zero loads.multiple)

theorem room_units :
    inputs.address.toNat + (datapath.engine.features.get kind).widthBits /
        (datapath.engine.features.get kind).granularityBits *
      (datapath.engine.features.get kind).stepBytes ≤ datapath.engine.memory.size := by
  have room := loads.room
  have line : 8 * ((datapath.engine.features.get kind).widthBits /
        (datapath.engine.features.get kind).granularityBits *
      (datapath.engine.features.get kind).stepBytes) =
      (datapath.engine.features.get kind).widthBits := by
    rw [Nat.mul_left_comm, (datapath.engine.features.sound_get kind).mul_stepBytes,
      loads.units_mul_granularityBits]
  omega

theorem lines_transfer {values : List Nat}
    (lines : (datapath.caches.get kind).lines = .config values) :
    (datapath.contents.transfer datapath.engine.features inputs.selectIn
        inputs.request).lines.get kind =
      .config (values.modify (inputs.selectIn.get kind).toNat fun value =>
        (datapath.lineUnits inputs kind).foldl
          (fun merged unit =>
            Lines.mergeChunk (datapath.engine.features.get kind).widthBits
              (datapath.engine.features.get kind).granularityBits unit merged)
          value) := by
  have whole : inputs.request.isWholeLine := by
    rw [TransferRequest.isWholeLine, DatapathInputs.request, loads.whole]
    rfl
  have multiple := loads.multiple
  rw [← loads.lineBits_eq] at multiple
  have count := TransferRequest.unitCount_of_dvd (datapath.engine.features.sound_get kind) multiple
    whole
  rw [loads.lineBits_eq] at count
  have hidden := loads.hidden
  have room := loads.room_units
  rw [← get_outputLine_contents] at hidden
  rw [← get_lines_contents] at lines
  rw [← count] at room
  rw [Contents.get_lines_transfer_config loads.config loads.selector loads.inRange hidden room lines,
    count]
  rfl

/-- What becomes of a line into which the units are merged. -/
theorem foldl_lineUnits {value : Nat}
    (narrow : value < 2 ^ (datapath.engine.features.get kind).widthBits) :
    (datapath.lineUnits inputs kind).foldl
        (fun merged unit =>
          Lines.mergeChunk (datapath.engine.features.get kind).widthBits
            (datapath.engine.features.get kind).granularityBits unit merged)
        value =
      value ||| datapath.assembledLine inputs kind := by
  apply Lines.foldl_mergeChunk (datapath.engine.features.sound_get kind).granularity_word narrow
  · intro unit member
    rw [← (datapath.engine.features.sound_get kind).mul_stepBytes,
      Memory.length_of_mem_units _ loads.room_units member]
  · rw [lineUnits, Memory.units, List.length_map, List.length_range]
    exact loads.units_mul_granularityBits

end LoadsConfigLine

/-- A load of a whole configuration line adds the units of memory to the bits
that the line had. -/
theorem Idle.lines_loaded (idle : datapath.Idle) (quiet : datapath.Quiet inputs.selectOut)
    (loads : datapath.LoadsConfigLine inputs kind) {values : List Nat} {value : Nat}
    (lines : (datapath.caches.get kind).lines = .config values)
    (before : values[(inputs.selectIn.get kind).toNat]? = some value)
    (narrow : value < 2 ^ (datapath.engine.features.get kind).widthBits) :
    ((datapath.afterStart inputs
        (inputs.request.answerTicks datapath.engine.features)).caches.get kind).lines =
      .config (values.set (inputs.selectIn.get kind).toNat
        (value ||| datapath.assembledLine inputs kind)) := by
  have merged := loads.lines_transfer lines
  rwa [← idle.contents_answered quiet, get_lines_contents, List.modify_eq_set, before,
    Option.getD_some, loads.foldl_lineUnits narrow] at merged

/-- So the line is what the units make of it only if it had no bit beside
theirs. -/
theorem Idle.configLine_loaded (idle : datapath.Idle) (quiet : datapath.Quiet inputs.selectOut)
    (loads : datapath.LoadsConfigLine inputs kind) {values : List Nat} {value : Nat}
    (lines : (datapath.caches.get kind).lines = .config values)
    (before : values[(inputs.selectIn.get kind).toNat]? = some value)
    (narrow : value < 2 ^ (datapath.engine.features.get kind).widthBits) :
    let line := (inputs.selectIn.get kind).toNat
    let answered := inputs.request.answerTicks datapath.engine.features
    let loaded := ((datapath.afterStart inputs answered).caches.get kind).lines
    let assembled := datapath.assembledLine inputs kind
    loaded = .config (values.set line (value ||| assembled)) ∧
      (loaded.line? line = some (.config assembled) ↔ value ||| assembled = assembled) := by
  intro line answered loaded assembled
  have merged : loaded = .config (values.set line (value ||| assembled)) :=
    idle.lines_loaded quiet loads lines before narrow
  obtain ⟨bound, -⟩ := List.getElem?_eq_some_iff.1 before
  refine ⟨merged, ?_⟩
  rw [merged, Lines.line?, List.getElem?_set_self bound, Option.map_some]
  simp only [Option.some.injEq, Line.config.injEq]

/-- A datapath after power-up but with other lines in the cache for the
configuration of the processing elements. -/
def withConfPe (features : FeatureTable) (memory : Memory) (values : List Nat) : Datapath where
  engine := { features, memory }
  caches := (features.geometry.map Cache.new).modify .confPe fun cache =>
    { cache with lines := .config values }

theorem idle_withConfPe (features : FeatureTable) (memory : Memory) (values : List Nat) :
    (withConfPe features memory values).Idle where
  geometry kind := by cases kind <;> rfl
  readyWire := rfl
  ready := trivial
  writeEnable kind := by cases kind <;> rfl
  ackWire kind := by cases kind <;> rfl
  ack kind := by cases kind <;> rfl
  phase := rfl
  ready_low := rfl

/-- The inputs for a load of the first configuration line of the processing
elements from the start of memory. -/
def firstLineLoad : DatapathInputs where
  selector := 2
  place := 127
  selectOut := .replicate 1

/-- In a cache of two lines of 48 bits a line with its lowest bit set can be
loaded with zeros. -/
theorem exists_stained :
    ∃ features, FeatureTable.ofList? [16, 2, 32, 16, 2, 32, 6, 2, 48, 4, 2, 32] 8 = .ok features ∧
      (withConfPe features (.zeros 8) [1, 0]).Quiet firstLineLoad.selectOut ∧
      (withConfPe features (.zeros 8) [1, 0]).LoadsConfigLine firstLineLoad .confPe ∧
      1 < 2 ^ (features.get .confPe).widthBits ∧
      firstLineLoad.request.answerTicks features = 39 ∧
      (withConfPe features (.zeros 8) [1, 0]).assembledLine firstLineLoad .confPe = 0 :=
  ⟨_, rfl, fun kind => .inl (by cases kind <;> rfl),
    ⟨rfl, rfl, rfl, rfl, by decide, by decide, by decide⟩, by decide, rfl, by decide +kernel⟩

/-- The line still has the bit after the load. -/
theorem configLine_loaded_zeros :
    ∃ features, FeatureTable.ofList? [16, 2, 32, 16, 2, 32, 6, 2, 48, 4, 2, 32] 8 = .ok features ∧
      let datapath := withConfPe features (.zeros 8) [1, 0]
      datapath.Idle ∧ datapath.Quiet firstLineLoad.selectOut ∧
        datapath.LoadsConfigLine firstLineLoad .confPe ∧
        datapath.assembledLine firstLineLoad .confPe = 0 ∧
        ((datapath.afterStart firstLineLoad 39).caches.get .confPe).lines = .config [1, 0] := by
  obtain ⟨features, built, quiet, loads, narrow, ticks, zeros⟩ := exists_stained
  have idle := idle_withConfPe features (.zeros 8) [1, 0]
  have loaded := (idle.configLine_loaded quiet loads rfl rfl narrow).1
  have same : (withConfPe features (.zeros 8) [1, 0]).engine.features = features := rfl
  rw [zeros, same, ticks] at loaded
  exact ⟨features, built, idle, quiet, loads, zeros, loaded⟩

/-- So a load does not always leave what the units of memory make. -/
theorem configLine_not_replaced :
    ¬∀ (datapath : Datapath) (inputs : DatapathInputs) (kind : CacheKind) (values : List Nat)
        (value : Nat), datapath.Idle → datapath.Quiet inputs.selectOut →
      datapath.LoadsConfigLine inputs kind →
      (datapath.caches.get kind).lines = .config values →
      values[(inputs.selectIn.get kind).toNat]? = some value →
      value < 2 ^ (datapath.engine.features.get kind).widthBits →
      ((datapath.afterStart inputs
          (inputs.request.answerTicks datapath.engine.features)).caches.get kind).lines.line?
          (inputs.selectIn.get kind).toNat =
        some (.config (datapath.assembledLine inputs kind)) := by
  intro replaced
  obtain ⟨features, -, quiet, loads, narrow, -, zeros⟩ := exists_stained
  have idle := idle_withConfPe features (.zeros 8) [1, 0]
  have zero := replaced _ _ _ _ _ idle quiet loads rfl rfl narrow
  rw [idle.lines_loaded quiet loads rfl rfl narrow, zeros] at zero
  exact absurd zero (by decide)

end Datapath

end AccessController
