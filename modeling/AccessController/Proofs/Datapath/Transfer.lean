import AccessController.Proofs.Datapath.Contents

/-!
# Requests under way

A tick changes the contents of the datapath at two steps of a job only: when a
cache takes in a unit, and when the engine stores one.  What the data wires
carry in between is recorded in `Carries`, and `outcome` adds to the contents
what the job has still to move.  A tick keeps both (`Streaming.tick`,
`Streaming.outcome_tick`), so a request ends with the contents that
`Contents.transfer` gives.
-/

namespace AccessController

/-- A job as decoding leaves it and as the steps of a block keep it. -/
structure Job.Sound (features : FeatureTable) (job : Job) : Prop where
  step : job.context.step = (features.get job.context.kind).stepBytes
  block : job.context.block = decide (0 < job.context.remaining)

theorem Job.Sound.contextOf (features : FeatureTable) (kind : CacheKind)
    (request : TransferRequest) (done : Nat) :
    Job.Sound features ⟨request, Engine.contextOf (features.get kind) kind request, done⟩ := by
  rw [Engine.contextOf]
  split <;> exact ⟨rfl, by simp⟩

theorem Job.Sound.nextUnit {features : FeatureTable} {job : Job} (sound : job.Sound features) :
    Job.Sound features { job with context := Engine.nextUnit job.context } where
  step := sound.step
  block := by
    simp only [Engine.nextUnit, sound.block]
    grind

/-- Where a request is when some units of it are done. -/
structure TransferContext.Located (geometry : Geometry) (request : TransferRequest) (units : Nat)
    (context : TransferContext) : Prop where
  address : context.address = request.address.toNat + units * geometry.stepBytes
  place : context.place = if request.isWholeLine then units else request.place.toNat
  remaining : units + context.remaining =
    if request.isWholeLine then geometry.blockTransferCount else 0

namespace TransferContext.Located

variable {geometry : Geometry} {request : TransferRequest} {units : Nat} {context : TransferContext}

theorem iff_unitCount :
    context.Located geometry request units ↔
      context.address = request.address.toNat + units * geometry.stepBytes ∧
        context.place = request.firstPlace + units ∧
        units + 1 + context.remaining = request.unitCount geometry := by
  rw [TransferRequest.firstPlace, TransferRequest.unitCount]
  constructor
  · rintro ⟨address, place, remaining⟩
    refine ⟨address, ?_⟩
    split at remaining
    next whole =>
      simp only [if_pos whole] at place ⊢
      omega
    next single =>
      simp only [if_neg single] at place ⊢
      omega
  · rintro ⟨address, place, remaining⟩
    split at remaining
    next whole =>
      rw [if_pos whole] at place
      exact ⟨address, by rw [if_pos whole]; omega, by rw [if_pos whole]; omega⟩
    next single =>
      rw [if_neg single] at place
      exact ⟨address, by rw [if_neg single]; omega, by rw [if_neg single]; omega⟩

theorem contextOf (geometry : Geometry) (kind : CacheKind) (request : TransferRequest) :
    (Engine.contextOf geometry kind request).Located geometry request 0 := by
  have units := Engine.remaining_contextOf geometry kind request
  exact iff_unitCount.2 ⟨by simp, by simp, by omega⟩

theorem nextUnit (located : context.Located geometry request units)
    (step : context.step = geometry.stepBytes) (more : 0 < context.remaining) :
    (Engine.nextUnit context).Located geometry request (units + 1) := by
  obtain ⟨address, place, remaining⟩ := iff_unitCount.1 located
  refine iff_unitCount.2 ⟨?_, ?_, ?_⟩
  · rw [Engine.nextUnit, address, step, Nat.succ_mul, Nat.add_assoc]
  · rw [Engine.nextUnit, place, Nat.add_assoc]
  · simp only [Engine.nextUnit]
    omega

end TransferContext.Located

/-- The bytes that a cache puts on its data wire for a unit. -/
def Contents.drained (contents : Contents) (geometry : Geometry) (kind : CacheKind)
    (line place : Nat) : Bytes :=
  if contents.Grants geometry kind line place then
    ((contents.lines.get kind).element? geometry line place).getD []
  else []

namespace Datapath

/-- The selector of a cache asks for no change of its output line: it names the
line that is there, or none. -/
def Holds (datapath : Datapath) (selectOut : PerCache UInt8) (kind : CacheKind) : Prop :=
  (selectOut.get kind).toNat = (datapath.caches.get kind).outputLine ∨
    (datapath.engine.features.get kind).lineCount ≤ (selectOut.get kind).toNat

/-- No selector asks for a change. -/
def Quiet (datapath : Datapath) (selectOut : PerCache UInt8) : Prop :=
  ∀ kind, datapath.Holds selectOut kind

variable {datapath : Datapath}

@[simp] theorem memory_contents : datapath.contents.memory = datapath.engine.memory := rfl

@[simp] theorem get_lines_contents (kind : CacheKind) :
    datapath.contents.lines.get kind = (datapath.caches.get kind).lines := by
  simp [contents]

@[simp] theorem get_outputLine_contents (kind : CacheKind) :
    datapath.contents.outputLine.get kind = (datapath.caches.get kind).outputLine := by
  simp [contents]

/-- A cache refuses exactly the units that are not granted. -/
theorem Handshake.accessRefusal?_eq_none_iff (handshake : datapath.Handshake) (kind : CacheKind)
    (line place : Nat) :
    (datapath.caches.get kind).accessRefusal? line place = none ↔
      datapath.contents.Grants (datapath.engine.features.get kind) kind line place := by
  rw [Cache.accessRefusal?, Contents.Grants, handshake.geometry, get_outputLine_contents]
  grind

theorem Handshake.drains (handshake : datapath.Handshake) (kind : CacheKind) :
    (datapath.caches.get kind).drains = decide (kind = .dataOut) := by
  rw [Cache.drains, handshake.geometry, FeatureTable.kind_get]
  cases kind <;> rfl

theorem Quiet.outputLine_tick {inputs : DatapathInputs} (quiet : datapath.Quiet inputs.selectOut)
    (handshake : datapath.Handshake) (kind : CacheKind) :
    ((datapath.tick inputs).caches.get kind).outputLine =
      (datapath.caches.get kind).outputLine := by
  rw [get_caches_tick]
  change Cache.outputLine (Cache.tick _ _) = _
  rw [Cache.outputLine_tick, handshake.geometry]
  rcases quiet kind with there | beyond
  · simp only [cacheInputs, there, ite_self]
  · exact if_neg fun follows => absurd follows.1 (Nat.not_lt.2 beyond)

theorem Quiet.tick {inputs : DatapathInputs} (quiet : datapath.Quiet inputs.selectOut)
    (handshake : datapath.Handshake) : (datapath.tick inputs).Quiet inputs.selectOut := by
  intro kind
  rw [Holds, quiet.outputLine_tick handshake, features_tick]
  exact quiet kind

/-- The lines of a cache change only when it takes in a unit, which the cache for
results never does. -/
theorem Handshake.lines_tick (handshake : datapath.Handshake) (inputs : DatapathInputs)
    (kind : CacheKind) :
    ((datapath.tick inputs).caches.get kind).lines =
      if datapath.engine.state.phase.asserts kind ∧ (datapath.caches.get kind).ack = false ∧
          kind ≠ .dataOut ∧
          datapath.contents.Grants (datapath.engine.features.get kind) kind
            (inputs.selectIn.get kind).toNat datapath.engine.outputs.place.level ∧
          datapath.engine.outputs.outbound.level ≠ [] then
        (datapath.caches.get kind).lines.merge (datapath.engine.features.get kind)
          (inputs.selectIn.get kind).toNat datapath.engine.outputs.place.level
          datapath.engine.outputs.outbound.level
      else (datapath.caches.get kind).lines := by
  rw [get_caches_tick]
  change Cache.lines (Cache.tick _ _) = _
  rw [Cache.lines_tick, Cache.lines_serve, handshake.drains, handshake.geometry]
  simp only [cacheInputs, handshake.accessRefusal?_eq_none_iff, handshake.writeEnable,
    Wire.level_rest]
  grind

/-- The cache for results puts a unit on its data wire when it takes a request
in, and leaves the wire alone otherwise. -/
theorem Handshake.dataWire_tick (handshake : datapath.Handshake) (inputs : DatapathInputs) :
    ((datapath.tick inputs).caches.get .dataOut).outputs.data =
      if datapath.engine.state.phase.asserts .dataOut ∧
          (datapath.caches.get .dataOut).ack = false then
        .rest (datapath.contents.drained (datapath.engine.features.get .dataOut) .dataOut
          (inputs.selectIn.get .dataOut).toNat datapath.engine.outputs.place.level)
      else (datapath.caches.get .dataOut).outputs.data.commit := by
  rw [get_caches_tick]
  change Wire.commit (CacheOutputs.data (Cache.outputs (Cache.tick _ _))) = _
  rw [Cache.dataWire_tick, Cache.dataWire_serve, handshake.drains, handshake.geometry]
  simp only [cacheInputs, handshake.accessRefusal?_eq_none_iff, handshake.writeEnable,
    Wire.level_rest, Contents.drained, get_lines_contents]
  grind [Wire.commit, Wire.drive]

/-- What the wires carry at a step of a job, and what the step says about the
job. -/
structure Carries (datapath : Datapath) (selectIn : PerCache UInt8) (step : Engine.Step)
    (job : Job) : Prop where
  sound : job.Sound datapath.engine.features
  loads : step = .writeData → job.context.kind ≠ .dataOut
  drains : step = .readData → job.context.kind = .dataOut
  more : step = .block → 0 < job.context.remaining
  place : step = .writeData ∨ step = .writeEnable ∨ step = .waitAck →
    datapath.engine.outputs.place = .rest job.context.place
  outbound : step = .writeEnable ∨ step = .waitAck → job.context.kind ≠ .dataOut →
    datapath.engine.outputs.outbound =
      .rest (datapath.engine.memory.unitAt job.context.address job.context.step)
  inbound : step = .readData ∨ step = .waitAck ∧ (datapath.caches.get .dataOut).ack →
    job.context.kind = .dataOut →
    (datapath.caches.get .dataOut).outputs.data =
      .rest (datapath.contents.drained (datapath.engine.features.get .dataOut) .dataOut
        (selectIn.get .dataOut).toNat job.context.place)

/-- The control wires agree with the phase and the data wires with the job under
way, whose line is named by `selectIn`. -/
structure Streaming (datapath : Datapath) (selectIn : PerCache UInt8) : Prop
    extends Handshake datapath where
  carries : ∀ {step job}, datapath.engine.state.phase = .serve step job →
    datapath.Carries selectIn step job

theorem Idle.streaming (idle : datapath.Idle) (selectIn : PerCache UInt8) :
    datapath.Streaming selectIn where
  toHandshake := idle.toHandshake
  carries phase := by simp [idle.phase] at phase

variable {inputs : DatapathInputs}

/-- Moves the unit that a job is at. -/
def moveCurrent (datapath : Datapath) (inputs : DatapathInputs) (job : Job) : Contents :=
  let kind := job.context.kind
  datapath.contents.moveUnit (datapath.engine.features.get kind) kind
    (inputs.selectIn.get kind).toNat job.context.place job.context.address

theorem length_drained_le (contents : Contents) (features : FeatureTable) (line place : Nat) :
    (contents.drained (features.get .dataOut) .dataOut line place).length ≤
      (features.get .dataOut).stepBytes := by
  have width : (features.get .dataOut).granularityBits = (features.get .dataOut).widthBits :=
    features.granularityBits_get rfl
  rw [Contents.drained, Geometry.stepBytes, width]
  split
  · cases contents.lines.get .dataOut with
    | config values => simp [Lines.element?]
    | data rows =>
      exact Nat.le_trans (Nat.le_of_eq (Bytes.length_ofValue ..)) (Nat.min_le_left _ 8)
  · simp

theorem contents_tick_eq {after : Contents}
    (memory : (datapath.tick inputs).engine.memory = after.memory)
    (lines : ∀ kind, ((datapath.tick inputs).caches.get kind).lines = after.lines.get kind)
    (outputLine : ∀ kind,
      ((datapath.tick inputs).caches.get kind).outputLine = after.outputLine.get kind) :
    (datapath.tick inputs).contents = after := by
  cases after
  simp only [contents, Contents.mk.injEq]
  refine ⟨memory, PerCache.ext_get fun kind => ?_, PerCache.ext_get fun kind => ?_⟩
  · rw [PerCache.get_map, lines]
  · rw [PerCache.get_map, outputLine]

/-- When the engine stores a unit, the contents change by that unit. -/
theorem Streaming.contents_tick_readData (streaming : datapath.Streaming inputs.selectIn)
    (quiet : datapath.Quiet inputs.selectOut) {job : Job}
    (phase : datapath.engine.state.phase = .serve .readData job) :
    (datapath.tick inputs).contents = datapath.moveCurrent inputs job := by
  have carries := streaming.carries phase
  have kind := carries.drains rfl
  have inbound : (datapath.engineInputs inputs).inbound =
      datapath.contents.drained (datapath.engine.features.get .dataOut) .dataOut
        (inputs.selectIn.get .dataOut).toNat job.context.place :=
    congrArg Wire.level (carries.inbound (.inl rfl) kind)
  have whole := length_drained_le datapath.contents datapath.engine.features
    (inputs.selectIn.get .dataOut).toNat job.context.place
  rw [moveCurrent, kind]
  apply contents_tick_eq
  · change (datapath.engine.tick _).memory = _
    simp only [Engine.memory_tick, phase]
    rw [inbound, carries.sound.step, kind, List.take_of_length_le whole, Contents.moveUnit,
      Contents.drained]
    split
    · rfl
    · exact Memory.store_nil _ _
  · intro other
    rw [streaming.lines_tick, phase, Contents.lines_moveUnit_dataOut, get_lines_contents]
    simp only [Engine.Phase.asserts, kind]
    grind
  · intro other
    rw [quiet.outputLine_tick streaming.toHandshake, Contents.outputLine_moveUnit,
      get_outputLine_contents]

/-- When a cache takes a unit in, the contents change by that unit. -/
theorem Streaming.contents_tick_waitAck (streaming : datapath.Streaming inputs.selectIn)
    (quiet : datapath.Quiet inputs.selectOut) {job : Job}
    (phase : datapath.engine.state.phase = .serve .waitAck job)
    (loads : job.context.kind ≠ .dataOut)
    (unserved : (datapath.caches.get job.context.kind).ack = false) :
    (datapath.tick inputs).contents = datapath.moveCurrent inputs job := by
  have carries := streaming.carries phase
  have place := carries.place (.inr (.inr rfl))
  have outbound := carries.outbound (.inr rfl) loads
  have positive : 0 < (datapath.engine.features.get job.context.kind).stepBytes := by
    have sound := datapath.engine.features.sound_get job.context.kind
    have bytes := sound.granularity_bytes
    have bits := sound.granularityBits_pos
    rw [Geometry.stepBytes]
    omega
  apply contents_tick_eq
  · change (datapath.engine.tick _).memory = _
    rw [Engine.memory_tick, phase, moveCurrent, Contents.memory_moveUnit _ _ _ _ _ loads]
    rfl
  · intro other
    have unit := Memory.unitAt_eq datapath.engine.memory job.context.address
      (datapath.engine.features.get job.context.kind).stepBytes
    have empty := Memory.unitAt_eq_nil_iff datapath.engine.memory job.context.address positive
    rw [streaming.lines_tick, phase, place, outbound, moveCurrent,
      Contents.get_lines_moveUnit _ _ _ _ _ loads, carries.sound.step]
    simp only [Engine.Phase.asserts, Wire.level_rest, get_lines_contents, memory_contents,
      decide_eq_true_eq]
    by_cases served : job.context.kind = other
    · subst served
      grind
    · rw [if_neg fun taken => served taken.1, if_neg fun moved => served moved.1]
  · intro other
    rw [quiet.outputLine_tick streaming.toHandshake, moveCurrent, Contents.outputLine_moveUnit,
      get_outputLine_contents]

/-- In all other steps the contents stay. -/
theorem Streaming.contents_tick_of_still (streaming : datapath.Streaming inputs.selectIn)
    (quiet : datapath.Quiet inputs.selectOut)
    (unread : ∀ job, datapath.engine.state.phase ≠ .serve .readData job)
    (untaken : ∀ kind, datapath.engine.state.phase.asserts kind → kind ≠ .dataOut →
      (datapath.caches.get kind).ack = true) :
    (datapath.tick inputs).contents = datapath.contents := by
  apply contents_tick_eq
  · change (datapath.engine.tick _).memory = _
    rw [Engine.memory_tick]
    split
    next job phase => exact absurd phase (unread job)
    next => rfl
  · intro other
    rw [streaming.lines_tick, get_lines_contents, if_neg]
    rintro ⟨asserted, unserved, loads, -⟩
    simp [untaken other asserted loads] at unserved
  · intro other
    rw [quiet.outputLine_tick streaming.toHandshake, get_outputLine_contents]

/-- So they stay as long as no cache is asked for anything. -/
theorem Streaming.contents_tick_of_unasked (streaming : datapath.Streaming inputs.selectIn)
    (quiet : datapath.Quiet inputs.selectOut)
    (unasked : ∀ kind, datapath.engine.state.phase.asserts kind = false) :
    (datapath.tick inputs).contents = datapath.contents := by
  refine streaming.contents_tick_of_still quiet (fun job phase => ?_) (fun kind asserted => ?_)
  · have asserted := unasked job.context.kind
    simp [phase, Engine.Phase.asserts] at asserted
  · simp [unasked] at asserted

/-- The place and the outbound unit stay on their wires until they are driven
again. -/
theorem placeWire_tick {step : Engine.Step} {job : Job}
    (phase : datapath.engine.state.phase = .serve step job) (shown : step ≠ .process) {place : Nat}
    (before : datapath.engine.outputs.place = .rest place) :
    (datapath.tick inputs).engine.outputs.place = .rest place := by
  simp only [engine_tick, Engine.commit, Engine.place_tick, phase]
  cases step <;> simp_all [Wire.commit]

theorem outboundWire_tick {step : Engine.Step} {job : Job}
    (phase : datapath.engine.state.phase = .serve step job) (shown : step ≠ .writeData)
    {unit : Bytes} (before : datapath.engine.outputs.outbound = .rest unit) :
    (datapath.tick inputs).engine.outputs.outbound = .rest unit := by
  simp only [engine_tick, Engine.commit, Engine.outbound_tick, phase]
  cases step <;> simp_all [Wire.commit]

theorem memory_tick {step : Engine.Step} {job : Job}
    (phase : datapath.engine.state.phase = .serve step job) (unread : step ≠ .readData) :
    (datapath.tick inputs).engine.memory = datapath.engine.memory := by
  simp only [engine_tick, Engine.commit, Engine.memory_tick, phase]
  cases step <;> simp_all

theorem Carries.of_sound {selectIn : PerCache UInt8} {step : Engine.Step} {job : Job}
    (sound : job.Sound datapath.engine.features) (more : step = .block → 0 < job.context.remaining)
    (between : step = .validate ∨ step = .process ∨ step = .block ∨ step = .finish) :
    datapath.Carries selectIn step job where
  sound
  loads := by rintro rfl; simp at between
  drains := by rintro rfl; simp at between
  more
  place := by rintro (rfl | rfl | rfl) <;> simp at between
  outbound := by rintro (rfl | rfl) <;> simp at between
  inbound := by rintro (rfl | ⟨rfl, -⟩) <;> simp at between

/-- Behind a unit a further one is announced, or the job is finished. -/
theorem Carries.afterUnit {selectIn : PerCache UInt8} {step : Engine.Step} {job old : Job}
    (sound : old.Sound datapath.engine.features) (after : old.afterUnit = .serve step job) :
    datapath.Carries selectIn step job := by
  have more := sound.block
  rw [Job.afterUnit] at after
  split at after
  next block =>
    cases after
    exact .of_sound ⟨sound.step, sound.block⟩ (fun _ => of_decide_eq_true (more ▸ block)) (by simp)
  next =>
    cases after
    exact .of_sound ⟨sound.step, sound.block⟩ (by simp) (by simp)

/-- While the cache for results is served, what it shows stays as long as it is
not asked again. -/
theorem Streaming.inbound_tick (streaming : datapath.Streaming inputs.selectIn)
    (quiet : datapath.Quiet inputs.selectOut) {job : Job}
    (phase : datapath.engine.state.phase = .serve .waitAck job)
    (drains : job.context.kind = .dataOut) :
    ((datapath.tick inputs).caches.get .dataOut).outputs.data =
      .rest ((datapath.tick inputs).contents.drained
        ((datapath.tick inputs).engine.features.get .dataOut) .dataOut
        (inputs.selectIn.get .dataOut).toNat job.context.place) := by
  have carries := streaming.carries phase
  have still : (datapath.tick inputs).contents = datapath.contents := by
    refine streaming.contents_tick_of_still quiet (fun other => by simp [phase]) ?_
    intro kind served loads
    simp only [phase, Engine.Phase.asserts, drains, decide_eq_true_eq] at served
    exact absurd served.symm loads
  rw [streaming.dataWire_tick, still, features_tick, phase, carries.place (.inr (.inr rfl))]
  split
  next => rfl
  next served =>
    have acked : (datapath.caches.get .dataOut).ack := by
      simpa [Engine.Phase.asserts, drains] using served
    rw [carries.inbound (.inr ⟨rfl, acked⟩) drains]
    rfl

theorem Streaming.sound_tick {selectIn : PerCache UInt8} (streaming : datapath.Streaming selectIn)
    {step : Engine.Step} {job : Job} (phase : datapath.engine.state.phase = .serve step job) :
    job.Sound (datapath.tick inputs).engine.features := by
  rw [features_tick]
  exact (streaming.carries phase).sound

/-- From the place on until the unit is taken over, all that is on the wires stays. -/
theorem Carries.of_shown {selectIn : PerCache UInt8} {step : Engine.Step} {job : Job}
    (sound : job.Sound datapath.engine.features)
    (shown : step = .writeData ∨ step = .writeEnable ∨ step = .waitAck)
    (loads : step = .writeData → job.context.kind ≠ .dataOut)
    (place : datapath.engine.outputs.place = .rest job.context.place)
    (outbound : step = .writeEnable ∨ step = .waitAck → job.context.kind ≠ .dataOut →
      datapath.engine.outputs.outbound =
        .rest (datapath.engine.memory.unitAt job.context.address job.context.step))
    (inbound : step = .waitAck → (datapath.caches.get .dataOut).ack = true →
      job.context.kind = .dataOut → (datapath.caches.get .dataOut).outputs.data =
        .rest (datapath.contents.drained (datapath.engine.features.get .dataOut) .dataOut
          (selectIn.get .dataOut).toNat job.context.place)) :
    datapath.Carries selectIn step job where
  sound
  loads
  drains := by rintro rfl; simp at shown
  more := by rintro rfl; simp at shown
  place _ := place
  outbound
  inbound := by
    rintro (rfl | ⟨waits, acked⟩) drains
    · simp at shown
    · exact inbound waits acked drains

section Steps

variable (streaming : datapath.Streaming inputs.selectIn) {job : Job}

include streaming

theorem Streaming.carries_tick_process (phase : datapath.engine.state.phase = .serve .process job) :
    (datapath.tick inputs).Carries inputs.selectIn
      (if job.context.kind = .dataOut then .writeEnable else .writeData) job := by
  have place : (datapath.tick inputs).engine.outputs.place = .rest job.context.place := by
    simp [engine_tick, Engine.commit, Engine.place_tick, phase, Wire.commit]
  split
  next drains =>
    exact .of_shown (streaming.sound_tick phase) (.inr (.inl rfl)) (by simp) place
      (fun _ loads => absurd drains loads) (by simp)
  next loads =>
    exact .of_shown (streaming.sound_tick phase) (.inl rfl) (fun _ => loads) place
      (by simp) (by simp)

theorem Streaming.carries_tick_writeData
    (phase : datapath.engine.state.phase = .serve .writeData job) :
    (datapath.tick inputs).Carries inputs.selectIn .writeEnable job := by
  have place := (streaming.carries phase).place (.inl rfl)
  refine .of_shown (streaming.sound_tick phase) (.inr (.inl rfl)) nofun
    (placeWire_tick phase nofun place) (fun _ _ => ?_) nofun
  simp [engine_tick, Engine.commit, Engine.outbound_tick, Engine.memory_tick, phase, Wire.commit]

/-- A cache acknowledges no earlier than it is asked. -/
theorem Streaming.carries_tick_writeEnable
    (phase : datapath.engine.state.phase = .serve .writeEnable job) :
    (datapath.tick inputs).Carries inputs.selectIn .waitAck job := by
  have carries := streaming.carries phase
  refine .of_shown (streaming.sound_tick phase) (.inr (.inr rfl)) nofun
    (placeWire_tick phase nofun (carries.place (.inr (.inl rfl)))) (fun _ loads => ?_) ?_
  · rw [memory_tick phase nofun]
    exact outboundWire_tick phase nofun (carries.outbound (.inl rfl) loads)
  · simp [streaming.ack_tick, phase, Engine.Phase.asserts]

theorem Streaming.carries_tick_waitAck (quiet : datapath.Quiet inputs.selectOut)
    (phase : datapath.engine.state.phase = .serve .waitAck job) :
    (datapath.tick inputs).Carries inputs.selectIn .waitAck job := by
  have carries := streaming.carries phase
  refine .of_shown (streaming.sound_tick phase) (.inr (.inr rfl)) nofun
    (placeWire_tick phase nofun (carries.place (.inr (.inr rfl)))) (fun _ loads => ?_)
    (fun _ _ drains => streaming.inbound_tick quiet phase drains)
  rw [memory_tick phase nofun]
  exact outboundWire_tick phase nofun (carries.outbound (.inr rfl) loads)

/-- The unit that was acknowledged is on the wire when the engine comes to read it. -/
theorem Streaming.carries_tick_drained (quiet : datapath.Quiet inputs.selectOut)
    (phase : datapath.engine.state.phase = .serve .waitAck job)
    (drains : job.context.kind = .dataOut) :
    (datapath.tick inputs).Carries inputs.selectIn .readData job where
  sound := streaming.sound_tick phase
  loads := nofun
  drains _ := drains
  more := nofun
  place := by simp
  outbound := by simp
  inbound _ _ := streaming.inbound_tick quiet phase drains

end Steps

theorem Streaming.tick (streaming : datapath.Streaming inputs.selectIn)
    (quiet : datapath.Quiet inputs.selectOut) :
    (datapath.tick inputs).Streaming inputs.selectIn where
  toHandshake := streaming.toHandshake.tick inputs
  carries {step job} after := by
    rw [phase_tick, Engine.phase_tick] at after
    cases phase : datapath.engine.state.phase with
    | await =>
      simp only [phase] at after
      split at after <;> cases after
    | decode request =>
      simp only [phase] at after
      split at after <;> cases after
      refine .of_sound ?_ nofun (.inl rfl)
      rw [features_tick]
      exact .contextOf ..
    | serve before old =>
      have sound : old.Sound (datapath.tick inputs).engine.features := streaming.sound_tick phase
      cases before with
      | validate =>
        simp only [phase] at after
        split at after <;> cases after
        exact .of_sound sound nofun (.inr (.inl rfl))
      | process =>
        simp only [phase] at after
        cases after
        exact streaming.carries_tick_process phase
      | writeData =>
        simp only [phase] at after
        cases after
        exact streaming.carries_tick_writeData phase
      | writeEnable =>
        simp only [phase] at after
        cases after
        exact streaming.carries_tick_writeEnable phase
      | waitAck =>
        simp only [phase] at after
        split at after
        · split at after
          next drains =>
            cases after
            exact streaming.carries_tick_drained quiet phase drains
          next => exact .afterUnit sound after
        · cases after
          exact streaming.carries_tick_waitAck quiet phase
      | readData =>
        simp only [phase] at after
        exact .afterUnit sound after
      | block =>
        simp only [phase] at after
        cases after
        exact .of_sound sound.nextUnit nofun (.inr (.inl rfl))
      | finish =>
        simp only [phase] at after
        split at after <;> cases after
        exact .of_sound sound nofun (.inr (.inr (.inr rfl)))

end Datapath

end AccessController
