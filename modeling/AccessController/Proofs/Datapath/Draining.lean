import AccessController.Proofs.Datapath.Selection

/-!
# A line on its way to memory

While the engine stores a line of the cache for results, it writes the units of the
request to memory one after the other, as they were in the line at the beginning
(`Drains`).  Neither the results of the array nor the engine itself touch the line,
so the unit that is stored next is still the one that was there.
-/

namespace AccessController

namespace Contents

variable (contents : Contents) (geometry : Geometry) (line place address : Nat)

theorem drained_congr {other : Contents}
    (lines : other.lines.get .dataOut = contents.lines.get .dataOut)
    (outputLine : other.outputLine.get .dataOut = contents.outputLine.get .dataOut) :
    other.drained geometry .dataOut line place = contents.drained geometry .dataOut line place := by
  have same : other.Grants geometry .dataOut line place ↔
      contents.Grants geometry .dataOut line place := by
    rw [Grants, Grants, outputLine]
  simp only [drained, same, lines]

theorem memory_moveUnit_dataOut :
    (contents.moveUnit geometry .dataOut line place address).memory =
      contents.memory.store address (contents.drained geometry .dataOut line place) := by
  rw [moveUnit, drained]
  split
  · rfl
  · exact (Memory.store_nil _ _).symm

variable (request : TransferRequest) (base : Memory) (first : Nat)

/-- What becomes of a memory when some units of a line, from a first one on, are stored
for a request, each of them as it is in these contents. -/
def memoryAfter : (count : Nat) → Memory
  | 0 => base
  | count + 1 =>
    (memoryAfter count).store (request.address.toNat + (first + count) * geometry.stepBytes)
      (contents.drained geometry .dataOut line (request.firstPlace + (first + count)))

theorem memoryAfter_of_beyond (data : geometry.isData)
    (beyond : geometry.places ≤ request.firstPlace) (count : Nat) :
    contents.memoryAfter geometry line request base first count = base := by
  induction count with
  | zero => rfl
  | succ count ih =>
    have refused : ¬contents.Grants geometry .dataOut line (request.firstPlace + (first + count)) :=
      fun grants => absurd (grants.2.1 data) (by omega)
    rw [memoryAfter, ih, drained, if_neg refused, Memory.store_nil]

end Contents

/-- A job for the cache for results is at a unit of its request. -/
structure Job.AtUnit (features : FeatureTable) (request : TransferRequest) (index : Nat)
    (job : Job) : Prop where
  kind : job.context.kind = .dataOut
  place : job.context.place = request.firstPlace + index
  address : job.context.address =
    request.address.toNat + index * (features.get .dataOut).stepBytes
  remaining : index + 1 + job.context.remaining = request.unitCount (features.get .dataOut)

namespace Job.AtUnit

variable {features : FeatureTable} {request : TransferRequest} {index : Nat} {job : Job}

theorem iff_located :
    job.AtUnit features request index ↔
      job.context.kind = .dataOut ∧
        job.context.Located (features.get .dataOut) request index := by
  rw [TransferContext.Located.iff_unitCount]
  constructor
  · rintro ⟨kind, place, address, remaining⟩
    exact ⟨kind, address, place, remaining⟩
  · rintro ⟨kind, address, place, remaining⟩
    exact ⟨kind, place, address, remaining⟩

theorem contextOf (features : FeatureTable) (request : TransferRequest) (done : Nat) :
    Job.AtUnit features request 0
      ⟨request, Engine.contextOf (features.get .dataOut) .dataOut request, done⟩ :=
  iff_located.2 ⟨Engine.kind_contextOf .., .contextOf ..⟩

theorem nextUnit (located : job.AtUnit features request index) (sound : job.Sound features)
    (more : 0 < job.context.remaining) :
    Job.AtUnit features request (index + 1)
      { job with context := Engine.nextUnit job.context } := by
  obtain ⟨kind, located⟩ := iff_located.1 located
  exact iff_located.2 ⟨kind, located.nextUnit (by rw [sound.step, kind]) more⟩

end Job.AtUnit

/-- A phase of a request to the cache for results, some units of which have been
stored. A refused request stores nothing, so all of it counts as stored. -/
def Engine.Phase.Drained (features : FeatureTable) (request : TransferRequest) (count : Nat) :
    Engine.Phase → Prop
  | .await | .serve .finish _ => count = request.unitCount (features.get .dataOut)
  | .decode other => other = request ∧ count = 0
  | .serve .validate job => count = 0 ∧ job.AtUnit features request 0
  | .serve .block job => ∃ index, count = index + 1 ∧ job.AtUnit features request index
  | .serve _ job => job.AtUnit features request count

/-- Behind a unit there is a further one, or the request is done. -/
theorem Job.AtUnit.afterUnit {features : FeatureTable} {request : TransferRequest} {index : Nat}
    {job : Job} (located : job.AtUnit features request index) (sound : job.Sound features) :
    job.afterUnit.Drained features request (index + 1) := by
  have remaining := located.remaining
  rw [Job.afterUnit, sound.block]
  cases rest : job.context.remaining with
  | zero =>
    rw [rest] at remaining
    exact remaining
  | succ count =>
    exact ⟨index, rfl, located.kind, located.place, located.address, located.remaining⟩

namespace Datapath

/-- The engine is storing a line for a request, from the contents that the
datapath had in the beginning. Memory was a given one when there were some units left,
and a few more have been stored since. -/
structure Drains (origin : Contents) (request : TransferRequest) (line : Nat) (base : Memory)
    (first count : Nat) (datapath : Datapath) : Prop where
  phase : datapath.engine.state.phase.Drained datapath.engine.features request (first + count)
  memory : datapath.engine.memory =
    origin.memoryAfter (datapath.engine.features.get .dataOut) line request base first count
  units : ∀ place,
    datapath.contents.drained (datapath.engine.features.get .dataOut) .dataOut line place =
      origin.drained (datapath.engine.features.get .dataOut) .dataOut line place

variable {datapath : Datapath} {inputs : DatapathInputs} {origin : Contents}
  {request : TransferRequest} {line : Nat} {base : Memory} {first count : Nat}

/-- No more units are stored than the request has. -/
theorem Drains.count_le (drains : datapath.Drains origin request line base first count) :
    first + count ≤ request.unitCount (datapath.engine.features.get .dataOut) := by
  have phase := drains.phase
  have within {index : Nat} {job : Job}
      (located : job.AtUnit datapath.engine.features request index) :
      index + 1 ≤ request.unitCount (datapath.engine.features.get .dataOut) :=
    located.remaining ▸ Nat.le_add_right ..
  cases at_ : datapath.engine.state.phase with
  | await =>
    rw [at_] at phase
    exact Nat.le_of_eq phase
  | decode other =>
    rw [at_] at phase
    exact phase.2 ▸ Nat.zero_le _
  | serve step job =>
    rw [at_] at phase
    cases step with
    | finish => exact Nat.le_of_eq phase
    | validate => exact phase.1 ▸ Nat.zero_le _
    | block =>
      obtain ⟨index, stored, located⟩ := phase
      rw [stored]
      exact within located
    | _ => exact Nat.le_of_succ_le (within phase)

theorem Drains.deliver (drains : datapath.Drains origin request line base first count)
    (handshake : datapath.Handshake) (results : Option (List UInt64)) :
    (datapath.deliver results).Drains origin request line base first count where
  phase := by
    rw [engine_deliver]
    exact drains.phase
  memory := by
    rw [engine_deliver]
    exact drains.memory
  units place := by
    rw [engine_deliver, handshake.contents_deliver, Contents.drained_deliver]
    exact drains.units place

theorem Drains.withMemory (drains : datapath.Drains origin request line base first count)
    (memory : Memory) :
    (datapath.withMemory memory).Drains origin request line memory (first + count) 0 where
  phase := drains.phase
  memory := rfl
  units := drains.units

theorem Drains.streaming_withMemory (drains : datapath.Drains origin request line base first count)
    {selectIn : PerCache UInt8} (streaming : datapath.Streaming selectIn) (memory : Memory) :
    (datapath.withMemory memory).Streaming selectIn where
  toHandshake := streaming.toHandshake.withMemory memory
  carries {step job} phase := by
    have carries := streaming.carries phase
    have drained := drains.phase
    exact {
      sound := carries.sound
      loads := carries.loads
      drains := carries.drains
      more := carries.more
      place := carries.place
      outbound := by
        intro at_ loads
        change datapath.engine.state.phase = _ at phase
        rcases at_ with rfl | rfl <;>
          (rw [phase] at drained
           exact absurd drained.kind loads)
      inbound := carries.inbound }

/-- What a tick without changes of output lines leaves in the cache for results. -/
theorem units_tick (handshake : datapath.Handshake) (quiet : datapath.Quiet inputs.selectOut)
    (place : Nat) :
    (datapath.tick inputs).contents.drained (datapath.engine.features.get .dataOut) .dataOut line
        place =
      datapath.contents.drained (datapath.engine.features.get .dataOut) .dataOut line place := by
  apply Contents.drained_congr
  · rw [get_lines_contents, get_lines_contents, handshake.lines_tick]
    exact if_neg fun taken => taken.2.2.1 rfl
  · rw [get_outputLine_contents, get_outputLine_contents, quiet.outputLine_tick handshake]

/-- The tick of the start of a request stores nothing yet. -/
theorem Idle.drains_start (idle : datapath.Idle) (quiet : datapath.Quiet inputs.selectOut)
    (start : inputs.start = true) (memory : datapath.engine.memory = base)
    (units : ∀ place,
      datapath.contents.drained (datapath.engine.features.get .dataOut) .dataOut line place =
        origin.drained (datapath.engine.features.get .dataOut) .dataOut line place) :
    (datapath.tick inputs).Drains origin inputs.request line base 0 0 where
  phase := by
    rw [idle.phase_start start]
    exact ⟨rfl, rfl⟩
  memory := by
    have stores : (datapath.tick inputs).engine.memory = _ := Engine.memory_tick ..
    rw [idle.phase] at stores
    exact stores.trans memory
  units place := by
    rw [features_tick, units_tick idle.toHandshake quiet]
    exact units place

section Steps

variable (drains : datapath.Drains origin request line base first count)
  (streaming : datapath.Streaming inputs.selectIn) (quiet : datapath.Quiet inputs.selectOut)

include drains streaming quiet

theorem Drains.units_tick (place : Nat) :
    (datapath.tick inputs).contents.drained
        ((datapath.tick inputs).engine.features.get .dataOut) .dataOut line place =
      origin.drained ((datapath.tick inputs).engine.features.get .dataOut) .dataOut line place := by
  rw [features_tick, Datapath.units_tick streaming.toHandshake quiet]
  exact drains.units place

theorem Drains.tick_of_still
    (same : (datapath.tick inputs).engine.memory = datapath.engine.memory)
    (phase : (datapath.tick inputs).engine.state.phase.Drained datapath.engine.features request
      (first + count)) :
    (datapath.tick inputs).Drains origin request line base first count where
  phase := by
    rw [features_tick]
    exact phase
  memory := by
    rw [features_tick, same]
    exact drains.memory
  units := drains.units_tick streaming quiet

theorem Drains.tick_refused {job : Job}
    (phase : datapath.engine.state.phase = .serve .validate job)
    (beyond : job.beyond datapath.engine.features) :
    (datapath.tick inputs).Drains origin request line base first
      (request.unitCount (datapath.engine.features.get .dataOut)) := by
  have drained := drains.phase
  rw [phase] at drained
  obtain ⟨none, located⟩ := drained
  obtain ⟨rfl, -⟩ := Nat.add_eq_zero_iff.1 none
  simp only [Job.beyond, located.kind, located.place, Bool.and_eq_true, decide_eq_true_eq] at beyond
  have data : (datapath.engine.features.get .dataOut).isData := by
    simp [Geometry.isData, CacheKind.isData]
  have nothing := origin.memoryAfter_of_beyond _ line request base 0 data beyond.2
  have before := drains.memory
  rw [nothing] at before
  constructor
  case phase =>
    rw [phase_tick, Engine.phase_tick, phase, features_tick]
    simp only [Job.beyond, located.kind, located.place]
    rw [if_pos (by simpa using beyond)]
    exact Nat.zero_add _
  case memory => rw [features_tick, nothing, memory_tick phase (by simp), before]
  case units => exact drains.units_tick streaming quiet

/-- The unit that is read goes to memory. -/
theorem Drains.tick_stored {job : Job} (named : (inputs.selectIn.get .dataOut).toNat = line)
    (phase : datapath.engine.state.phase = .serve .readData job) :
    (datapath.tick inputs).Drains origin request line base first (count + 1) := by
  have drained := drains.phase
  rw [phase] at drained
  have moved := congrArg Contents.memory (streaming.contents_tick_readData quiet phase)
  rw [moveCurrent, drained.kind, named, Contents.memory_moveUnit_dataOut, memory_contents,
    memory_contents, drains.units, drains.memory, drained.place, drained.address,
    ← Contents.memoryAfter] at moved
  constructor
  case phase =>
    rw [phase_tick, Engine.phase_tick, phase, features_tick]
    exact drained.afterUnit (streaming.carries phase).sound
  case memory => rw [features_tick, moved]
  case units => exact drains.units_tick streaming quiet

/-- A tick stores a unit or none. -/
theorem Drains.tick (low : inputs.start = false)
    (named : (inputs.selectIn.get .dataOut).toNat = line)
    (known : CacheKind.ofSelector? request.selector = some .dataOut) :
    ∃ next, (datapath.tick inputs).Drains origin request line base first next := by
  have unstarted : (datapath.engineInputs inputs).start = false := low
  have stores : (datapath.tick inputs).engine.memory = _ := Engine.memory_tick ..
  have next := datapath.phase_tick inputs
  rw [Engine.phase_tick] at next
  have drained := drains.phase
  have still := drains.tick_of_still streaming quiet
  cases phase : datapath.engine.state.phase with
  | await =>
    rw [phase] at drained
    simp only [phase] at stores
    simp only [phase, unstarted, Bool.false_and, Bool.false_eq_true, if_false] at next
    exact ⟨count, still stores (next ▸ drained)⟩
  | decode other =>
    rw [phase] at drained
    simp only [phase] at stores
    obtain ⟨rfl, none⟩ := drained
    simp only [phase, known] at next
    exact ⟨count, still stores (next ▸ ⟨none, .contextOf ..⟩)⟩
  | serve step job =>
    have carries := streaming.carries phase
    rw [phase] at drained
    cases step with
    | validate =>
      obtain ⟨none, located⟩ := drained
      simp only [phase] at next
      split at next
      next beyond => exact ⟨_, drains.tick_refused streaming quiet phase beyond⟩
      next =>
        refine ⟨count, still (memory_tick phase nofun) ?_⟩
        rw [next, none]
        exact located
    | process =>
      simp only [phase, drained.kind, if_true] at next
      exact ⟨count, still (memory_tick phase nofun) (next ▸ drained)⟩
    | writeData => exact absurd drained.kind (carries.loads rfl)
    | writeEnable =>
      simp only [phase] at next
      exact ⟨count, still (memory_tick phase nofun) (next ▸ drained)⟩
    | waitAck =>
      simp only [phase, drained.kind, if_true] at next
      refine ⟨count, still (memory_tick phase nofun) ?_⟩
      split at next <;> exact next ▸ drained
    | readData => exact ⟨_, drains.tick_stored streaming quiet named phase⟩
    | block =>
      obtain ⟨index, stored, located⟩ := drained
      simp only [phase] at next
      refine ⟨count, still (memory_tick phase nofun) ?_⟩
      rw [next, stored]
      exact located.nextUnit carries.sound (carries.more rfl)
    | finish =>
      simp only [phase, unstarted, Bool.false_eq_true, if_false] at next
      exact ⟨count, still (memory_tick phase nofun) (next ▸ drained)⟩

end Steps

end Datapath

end AccessController
