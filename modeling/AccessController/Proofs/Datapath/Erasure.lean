import AccessController.Proofs.Cache.Erasure
import AccessController.Proofs.Datapath.Handshake

/-!
# A datapath without its data

The engine decides by addresses, sizes and places.  Bytes pass through it: they are
counted and never looked at, so erasing the shared memory, the units on the wires and
the lines of the caches makes no difference to what the datapath does.
-/

namespace AccessController

namespace Memory

variable {memory : Memory} {address count : Nat}

@[simp] theorem size_clear : memory.clear.size = memory.size := by
  simp [clear, zeros, size]

theorem clear_eq_iff {left right : Memory} : left.clear = right.clear ↔ left.size = right.size := by
  constructor
  · intro same
    simpa using congrArg Memory.size same
  · intro same
    rw [clear, clear, same]

theorem length_readBytes_clear :
    (memory.clear.readBytes address count).length = (memory.readBytes address count).length := by
  simp only [readBytes, clear, zeros, size, Array.length_toList, Array.size_extract,
    Array.size_replicate]

end Memory

/-- The levels that the engine samples, without the data among them. -/
def Engine.Inputs.withoutData (inputs : Engine.Inputs) : Engine.Inputs :=
  { inputs with inbound := inputs.inbound.withoutData }

namespace Engine

/-- The engine with the memory and the outbound unit erased. -/
def withoutData (engine : Engine) : Engine :=
  { engine with
    memory := engine.memory.clear
    outputs.outbound := engine.outputs.outbound.withoutData }

variable (engine : Engine)

@[simp] theorem withoutData_withoutData : engine.withoutData.withoutData = engine.withoutData := by
  have memory : engine.memory.clear.clear = engine.memory.clear :=
    Memory.clear_eq_iff.2 Memory.size_clear
  simp [withoutData, memory, Wire.withoutData]

/-! ## Steps that move no data -/

variable (inputs : Inputs) (job : Job)

theorem withoutData_await :
    (engine.await inputs).withoutData = engine.withoutData.await inputs.withoutData := by
  have ready : engine.withoutData.state.ready = engine.state.ready := rfl
  have start : inputs.withoutData.start = inputs.start := rfl
  rw [await, await, ready, start]
  cases engine.state.ready with
  | true => cases inputs.start <;> rfl
  | false => cases inputs.start <;> rfl

theorem withoutData_decode (request : TransferRequest) :
    (engine.decode request).withoutData = engine.withoutData.decode request := by
  rw [decode, decode]
  cases CacheKind.ofSelector? request.selector <;> rfl

theorem withoutData_validate :
    (engine.validate job).withoutData = engine.withoutData.validate job := by
  have features : engine.withoutData.features = engine.features := rfl
  simp only [validate, features]
  split <;> rfl

theorem withoutData_unitDone :
    (engine.unitDone job).withoutData = engine.withoutData.unitDone job := by
  simp only [unitDone]
  cases job.context.block <;> rfl

theorem withoutData_waitAck :
    (engine.waitAck inputs job).withoutData =
      engine.withoutData.waitAck inputs.withoutData job := by
  have acks : inputs.withoutData.acks = inputs.acks := rfl
  simp only [waitAck, acks]
  split
  · split
    · rfl
    · rw [withoutData_unitDone]
      rfl
  · rfl

theorem withoutData_finish :
    (engine.finish inputs).withoutData = engine.withoutData.finish inputs.withoutData := by
  have start : inputs.withoutData.start = inputs.start := rfl
  rw [finish, finish, start]
  cases inputs.start <;> rfl

/-! ## Steps that move data -/

theorem withoutData_writeData :
    (engine.writeData job).withoutData = (engine.withoutData.writeData job).withoutData := by
  have shown (bytes others : Bytes) (same : bytes.length = others.length) (stats : EngineStats) :
      withoutData (continueWith { engine with
          outputs.outbound := engine.outputs.outbound.drive bytes
          state.stats := stats } .writeEnable job) =
        withoutData (continueWith { engine.withoutData with
          outputs.outbound := engine.withoutData.outputs.outbound.drive others
          state.stats := stats } .writeEnable job) := by
    have memory : engine.memory.clear.clear = engine.memory.clear :=
      Memory.clear_eq_iff.2 Memory.size_clear
    simp only [withoutData, continueWith, memory, Wire.withoutData_drive _ same]
  have memory : engine.withoutData.memory = engine.memory.clear := rfl
  simp only [writeData, memory, Memory.read_eq, Memory.size_clear]
  by_cases room : job.context.address + job.context.step ≤ engine.memory.size
  · simp only [if_pos room]
    exact shown _ _ Memory.length_readBytes_clear.symm _
  · simp only [if_neg room]
    exact shown [] [] rfl _

theorem withoutData_readData :
    (engine.readData inputs job).withoutData =
      (engine.withoutData.readData inputs.withoutData job).withoutData := by
  have kept (ours theirs : Memory) (same : ours.size = theirs.size) (stats : EngineStats) :
      (({ engine with memory := ours, state.stats := stats } : Engine).driveWriteEnable
          job.context.kind false).withoutData =
        (({ engine.withoutData with memory := theirs, state.stats := stats } :
          Engine).driveWriteEnable job.context.kind false).withoutData := by
    simp only [withoutData, driveWriteEnable, Memory.clear_eq_iff.2 same]
    simp [Wire.withoutData]
  have memory : engine.withoutData.memory = engine.memory.clear := rfl
  have length : (inputs.withoutData.inbound.take job.context.step).length =
      (inputs.inbound.take job.context.step).length := by
    rw [List.length_take, List.length_take]
    exact congrArg _ inputs.inbound.length_withoutData
  simp only [readData, withoutData_unitDone, memory, Memory.write_eq, Memory.size_clear, length]
  apply congrArg fun engine => unitDone engine job
  by_cases room :
      job.context.address + (inputs.inbound.take job.context.step).length ≤ engine.memory.size
  · simp only [if_pos room]
    refine kept _ _ ?_ _
    simp [Memory.size, Memory.clear, Memory.zeros]
  · simp only [if_neg room]
    exact kept engine.memory _ Memory.size_clear.symm _

/-! ## One tick -/

theorem withoutData_advance :
    (engine.advance inputs).withoutData =
      (engine.withoutData.advance inputs.withoutData).withoutData := by
  have phase : engine.withoutData.state.phase = engine.state.phase := rfl
  have same {ours theirs : Engine} (exact : ours.withoutData = theirs) :
      ours.withoutData = theirs.withoutData := by
    rw [← exact, withoutData_withoutData]
  rw [advance, advance, phase]
  cases engine.state.phase with
  | await => exact same (engine.withoutData_await inputs)
  | decode request => exact same (engine.withoutData_decode request)
  | serve step job =>
    cases step with
    | validate => exact same (engine.withoutData_validate job)
    | process => exact same rfl
    | writeData => exact engine.withoutData_writeData job
    | writeEnable => exact same rfl
    | waitAck => exact same (engine.withoutData_waitAck inputs job)
    | readData => exact engine.withoutData_readData inputs job
    | block => exact same rfl
    | finish => exact same (engine.withoutData_finish inputs)

/-- Behind a tick it makes no difference that data was erased before it. -/
theorem withoutData_tick :
    (engine.tick inputs).withoutData =
      (engine.withoutData.tick inputs.withoutData).withoutData := by
  have shown (other : Engine) : other.driveReady.withoutData = other.withoutData.driveReady := rfl
  rw [tick, tick, shown, shown, withoutData_advance]
  rfl

end Engine

namespace Datapath

/-- The datapath with all its data erased. -/
def withoutData (datapath : Datapath) : Datapath where
  engine := datapath.engine.withoutData
  caches := datapath.caches.map Cache.withoutData

variable (datapath : Datapath)

theorem ext_withoutData {left right : Datapath}
    (engine : left.engine.withoutData = right.engine.withoutData)
    (caches : ∀ kind, (left.caches.get kind).withoutData = (right.caches.get kind).withoutData) :
    left.withoutData = right.withoutData := by
  have family : left.caches.map Cache.withoutData = right.caches.map Cache.withoutData := by
    apply PerCache.ext_get
    intro kind
    rw [PerCache.get_map, PerCache.get_map]
    exact caches kind
  rw [withoutData, withoutData, engine, family]

@[simp] theorem withoutData_withoutData :
    datapath.withoutData.withoutData = datapath.withoutData := by
  apply ext_withoutData
  · exact datapath.engine.withoutData_withoutData
  · intro kind
    rw [withoutData, PerCache.get_map, Cache.withoutData_withoutData]

theorem engineInputs_withoutData (inputs : DatapathInputs) :
    datapath.withoutData.engineInputs inputs = (datapath.engineInputs inputs).withoutData := by
  have acks : datapath.withoutData.caches.map (·.outputs.ack.level) =
      datapath.caches.map (·.outputs.ack.level) := by
    apply PerCache.ext_get
    intro kind
    cases kind <;> rfl
  rw [engineInputs, acks]
  rfl

/-- Behind a tick it makes no difference that data was erased before it. -/
theorem withoutData_tick (inputs : DatapathInputs) :
    (datapath.tick inputs).withoutData = (datapath.withoutData.tick inputs).withoutData := by
  apply ext_withoutData
  · have committed (other : Engine) : other.commit.withoutData = other.withoutData.commit := rfl
    rw [engine_tick, engine_tick, committed, committed, engineInputs_withoutData,
      Engine.withoutData_tick]
    rfl
  · intro kind
    have committed (other : Cache) : other.commit.withoutData = other.withoutData.commit := rfl
    have erased : datapath.withoutData.caches.get kind = (datapath.caches.get kind).withoutData :=
      PerCache.get_map ..
    rw [get_caches_tick, get_caches_tick, committed, committed, Cache.withoutData_tick, erased]
    rfl

theorem withoutData_storeResults {kind : CacheKind} {values : List UInt64} {stored : Datapath}
    (stores : datapath.storeResults kind values = .ok stored) :
    stored.withoutData = datapath.withoutData := by
  rw [storeResults, Cache.storeResults] at stores
  cases filled : (datapath.caches.get kind).lines.fill (datapath.caches.get kind).geometry
      (datapath.caches.get kind).outputLine values with
  | error reason =>
    rw [filled] at stores
    cases stores
  | ok lines =>
    rw [filled] at stores
    cases stores
    apply ext_withoutData
    · rfl
    · intro other
      rw [PerCache.get_set]
      split
      next same =>
        subst same
        simp only [Cache.withoutData, Lines.clear_fill filled]
      next => rfl

end Datapath

end AccessController
