import AccessController.Engine.Basic
import AccessController.Proofs.Memory.Access

/-!
# What a tick of the engine does

Each theorem gives one field of the engine after a tick as a function of the
phase before it.  Together they are the transition table of the engine: later
modules cite them and never unfold the tick.  No level moves during a tick, only
the values put up for the next clock edge do.
-/

namespace AccessController

/-- Whether a job names a place beyond the end of a data line. -/
def Job.beyond (features : FeatureTable) (job : Job) : Bool :=
  job.context.kind.isData && decide ((features.get job.context.kind).places ≤ job.context.place)

/-- The phase behind the last step of a unit. -/
def Job.afterUnit (job : Job) : Engine.Phase :=
  .serve (if job.context.block then .block else .finish) { job with done := job.done + 1 }

namespace Engine

-- every theorem below opens the whole tick, and no theorem elsewhere does
attribute [local grind =] tick driveReady advance await decode serve validate process writeData
  waitAck readData finish unitDone driveWriteEnable continueWith refuse

variable (engine : Engine) (inputs : Inputs)

theorem phase_tick :
    (engine.tick inputs).state.phase =
      match engine.state.phase with
      | .await =>
        if inputs.start && !engine.state.ready then
          .decode ⟨inputs.selector, inputs.address, inputs.place⟩
        else .await
      | .decode request =>
        match CacheKind.ofSelector? request.selector with
        | none => .await
        | some kind =>
          .serve .validate ⟨request, contextOf (engine.features.get kind) kind request, 0⟩
      | .serve .validate job =>
        if job.beyond engine.features then .await else .serve .process job
      | .serve .process job =>
        .serve (if job.context.kind = .dataOut then .writeEnable else .writeData) job
      | .serve .writeData job => .serve .writeEnable job
      | .serve .writeEnable job => .serve .waitAck job
      | .serve .waitAck job =>
        if inputs.acks.get job.context.kind then
          if job.context.kind = .dataOut then .serve .readData job else job.afterUnit
        else .serve .waitAck job
      | .serve .readData job => job.afterUnit
      | .serve .block job => .serve .process { job with context := nextUnit job.context }
      | .serve .finish job => if inputs.start then .serve .finish job else .await := by
  cases phase : engine.state.phase with
  | serve step job => cases step <;> grind [Job.beyond, Job.afterUnit]
  | _ => grind

/-- Ready is raised by a refusal and by the last unit, and only a low start
lowers it. -/
theorem ready_tick :
    (engine.tick inputs).state.ready =
      match engine.state.phase with
      | .await => engine.state.ready && inputs.start
      | .decode request =>
        engine.state.ready || (CacheKind.ofSelector? request.selector).isNone
      | .serve .validate job => engine.state.ready || job.beyond engine.features
      | .serve .waitAck job =>
        engine.state.ready || (inputs.acks.get job.context.kind &&
          decide (job.context.kind ≠ .dataOut) && !job.context.block)
      | .serve .readData job => engine.state.ready || !job.context.block
      | .serve .finish _ => engine.state.ready && inputs.start
      | _ => engine.state.ready := by
  cases phase : engine.state.phase with
  | serve step job => cases step <;> grind [Job.beyond]
  | _ => grind

theorem requests_tick :
    (engine.tick inputs).state.stats.requests =
      if engine.state.phase = .await ∧ inputs.start ∧ engine.state.ready = false then
        engine.state.stats.requests + 1
      else engine.state.stats.requests := by
  cases phase : engine.state.phase with
  | serve step job => cases step <;> grind
  | _ => grind

/-- The units that a tick counts: one that its cache has acknowledged and, if it comes
from the cache for results, that is stored now. -/
def countedUnits : Nat :=
  match engine.state.phase with
  | .serve .waitAck job =>
    if inputs.acks.get job.context.kind ∧ job.context.kind ≠ .dataOut then 1 else 0
  | .serve .readData _ => 1
  | _ => 0

theorem transfers_tick :
    (engine.tick inputs).state.stats.transfers =
      engine.state.stats.transfers + engine.countedUnits inputs := by
  cases phase : engine.state.phase with
  | serve step job => cases step <;> grind [countedUnits]
  | _ => grind [countedUnits]

/-- The last unit of a request is recorded with it. -/
theorem lastTransfer_tick :
    (engine.tick inputs).state.lastTransfer =
      match engine.state.phase with
      | .serve .waitAck job =>
        if inputs.acks.get job.context.kind ∧ job.context.kind ≠ .dataOut ∧ ¬job.context.block then
          some (recordOf { job with done := job.done + 1 })
        else engine.state.lastTransfer
      | .serve .readData job =>
        if job.context.block then engine.state.lastTransfer
        else some (recordOf { job with done := job.done + 1 })
      | _ => engine.state.lastTransfer := by
  cases phase : engine.state.phase with
  | serve step job => cases step <;> grind
  | _ => grind

theorem rejectedRequests_tick :
    (engine.tick inputs).state.stats.rejectedRequests =
      engine.state.stats.rejectedRequests +
        match engine.state.phase with
        | .serve .validate job => if job.beyond engine.features then 1 else 0
        | _ => 0 := by
  cases phase : engine.state.phase with
  | serve step job => cases step <;> grind [Job.beyond]
  | _ => grind

theorem abortedRequests_tick :
    (engine.tick inputs).state.stats.abortedRequests =
      engine.state.stats.abortedRequests +
        match engine.state.phase with
        | .decode request => if CacheKind.ofSelector? request.selector = none then 1 else 0
        | _ => 0 := by
  cases phase : engine.state.phase with
  | serve step job => cases step <;> grind
  | _ => grind

/-- The bytes that a tick loads; a unit that memory does not have adds none. -/
def loadedBytes : Nat :=
  match engine.state.phase with
  | .serve .writeData job => (engine.memory.unitAt job.context.address job.context.step).length
  | _ => 0

theorem bytesToCache_tick :
    (engine.tick inputs).state.stats.bytesToCache =
      engine.state.stats.bytesToCache + engine.loadedBytes := by
  cases phase : engine.state.phase with
  | serve step job =>
    cases step <;> grind [loadedBytes, Memory.unitAt, Memory.read_eq, Memory.length_readBytes]
  | _ => grind [loadedBytes]

/-- The bytes that a tick stores if memory has room for them. -/
def storableBytes : Nat :=
  match engine.state.phase with
  | .serve .readData job => (inputs.inbound.take job.context.step).length
  | _ => 0

theorem bytesToMemory_tick_le :
    (engine.tick inputs).state.stats.bytesToMemory ≤
      engine.state.stats.bytesToMemory + engine.storableBytes inputs := by
  cases phase : engine.state.phase with
  | serve step job => cases step <;> grind [storableBytes]
  | _ => grind [storableBytes]

@[simp] theorem features_tick : (engine.tick inputs).features = engine.features := by
  cases phase : engine.state.phase with
  | serve step job => cases step <;> grind
  | _ => grind

theorem memory_tick :
    (engine.tick inputs).memory =
      match engine.state.phase with
      | .serve .readData job =>
        engine.memory.store job.context.address (inputs.inbound.take job.context.step)
      | _ => engine.memory := by
  cases phase : engine.state.phase with
  | serve step job => cases step <;> grind [Memory.store]
  | _ => grind

@[simp] theorem readyWire_tick :
    (engine.tick inputs).outputs.ready =
      engine.outputs.ready.drive (engine.tick inputs).state.ready := by
  cases phase : engine.state.phase with
  | serve step job => cases step <;> grind
  | _ => grind

theorem writeEnable_tick (kind : CacheKind) :
    (engine.tick inputs).outputs.writeEnable.get kind =
      match engine.state.phase with
      | .serve .writeEnable job =>
        (engine.outputs.writeEnable.get kind).driveIf (job.context.kind = kind) true
      | .serve .waitAck job =>
        (engine.outputs.writeEnable.get kind).driveIf
          (job.context.kind = kind ∧ kind ≠ .dataOut ∧ inputs.acks.get kind) false
      | .serve .readData job =>
        (engine.outputs.writeEnable.get kind).driveIf (job.context.kind = kind) false
      | _ => engine.outputs.writeEnable.get kind := by
  cases phase : engine.state.phase with
  | serve step job => cases step <;> grind [Wire.driveIf, PerCache.get_modify]
  | _ => grind

theorem place_tick :
    (engine.tick inputs).outputs.place =
      match engine.state.phase with
      | .serve .process job => engine.outputs.place.drive job.context.place
      | _ => engine.outputs.place := by
  cases phase : engine.state.phase with
  | serve step job => cases step <;> grind
  | _ => grind

theorem outbound_tick :
    (engine.tick inputs).outputs.outbound =
      match engine.state.phase with
      | .serve .writeData job =>
        engine.outputs.outbound.drive (engine.memory.unitAt job.context.address job.context.step)
      | _ => engine.outputs.outbound := by
  cases phase : engine.state.phase with
  | serve step job => cases step <;> grind [Memory.unitAt]
  | _ => grind

@[simp] theorem level_writeEnable_tick (kind : CacheKind) :
    ((engine.tick inputs).outputs.writeEnable.get kind).level =
      (engine.outputs.writeEnable.get kind).level := by
  rw [writeEnable_tick]
  split <;> simp

@[simp] theorem level_place_tick :
    (engine.tick inputs).outputs.place.level = engine.outputs.place.level := by
  rw [place_tick]
  split <;> simp

@[simp] theorem level_outbound_tick :
    (engine.tick inputs).outputs.outbound.level = engine.outputs.outbound.level := by
  rw [outbound_tick]
  split <;> simp

end Engine

end AccessController
