import AccessController.Cache.FeatureTable
import AccessController.Memory
import AccessController.Signal.Wire

/-!
# The transfer engine

The engine owns the shared memory and moves one unit for each handshake with
the cache that a request names. A request is for one element or, with the place
127, for a whole line in consecutive units. Every request is answered with a
pulse of ready: a selector without a cache and a place beyond the line end it
early, and bytes outside the memory turn a unit into one without effect.
-/

namespace AccessController

/-- What a start pulse asks for. -/
structure TransferRequest where
  selector : UInt8
  address : UInt16
  place : UInt8
  deriving Repr, DecidableEq

/-- The place that asks for a whole line. -/
def TransferRequest.wholeLinePlace : UInt8 := 127

/-- A request under way: where the next unit goes and how many follow it. -/
structure TransferContext where
  kind : CacheKind
  address : Nat
  place : Nat
  /-- Whether further units follow the current one. -/
  block : Bool
  remaining : Nat
  step : Nat
  /-- The count of units computed when the request was decoded: those after the
  first for a whole line, and 1 for a single element. -/
  count : Nat
  deriving Repr, DecidableEq

/-- A request that was served to its end. -/
structure TransferRecord where
  kind : CacheKind
  startAddress : Nat
  finalAddress : Nat
  transferCount : Nat
  transfers : Nat
  deriving Repr, DecidableEq

/-- What the engine has counted. -/
structure EngineStats where
  requests : Nat := 0
  transfers : Nat := 0
  bytesToCache : Nat := 0
  bytesToMemory : Nat := 0
  boundsViolations : Nat := 0
  rejectedRequests : Nat := 0
  abortedRequests : Nat := 0
  deriving Repr, DecidableEq

/-- A decoded request with the units done so far. -/
structure Job where
  request : TransferRequest
  context : TransferContext
  done : Nat
  deriving Repr, DecidableEq

namespace Engine

/-- The steps of serving a decoded request. -/
inductive Step where
  | validate
  | process
  | writeData
  | writeEnable
  | waitAck
  | readData
  | block
  | finish
  deriving Repr, DecidableEq

/-- What the engine is doing. -/
inductive Phase where
  | await
  | decode (request : TransferRequest)
  | serve (step : Step) (job : Job)
  deriving Repr, DecidableEq

/-- The name of a phase in messages. -/
def Phase.label : Phase → String
  | .await => "Await"
  | .decode _ => "Decode"
  | .serve .validate _ => "Validate"
  | .serve .process _ => "Process"
  | .serve .writeData _ => "WriteData"
  | .serve .writeEnable _ => "WriteEn"
  | .serve .waitAck _ => "WaitAck"
  | .serve .readData _ => "ReadData"
  | .serve .block _ => "Block"
  | .serve .finish _ => "Finish"

/-- The request under way. -/
def Phase.context? : Phase → Option TransferContext
  | .serve _ job => some job.context
  | _ => none

/-- The levels that the engine samples. -/
structure Inputs where
  start : Bool := false
  selector : UInt8 := 0
  address : UInt16 := 0
  place : UInt8 := 0
  acks : PerCache Bool := .replicate false
  inbound : Bytes := []
  deriving Repr, DecidableEq

/-- The wires that the engine drives. -/
structure Outputs where
  ready : Wire Bool := .rest false
  writeEnable : PerCache (Wire Bool) := .replicate (.rest false)
  place : Wire Nat := .rest 0
  outbound : Wire Bytes := .rest []
  deriving Repr, DecidableEq

/-- What the engine remembers from tick to tick. -/
structure State where
  phase : Phase := .await
  ready : Bool := false
  lastTransfer : Option TransferRecord := none
  stats : EngineStats := {}
  deriving Repr, DecidableEq

end Engine

/-- The transfer engine with the shared memory and its output wires. -/
structure Engine where
  features : FeatureTable
  memory : Memory
  state : Engine.State := {}
  cycle : Nat := 0
  outputs : Engine.Outputs := {}

namespace Engine

/-- Why an engine cannot be built. -/
inductive BuildError where
  | features (fault : FeatureTable.Fault)
  | memory (error : Memory.SizeError)
  deriving Repr, DecidableEq

def BuildError.message : BuildError → String
  | .features fault => fault.message
  | .memory error => error.message

/-- An engine after power-up, with a memory of zeros. -/
def build? (memorySize confGranularity : Nat) (features : List Nat) :
    Except BuildError Engine := do
  let features ← (FeatureTable.ofList? features confGranularity).mapError .features
  let memory ← (Memory.ofSize? memorySize).mapError .memory
  return { features, memory }

/-- The context of a request that was just decoded. -/
def contextOf (geometry : Geometry) (kind : CacheKind) (request : TransferRequest) :
    TransferContext :=
  if request.place = TransferRequest.wholeLinePlace then
    { kind
      address := request.address.toNat
      place := 0
      block := decide (0 < geometry.blockTransferCount)
      remaining := geometry.blockTransferCount
      step := geometry.stepBytes
      count := geometry.blockTransferCount }
  else
    { kind
      address := request.address.toNat
      place := request.place.toNat
      block := false
      remaining := 0
      step := geometry.stepBytes
      count := 1 }

/-- The context of the unit after the current one. -/
def nextUnit (context : TransferContext) : TransferContext :=
  { context with
    address := context.address + context.step
    place := context.place + 1
    remaining := context.remaining - 1
    block := context.block && decide (1 < context.remaining) }

/-- Goes on with a step of a job. -/
def continueWith (engine : Engine) (step : Step) (job : Job) : Engine :=
  { engine with state.phase := .serve step job }

/-- Ends a request without touching a cache; ready is raised all the same. -/
def refuse (engine : Engine) : Engine :=
  { engine with state.phase := .await, state.ready := true }

/-- Waits for a start pulse, and lowers ready once start is low. -/
def await (engine : Engine) (inputs : Inputs) : Engine :=
  if engine.state.ready then
    if inputs.start then engine else { engine with state.ready := false }
  else if inputs.start then
    { engine with
      state.phase := .decode ⟨inputs.selector, inputs.address, inputs.place⟩
      state.stats.requests := engine.state.stats.requests + 1 }
  else engine

/-- Finds the cache of a request and how many units it takes. -/
def decode (engine : Engine) (request : TransferRequest) : Engine :=
  match CacheKind.ofSelector? request.selector with
  | none =>
    { engine with
      state.stats.abortedRequests := engine.state.stats.abortedRequests + 1 }.refuse
  | some kind =>
    engine.continueWith .validate ⟨request, contextOf (engine.features.get kind) kind request, 0⟩

/-- Turns down a place beyond the end of a data line. -/
def validate (engine : Engine) (job : Job) : Engine :=
  let kind := job.context.kind
  if kind.isData ∧ (engine.features.get kind).places ≤ job.context.place then
    { engine with
      state.stats.rejectedRequests := engine.state.stats.rejectedRequests + 1 }.refuse
  else engine.continueWith .process job

/-- Shows the place to the caches. -/
def process (engine : Engine) (job : Job) : Engine :=
  let shown := { engine with outputs.place := engine.outputs.place.drive job.context.place }
  shown.continueWith (if job.context.kind = .dataOut then .writeEnable else .writeData) job

/-- Puts the unit at the current address on the outbound wire, or nothing if
the memory does not have it. -/
def writeData (engine : Engine) (job : Job) : Engine :=
  let context := job.context
  let loaded := match engine.memory.read context.address context.step with
    | .ok bytes =>
      { engine with
        outputs.outbound := engine.outputs.outbound.drive bytes
        state.stats.bytesToCache := engine.state.stats.bytesToCache + context.step }
    | .error _ =>
      { engine with
        outputs.outbound := engine.outputs.outbound.drive []
        state.stats.boundsViolations := engine.state.stats.boundsViolations + 1 }
  loaded.continueWith .writeEnable job

/-- Drives the write enable of a cache. -/
def driveWriteEnable (engine : Engine) (kind : CacheKind) (level : Bool) : Engine :=
  { engine with
    outputs.writeEnable := engine.outputs.writeEnable.modify kind (·.drive level) }

/-- The record of a job whose last unit is done. -/
def recordOf (job : Job) : TransferRecord where
  kind := job.context.kind
  startAddress := job.request.address.toNat
  finalAddress := job.context.address
  transferCount := job.context.count
  transfers := job.done

/-- Counts a unit and goes on to the next one, or raises ready after the last. -/
def unitDone (engine : Engine) (job : Job) : Engine :=
  let job := { job with done := job.done + 1 }
  let counted := { engine with state.stats.transfers := engine.state.stats.transfers + 1 }
  if job.context.block then counted.continueWith .block job
  else
    { counted.continueWith .finish job with
      state.ready := true
      state.lastTransfer := some (recordOf job) }

/-- Waits for the acknowledgement of the cache. -/
def waitAck (engine : Engine) (inputs : Inputs) (job : Job) : Engine :=
  let kind := job.context.kind
  if inputs.acks.get kind then
    if kind = .dataOut then engine.continueWith .readData job
    else (engine.driveWriteEnable kind false).unitDone job
  else engine

/-- Writes the unit on the inbound wire to memory, unless it does not fit. -/
def readData (engine : Engine) (inputs : Inputs) (job : Job) : Engine :=
  let context := job.context
  let unit := inputs.inbound.take context.step
  let stored := match engine.memory.write context.address unit with
    | .ok memory =>
      { engine with
        memory
        state.stats.bytesToMemory := engine.state.stats.bytesToMemory + unit.length }
    | .error _ =>
      { engine with state.stats.boundsViolations := engine.state.stats.boundsViolations + 1 }
  (stored.driveWriteEnable context.kind false).unitDone job

/-- Holds ready until start is low. -/
def finish (engine : Engine) (inputs : Inputs) : Engine :=
  if inputs.start then engine
  else { engine with state.ready := false, state.phase := .await }

/-- One step of a job. -/
def serve (engine : Engine) (inputs : Inputs) (job : Job) : Step → Engine
  | .validate => engine.validate job
  | .process => engine.process job
  | .writeData => engine.writeData job
  | .writeEnable =>
    (engine.driveWriteEnable job.context.kind true).continueWith .waitAck job
  | .waitAck => engine.waitAck inputs job
  | .readData => engine.readData inputs job
  | .block => engine.continueWith .process { job with context := nextUnit job.context }
  | .finish => engine.finish inputs

/-- What the phase does in a tick. -/
def advance (engine : Engine) (inputs : Inputs) : Engine :=
  match engine.state.phase with
  | .await => engine.await inputs
  | .decode request => engine.decode request
  | .serve step job => engine.serve inputs job step

/-- Shows the ready flag on its wire. -/
def driveReady (engine : Engine) : Engine :=
  { engine with outputs.ready := engine.outputs.ready.drive engine.state.ready }

/-- One tick. -/
def tick (engine : Engine) (inputs : Inputs) : Engine :=
  ({ engine with cycle := engine.cycle + 1 }.advance inputs).driveReady

/-- Back to the state after power-up; memory stays, and so do the place and the
outbound unit on their wires. -/
def reset (engine : Engine) : Engine :=
  { engine with
    state := {}
    outputs.ready := engine.outputs.ready.drive false
    outputs.writeEnable := engine.outputs.writeEnable.map (·.drive false) }

/-- The clock edge of the output wires. -/
def commit (engine : Engine) : Engine :=
  { engine with
    outputs := {
      ready := engine.outputs.ready.commit
      writeEnable := engine.outputs.writeEnable.map Wire.commit
      place := engine.outputs.place.commit
      outbound := engine.outputs.outbound.commit } }

end Engine

end AccessController
