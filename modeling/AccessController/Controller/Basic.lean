import AccessController.Controller.State

/-!
# The controller

The controller fetches, decodes and executes the instructions of its program. It
latches a request for the engine and pulses its start, moves the output lines of
the caches, starts the array and waits for it. Edges of its pins are found by
comparing them with the levels of the tick before; an edge of the engine's ready
that nobody waits for is fatal.
-/

namespace AccessController

/-- The controller with its program and its output wires. -/
structure Controller where
  program : Program
  state : ControlState := {}
  cycle : Nat := 0
  outputs : ControlOutputs := {}
  deriving Repr, DecidableEq

namespace Controller

/-- A program that the program memory cannot hold. -/
structure BuildError where
  size : Nat
  capacity : Nat
  deriving Repr, DecidableEq

def BuildError.message (error : BuildError) : String :=
  s!"program has {error.size} instructions but program memory holds {error.capacity}"

/-- A controller after power-up, with a program that fits. -/
def build? (capacity : Nat) (program : Program) : Except BuildError Controller :=
  if program.size ≤ capacity then .ok { program } else .error ⟨program.size, capacity⟩

/-- Moves to a stage. -/
def enter (controller : Controller) (stage : Stage) : Controller :=
  { controller with state.stage := stage }

/-- Changes the activity. -/
def become (controller : Controller) (activity : Activity) : Controller :=
  { controller with state.activity := activity }

/-- Ends the start pulses of the tick before. -/
def dropPulses (controller : Controller) : Controller :=
  let state := controller.state
  { controller with
    state.engineStartHigh := false
    state.arrayStartHigh := false
    outputs.engineStart := controller.outputs.engineStart.driveIf state.engineStartHigh false
    outputs.arrayStart := controller.outputs.arrayStart.driveIf state.arrayStartHigh false }

/-- An edge of the engine's ready: the falling one ends the wait for it, one
during a wait for the array is ignored, and any other is fatal. -/
def onEngineEdge (controller : Controller) (rising : Bool) : Controller :=
  match controller.state.activity with
  | .waiting .engine =>
    if rising then controller else (controller.become .running).enter .engineDone
  | .waiting .array =>
    { controller with state.stats.ignoredEdges := controller.state.stats.ignoredEdges + 1 }
  | activity =>
    { controller with
      state.fault := some ⟨rising, activity, controller.state.pointer⟩
      state.activity := .failed }

/-- The array has become ready: a wait for it ends, and without one the edge is
kept for the next wait. -/
def onArrayReady (controller : Controller) : Controller :=
  if controller.state.activity = .waiting .array then
    { (controller.become .running).enter .advance with state.arrayDone := false }
  else
    { controller with state.arrayDone := true }

/-- The reset pin is released: the controller stops at the first instruction. -/
def onResetReleased (controller : Controller) : Controller :=
  { (controller.become .stopped).enter .idle with state.arrayDone := false, state.pointer := 0 }

/-- The run pin rises: the instruction at the program pointer is fetched. -/
def onRun (controller : Controller) : Controller :=
  (controller.become .running).enter .fetch

/-- A running controller pauses while the pin is high and goes on when it
falls. -/
def onPause (controller : Controller) (before now : ControlPins) : Controller :=
  match controller.state.activity with
  | .running => if now.pause then controller.become .paused else controller
  | .paused => if before.pause && !now.pause then controller.become .running else controller
  | _ => controller

/-- Latches a request for the engine and raises its start pulse. -/
def request (controller : Controller) (operation : TransferOp) : Controller :=
  let instruction := controller.state.instruction
  let kind := operation.kind
  let place :=
    if operation.wholeLine then Instruction.wholeLinePlace else instruction.place
  let outputs := controller.outputs
  { controller with
    outputs := { outputs with
      selector := outputs.selector.drive kind.selector
      address := outputs.address.drive (UInt16.ofBitVec instruction.address)
      place := outputs.place.drive (UInt8.ofNat place.toNat)
      selectIn := outputs.selectIn.modify kind (·.drive (UInt8.ofNat instruction.line.toNat))
      engineStart := outputs.engineStart.drive true }
    state.engineStartHigh := true
    state.stats.engineRequests := controller.state.stats.engineRequests + 1
    state.stage := .awaitEngine
    state.activity := .waiting .engine }

/-- The stage that executes an instruction. -/
def Stage.ofOpcode : Opcode → Stage
  | .noop => .advance
  | .transfer operation => .transfer operation
  | .start => .start
  | .waitReady => .waitReady
  | .finish => .finish
  | .select kind => .select kind

/-- Finds the stage of the fetched instruction. An unknown one is skipped. -/
def dispatch (controller : Controller) : Controller :=
  match controller.state.instruction.operation? with
  | some opcode => controller.enter (Stage.ofOpcode opcode)
  | none =>
    { controller.enter .advance with
      state.stats.unknownOpcodes := controller.state.stats.unknownOpcodes + 1 }

/-- Fetches the instruction at the program pointer. A program that has run out
is finished. -/
def fetch (controller : Controller) : Controller :=
  match controller.program.word? controller.state.pointer with
  | some word =>
    { controller.enter .decode with state.instruction := .ofWord word }
  | none => controller.enter .finish

/-- Makes the line of the instruction the output line of a cache. -/
def select (controller : Controller) (kind : CacheKind) : Controller :=
  let line := UInt8.ofNat controller.state.instruction.line.toNat
  { controller.enter .advance with
    outputs.selectOut := controller.outputs.selectOut.modify kind (·.drive line) }

/-- Pulses the start of the array and forgets that it was ready before. -/
def startArray (controller : Controller) : Controller :=
  { controller.enter .advance with
    outputs.arrayStart := controller.outputs.arrayStart.drive true
    state.arrayStartHigh := true
    state.arrayDone := false }

/-- Goes on if the array has been ready, and waits for it otherwise. -/
def waitReady (controller : Controller) : Controller :=
  if controller.state.arrayDone then
    { controller.enter .advance with state.arrayDone := false }
  else controller.become (.waiting .array)

/-- Holds the finish line high until run is low, then rewinds. -/
def finish (controller : Controller) (run : Bool) : Controller :=
  let signalled := { controller with outputs.finish := controller.outputs.finish.drive run }
  if run then signalled else { signalled.enter .idle with state.pointer := 0 }

/-- Retires an instruction. -/
def advance (controller : Controller) : Controller :=
  { controller.enter .fetch with
    state.pointer := controller.state.pointer + 1
    state.stats.instructions := controller.state.stats.instructions + 1 }

/-- One step of a running controller. -/
def step (controller : Controller) (run : Bool) : Controller :=
  match controller.state.stage with
  | .idle => controller
  | .fetch => controller.fetch
  | .decode => controller.dispatch
  | .transfer operation => controller.request operation
  | .awaitEngine => controller.become (.waiting .engine)
  | .engineDone => controller.enter .advance
  | .select kind => controller.select kind
  | .start => controller.startArray
  | .waitReady => controller.waitReady
  | .finish => controller.finish run
  | .advance => controller.advance

/-- What the controller does once all edges have been seen. -/
def act (controller : Controller) (run : Bool) : Controller :=
  match controller.state.activity with
  | .running => controller.step run
  | .waiting _ =>
    { controller with state.stats.waitCycles := controller.state.stats.waitCycles + 1 }
  | .paused =>
    { controller with state.stats.pauseCycles := controller.state.stats.pauseCycles + 1 }
  | .stopped | .failed => controller

/-- Samples the pins after the pulses of the tick before have been ended. -/
def sample (controller : Controller) (pins : ControlPins) : Controller :=
  { { controller with cycle := controller.cycle + 1 }.dropPulses with state.sampled := pins }

/-- Reacts to an edge of the engine's ready, if there is one. -/
def engineEdge (controller : Controller) (before now : ControlPins) : Controller :=
  if now.engineReady = before.engineReady then controller
  else controller.onEngineEdge now.engineReady

/-- Reacts to a rising edge of the array's ready. -/
def arrayEdge (controller : Controller) (before now : ControlPins) : Controller :=
  if now.arrayReady && !before.arrayReady then controller.onArrayReady else controller

/-- Reacts to a falling edge of the reset pin. -/
def resetEdge (controller : Controller) (before now : ControlPins) : Controller :=
  if before.reset && !now.reset then controller.onResetReleased else controller

/-- Reacts to a rising edge of the run pin. -/
def runEdge (controller : Controller) (before now : ControlPins) : Controller :=
  if now.run && !before.run then controller.onRun else controller

/-- One tick. A failed controller only ends its pulses and samples its pins. -/
def tick (controller : Controller) (pins : ControlPins) : Controller :=
  let before := controller.state.sampled
  let sampled := controller.sample pins
  if sampled.state.activity = .failed then sampled
  else
    let synchronized := sampled.engineEdge before pins
    if synchronized.state.activity = .failed then synchronized
    else
      ((((synchronized.arrayEdge before pins).resetEdge before pins).runEdge before pins).onPause
        before pins).act pins.run

/-- Back to the state after power-up; the request, the line selectors and the
program stay. -/
def reset (controller : Controller) : Controller :=
  { controller with
    state := {}
    outputs.engineStart := controller.outputs.engineStart.drive false
    outputs.arrayStart := controller.outputs.arrayStart.drive false
    outputs.finish := controller.outputs.finish.drive false }

/-- The clock edge of the output wires. -/
def commit (controller : Controller) : Controller :=
  { controller with outputs := controller.outputs.commit }

end Controller

end AccessController
