import AccessController.Assembler
import AccessController.Signal.Wire

/-!
# The state of the controller

The controller has two layers of state. Its activity says whether instructions
are executed at all; its stage is the step that the current instruction has
reached, and moves only while the activity is `running`.
-/

namespace AccessController

/-- What the controller waits for. -/
inductive Awaited where
  | engine
  | array
  deriving Repr, DecidableEq

/-- Whether instructions are executed. -/
inductive Activity where
  | paused
  | running
  | stopped
  | waiting (awaited : Awaited)
  | failed
  deriving Repr, DecidableEq

/-- The name of an activity in messages. -/
def Activity.label : Activity → String
  | .paused => "Pause"
  | .running => "Run"
  | .stopped => "Stop"
  | .waiting .engine => "Wait(Mmu)"
  | .waiting .array => "Wait(Array)"
  | .failed => "Error"

/-- The step that the current instruction has reached. -/
inductive Stage where
  | idle
  | advance
  | fetch
  | decode
  | transfer (operation : TransferOp)
  | awaitEngine
  | engineDone
  | select (kind : CacheKind)
  | start
  | waitReady
  | finish
  deriving Repr, DecidableEq

/-- The name of a stage in messages. -/
def Stage.label : Stage → String
  | .idle => "Noop"
  | .advance => "AdaptPp"
  | .fetch => "Fetch"
  | .decode => "Decode"
  | .transfer operation => operation.label
  | .awaitEngine => "WaitMmu"
  | .engineDone => "ContMmu"
  | .select kind => s!"SelectLine({kind.label})"
  | .start => "Start"
  | .waitReady => "WaitReady"
  | .finish => "Finish"

/-- The levels that the controller samples. -/
structure ControlPins where
  run : Bool := false
  pause : Bool := false
  reset : Bool := false
  engineReady : Bool := false
  arrayReady : Bool := false
  deriving Repr, DecidableEq

/-- What the controller has counted. -/
structure ControlStats where
  instructions : Nat := 0
  engineRequests : Nat := 0
  waitCycles : Nat := 0
  pauseCycles : Nat := 0
  unknownOpcodes : Nat := 0
  ignoredEdges : Nat := 0
  deriving Repr, DecidableEq

/-- An edge of the engine's ready that the controller did not wait for. -/
structure Desynchronized where
  rising : Bool
  activity : Activity
  pointer : Nat
  deriving Repr, DecidableEq

def Desynchronized.message (fault : Desynchronized) : String :=
  let edge := if fault.rising then "rising" else "falling"
  s!"mmu ready {edge} edge while {fault.activity.label} at pp {fault.pointer}: " ++
    "controller and engine out of sync"

/-- What the controller remembers from tick to tick. -/
structure ControlState where
  activity : Activity := .stopped
  stage : Stage := .idle
  /-- The program pointer. -/
  pointer : Nat := 0
  /-- The instruction fetched last. -/
  instruction : Instruction := {}
  /-- The levels sampled at the tick before. -/
  sampled : ControlPins := {}
  /-- Whether the array has become ready since the last start or wait. -/
  arrayDone : Bool := false
  engineStartHigh : Bool := false
  arrayStartHigh : Bool := false
  fault : Option Desynchronized := none
  stats : ControlStats := {}
  deriving Repr, DecidableEq

/-- The wires that the controller drives. -/
structure ControlOutputs where
  engineStart : Wire Bool := .rest false
  selector : Wire UInt8 := .rest 0
  address : Wire UInt16 := .rest 0
  place : Wire UInt8 := .rest 0
  selectIn : PerCache (Wire UInt8) := .replicate (.rest 0)
  selectOut : PerCache (Wire UInt8) := .replicate (.rest 0)
  arrayStart : Wire Bool := .rest false
  finish : Wire Bool := .rest false
  deriving Repr, DecidableEq

/-- The clock edge. -/
def ControlOutputs.commit (outputs : ControlOutputs) : ControlOutputs where
  engineStart := outputs.engineStart.commit
  selector := outputs.selector.commit
  address := outputs.address.commit
  place := outputs.place.commit
  selectIn := outputs.selectIn.map Wire.commit
  selectOut := outputs.selectOut.map Wire.commit
  arrayStart := outputs.arrayStart.commit
  finish := outputs.finish.commit

end AccessController
