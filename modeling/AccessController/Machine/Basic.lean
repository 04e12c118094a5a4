import AccessController.Controller.Basic
import AccessController.Datapath.Basic
import AccessController.EchoArray

/-!
# The machine

Controller, datapath and array on one clock. In a tick the array looks at the
caches first and its results are stored; then the other components tick, each
from the levels of the wires, and at last the clock edge commits all wires.
Since components read levels and write only what is their own, the order of
their ticks does not matter.
-/

namespace AccessController

/-- The pins driven from outside the machine. -/
structure ExternalPins where
  run : Wire Bool := .rest false
  pause : Wire Bool := .rest false
  reset : Wire Bool := .rest false
  deriving Repr, DecidableEq

/-- The clock edge. -/
def ExternalPins.commit (pins : ExternalPins) : ExternalPins :=
  ⟨pins.run.commit, pins.pause.commit, pins.reset.commit⟩

/-- The whole machine with the number of its ticks. -/
structure Machine where
  controller : Controller
  datapath : Datapath
  array : EchoArray
  pins : ExternalPins := {}
  cycle : Nat := 0

namespace Machine

/-- The wires of the machine: 5 between controller and engine, 2 from the engine
to all caches, 5 for each cache, 3 around the array and the finish line, and
the 3 pins. -/
def wireCount : Nat := 5 + 2 + 5 * CacheKind.all.length + 3 + 3

/-- A machine after power-up. The selectors of the output lines are at rest at
the lines that the caches show. -/
def new (controller : Controller) (engine : Engine) (array : EchoArray) : Machine :=
  let datapath := Datapath.new engine
  { controller := { controller with
      outputs.selectOut := datapath.caches.map fun cache => .rest (UInt8.ofNat cache.outputLine) }
    datapath
    array }

/-- Sets a pin, which takes effect in the next tick. -/
def setRun (machine : Machine) (level : Bool) : Machine :=
  { machine with pins.run := machine.pins.run.force level }

def setPause (machine : Machine) (level : Bool) : Machine :=
  { machine with pins.pause := machine.pins.pause.force level }

def setReset (machine : Machine) (level : Bool) : Machine :=
  { machine with pins.reset := machine.pins.reset.force level }

/-- The shared memory. -/
def memory (machine : Machine) : Memory := machine.datapath.engine.memory

def withMemory (machine : Machine) (memory : Memory) : Machine :=
  { machine with datapath := machine.datapath.withMemory memory }

/-- A cache of the machine. -/
def cache (machine : Machine) (kind : CacheKind) : Cache := machine.datapath.caches.get kind

/-- The level of the finish line. -/
def finishLevel (machine : Machine) : Bool := machine.controller.outputs.finish.level

/-- The lines that the array sees. -/
def arrayInputs (machine : Machine) : ArrayInputs where
  confPe := (machine.cache .confPe).currentLine
  confCc := (machine.cache .confCc).currentLine
  values := (machine.cache .dataIn).currentLine

/-- The levels that the controller samples. -/
def controlPins (machine : Machine) : ControlPins where
  run := machine.pins.run.level
  pause := machine.pins.pause.level
  reset := machine.pins.reset.level
  engineReady := machine.datapath.engine.outputs.ready.level
  arrayReady := machine.array.ready.level

/-- The levels that reach the datapath. -/
def datapathInputs (machine : Machine) : DatapathInputs :=
  let outputs := machine.controller.outputs
  { start := outputs.engineStart.level
    selector := outputs.selector.level
    address := outputs.address.level
    place := outputs.place.level
    selectIn := outputs.selectIn.map (·.level)
    selectOut := outputs.selectOut.map (·.level) }

/-- The results that fit a line of the cache for results. -/
def fittingResults (machine : Machine) (values : List UInt64) : List UInt64 :=
  values.take (machine.cache .dataOut).geometry.places

/-- Stores results of the array; results that cannot be stored are dropped. -/
def storeResults (machine : Machine) (values : List UInt64) : Machine :=
  match machine.datapath.storeResults .dataOut (machine.fittingResults values) with
  | .ok datapath => { machine with datapath }
  | .error _ => machine

/-- The tick of the array, with its results if it has any. -/
def arrayTick (machine : Machine) : EchoArray × Option (List UInt64) :=
  machine.array.tick machine.controller.outputs.arrayStart.level machine.arrayInputs

/-- The array ticks and its results are stored. -/
def stepArray (machine : Machine) : Machine :=
  let stepped := { machine with array := machine.arrayTick.1 }
  match machine.arrayTick.2 with
  | some values => stepped.storeResults values
  | none => stepped

/-- The components that tick once the array has. -/
inductive Component where
  | controller
  | engine
  | cache (kind : CacheKind)
  deriving Repr, DecidableEq

/-- All of them. -/
def Component.all : List Component := .controller :: .engine :: CacheKind.all.map .cache

/-- The tick of one component. -/
def tickComponent (machine : Machine) : Component → Machine
  | .controller => { machine with controller := machine.controller.tick machine.controlPins }
  | .engine => { machine with datapath := machine.datapath.tickEngine machine.datapathInputs }
  | .cache kind =>
    { machine with datapath := machine.datapath.tickCache machine.datapathInputs kind }

/-- The clock edge of all wires. -/
def commit (machine : Machine) : Machine where
  controller := machine.controller.commit
  datapath := machine.datapath.commit
  array := machine.array.commit
  pins := machine.pins.commit
  cycle := machine.cycle

/-- One tick. -/
def tick (machine : Machine) : Machine :=
  let ticked := (Component.all.foldl tickComponent machine.stepArray).commit
  { ticked with cycle := machine.cycle + 1 }

/-- Sets the selectors of the output lines to the lines that the caches show. -/
def alignSelectors (machine : Machine) : Machine :=
  { machine with
    controller.outputs.selectOut :=
      machine.datapath.caches.map fun cache => .rest (UInt8.ofNat cache.outputLine) }

/-- Resets every component and the number of ticks. Memory and pins stay. -/
def reset (machine : Machine) : Machine :=
  let cleared := { machine with
    controller := machine.controller.reset
    datapath := machine.datapath.reset
    array := machine.array.reset }
  { cleared.commit.alignSelectors with cycle := 0 }

end Machine

end AccessController
