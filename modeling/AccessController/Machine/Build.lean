import AccessController.Files
import AccessController.Settings
import AccessController.Machine.Log

/-!
# Building a machine and running it on files

A machine is built from settings and a program: the engine, the controller, and
then the memory image is loaded. A finished run may leave its report in a file.
-/

namespace AccessController

/-- Why a machine cannot be built. -/
inductive BuildError where
  | engine (error : Engine.BuildError)
  | controller (error : Controller.BuildError)
  | image (error : Memory.ImageError)
  deriving Repr, DecidableEq

def BuildError.message : BuildError → String
  | .engine error => error.message
  | .controller error => error.message
  | .image error => error.message

/-- Why a simulation failed. -/
inductive SimulationError where
  | run (error : RunError)
  | report (path : String) (error : FileError)
  deriving Repr, DecidableEq

def SimulationError.message : SimulationError → String
  | .run error => error.message
  | .report path error =>
    s!"run report: failed to write report {Text.quoted path}: {error.message}"

namespace Machine

/-- A machine with a memory of zeros. -/
def build? (settings : Settings) (program : Program) : Except BuildError Machine := do
  let { memorySize, confGranularityBits, features } := settings.engine
  let engine ← (Engine.build? memorySize confGranularityBits features).mapError .engine
  let controller ←
    (Controller.build? settings.controller.programCapacity program).mapError .controller
  return .new controller engine { latency := settings.array.latency }

/-- What building a machine logs; the image line only if one was loaded. -/
def buildLog (settings : Settings) (program : Program) (imageSize? : Option Nat) :
    List LogLine :=
  let image := match settings.run.memoryImage, imageSize? with
    | some path, some count =>
      [LogLine.info s!"loaded {count} bytes from {Text.quoted path} into shared memory"]
    | _, _ => []
  [Engine.buildLog settings.engine.memorySize, Controller.buildLog program] ++ image ++
    [.info s!"sim: {wireCount} wires linked"]

/-- A machine with the memory image of the settings. -/
def load {m : Type → Type} [Monad m] (files : FileAccess m) (settings : Settings)
    (program : Program) : m (Except BuildError (Machine × List LogLine)) := do
  match build? settings program, settings.run.memoryImage with
  | .error error, _ => return .error error
  | .ok machine, none => return .ok (machine, buildLog settings program none)
  | .ok machine, some path =>
    match ← machine.memory.loadImage files path with
    | .error error => return .error (.image error)
    | .ok (memory, count) =>
      return .ok (machine.withMemory memory, buildLog settings program (some count))

/-- Runs the program and writes the report where the settings ask for it. -/
def simulate {m : Type → Type} [Monad m] (files : FileAccess m) (settings : RunSettings)
    (machine : Machine) : m (Machine × Except SimulationError Report) := do
  match machine.run settings.timeout, settings.report with
  | (failed, .error error), _ => return (failed, .error (.run error))
  | (finished, .ok report), none => return (finished, .ok report)
  | (finished, .ok report), some path =>
    match ← files.write path (textBytes report.render) with
    | .error error => return (finished, .error (.report path error))
    | .ok () => return (finished, .ok report)

end Machine

end AccessController
