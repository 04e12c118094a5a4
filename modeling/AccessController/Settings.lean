import AccessController.Log
import AccessController.Toml.Document

/-!
# Settings

What can be chosen about a machine and its run, in four groups. Every setting
has a default.
-/

namespace AccessController

/-- Settings of a run: files are named by their paths. -/
structure RunSettings where
  /-- The program text. -/
  program : String := ""
  /-- The image copied to the start of shared memory, if any. -/
  memoryImage : Option String := none
  logLevel : Nat := 0
  /-- The ticks within which the program has to finish. -/
  timeout : Nat := 100000
  /-- The file for the report of the run, if any. -/
  report : Option String := none
  deriving Repr, DecidableEq

/-- Settings of the transfer engine and its caches. -/
structure EngineSettings where
  memorySize : Nat := 65536
  /-- The streaming unit of the configuration caches, in bits. -/
  confGranularityBits : Nat := 8
  /-- Bytes of a line, lines and width in bits for each of the four caches. -/
  features : List Nat := [16, 2, 32, 16, 2, 32, 6, 2, 48, 4, 2, 32]
  deriving Repr, DecidableEq

/-- Settings of the controller. -/
structure ControllerSettings where
  /-- The instructions that the program memory holds. -/
  programCapacity : Nat := 256
  deriving Repr, DecidableEq

/-- Settings of the array. -/
structure ArraySettings where
  /-- The ticks between the start pulse and the results. -/
  latency : Nat := 8
  deriving Repr, DecidableEq

/-- All settings of a machine and its run. -/
structure Settings where
  run : RunSettings := {}
  engine : EngineSettings := {}
  controller : ControllerSettings := {}
  array : ArraySettings := {}
  deriving Repr, DecidableEq

/-!
## Settings in TOML

Each group of settings is a section of a TOML document. A section that is not
there leaves its defaults and a warning; a key that is not there leaves its
default; unknown keys do not matter. A section may also be written as an array
of its settings in their order.
-/

namespace Toml.Value

/-- A natural number. -/
def natural? : Value → Option Nat
  | .integer (.ofNat value) => some value
  | _ => none

/-- A text, or the text of a date or time. -/
def text? : Value → Option String
  | .text value => some value
  | .moment value => some value
  | _ => none

/-- The members of an array, one of tables included. -/
def members? : Value → Option (List Value)
  | .array members => some members
  | .tables members => some (members.map (.table .header))
  | _ => none

/-- A list of natural numbers. -/
def naturals? (value : Value) : Option (List Nat) := do
  (← value.members?).mapM natural?

/-- The settings of a section by name. An array gives them in the order of
`names` and has no more members than that. -/
def settings? (names : List String) : Value → Option (List (String × Value))
  | .table _ entries => some entries
  | value => do
    let members ← value.members?
    if members.length ≤ names.length then return names.zip members else none

end Toml.Value

namespace Settings

open Toml (Value)

/-- Reads one setting and leaves its default if it is not there. -/
def setting {α : Type} (settings : List (String × Value)) (name : String)
    (read : Value → Option α) (default : α) : Option α :=
  match settings.lookup name with
  | some value => read value
  | none => some default

/-- Reads the settings of a run. -/
def run? (group : Value) : Option RunSettings := do
  let settings ← group.settings? ["program", "memory_image", "log_level", "timeout", "report"]
  let default : RunSettings := {}
  return {
    program := ← setting settings "program" Value.text? default.program
    memoryImage := ← setting settings "memory_image" (some <$> ·.text?) default.memoryImage
    logLevel := ← setting settings "log_level" Value.natural? default.logLevel
    timeout := ← setting settings "timeout" Value.natural? default.timeout
    report := ← setting settings "report" (some <$> ·.text?) default.report }

/-- Reads the settings of the engine. -/
def engine? (group : Value) : Option EngineSettings := do
  let settings ← group.settings? ["memory_size", "conf_granularity_bits", "features"]
  let default : EngineSettings := {}
  return {
    memorySize := ← setting settings "memory_size" Value.natural? default.memorySize
    confGranularityBits :=
      ← setting settings "conf_granularity_bits" Value.natural? default.confGranularityBits
    features := ← setting settings "features" Value.naturals? default.features }

/-- Reads the settings of the controller. -/
def controller? (group : Value) : Option ControllerSettings := do
  let settings ← group.settings? ["program_capacity"]
  let default : ControllerSettings := {}
  return {
    programCapacity :=
      ← setting settings "program_capacity" Value.natural? default.programCapacity }

/-- Reads the settings of the array. -/
def array? (group : Value) : Option ArraySettings := do
  let settings ← group.settings? ["latency"]
  let default : ArraySettings := {}
  return { latency := ← setting settings "latency" Value.natural? default.latency }

/-- Why a text holds no settings. -/
inductive ParseError where
  | notToml
  | badSection
  deriving Repr, DecidableEq

def ParseError.message : ParseError → String
  | .notToml => "cannot parse config toml"
  | .badSection => "cannot deserialize config"

/-- Reads one section, with a warning and the defaults if it is not there. -/
def readSection {α : Type} (document : Toml.Entries) (name : String)
    (read : Value → Option α) (default : α) : Except ParseError (α × List LogLine) :=
  match document.lookup name with
  | none => .ok (default, [.warn "config section not found"])
  | some value =>
    match read value with
    | some settings => .ok (settings, [])
    | none => .error .badSection

/-- Reads all sections of a document. -/
def ofEntries? (document : Toml.Entries) : Except ParseError (Settings × List LogLine) := do
  let (run, runLog) ← readSection document "sim" run? {}
  let (engine, engineLog) ← readSection document "mmu" engine? {}
  let (controller, controllerLog) ← readSection document "ctrl" controller? {}
  let (array, arrayLog) ← readSection document "array" array? {}
  return ({ run, engine, controller, array }, runLog ++ engineLog ++ controllerLog ++ arrayLog)

/-- Reads settings from the text of a document. -/
def parse (text : String) : Except ParseError (Settings × List LogLine) :=
  match Toml.parse text with
  | none => .error .notToml
  | some document => ofEntries? document

end Settings

end AccessController
