import AccessController.Assembler
import AccessController.Settings

/-!
# Command-line arguments

One argument names the settings file, and options override single settings. An
option takes its value from behind an equals sign or from the next argument, is
given at most once, and is recognised by its full name. After `--` every
argument is a name.
-/

namespace AccessController

/-- What the command line asks for. -/
structure Arguments where
  config : String
  program : Option String := none
  memoryImage : Option String := none
  timeout : Option Nat := none
  log : Option Nat := none
  report : Option String := none
  dump : Option String := none
  deriving Repr, DecidableEq

namespace Arguments

/-- Why a command line is not carried out. -/
inductive Stop where
  | displayHelp
  | displayVersion
  | unknownArgument
  | invalidValue
  | valueValidation
  | tooManyValues
  | argumentConflict
  | missingRequiredArgument
  deriving Repr, DecidableEq

/-- The name of the reason. -/
def Stop.label : Stop → String
  | .displayHelp => "DisplayHelp"
  | .displayVersion => "DisplayVersion"
  | .unknownArgument => "UnknownArgument"
  | .invalidValue => "InvalidValue"
  | .valueValidation => "ValueValidation"
  | .tooManyValues => "TooManyValues"
  | .argumentConflict => "ArgumentConflict"
  | .missingRequiredArgument => "MissingRequiredArgument"

/-- What a value can be given for. -/
inductive Target where
  | config
  | program
  | memoryImage
  | timeout
  | log
  | report
  | dump
  deriving Repr, DecidableEq

/-- The option of a name. -/
def Target.ofName? : String → Option Target
  | "program" => some .program
  | "memory-image" => some .memoryImage
  | "timeout" => some .timeout
  | "log" => some .log
  | "report" => some .report
  | "dump" => some .dump
  | _ => none

/-- The arguments read so far. -/
structure Draft where
  config : Option String := none
  program : Option String := none
  memoryImage : Option String := none
  timeout : Option Nat := none
  log : Option Nat := none
  report : Option String := none
  dump : Option String := none

namespace Draft

/-- A file name, which is never empty. -/
def path (value : String) : Except Stop String :=
  if value = "" then .error .invalidValue else .ok value

/-- A natural number of 64 bits. -/
def natural (value : String) : Except Stop Nat :=
  (Number.readUnsigned 10 0x10000000000000000 value.toList).mapError fun _ => .valueValidation

/-- Fills a place that must be empty with a value that has to be good. -/
def fill {α : Type} (place : Option α) (value : Except Stop α) : Except Stop (Option α) :=
  match place with
  | some _ => .error .argumentConflict
  | none => value.map some

/-- Takes in a value. -/
def give (draft : Draft) (value : String) : Target → Except Stop Draft
  | .config => return { draft with config := ← fill draft.config (path value) }
  | .program => return { draft with program := ← fill draft.program (path value) }
  | .memoryImage => return { draft with memoryImage := ← fill draft.memoryImage (path value) }
  | .timeout => return { draft with timeout := ← fill draft.timeout (natural value) }
  | .log => return { draft with log := ← fill draft.log (natural value) }
  | .report => return { draft with report := ← fill draft.report (path value) }
  | .dump => return { draft with dump := ← fill draft.dump (path value) }

end Draft

/-- A value, or the lack of one, that is taken in when the next argument has
been recognised. -/
inductive Pending where
  | nothing
  | awaiting (target : Target)
  | ready (target : Target) (value : String)
  deriving Repr, DecidableEq

/-- Takes in what is pending. An option without its value is an error. -/
def settle (draft : Draft) : Pending → Except Stop Draft
  | .nothing => .ok draft
  | .awaiting _ => .error .invalidValue
  | .ready target value => draft.give value target

/-- What one argument is, by its form. -/
inductive Form where
  | endOfOptions
  | option (name : String) (value : Option String)
  | flags (letters : List Char)
  | plain
  deriving Repr, DecidableEq

/-- The form of an argument. A single dash is a plain value. -/
def formOf (argument : String) : Form :=
  match argument.toList with
  | ['-', '-'] => .endOfOptions
  | '-' :: '-' :: rest =>
    let name := String.ofList (rest.takeWhile (· != '='))
    match rest.dropWhile (· != '=') with
    | [] => .option name none
    | _ :: value => .option name (some (String.ofList value))
  | '-' :: letter :: rest => .flags (letter :: rest)
  | _ => .plain

/-- What has been read of a command line. -/
structure Progress where
  draft : Draft := {}
  pending : Pending := .nothing
  onlyNames : Bool := false
  namesSeen : Nat := 0

namespace Progress

/-- Takes in what is pending and leaves something else pending. -/
def settled (progress : Progress) (pending : Pending) : Except Stop Progress := do
  return { progress with draft := ← settle progress.draft progress.pending, pending }

/-- Ends with a reason, after what is pending has been taken in. -/
def stopWith (progress : Progress) (reason : Stop) : Except Stop Progress := do
  let _ ← settle progress.draft progress.pending
  throw reason

/-- Takes in the name of a file. There is room for one. -/
def name (progress : Progress) (argument : String) : Except Stop Progress :=
  if progress.namesSeen = 0 then
    { progress with namesSeen := 1 }.settled (.ready .config argument)
  else .error .unknownArgument

/-- Takes in an option with what stands behind its equals sign. -/
def option (progress : Progress) (name : String) (value? : Option String) :
    Except Stop Progress :=
  match name, value? with
  | "help", some _ | "version", some _ => .error .tooManyValues
  | "help", none => progress.stopWith .displayHelp
  | "version", none => progress.stopWith .displayVersion
  | _, _ =>
    match Target.ofName? name, value? with
    | none, _ => .error .unknownArgument
    | some target, none => progress.settled (.awaiting target)
    | some target, some value => do
      let settled ← progress.settled .nothing
      return { settled with draft := ← settled.draft.give value target }

/-- Takes in one argument. -/
def next (progress : Progress) (argument : String) : Except Stop Progress :=
  if progress.onlyNames then progress.name argument
  else
    match formOf argument with
    | .endOfOptions => .ok { progress with onlyNames := true }
    | .option name value? => progress.option name value?
    | .flags ('h' :: _) => progress.stopWith .displayHelp
    | .flags ('V' :: _) => progress.stopWith .displayVersion
    | .flags _ => .error .unknownArgument
    | .plain =>
      match progress.pending with
      | .awaiting target => .ok { progress with pending := .ready target argument }
      | _ => progress.name argument

end Progress

/-- Reads the arguments of a command line. -/
def parse (arguments : List String) : Except Stop Arguments := do
  let progress ← arguments.foldlM Progress.next {}
  let { config, program, memoryImage, timeout, log, report, dump } ←
    settle progress.draft progress.pending
  match config with
  | some config => return { config, program, memoryImage, timeout, log, report, dump }
  | none => throw .missingRequiredArgument

/-- The settings of a run with the overrides of a command line. -/
def override (arguments : Arguments) (settings : RunSettings) : RunSettings where
  program := arguments.program.getD settings.program
  memoryImage := arguments.memoryImage <|> settings.memoryImage
  timeout := arguments.timeout.getD settings.timeout
  logLevel := arguments.log.getD settings.logLevel
  report := arguments.report <|> settings.report

end Arguments

end AccessController
