import AccessController.CommandLine.Arguments
import AccessController.Machine.Build
import AccessController.Settings

/-!
# The command

The command reads its settings, builds the machine with the program that they
name, runs it, and tells how the run ended. A dump of the memory is written
whether the run succeeded or not.
-/

namespace AccessController

/-- Why a program could not be loaded from its file. -/
inductive Program.LoadError where
  | unreadable (path : String) (error : FileError)
  | malformed (path : String) (error : Program.ParseError)
  deriving Repr, DecidableEq

def Program.LoadError.message : Program.LoadError → String
  | .unreadable path error => s!"failed to read program {Text.quoted path}: {error.message}"
  | .malformed path error => s!"in program {Text.quoted path}: {error.message}"

/-- Loads a program from a file of program text. -/
def Program.load {m : Type → Type} [Monad m] (files : FileAccess m) (path : String) :
    m (Except Program.LoadError Program) := do
  match ← files.readText path with
  | .error error => return .error (.unreadable path error)
  | .ok text => return (Program.parse text).mapError (.malformed path)

namespace CommandLine

/-- Why no machine comes of settings. -/
inductive SetupError where
  | settings (error : Settings.ParseError)
  | program (error : Program.LoadError)
  | build (error : BuildError)
  deriving Repr, DecidableEq

def SetupError.message : SetupError → String
  | .settings error => error.message
  | .program error => error.message
  | .build error => error.message

/-- Whether the error ends the command at once instead of being reported. -/
def SetupError.isFatal : SetupError → Bool
  | .settings .badSection => true
  | _ => false

/-- A machine that is ready to run. -/
structure Setup where
  machine : Machine
  settings : RunSettings
  log : List LogLine

/-- Builds the machine that settings and arguments describe. -/
def setUp {m : Type → Type} [Monad m] (files : FileAccess m) (document : String)
    (arguments? : Option Arguments) : m (Except SetupError Setup) := do
  match Settings.parse document with
  | .error error => return .error (.settings error)
  | .ok (read, sectionLog) =>
    let run := match arguments? with
      | some arguments => arguments.override read.run
      | none => read.run
    let settings := { read with run }
    match ← Program.load files run.program with
    | .error error => return .error (.program error)
    | .ok program =>
      match ← Machine.load files settings program with
      | .error error => return .error (.build error)
      | .ok (machine, buildLog) =>
        return .ok { machine, settings := run, log := sectionLog ++ buildLog }

/-- What the command leaves behind besides files. -/
structure Outcome where
  exitCode : Nat
  output : String := ""
  errors : List String := []
  log : List LogLine := []
  deriving Repr, DecidableEq

/-- The line that tells of a finished run. -/
def summary (report : Report) : String :=
  s!"finished in {report.cycles} cycles, {report.control.instructions} instructions, " ++
    s!"{report.engine.transfers} transfers"

/-- The version line. -/
def version : String := "cgra_mmu 0.1.0"

/-- The description of the command and its options. -/
def help : String :=
  "Usage: cgra_mmu [OPTIONS] <CONFIG_PATH>\n\n" ++
  "Arguments:\n" ++
  "  <CONFIG_PATH>  Path to config.toml\n\n" ++
  "Options:\n" ++
  "      --program <PROGRAM>            Override controller program path\n" ++
  "      --memory-image <MEMORY_IMAGE>  Override shared memory image path\n" ++
  "      --timeout <TIMEOUT>            Override tick budget\n" ++
  "      --log <LOG>                    Enable log at level (0:none, 1:info, 2:debug)\n" ++
  "      --report <REPORT>              Write a JSON run report to this path\n" ++
  "      --dump <DUMP>                  Dump shared memory to this path after the run\n" ++
  "  -h, --help                         Print help\n" ++
  "  -V, --version                      Print version\n"

/-- A failure that is reported. -/
def failure (messages : List String) (log : List LogLine) : Outcome where
  exitCode := 1
  errors := messages.map ("error: " ++ ·) ++ ["Error: 1"]
  log := log

/-- A failure in the midst of reading the settings. -/
def abort (message : String) : Outcome where
  exitCode := 101
  errors := [message]

/-- Runs a machine and writes the dump of its memory where it is asked for. -/
def runMachine {m : Type → Type} [Monad m] (files : FileAccess m) (setup : Setup)
    (dump : Option String) : m Outcome := do
  let (machine, result) ← setup.machine.simulate files setup.settings
  let dumpErrors ← match dump with
    | none => pure []
    | some path =>
      match ← machine.memory.dump files path with
      | .ok () => pure []
      | .error error => pure [error.message]
  let { settings, log := setupLog, .. } := setup
  let log := LogLine.upTo (.ofLevel settings.logLevel)
    (setupLog ++ setup.machine.runLog settings.timeout)
  match result with
  | .error error => return failure (dumpErrors ++ [error.message]) log
  | .ok report =>
    return {
      exitCode := 0
      output := summary report ++ "\n"
      errors := dumpErrors.map ("error: " ++ ·)
      log }

/-- Carries out a command line that has been understood. -/
def runArguments {m : Type → Type} [Monad m] (files : FileAccess m) (arguments : Arguments) :
    m Outcome := do
  match ← files.readText arguments.config with
  | .error error =>
    return { exitCode := 1, errors := [s!"failed to read config file: {error.message}"] }
  | .ok document =>
    match ← setUp files document (some arguments) with
    | .error error =>
      return if error.isFatal then abort error.message else failure [error.message] []
    | .ok setup => runMachine files setup arguments.dump

/-- Carries out a command line. -/
def run {m : Type → Type} [Monad m] (files : FileAccess m) (arguments : List String) :
    m Outcome := do
  match Arguments.parse arguments with
  | .error .displayVersion => return { exitCode := 0, output := version ++ "\n" }
  | .error .displayHelp => return { exitCode := 0, output := help }
  | .error reason => return { exitCode := 2, errors := [s!"usage: {reason.label}"] }
  | .ok parsed => runArguments files parsed

end CommandLine

end AccessController
