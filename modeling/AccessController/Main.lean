import AccessController.CommandLine.Run

/-!
# The program

The command on real files: what it prints goes to standard output, its log and
its errors to standard error.
-/

namespace AccessController

/-- The cause of a failed file operation. -/
def fileErrorOf : IO.Error → FileError
  | .noFileOrDirectory _ code details | .interrupted _ code details
  | .alreadyExists _ code details | .invalidArgument _ code details
  | .permissionDenied _ code details | .resourceExhausted _ code details
  | .inappropriateType _ code details | .noSuchThing _ code details
  | .otherError code details | .resourceBusy code details | .resourceVanished code details
  | .unsupportedOperation code details | .hardwareFault code details
  | .unsatisfiedConstraints code details | .illegalOperation code details
  | .protocolError code details | .timeExpired code details => .system code.toNat details
  | .unexpectedEof => .system 0 "unexpected end of file"
  | .userError details => .system 0 details

/-- The result of a file operation, or the cause of its failure. -/
def attempt {α : Type} (operation : IO α) : IO (Except FileError α) := do
  try
    return .ok (← operation)
  catch error =>
    return .error (fileErrorOf error)

/-- The files of the surrounding system. -/
def realFiles : FileAccess IO where
  read path := attempt do return (← IO.FS.readBinFile path).toList
  write path bytes := attempt (IO.FS.writeBinFile path ⟨bytes.toArray⟩)

end AccessController

open AccessController in
/-- Carries out the command line and ends with its exit code. -/
def main (arguments : List String) : IO UInt32 := do
  let outcome ← CommandLine.run realFiles arguments
  outcome.log.forM fun line => IO.eprintln line.render
  IO.print outcome.output
  outcome.errors.forM fun line => IO.eprintln line
  return UInt32.ofNat outcome.exitCode
