/-!
# Log lines

Every component can say what a tick does. A line has a severity and a text, and
a reader asks for the lines of a severity and above.
-/

namespace AccessController

/-- How important a log line is. -/
inductive Severity where
  | error
  | warn
  | info
  | debug
  deriving Repr, DecidableEq

namespace Severity

/-- Severities in descending order of importance. -/
def rank : Severity → Nat
  | .error => 0
  | .warn => 1
  | .info => 2
  | .debug => 3

def label : Severity → String
  | .error => "ERROR"
  | .warn => "WARN"
  | .info => "INFO"
  | .debug => "DEBUG"

/-- The least important severity shown at a numeric log level: warnings at 0,
lifecycle at 1, and everything above. -/
def ofLevel : Nat → Severity
  | 0 => .warn
  | 1 => .info
  | _ => .debug

/-- The name of a threshold in settings. -/
def thresholdName : Severity → String
  | .error => "Error"
  | .warn => "Warn"
  | .info => "Info"
  | .debug => "Debug"

end Severity

/-- One line of the log. -/
structure LogLine where
  severity : Severity
  text : String
  deriving Repr, DecidableEq

namespace LogLine

def error (text : String) : LogLine := ⟨.error, text⟩

def warn (text : String) : LogLine := ⟨.warn, text⟩

def info (text : String) : LogLine := ⟨.info, text⟩

def debug (text : String) : LogLine := ⟨.debug, text⟩

/-- The line behind the name of its severity. -/
def render (line : LogLine) : String := s!"{line.severity.label} {line.text}"

/-- The lines of a severity and above. -/
def upTo (threshold : Severity) (lines : List LogLine) : List LogLine :=
  lines.filter fun line => line.severity.rank ≤ threshold.rank

end LogLine

end AccessController
