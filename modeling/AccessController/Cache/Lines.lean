import AccessController.Bytes
import AccessController.Cache.Geometry

/-!
# Lines of a cache

A configuration line is one wide number, assembled from a stream of narrow
chunks with the most significant one first. A data line is a row of elements
that are written one at a time. The operations are total; what would reach
outside the lines is found by the corresponding `Fault?` function.
-/

namespace AccessController

/-- One line as the array sees it. -/
inductive Line where
  | config (value : Nat)
  | data (elements : List UInt64)
  deriving Repr, DecidableEq

/-- The lines of one cache. -/
inductive Lines where
  | config (values : List Nat)
  | data (rows : List (List UInt64))
  deriving Repr, DecidableEq

namespace Lines

/-- All lines zero, in the shape of the cache. -/
def blank (geometry : Geometry) : Lines :=
  if geometry.isConfig then .config (List.replicate geometry.lineCount 0)
  else .data (List.replicate geometry.lineCount (List.replicate geometry.places 0))

/-- What keeps the lines from being laid out. -/
def blankFault? (geometry : Geometry) : Option ArithmeticFault :=
  geometry.placesFault?

/-- The number of lines. -/
def count : Lines → Nat
  | .config values => values.length
  | .data rows => rows.length

/-- The line of an index, if there is one. -/
def line? : Lines → Nat → Option Line
  | .config values, index => values[index]?.map .config
  | .data rows, index => rows[index]?.map .data

/-- The line of an index; past the last line there is only an empty row. -/
def line (lines : Lines) (index : Nat) : Line := (lines.line? index).getD (.data [])

/-- All lines in order. -/
def toList : Lines → List Line
  | .config values => values.map .config
  | .data rows => rows.map .data

/-- Rotates a number of `width` bits to the left by `chunk` bits. -/
def rotateLeft (width chunk value : Nat) : Nat :=
  ((value <<< chunk) &&& Bits.lowMask width) ||| (value >>> (width - chunk))

/-- Rotates a line by one chunk and puts the chunk into its lowest bits. -/
def mergeChunk (width chunk : Nat) (datum : Bytes) (value : Nat) : Nat :=
  rotateLeft width chunk value ||| (datum.word.toNat &&& Bits.wordMask chunk)

/-- The lowest `width` bits of a word. -/
def truncateElement (width : Nat) (word : UInt64) : UInt64 :=
  UInt64.ofNat (word.toNat &&& Bits.wordMask width)

/-- Merges one streamed datum into a line: into the lowest bits of a
configuration line, or as the element at a place. -/
def merge (geometry : Geometry) (lines : Lines) (line place : Nat) (datum : Bytes) : Lines :=
  match lines with
  | .config values =>
    .config (values.modify line (mergeChunk geometry.lineBits geometry.granularityBits datum))
  | .data rows =>
    .data (rows.modify line (·.set place (truncateElement geometry.widthBits datum.word)))

/-- The bytes of the element at a place. Configuration lines have no elements. -/
def element? (geometry : Geometry) (lines : Lines) (line place : Nat) : Option Bytes :=
  match lines with
  | .config _ => none
  | .data rows =>
    some (Bytes.ofWord ((rows.getD line []).getD place 0) (geometry.widthBits / 8))

/-- Why a line cannot be filled with values. -/
inductive FillError where
  | configurationLine
  | lineOutOfRange (line : Nat)
  | tooManyValues (count places : Nat)
  deriving Repr, DecidableEq

def FillError.message : FillError → String
  | .configurationLine => "configuration lines are only written by streaming"
  | .lineOutOfRange line => s!"line {line} out of range"
  | .tooManyValues count places => s!"{count} values do not fit a line of {places} places"

/-- Overwrites a row with values from its first place on and keeps the rest. -/
def fillRow (width : Nat) (values row : List UInt64) : List UInt64 :=
  values.map (truncateElement width) ++ row.drop values.length

/-- Overwrites a data line with values from its first place on. -/
def fill (geometry : Geometry) (lines : Lines) (line : Nat) (values : List UInt64) :
    Except FillError Lines :=
  match lines with
  | .config _ => .error .configurationLine
  | .data rows =>
    match rows[line]? with
    | none => .error (.lineOutOfRange line)
    | some row =>
      if row.length < values.length then .error (.tooManyValues values.length row.length)
      else .ok (.data (rows.set line (fillRow geometry.widthBits values row)))

/-- All lines zero again, in the shape that they have. -/
def clear : Lines → Lines
  | .config values => .config (values.map fun _ => 0)
  | .data rows => .data (rows.map fun row => row.map fun _ => 0)

/-- What is wrong with an index into a list. -/
def indexFault? {α : Type} (entries : List α) (index : Nat) : Option ArithmeticFault :=
  if index < entries.length then none else some (.outOfBounds entries.length index)

/-- What is wrong with the access to a line. -/
def lineFault? (lines : Lines) (line : Nat) : Option ArithmeticFault :=
  match lines with
  | .config values => indexFault? values line
  | .data rows => indexFault? rows line

/-- What is wrong with the access to an element. -/
def elementFault? (lines : Lines) (line place : Nat) : Option ArithmeticFault :=
  match lines with
  | .config _ => none
  | .data rows => indexFault? rows line <|> indexFault? (rows.getD line []) place

/-- What is wrong with a merge. -/
def mergeFault? (geometry : Geometry) (lines : Lines) (line place : Nat) :
    Option ArithmeticFault :=
  match lines with
  | .config values =>
    indexFault? values line <|>
      if geometry.lineBits < geometry.granularityBits then some .subtractionOverflow else none
  | .data _ => lines.elementFault? line place

/-- Merges a datum, or reports what is wrong with it. -/
def merge? (geometry : Geometry) (lines : Lines) (line place : Nat) (datum : Bytes) :
    Except ArithmeticFault Lines :=
  match lines.mergeFault? geometry line place with
  | some fault => .error fault
  | none => .ok (lines.merge geometry line place datum)

/-- Reads an element, or reports what is wrong with the access. -/
def readElement? (geometry : Geometry) (lines : Lines) (line place : Nat) :
    Except ArithmeticFault (Option Bytes) :=
  match lines.elementFault? line place with
  | some fault => .error fault
  | none => .ok (lines.element? geometry line place)

/-- Reads a line, or reports what is wrong with the access. -/
def readLine? (lines : Lines) (line : Nat) : Except ArithmeticFault Line :=
  match lines.lineFault? line with
  | some fault => .error fault
  | none => .ok (lines.line line)

end Lines

end AccessController
