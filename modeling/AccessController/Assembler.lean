import AccessController.Bytes
import AccessController.Instruction

/-!
# Assembler

Program text is cut into lines and a line into words at its blanks. A line holds at
most one instruction, whose operands are numbers, and the first bad line is reported
by its number.
-/

namespace AccessController

/-!
## White space and lines

White space is the Unicode property `White_Space`.
-/

namespace Text

/-- The 25 characters of the Unicode property `White_Space`. -/
def isBlank (char : Char) : Bool :=
  let code := char.toNat
  (9 ≤ code && code ≤ 13) || code == 0x20 || code == 0x85 || code == 0xa0 ||
    code == 0x1680 || (0x2000 ≤ code && code ≤ 0x200a) || code == 0x2028 ||
    code == 0x2029 || code == 0x202f || code == 0x205f || code == 0x3000

/-- The maximal runs of characters that are not blank, in order. -/
def words (line : List Char) : List (List Char) :=
  (line.splitOnP isBlank).filter fun word => !word.isEmpty

/-- A line without the carriage return that ends it, if there is one. -/
def withoutReturn (line : List Char) : List Char :=
  if line.getLast? = some '\r' then line.dropLast else line

/-- The lines of a text: what stands between line feeds, each without a final
carriage return. A line feed at the end of the text starts no further line, and
only a line that a line feed ends loses its carriage return. -/
def lines (text : List Char) : List (List Char) :=
  let pieces := text.splitOn '\n'
  let closed := pieces.dropLast.map withoutReturn
  match pieces.getLast? with
  | none | some [] => closed
  | some last => closed ++ [last]

end Text

/-!
## Numbers

A number is written in decimal digits or, behind `0x` or `0X`, in hexadecimal
ones, with an optional plus sign in front of the digits. Underscores may stand
anywhere in it and mean nothing. It has to fit 32 bits.
-/

namespace Number

/-- Why a text is no number. Digits are judged from left to right, so the first
bad digit or the first overflow decides. -/
inductive Fault where
  | empty
  | invalidDigit
  | tooLarge
  deriving Repr, DecidableEq

def Fault.message : Fault → String
  | .empty => "cannot parse integer from empty string"
  | .invalidDigit => "invalid digit found in string"
  | .tooLarge => "number too large to fit in target type"

/-- The value of an ASCII digit or letter among the digits of a base. -/
def digitValue? (base : Nat) (char : Char) : Option Nat :=
  let code := char.toNat
  let value? :=
    if '0' ≤ char ∧ char ≤ '9' then some (code - '0'.toNat)
    else if 'a' ≤ char ∧ char ≤ 'z' then some (code - 'a'.toNat + 10)
    else if 'A' ≤ char ∧ char ≤ 'Z' then some (code - 'A'.toNat + 10)
    else none
  value?.filter (· < base)

/-- Appends digits to the value read so far, which stays below `bound`. -/
def readDigits (base bound : Nat) : (value : Nat) → List Char → Except Fault Nat
  | value, [] => .ok value
  | value, char :: rest =>
    match digitValue? base char with
    | none => .error .invalidDigit
    | some digit =>
      let next := value * base + digit
      if next < bound then readDigits base bound next rest else .error .tooLarge

/-- Reads a number below `bound` in a base, with an optional plus sign. -/
def readUnsigned (base bound : Nat) : List Char → Except Fault Nat
  | [] => .error .empty
  | ['+'] => .error .invalidDigit
  | '+' :: digits => readDigits base bound 0 digits
  | digits => readDigits base bound 0 digits

/-- The numbers of program text stay below this bound. -/
def bound : Nat := 0x100000000

/-- Reads a number of program text. -/
def read (token : List Char) : Except Fault Nat :=
  match token.filter (· != '_') with
  | '0' :: 'x' :: digits => readUnsigned 16 bound digits
  | '0' :: 'X' :: digits => readUnsigned 16 bound digits
  | digits => readUnsigned 10 bound digits

end Number

/-!
## Lines of program text

A line holds at most one instruction. Everything from the first `#` on is a
comment. The instruction is either a raw word or a mnemonic with up to three
numbers behind it: line, place and address. Numbers that are left out are zero.
-/

namespace Assembler

/-- Why a line is no instruction. -/
inductive LineError where
  | operandsOnRawWord
  | unknownMnemonic (name : String)
  | badNumber (token : String) (fault : Number.Fault)
  | tooManyOperands (name : String) (count : Nat)
  | lineTooWide (line : Nat)
  | placeTooWide (place : Nat)
  | addressTooWide (address : Nat)
  deriving Repr, DecidableEq

def LineError.message : LineError → String
  | .operandsOnRawWord => "raw instruction word takes no operands"
  | .unknownMnemonic name => s!"unknown mnemonic '{name}'"
  | .badNumber token fault => s!"bad number '{token}': {fault.message}"
  | .tooManyOperands name count =>
    s!"{name} takes at most 3 operands (line place address), got {count}"
  | .lineTooWide line => s!"line {line} does not fit 3 bits"
  | .placeTooWide place => s!"place {place} does not fit 7 bits"
  | .addressTooWide address => s!"address {Hex.marked 1 address} does not fit 16 bits"

/-- The part of a line before its comment. -/
def code (line : List Char) : List Char := line.takeWhile (· != '#')

/-- Reads one number token. -/
def number (token : List Char) : Except LineError Nat :=
  (Number.read token).mapError (.badNumber (String.ofList token))

/-- The instruction of an opcode and its operands, each of which has to fit its
field. -/
def instruction (opcode : Opcode) (line place address : Nat) :
    Except LineError Instruction :=
  if 7 < line then .error (.lineTooWide line)
  else if 127 < place then .error (.placeTooWide place)
  else if 65535 < address then .error (.addressTooWide address)
  else .ok (.ofFields opcode.code.toNat line place address)

/-- Assembles the words of a line that starts with a mnemonic. -/
def assembleMnemonic (head : List Char) (operands : List (List Char)) :
    Except LineError Word := do
  let name := String.ofList head
  match Opcode.ofMnemonic? name with
  | none => throw (.unknownMnemonic name)
  | some opcode =>
    match ← operands.mapM number with
    | [] => return (← instruction opcode 0 0 0).toWord
    | [line] => return (← instruction opcode line 0 0).toWord
    | [line, place] => return (← instruction opcode line place 0).toWord
    | [line, place, address] => return (← instruction opcode line place address).toWord
    | more => throw (.tooManyOperands name more.length)

/-- Whether a token is a raw word rather than a mnemonic. -/
def startsWithDigit : List Char → Bool
  | [] => false
  | char :: _ => '0' ≤ char ∧ char ≤ '9'

/-- Assembles the tokens of a line; a line without tokens has no word. -/
def assembleTokens : List (List Char) → Except LineError (Option Word)
  | [] => .ok none
  | head :: operands =>
    if startsWithDigit head then
      match operands with
      | [] => (number head).map fun word => some (BitVec.ofNat 32 word)
      | _ => .error .operandsOnRawWord
    else
      (assembleMnemonic head operands).map some

/-- Assembles one line; blank lines and comments have no word. -/
def assembleLine (line : List Char) : Except LineError (Option Word) :=
  assembleTokens (Text.words (code line))

end Assembler

/-!
## Programs

A program is the list of its instruction words. Lines without code are skipped.
-/

/-- The instruction words of a program in the order of execution. -/
structure Program where
  words : List Word
  deriving Repr, DecidableEq

namespace Program

/-- The number of instructions. -/
def size (program : Program) : Nat := program.words.length

/-- The word at a program pointer. -/
def word? (program : Program) (pointer : Nat) : Option Word := program.words[pointer]?

/-- A bad line of program text, counted from 1 over all lines. -/
structure ParseError where
  lineNumber : Nat
  error : Assembler.LineError
  deriving Repr, DecidableEq

def ParseError.message (error : ParseError) : String :=
  s!"line {error.lineNumber}: {error.error.message}"

/-- The words of the lines in order; `lineNumber` is the number of the first. -/
def assembleLines : (lineNumber : Nat) → List (List Char) → Except ParseError (List Word)
  | _, [] => .ok []
  | lineNumber, line :: rest =>
    match Assembler.assembleLine line with
    | .error error => .error ⟨lineNumber, error⟩
    | .ok none => assembleLines (lineNumber + 1) rest
    | .ok (some word) => (assembleLines (lineNumber + 1) rest).map (word :: ·)

/-- Reads a program from its text. -/
def parse (text : String) : Except ParseError Program :=
  (assembleLines 1 (Text.lines text.toList)).map Program.mk

end Program

end AccessController
