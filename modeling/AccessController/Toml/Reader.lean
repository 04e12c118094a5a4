/-!
# Readers

A reader takes a value off the front of a text or fails. Readers are put
together as computations on the text that is left.
-/

namespace AccessController.Toml

/-- Takes a value off the front of a text. -/
abbrev Reader (α : Type) := StateT (List Char) Option α

namespace Reader

variable {α β : Type}

/-- The next character, which stays in the text. -/
def peek : Reader (Option Char) := fun text => some (text.head?, text)

/-- Takes one character of a class. -/
def satisfy (accepts : Char → Bool) : Reader Char
  | char :: rest => if accepts char then some (char, rest) else none
  | [] => none

/-- Takes one given character. -/
def char (expected : Char) : Reader Unit := do
  let _ ← satisfy (· == expected)

/-- Takes given characters. -/
def exactly (expected : List Char) : Reader Unit := fun text =>
  if expected.isPrefixOf text then some ((), text.drop expected.length) else none

/-- Takes all characters of a class from the front, perhaps none. -/
def many (accepts : Char → Bool) : Reader (List Char) := fun text =>
  some (text.takeWhile accepts, text.dropWhile accepts)

/-- Takes at least one character of a class. -/
def atLeastOne (accepts : Char → Bool) : Reader (List Char) := do
  let first ← satisfy accepts
  return first :: (← many accepts)

/-- Tries a reader and takes nothing if it fails. -/
def optional (reader : Reader α) : Reader (Option α) :=
  (some <$> reader) <|> pure none

/-- Members with a separator between them, at least one and at most `limit`. -/
def separated (separator : Reader Unit) (member : Reader α) : (limit : Nat) → Reader (List α)
  | 0 => failure
  | limit + 1 => do
    let first ← member
    match ← optional separator with
    | none => return [first]
    | some () => return first :: (← separated separator member limit)

/-- Takes blanks within a line. -/
def blanks : Reader Unit := do
  let _ ← many fun char => char == ' ' || char == '\t'

/-- Whether a character may stand in a comment. -/
def isCommentChar (char : Char) : Bool :=
  char == '\t' || (' ' ≤ char && char ≤ '~') || '\x80' ≤ char

/-- Takes a comment up to the end of its line. -/
def comment : Reader Unit := do
  char '#'
  let _ ← many isCommentChar

/-- Takes the end of a line. -/
def newline : Reader Unit := exactly ['\n'] <|> exactly ['\r', '\n']

/-- Accepts the end of the text. -/
def endOfText : Reader Unit := fun text => if text.isEmpty then some ((), text) else none

/-- Takes the end of a line or of the text. -/
def lineEnd : Reader Unit := newline <|> endOfText

/-- Takes what may follow a value on its line. -/
def lineRest : Reader Unit := do
  blanks
  let _ ← optional comment
  lineEnd

mutual

/-- Drops blanks, line ends and comments. A comment has to end with its line. -/
def skipTrivia : List Char → Option (List Char)
  | ' ' :: rest => skipTrivia rest
  | '\t' :: rest => skipTrivia rest
  | '\n' :: rest => skipTrivia rest
  | '\r' :: '\n' :: rest => skipTrivia rest
  | '#' :: rest => skipComment rest
  | text => some text

/-- Drops the rest of a comment and what may follow it. -/
def skipComment : List Char → Option (List Char)
  | '\n' :: rest => skipTrivia rest
  | '\r' :: '\n' :: rest => skipTrivia rest
  | char :: rest => if isCommentChar char then skipComment rest else none
  | [] => none

end

/-- Takes blanks, line ends and comments. -/
def trivia : Reader Unit := fun text => (skipTrivia text).map ((), ·)

end Reader

end AccessController.Toml
