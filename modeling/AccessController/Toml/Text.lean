import AccessController.Toml.Reader

/-!
# TOML strings

A basic string stands in double quotes and knows escapes, a literal one stands
in single quotes and does not. Tripled quotes open a string over several lines,
whose first line end does not count and in which up to two quotes may stand
together.
-/

namespace AccessController.Toml.Text

/-- Whether a character may stand unescaped in a string. -/
def isPlain (char : Char) : Bool :=
  char == '\t' || (' ' ≤ char && char ≤ '~') || '\x80' ≤ char

/-- The value of a hexadecimal digit. -/
def hexValue? (char : Char) : Option Nat :=
  if '0' ≤ char ∧ char ≤ '9' then some (char.toNat - '0'.toNat)
  else if 'a' ≤ char ∧ char ≤ 'f' then some (char.toNat - 'a'.toNat + 10)
  else if 'A' ≤ char ∧ char ≤ 'F' then some (char.toNat - 'A'.toNat + 10)
  else none

/-- The character that hexadecimal digits name. -/
def named? (digits : List Char) : Option Char := do
  let values ← digits.mapM hexValue?
  let code := values.foldl (fun code value => 16 * code + value) 0
  if code.isValidChar then some (Char.ofNat code) else none

/-- Reads what follows a backslash: the character it stands for and the text
behind it. -/
def unescape? : List Char → Option (Char × List Char)
  | 'b' :: rest => some ('\x08', rest)
  | 't' :: rest => some ('\t', rest)
  | 'n' :: rest => some ('\n', rest)
  | 'f' :: rest => some ('\x0c', rest)
  | 'r' :: rest => some ('\r', rest)
  | '"' :: rest => some ('"', rest)
  | '\\' :: rest => some ('\\', rest)
  | 'u' :: a :: b :: c :: d :: rest => (named? [a, b, c, d]).map (·, rest)
  | 'U' :: a :: b :: c :: d :: e :: f :: g :: h :: rest =>
    (named? [a, b, c, d, e, f, g, h]).map (·, rest)
  | _ => none

/-- Reads a basic string behind its opening quote. -/
def basicRest : (limit : Nat) → List Char → Option (List Char × List Char)
  | 0, _ => none
  | limit + 1, text =>
    match text with
    | '"' :: rest => some ([], rest)
    | '\\' :: rest => do
      let (char, rest) ← unescape? rest
      let (content, rest) ← basicRest limit rest
      return (char :: content, rest)
    | char :: rest =>
      if isPlain char then do
        let (content, rest) ← basicRest limit rest
        return (char :: content, rest)
      else none
    | [] => none

/-- Reads a literal string behind its opening quote. -/
def literalRest : List Char → Option (List Char × List Char)
  | '\'' :: rest => some ([], rest)
  | char :: rest =>
    if isPlain char then do
      let (content, rest) ← literalRest rest
      return (char :: content, rest)
    else none
  | [] => none

/-- Reads the end of a string over several lines: three quotes, and up to two
more in front of them that belong to the string. -/
def closing? (quote : Char) (text : List Char) : Option (List Char × List Char) :=
  let quotes := (text.takeWhile (· == quote)).length
  if quotes < 3 then none
  else
    let kept := min (quotes - 3) 2
    some (List.replicate kept quote, text.drop (kept + 3))

/-- Drops a line end, and all blanks and line ends behind it. -/
def skipLines : List Char → Option (List Char) := fun text =>
  match text.dropWhile fun char => char == ' ' || char == '\t' with
  | '\n' :: rest => some (blankRun rest)
  | '\r' :: '\n' :: rest => some (blankRun rest)
  | _ => none
where
  /-- Drops blanks and line ends. -/
  blankRun : List Char → List Char
    | ' ' :: rest => blankRun rest
    | '\t' :: rest => blankRun rest
    | '\n' :: rest => blankRun rest
    | '\r' :: '\n' :: rest => blankRun rest
    | text => text

/-- Reads a basic string over several lines behind its opening quotes. A
backslash at the end of a line takes the line end and the blanks behind it
away. -/
def basicLines : (limit : Nat) → List Char → Option (List Char × List Char)
  | 0, _ => none
  | limit + 1, text =>
    match closing? '"' text with
    | some found => some found
    | none =>
      match text with
      | '\\' :: rest =>
        match skipLines rest with
        | some rest => basicLines limit rest
        | none => do
          let (char, rest) ← unescape? rest
          let (content, rest) ← basicLines limit rest
          return (char :: content, rest)
      | '\r' :: '\n' :: rest => do
        let (content, rest) ← basicLines limit rest
        return ('\n' :: content, rest)
      | char :: rest =>
        if isPlain char || char == '\n' then do
          let (content, rest) ← basicLines limit rest
          return (char :: content, rest)
        else none
      | [] => none

/-- Reads a literal string over several lines behind its opening quotes. -/
def literalLines : (limit : Nat) → List Char → Option (List Char × List Char)
  | 0, _ => none
  | limit + 1, text =>
    match closing? '\'' text with
    | some found => some found
    | none =>
      match text with
      | '\r' :: '\n' :: rest => do
        let (content, rest) ← literalLines limit rest
        return ('\n' :: content, rest)
      | char :: rest =>
        if isPlain char || char == '\n' then do
          let (content, rest) ← literalLines limit rest
          return (char :: content, rest)
        else none
      | [] => none

/-- The text behind a line end at its front, if there is one. -/
def withoutLineEnd : List Char → List Char
  | '\n' :: rest => rest
  | '\r' :: '\n' :: rest => rest
  | text => text

/-- Reads a string on one line, as keys may have it. -/
def singleLine : Reader String := fun text =>
  match text with
  | '"' :: rest => (basicRest text.length rest).map fun found => (String.ofList found.1, found.2)
  | '\'' :: rest => (literalRest rest).map fun found => (String.ofList found.1, found.2)
  | _ => none

/-- Reads a string of any form. -/
def string : Reader String := fun text =>
  match text with
  | '"' :: '"' :: '"' :: rest =>
    (basicLines text.length (withoutLineEnd rest)).map fun found =>
      (String.ofList found.1, found.2)
  | '\'' :: '\'' :: '\'' :: rest =>
    (literalLines text.length (withoutLineEnd rest)).map fun found =>
      (String.ofList found.1, found.2)
  | _ => singleLine text

end AccessController.Toml.Text
