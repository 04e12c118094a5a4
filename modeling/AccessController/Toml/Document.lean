import AccessController.Toml.Moment
import AccessController.Toml.Number

/-!
# TOML documents

A document is a sequence of lines: a key with its value, a header that begins a
table or a member of an array of tables, a comment, or nothing. Values nest less
than 80 deep, and a key has less than 80 parts.
-/

namespace AccessController.Toml

/-- The depth that nested values and dotted keys do not reach. -/
def depthLimit : Nat := 80

/-- Whether a character may stand in a key without quotes. -/
def isBareKeyChar (char : Char) : Bool :=
  char.isAlphanum || char == '-' || char == '_'

/-- Reads one part of a key. -/
def keyPart : Reader String := do
  Reader.blanks
  let part ← Text.singleLine <|> String.ofList <$> Reader.atLeastOne isBareKeyChar
  Reader.blanks
  return part

/-- Reads a key with its parts. -/
def key : Reader (List String) := do
  let parts ← Reader.separated (Reader.char '.') keyPart depthLimit
  if parts.length < depthLimit then return parts else failure

/-- Reads a value that contains no others. -/
def scalar : Reader Value :=
  Value.text <$> Text.string <|>
  Value.moment <$> Moment.moment <|>
  Value.float <$> Number.float <|>
  Value.integer <$> Number.integer <|>
  (do Reader.exactly ['t', 'r', 'u', 'e']; return .boolean true) <|>
  (do Reader.exactly ['f', 'a', 'l', 's', 'e']; return .boolean false)

/-- Reads the members of an array behind its opening bracket. A comma may follow
the last one. -/
def arrayRest (member : Reader Value) : (limit : Nat) → Reader (List Value)
  | 0 => failure
  | limit + 1 => do
    Reader.trivia
    match ← Reader.optional (Reader.char ']') with
    | some () => return []
    | none =>
      let first ← member
      Reader.trivia
      match ← Reader.optional (Reader.char ',') with
      | some () => return first :: (← arrayRest member limit)
      | none =>
        Reader.char ']'
        return [first]

/-- Reads a key with its value. -/
def keyValue (value : Reader Value) : Reader (List String × Value) := do
  let parts ← key
  Reader.char '='
  Reader.blanks
  return (parts, ← value)

/-- Adds a value under the parts of its key. -/
def addEntry (origin : Origin) (entries : Entries) (parts : List String) (value : Value) :
    Option Entries :=
  match parts.getLast? with
  | none => none
  | some last => Entries.insert value last parts.dropLast false origin entries

/-- Reads the entries of an inline table behind its opening brace. They stand on
one line, and no comma follows the last one. -/
def inlineRest (value : Reader Value) (limit : Nat) : Reader Entries := do
  Reader.blanks
  match ← Reader.optional (Reader.char '\x7d') with
  | some () => return []
  | none =>
    let member := do
      let entry ← keyValue value
      Reader.blanks
      return entry
    let members ← Reader.separated (Reader.char ',') member limit
    Reader.char '\x7d'
    members.foldlM (fun entries (parts, value) => addEntry .inline entries parts value) []

/-- Reads a value in which others nest at most `depth` deep. -/
def value : (depth : Nat) → Reader Value
  | 0 => scalar
  | depth + 1 => fun text =>
    match text with
    | '[' :: rest => (Value.array <$> arrayRest (value depth) text.length).run rest
    | '\x7b' :: rest =>
      (Value.table .inline <$> inlineRest (value depth) text.length).run rest
    | _ => scalar.run text

/-- What has been read of a document: its entries and the header under which the
next key stands. -/
structure Draft where
  entries : Entries := []
  header : List String := []

namespace Draft

/-- Begins what a header names. -/
def openAt (draft : Draft) (begin : String → Entries → Option Entries) (parts : List String) :
    Option Draft := do
  let entries ← Entries.descend (begin (parts.getLast?.getD "")) parts.dropLast draft.entries
  return { entries, header := parts }

/-- Adds a value under the current header. -/
def add (draft : Draft) (parts : List String) (value : Value) : Option Draft := do
  let entries ← Entries.descend (addEntry .header · parts value) draft.header draft.entries
  return { draft with entries }

end Draft

/-- Reads one line of a document. -/
def line (draft : Draft) : Reader Draft := fun text =>
  match text with
  | '#' :: _ => (do Reader.comment; Reader.lineEnd; return draft).run text
  | '\n' :: _ | '\r' :: _ => (do Reader.newline; return draft).run text
  | '[' :: '[' :: rest =>
    (do
      let parts ← key
      Reader.exactly [']', ']']
      Reader.lineRest
      draft.openAt Entries.openMember parts).run rest
  | '[' :: rest =>
    (do
      let parts ← key
      Reader.char ']'
      Reader.lineRest
      draft.openAt Entries.openTable parts).run rest
  | _ =>
    (do
      let (parts, value) ← keyValue (value (depthLimit - 1))
      Reader.lineRest
      draft.add parts value).run text

/-- Reads at most `limit` lines. -/
def lines : (limit : Nat) → Draft → List Char → Option Draft
  | 0, _, _ => none
  | limit + 1, draft, text =>
    match text.dropWhile fun char => char == ' ' || char == '\t' with
    | [] => some draft
    | rest => do
      let (draft, rest) ← (line draft).run rest
      lines limit draft rest

/-- The entries of a document, if it is one, without tagged tables. A byte order
mark may stand in front. -/
def parse (document : String) : Option Entries :=
  let text := match document.toList with
    | '\ufeff' :: rest => rest
    | text => text
  (lines (text.length + 1) {} text).bind fun draft => untagEntries? draft.entries

end AccessController.Toml
