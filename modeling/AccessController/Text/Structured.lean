import AccessController.Bytes

/-!
# Structured documents

Records, lists and plain values as they stand in a JSON file. The text form puts
every member on a line of its own, two blanks deeper than what contains it, and
keeps the members in their order.
-/

namespace AccessController

/-- A value of a structured file. -/
inductive Document where
  | absent
  | flag (value : Bool)
  | number (value : Nat)
  | text (value : String)
  | list (members : List Document)
  | record (fields : List (String × Document))
  deriving Repr

namespace Document

/-- One character inside a quoted text. -/
def escaped (char : Char) : List Char :=
  match char with
  | '"' => ['\\', '"']
  | '\\' => ['\\', '\\']
  | '\n' => ['\\', 'n']
  | '\r' => ['\\', 'r']
  | '\t' => ['\\', 't']
  | '\x08' => ['\\', 'b']
  | '\x0c' => ['\\', 'f']
  | _ =>
    if char.toNat < 0x20 then ['\\', 'u'] ++ (Hex.padded 4 char.toNat).toList else [char]

/-- A text in double quotes. -/
def quoted (value : String) : String :=
  String.ofList ('"' :: value.toList.flatMap escaped ++ ['"'])

/-- A new line, indented. -/
def newLine (depth : Nat) : String :=
  String.ofList ('\n' :: List.replicate (2 * depth) ' ')

/-- Members between brackets, each on its own line; no members leave the
brackets together. -/
def bracketed (opening closing : String) (depth : Nat) : List String → String
  | [] => opening ++ closing
  | members =>
    opening ++ newLine (depth + 1) ++ (("," ++ newLine (depth + 1)).intercalate members) ++
      newLine depth ++ closing

mutual

/-- The text of a document whose own line is indented by `depth` steps. -/
def prettyAt (depth : Nat) : Document → String
  | .absent => "null"
  | .flag value => if value then "true" else "false"
  | .number value => toString value
  | .text value => quoted value
  | .list members => bracketed "[" "]" depth (prettyMembers (depth + 1) members)
  | .record fields => bracketed "\x7b" "\x7d" depth (prettyFields (depth + 1) fields)

/-- The texts of the members of a list. -/
def prettyMembers (depth : Nat) : List Document → List String
  | [] => []
  | member :: rest => member.prettyAt depth :: prettyMembers depth rest

/-- The texts of the fields of a record. -/
def prettyFields (depth : Nat) : List (String × Document) → List String
  | [] => []
  | (name, value) :: rest =>
    (quoted name ++ ": " ++ value.prettyAt depth) :: prettyFields depth rest

end

/-- The text of a document. -/
def pretty (document : Document) : String := document.prettyAt 0

end Document

end AccessController
