/-!
# TOML values and tables

A TOML document is a table. How a table came about decides what may still be
added to it: a table with a header of its own takes keys under that header only,
one that a longer header implied may still get its own header, and one that
dotted keys made grows by dotted keys. Inline tables are closed. No key is ever
given twice.
-/

namespace AccessController.Toml

/-- How a table came about. -/
inductive Origin where
  | inline
  | header
  | implied
  | dotted
  deriving Repr, DecidableEq

/-- A TOML value. Floats and times keep their text. -/
inductive Value where
  | text (value : String)
  | integer (value : Int)
  | float (digits : String)
  | boolean (value : Bool)
  | moment (text : String)
  | array (members : List Value)
  | table (origin : Origin) (entries : List (String × Value))
  /-- An array of tables, each begun by a header of its own. -/
  | tables (members : List (List (String × Value)))
  deriving Repr

/-- The keys of a table with their values, in their order. -/
abbrev Entries := List (String × Value)

namespace Entries

/-- Gives a key a value in place of the one it has. -/
def put (key : String) (value : Value) : Entries → Entries
  | [] => [(key, value)]
  | entry :: rest =>
    if entry.1 = key then (key, value) :: rest else entry :: put key value rest

/-- Adds a key that a table does not have yet. -/
def add? (entries : Entries) (key : String) (value : Value) : Option Entries :=
  if (entries.lookup key).isSome then none else some (entries ++ [(key, value)])

/-- Adds a value under a dotted key to a table that came about as `origin`. All
parts of the key but the last name tables, and the table of the last part has to
be one that dotted keys made. -/
def insert (value : Value) (key : String) :
    (path : List String) → (isDotted : Bool) → (origin : Origin) → Entries → Option Entries
  | [], isDotted, origin, entries =>
    if isDotted ∧ origin ≠ .dotted then none else entries.add? key value
  | part :: path, _, _, entries =>
    match entries.lookup part with
    | none => do
      let inner ← insert value key path true .dotted []
      return entries.put part (.table .dotted inner)
    | some (.table .dotted inner) => do
      let inner ← insert value key path true .dotted inner
      return entries.put part (.table .dotted inner)
    | some (.table .implied inner) => do
      let inner ← insert value key path true .implied inner
      return entries.put part (.table .implied inner)
    | some (.tables members) => do
      let inner ← insert value key path true .header (members.getLast?.getD [])
      return entries.put part (.tables (members.dropLast ++ [inner]))
    | some _ => none

/-- Changes the table that the parts of a header lead to. A part without a table
implies one; an array of tables stands for its last member. -/
def descend (change : Entries → Option Entries) : List String → Entries → Option Entries
  | [], entries => change entries
  | part :: path, entries =>
    match entries.lookup part with
    | none => do
      let inner ← descend change path []
      return entries.put part (.table .implied inner)
    | some (.table .inline _) => none
    | some (.table origin inner) => do
      let inner ← descend change path inner
      return entries.put part (.table origin inner)
    | some (.tables members) => do
      let inner ← descend change path (members.getLast?.getD [])
      return entries.put part (.tables (members.dropLast ++ [inner]))
    | some _ => none

/-- Begins a table with a header, which it must not have had before. An implied
table moves behind the other keys when its own header comes. -/
def openTable (key : String) (entries : Entries) : Option Entries :=
  match entries.lookup key with
  | none => some (entries.put key (.table .header []))
  | some (.table .implied inner) =>
    some (entries.filter (·.1 != key) ++ [(key, .table .header inner)])
  | some _ => none

/-- Begins a further member of an array of tables. -/
def openMember (key : String) (entries : Entries) : Option Entries :=
  match entries.lookup key with
  | none => some (entries.put key (.tables [[]]))
  | some (.tables members) => some (entries.put key (.tables (members ++ [[]])))
  | some _ => none

end Entries

end AccessController.Toml
