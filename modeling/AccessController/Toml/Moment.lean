import AccessController.Toml.Reader
import AccessController.Toml.Text
import AccessController.Toml.Value

/-!
# TOML dates and times

A date, a time, or both with or without an offset. The value is kept as its
normal text: a capital T between date and time, and a fraction of a second of at
most nine digits without zeros at its end.
-/

namespace AccessController

namespace Toml.Moment

/-- Takes exactly `count` further digits of a number that begins with `value`. -/
def moreDigits : (count value : Nat) → Reader Nat
  | 0, value => return value
  | count + 1, value => do
    let digit ← Reader.satisfy fun char => '0' ≤ char && char ≤ '9'
    moreDigits count (10 * value + (digit.toNat - '0'.toNat))

/-- Takes a number of exactly `count` digits. -/
def fixed (count : Nat) : Reader Nat := moreDigits count 0

/-- Takes a number of two digits within bounds. -/
def twoDigits (least greatest : Nat) : Reader Nat := do
  let value ← fixed 2
  if least ≤ value ∧ value ≤ greatest then return value else failure

/-- A number filled with zeros up to a width. -/
def padded (width value : Nat) : String :=
  let digits := toString value
  String.ofList (List.replicate (width - digits.length) '0') ++ digits

/-- The days of a month. -/
def daysOf (year month : Nat) : Nat :=
  if month = 2 then
    if year % 4 = 0 ∧ (year % 100 ≠ 0 ∨ year % 400 = 0) then 29 else 28
  else if month = 4 ∨ month = 6 ∨ month = 9 ∨ month = 11 then 30
  else 31

/-- Reads a date. -/
def date : Reader String := do
  let year ← fixed 4
  Reader.char '-'
  let month ← twoDigits 1 12
  Reader.char '-'
  let day ← twoDigits 1 31
  if daysOf year month < day then failure
  return s!"{padded 4 year}-{padded 2 month}-{padded 2 day}"

/-- A fraction of a second as it stands in the normal text. -/
def fractionText (digits : List Char) : String :=
  let kept := ((digits.take 9).reverse.dropWhile (· == '0')).reverse
  if kept.isEmpty then "" else "." ++ String.ofList kept

/-- Reads a time of day. -/
def time : Reader String := do
  let hour ← twoDigits 0 23
  Reader.char ':'
  let minute ← twoDigits 0 59
  Reader.char ':'
  let second ← twoDigits 0 60
  let fraction ← Reader.optional do
    Reader.char '.'
    Reader.atLeastOne fun char => '0' ≤ char && char ≤ '9'
  return s!"{padded 2 hour}:{padded 2 minute}:{padded 2 second}" ++
    fractionText (fraction.getD [])

/-- Reads the offset of a time. -/
def offset : Reader String := do
  match ← Reader.satisfy fun char => char == 'Z' || char == 'z' || char == '+' || char == '-' with
  | '+' => signed "+"
  | '-' => signed "-"
  | _ => return "Z"
where
  /-- Reads hours and minutes behind a sign; no offset is written with a plus. -/
  signed (mark : String) : Reader String := do
    let hour ← twoDigits 0 23
    Reader.char ':'
    let minute ← twoDigits 0 59
    let mark := if hour = 0 ∧ minute = 0 then "+" else mark
    return s!"{mark}{padded 2 hour}:{padded 2 minute}"

/-- Reads a time behind a date. -/
def timeOfDate : Reader String := do
  let _ ← Reader.satisfy fun char => char == 'T' || char == 't' || char == ' '
  let time ← time
  let offset ← Reader.optional offset
  return "T" ++ time ++ offset.getD ""

/-- Reads a date, a time or both. -/
def moment : Reader String :=
  (do
    let date ← date
    let time ← Reader.optional timeOfDate
    return date ++ time.getD "") <|> time

/-- The normal text of a string that is a date, a time or both. -/
def ofString? (text : String) : Option String :=
  match moment.run text.toList with
  | some (moment, []) => some moment
  | _ => none

end Toml.Moment

/-!
## Tagged tables

A table whose first key is the tag of moments stands for the date or time that
the string under this key holds, whatever its other keys are. A tag over
anything else is a fault. The document itself is not a tagged table.
-/

namespace Toml

/-- The tag of moments. -/
def momentTag : String := "$__toml_private_datetime"

/-- What a table with these entries is tagged with. -/
def Entries.tagged? : Entries → Option Value
  | (key, value) :: _ => if key = momentTag then some value else none
  | [] => none

/-- The date or time that a tagged value stands for. -/
def Value.ofTagged? : Value → Option Value
  | .text value => .moment <$> Moment.ofString? value
  | _ => none

mutual

/-- A value with moments in place of the tagged tables in it. -/
def Value.untag? : Value → Option Value
  | .array members => .array <$> untagMembers? members
  | .tables members => .array <$> untagTables? members
  | .table origin entries =>
    match Entries.tagged? entries with
    | some value => value.ofTagged?
    | none => .table origin <$> untagEntries? entries
  | value => some value

/-- The members of an array without tagged tables. -/
def untagMembers? : List Value → Option (List Value)
  | [] => some []
  | member :: rest => do return (← member.untag?) :: (← untagMembers? rest)

/-- The members of an array of tables without tagged tables. -/
def untagTables? : List (List (String × Value)) → Option (List Value)
  | [] => some []
  | entries :: rest => do
    let member ← match Entries.tagged? entries with
      | some value => value.ofTagged?
      | none => .table .header <$> untagEntries? entries
    return member :: (← untagTables? rest)

/-- The entries of a table without tagged tables. -/
def untagEntries? : List (String × Value) → Option (List (String × Value))
  | [] => some []
  | (key, value) :: rest => do return (key, ← value.untag?) :: (← untagEntries? rest)

end

end Toml

end AccessController
