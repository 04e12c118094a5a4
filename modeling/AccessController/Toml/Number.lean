import AccessController.Toml.Reader
import AccessController.Toml.Text

/-!
# TOML numbers

Integers are decimal with a sign, or hexadecimal, octal or binary without one,
and fit 64 bits. Single underscores may stand between digits. Floats have a
fraction or an exponent or are one of the named ones, and are finite unless
named.
-/

namespace AccessController.Toml.Number

def isDigit (char : Char) : Bool := '0' ≤ char && char ≤ '9'

/-- Takes further digits of a class, each perhaps behind one underscore. -/
def moreDigits (accepts : Char → Bool) : List Char → List Char × List Char
  | '_' :: digit :: rest =>
    if accepts digit then
      let (digits, rest) := moreDigits accepts rest
      (digit :: digits, rest)
    else ([], '_' :: digit :: rest)
  | digit :: rest =>
    if accepts digit then
      let (digits, rest) := moreDigits accepts rest
      (digit :: digits, rest)
    else ([], digit :: rest)
  | [] => ([], [])

/-- Takes at least one digit of a class, with underscores between digits. -/
def digits (accepts : Char → Bool) : Reader (List Char) := do
  let first ← Reader.satisfy accepts
  let more ← fun text => some (moreDigits accepts text)
  return first :: more

/-- The value of digits in a base. -/
def valueOf (base : Nat) (digits : List Char) : Nat :=
  digits.foldl (fun value digit => value * base + (Text.hexValue? digit).getD 0) 0

/-- Whether a character is a digit of a base. -/
def isDigitOf (base : Nat) (char : Char) : Bool :=
  (Text.hexValue? char).any (· < base)

/-- Takes an optional sign and tells whether it is a minus. -/
def sign : Reader Bool := do
  match ← Reader.optional (Reader.satisfy fun char => char == '+' || char == '-') with
  | some '-' => return true
  | _ => return false

/-- Takes the digits of a decimal integer. Only zero itself starts with zero. -/
def decimalDigits : Reader (List Char) := do
  match ← Reader.peek with
  | some '0' =>
    let _ ← Reader.satisfy isDigit
    return ['0']
  | _ => digits isDigit

/-- An integer that fits 64 bits with a sign. -/
def fitting (value : Int) : Reader Int :=
  if Int64.minValue.toInt ≤ value ∧ value ≤ Int64.maxValue.toInt then return value
  else failure

/-- Reads the digits of an integer in another base than ten. -/
def basedInteger (mark : Char) (base : Nat) : Reader Int := do
  Reader.exactly ['0', mark]
  fitting (valueOf base (← digits (isDigitOf base)))

/-- Reads an integer. -/
def integer : Reader Int :=
  basedInteger 'x' 16 <|> basedInteger 'o' 8 <|> basedInteger 'b' 2 <|> do
    let negative ← sign
    let value := Int.ofNat (valueOf 10 (← decimalDigits))
    fitting (if negative then -value else value)

/-- Takes an exponent. -/
def exponent : Reader Int := do
  let _ ← Reader.satisfy fun char => char == 'e' || char == 'E'
  let negative ← sign
  let value := Int.ofNat (valueOf 10 (← digits isDigit))
  return if negative then -value else value

/-- Takes a fraction. -/
def fraction : Reader (List Char) := do
  Reader.char '.'
  digits isDigit

/-- The least number that rounds to no finite double. -/
def overflowBound : Nat := (1 <<< 1024) - (1 <<< 970)

/-- Whether `mantissa` times ten to the `scale` rounds to no finite double. -/
def overflows (mantissa : Nat) (scale : Int) : Bool :=
  let magnitude := Int.ofNat (Nat.toDigits 10 mantissa).length + scale
  if mantissa = 0 ∨ magnitude < 300 then false
  else if 320 < magnitude then true
  else if 0 ≤ scale then overflowBound ≤ mantissa * Nat.pow 10 scale.toNat
  else overflowBound * Nat.pow 10 (-scale).toNat ≤ mantissa

/-- Reads a float with a fraction, an exponent or both. A positive one has to be
finite. -/
def decimalFloat : Reader String := do
  let negative ← sign
  let whole ← decimalDigits
  let places := (← Reader.optional fraction).getD []
  let power ← Reader.optional exponent
  if places.isEmpty ∧ power.isNone then failure
  let scale := power.getD 0 - places.length
  if !negative ∧ overflows (valueOf 10 (whole ++ places)) scale then failure
  let digits := String.ofList whole ++ "." ++ String.ofList places
  return (if negative then "-" else "") ++ digits ++ s!"e{power.getD 0}"

/-- Reads infinity or the value that is no number. -/
def namedFloat : Reader String := do
  let negative ← sign
  let mark := if negative then "-" else ""
  (do Reader.exactly ['i', 'n', 'f']; return mark ++ "inf") <|>
    (do Reader.exactly ['n', 'a', 'n']; return mark ++ "nan")

/-- Reads a float. -/
def float : Reader String := decimalFloat <|> namedFloat

end AccessController.Toml.Number
