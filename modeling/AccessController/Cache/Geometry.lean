import AccessController.Bytes
import AccessController.Cache.Kind

/-!
# Cache geometry

The static shape of a cache, and what follows from it: how long a line is, how
many places it has, and in how many units a whole line is moved. All quantities
are total functions; `Geometry.Sound` collects the conditions under which they
mean something, and `Geometry.fault?` finds the first one that fails.
-/

namespace AccessController

/-- An operation that has no result. -/
inductive ArithmeticFault where
  | divisionByZero
  | subtractionOverflow
  | outOfBounds (length index : Nat)
  deriving Repr, DecidableEq

def ArithmeticFault.message : ArithmeticFault → String
  | .divisionByZero => "attempt to divide by zero"
  | .subtractionOverflow => "attempt to subtract with overflow"
  | .outOfBounds length index =>
    s!"index out of bounds: the len is {length} but the index is {index}"

/-- The static shape of a cache. A shape without a kind belongs to a cache that
no selector reaches. -/
structure Geometry where
  kind : Option CacheKind
  lineBytes : Nat
  lineCount : Nat
  /-- The width of an element of a data cache, or of a configuration line. -/
  widthBits : Nat
  /-- The size of the unit in which lines are streamed. -/
  granularityBits : Nat
  deriving Repr, DecidableEq

namespace Geometry

/-- The name of the cache in messages. -/
def name (geometry : Geometry) : String :=
  (geometry.kind.map CacheKind.name).getD "none"

def isData (geometry : Geometry) : Bool := geometry.kind.any CacheKind.isData

def isConfig (geometry : Geometry) : Bool := geometry.kind.any CacheKind.isConfig

/-- The bits of a line: those of its bytes in a data cache, the declared width
elsewhere. -/
def lineBits (geometry : Geometry) : Nat :=
  if geometry.isData then geometry.lineBytes * 8 else geometry.widthBits

/-- The elements of a line that have a place of their own. A line that holds no
elements has one place. -/
def places (geometry : Geometry) : Nat :=
  if geometry.isData then geometry.lineBits / geometry.widthBits else 1

/-- The bytes of one unit. -/
def stepBytes (geometry : Geometry) : Nat := geometry.granularityBits / 8

/-- The units that follow the first one when a whole line is moved: the units of
the line rounded up, less one if the line is a whole number of units. -/
def blockTransferCount (geometry : Geometry) : Nat :=
  let units := (geometry.lineBits + geometry.granularityBits - 1) / geometry.granularityBits
  if geometry.lineBits % geometry.granularityBits = 0 then units - 1 else units

/-- The line that the array sees after power-up: the second one if there is one. -/
def bootOutputLine (geometry : Geometry) : Nat := min 1 (geometry.lineCount - 1)

/-- All derived quantities together. -/
structure Summary where
  lineBits : Nat
  places : Nat
  stepBytes : Nat
  blockTransferCount : Nat
  bootOutputLine : Nat
  deriving Repr, DecidableEq

/-- What keeps the number of places from being computed. -/
def placesFault? (geometry : Geometry) : Option ArithmeticFault :=
  if geometry.isData ∧ geometry.widthBits = 0 then some .divisionByZero else none

/-- What keeps the number of units from being computed. -/
def blockTransferFault? (geometry : Geometry) : Option ArithmeticFault :=
  if geometry.granularityBits = 0 then some .divisionByZero
  else if geometry.lineBits = 0 then some .subtractionOverflow
  else none

/-- What keeps the output line after power-up from being computed. -/
def bootOutputFault? (geometry : Geometry) : Option ArithmeticFault :=
  if geometry.lineCount = 0 then some .subtractionOverflow else none

/-- All derived quantities, or the first operation among them without a result. -/
def summary? (geometry : Geometry) : Except ArithmeticFault Summary :=
  match geometry.placesFault? <|> geometry.blockTransferFault? <|> geometry.bootOutputFault? with
  | some fault => .error fault
  | none => .ok {
      lineBits := geometry.lineBits
      places := geometry.places
      stepBytes := geometry.stepBytes
      blockTransferCount := geometry.blockTransferCount
      bootOutputLine := geometry.bootOutputLine }

/-- What can be wrong with the shape of a cache. -/
inductive Fault where
  | noLines
  | emptyLine
  | zeroWidth
  | badGranularity (bits : Nat)
  | granularityWiderThanLine (bits lineBits : Nat)
  | elementWiderThanLine (bits lineBits : Nat)
  deriving Repr, DecidableEq

def Fault.message : Fault → String
  | .noLines => "cache needs at least one line"
  | .emptyLine => "line size must be non-zero"
  | .zeroWidth => "width must be non-zero"
  | .badGranularity bits =>
    s!"streaming granularity of {bits} bits must be a whole number of bytes up to 64 bits"
  | .granularityWiderThanLine bits lineBits =>
    s!"granularity of {bits} bits is wider than the {lineBits}-bit line"
  | .elementWiderThanLine bits lineBits =>
    s!"element of {bits} bits does not fit a {lineBits}-bit line"

/-- A shape from which everything else can be derived. -/
structure Sound (geometry : Geometry) : Prop where
  lineCount_pos : 0 < geometry.lineCount
  lineBytes_pos : 0 < geometry.lineBytes
  widthBits_pos : 0 < geometry.widthBits
  granularityBits_pos : 0 < geometry.granularityBits
  granularity_bytes : geometry.granularityBits % 8 = 0
  granularity_word : geometry.granularityBits ≤ 64
  granularity_le : geometry.granularityBits ≤ geometry.lineBits
  element_le : geometry.isData → geometry.widthBits ≤ geometry.lineBits

/-- The first condition that fails. -/
def fault? (geometry : Geometry) : Option Fault :=
  if geometry.lineCount = 0 then some .noLines
  else if geometry.lineBytes = 0 then some .emptyLine
  else if geometry.widthBits = 0 then some .zeroWidth
  else if geometry.granularityBits = 0 ∨ geometry.granularityBits % 8 ≠ 0 ∨
      64 < geometry.granularityBits then
    some (.badGranularity geometry.granularityBits)
  else if geometry.lineBits < geometry.granularityBits then
    some (.granularityWiderThanLine geometry.granularityBits geometry.lineBits)
  else if geometry.isData ∧ geometry.lineBits < geometry.widthBits then
    some (.elementWiderThanLine geometry.widthBits geometry.lineBits)
  else none

theorem fault?_eq_none_iff {geometry : Geometry} :
    geometry.fault? = none ↔ geometry.Sound := by
  constructor
  · intro accepted
    unfold fault? at accepted
    split at accepted <;> try contradiction
    split at accepted <;> try contradiction
    split at accepted <;> try contradiction
    split at accepted <;> try contradiction
    split at accepted <;> try contradiction
    split at accepted <;> try contradiction
    next element =>
      exact ⟨by omega, by omega, by omega, by omega, by omega, by omega, by omega,
        fun data => Nat.le_of_not_lt fun narrow => element ⟨data, narrow⟩⟩
  · intro sound
    have element := sound.element_le
    obtain ⟨_, _, _, _, _, _, _, _⟩ := sound
    unfold fault?
    rw [if_neg (by omega), if_neg (by omega), if_neg (by omega), if_neg (by omega),
      if_neg (by omega), if_neg fun narrow => absurd (element narrow.1) (by omega)]

end Geometry

end AccessController
