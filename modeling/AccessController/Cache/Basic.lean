import AccessController.Cache.Lines
import AccessController.Signal.Wire

/-!
# Double-buffered caches

The engine streams into the line named by `selectIn` through a handshake of
write enable and acknowledgement, while the array sees the output line only. A
write to the output line is refused, and so is making the line that is being
written the output line, so no line is ever seen half written.

In the cache for results the handshake runs the other way: a request that is
granted puts the addressed element on the data wire instead of merging one.
Every request is acknowledged, granted or refused.
-/

namespace AccessController

/-- Why a request of the engine is refused. -/
inductive AccessRefusal where
  | lineOutOfRange
  | placeOutOfRange
  | lineIsOutputSelected
  deriving Repr, DecidableEq

/-- Why an output line is refused. -/
inductive SelectRefusal where
  | outOfRange
  | isWriteTarget
  deriving Repr, DecidableEq

/-- What a cache has counted. -/
structure CacheStats where
  acceptedWrites : Nat := 0
  rejectedWrites : Nat := 0
  selects : Nat := 0
  rejectedSelects : Nat := 0
  deriving Repr, DecidableEq

/-- The levels that a cache samples. -/
structure CacheInputs where
  writeEnable : Bool := false
  place : Nat := 0
  dataIn : Bytes := []
  selectIn : UInt8 := 0
  selectOut : UInt8 := 0
  deriving Repr, DecidableEq

/-- The wires that a cache drives. -/
structure CacheOutputs where
  ack : Wire Bool := .rest false
  data : Wire Bytes := .rest []
  deriving Repr, DecidableEq

/-- A cache with its lines and its output wires. -/
structure Cache where
  geometry : Geometry
  lines : Lines
  outputLine : Nat
  ack : Bool := false
  /-- The output line that was refused at the last tick and why, so that a
  request which is held counts once. -/
  refusedSelect : Option (Nat × SelectRefusal) := none
  stats : CacheStats := {}
  cycle : Nat := 0
  outputs : CacheOutputs := {}
  deriving Repr, DecidableEq

namespace Cache

/-- A cache after power-up. -/
def new (geometry : Geometry) : Cache where
  geometry := geometry
  lines := .blank geometry
  outputLine := geometry.bootOutputLine

/-- What keeps a cache from being built. -/
def newFault? (geometry : Geometry) : Option ArithmeticFault :=
  Lines.blankFault? geometry <|> geometry.bootOutputFault?

/-- The line that the array sees. -/
def currentLine (cache : Cache) : Line := cache.lines.line cache.outputLine

/-- Writes a result set into the output line. -/
def storeResults (cache : Cache) (values : List UInt64) : Except Lines.FillError Cache :=
  (cache.lines.fill cache.geometry cache.outputLine values).map fun lines =>
    { cache with lines }

/-- Whether granted requests read an element instead of merging one. -/
def drains (cache : Cache) : Bool := cache.geometry.kind == some .dataOut

/-- Why a request for a line and place is refused, if it is. -/
def accessRefusal? (cache : Cache) (line place : Nat) : Option AccessRefusal :=
  if cache.geometry.lineCount ≤ line then some .lineOutOfRange
  else if cache.geometry.isData ∧ cache.geometry.places ≤ place then some .placeOutOfRange
  else if line = cache.outputLine then some .lineIsOutputSelected
  else none

/-- Why a line cannot become the output line while `target` is being written. -/
def selectRefusal? (cache : Cache) (line : Nat) (target : Option Nat) : Option SelectRefusal :=
  if cache.geometry.lineCount ≤ line then some .outOfRange
  else if target = some line then some .isWriteTarget
  else none

def countAccepted (cache : Cache) : Cache :=
  { cache with stats.acceptedWrites := cache.stats.acceptedWrites + 1 }

def countRejected (cache : Cache) : Cache :=
  { cache with stats.rejectedWrites := cache.stats.rejectedWrites + 1 }

/-- Puts bytes on the data wire. -/
def driveData (cache : Cache) (bytes : Bytes) : Cache :=
  { cache with outputs.data := cache.outputs.data.drive bytes }

/-- Serves one request of the engine. A merge without data has no effect. -/
def serve (cache : Cache) (line place : Nat) (datum : Bytes) : Cache :=
  match cache.accessRefusal? line place with
  | some _ =>
    (if cache.drains then cache.driveData [] else cache).countRejected
  | none =>
    if cache.drains then
      let element := (cache.lines.element? cache.geometry line place).getD []
      (cache.driveData element).countAccepted
    else if datum.isEmpty then
      cache.countRejected
    else
      { cache with lines := cache.lines.merge cache.geometry line place datum }.countAccepted

/-- One tick of the handshake: a request is served when write enable rises, and
the acknowledgement follows write enable. -/
def handshake (cache : Cache) (inputs : CacheInputs) : Cache :=
  let served :=
    if inputs.writeEnable && !cache.ack then
      cache.serve inputs.selectIn.toNat inputs.place inputs.dataIn
    else cache
  { served with
    ack := inputs.writeEnable
    outputs.ack := served.outputs.ack.drive inputs.writeEnable }

/-- Moves the output to the requested line unless that is refused. A refusal
counts when it differs from that of the tick before. -/
def updateSelection (cache : Cache) (requested : Nat) (target : Option Nat) : Cache :=
  if requested = cache.outputLine then
    { cache with refusedSelect := none }
  else
    match cache.selectRefusal? requested target with
    | none =>
      { cache with
        outputLine := requested
        refusedSelect := none
        stats.selects := cache.stats.selects + 1 }
    | some refusal =>
      let repeated := cache.refusedSelect = some (requested, refusal)
      { cache with
        refusedSelect := some (requested, refusal)
        stats.rejectedSelects := cache.stats.rejectedSelects + if repeated then 0 else 1 }

/-- The line being written at a tick with these levels. -/
def writeTarget (inputs : CacheInputs) : Option Nat :=
  if inputs.writeEnable then some inputs.selectIn.toNat else none

/-- One tick: the handshake, then the selection. -/
def tick (cache : Cache) (inputs : CacheInputs) : Cache :=
  ({ cache with cycle := cache.cycle + 1 }.handshake inputs).updateSelection
    inputs.selectOut.toNat (writeTarget inputs)

/-- What would stop a tick: a merge that reaches outside the lines. -/
def tickFault? (cache : Cache) (inputs : CacheInputs) : Option ArithmeticFault :=
  let line := inputs.selectIn.toNat
  let merges := inputs.writeEnable && !cache.ack && !cache.drains && !inputs.dataIn.isEmpty &&
    (cache.accessRefusal? line inputs.place).isNone
  if merges then cache.lines.mergeFault? cache.geometry line inputs.place else none

/-- Back to the state after power-up; counters stay and the data wire is not
driven. -/
def reset (cache : Cache) : Cache :=
  { cache with
    lines := cache.lines.clear
    outputLine := cache.geometry.bootOutputLine
    ack := false
    refusedSelect := none
    outputs.ack := cache.outputs.ack.drive false }

/-- The clock edge of the output wires. -/
def commit (cache : Cache) : Cache :=
  { cache with
    outputs := { ack := cache.outputs.ack.commit, data := cache.outputs.data.commit } }

end Cache

end AccessController
