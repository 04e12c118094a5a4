import AccessController.Cache.Basic
import AccessController.Engine.Basic

/-!
# The datapath

The engine and its four caches on one clock. The place and the outbound unit of
the engine reach every cache, each cache has its own write enable and
acknowledgement, and the data wire of the cache for results leads back to the
engine. Requests and line selectors come from outside.
-/

namespace AccessController

/-- The levels that reach the datapath from outside. -/
structure DatapathInputs where
  start : Bool := false
  selector : UInt8 := 0
  address : UInt16 := 0
  place : UInt8 := 0
  selectIn : PerCache UInt8 := .replicate 0
  selectOut : PerCache UInt8 := .replicate 0
  deriving Repr, DecidableEq

/-- The engine and its caches. -/
structure Datapath where
  engine : Engine
  caches : PerCache Cache

namespace Datapath

/-- The caches of an engine after power-up. -/
def new (engine : Engine) : Datapath where
  engine := engine
  caches := engine.features.geometry.map Cache.new

/-- The levels that the engine samples. -/
def engineInputs (datapath : Datapath) (inputs : DatapathInputs) : Engine.Inputs where
  start := inputs.start
  selector := inputs.selector
  address := inputs.address
  place := inputs.place
  acks := datapath.caches.map (·.outputs.ack.level)
  inbound := datapath.caches.dataOut.outputs.data.level

/-- The levels that a cache samples. -/
def cacheInputs (datapath : Datapath) (inputs : DatapathInputs) (kind : CacheKind) :
    CacheInputs where
  writeEnable := (datapath.engine.outputs.writeEnable.get kind).level
  place := datapath.engine.outputs.place.level
  dataIn := datapath.engine.outputs.outbound.level
  selectIn := inputs.selectIn.get kind
  selectOut := inputs.selectOut.get kind

/-- The tick of the engine alone. -/
def tickEngine (datapath : Datapath) (inputs : DatapathInputs) : Datapath :=
  { datapath with engine := datapath.engine.tick (datapath.engineInputs inputs) }

/-- The tick of one cache alone. -/
def tickCache (inputs : DatapathInputs) (datapath : Datapath) (kind : CacheKind) : Datapath :=
  { datapath with
    caches := datapath.caches.modify kind (·.tick (datapath.cacheInputs inputs kind)) }

/-- The ticks of the engine and then of the caches, before the clock edge. -/
def tickAll (datapath : Datapath) (inputs : DatapathInputs) : Datapath :=
  CacheKind.all.foldl (tickCache inputs) (datapath.tickEngine inputs)

/-- The clock edge. -/
def commit (datapath : Datapath) : Datapath where
  engine := datapath.engine.commit
  caches := datapath.caches.map Cache.commit

/-- One tick with its clock edge. -/
def tick (datapath : Datapath) (inputs : DatapathInputs) : Datapath :=
  (datapath.tickAll inputs).commit

/-- Changes the shared memory. -/
def withMemory (datapath : Datapath) (memory : Memory) : Datapath :=
  { datapath with engine.memory := memory }

/-- Writes a result set into the output line of a cache. -/
def storeResults (datapath : Datapath) (kind : CacheKind) (values : List UInt64) :
    Except Lines.FillError Datapath :=
  ((datapath.caches.get kind).storeResults values).map fun cache =>
    { datapath with caches := datapath.caches.set kind cache }

/-- Resets the engine and the caches, before the clock edge. -/
def reset (datapath : Datapath) : Datapath where
  engine := datapath.engine.reset
  caches := datapath.caches.map Cache.reset

/-- The output lines in the order of the selectors. -/
def outputLines (datapath : Datapath) : List Nat :=
  (datapath.caches.map (·.outputLine)).toList

end Datapath

end AccessController
