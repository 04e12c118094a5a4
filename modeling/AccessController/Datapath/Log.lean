import AccessController.Bytes
import AccessController.Cache.Basic
import AccessController.Datapath.Basic
import AccessController.Engine.Basic
import AccessController.Log

/-!
# What the datapath logs

The lines of the engine come before those of the caches.
-/

namespace AccessController

/-!
## Caches

Granted requests and changes of the output line are details; refusals are
warnings, and a refused output line is reported when its refusal counts.
-/

def AccessRefusal.label : AccessRefusal → String
  | .lineOutOfRange => "LineOutOfRange"
  | .placeOutOfRange => "PlaceOutOfRange"
  | .lineIsOutputSelected => "LineIsOutputSelected"

def SelectRefusal.label : SelectRefusal → String
  | .outOfRange => "OutOfRange"
  | .isWriteTarget => "IsWriteTarget"

namespace Cache

/-- What serving a request logs. -/
def serveLog (cache : Cache) (line place : Nat) (datum : Bytes) : LogLine :=
  let name := cache.geometry.name
  match cache.accessRefusal? line place with
  | some refusal =>
    .warn (s!"{name}: write to line {line} place {place} refused ({refusal.label}), " ++
      "acknowledging without effect")
  | none =>
    if cache.drains then
      let element := (cache.lines.element? cache.geometry line place).getD []
      .debug s!"{name}: drain line {line} place {place} -> {Hex.bytesListing element}"
    else if datum.isEmpty then
      .warn s!"{name}: no data for line {line} place {place}, acknowledging without effect"
    else
      .debug s!"{name}: merge {Hex.bytesListing datum} into line {line} place {place}"

/-- What the handshake logs. -/
def handshakeLog (cache : Cache) (inputs : CacheInputs) : List LogLine :=
  if inputs.writeEnable && !cache.ack then
    [cache.serveLog inputs.selectIn.toNat inputs.place inputs.dataIn]
  else []

/-- What the selection of the output line logs. -/
def selectionLog (cache : Cache) (requested : Nat) (target : Option Nat) : List LogLine :=
  let name := cache.geometry.name
  let current := cache.outputLine
  if requested = current then []
  else
    match cache.selectRefusal? requested target with
    | none => [.debug s!"{name}: output line {current} -> {requested}"]
    | some refusal =>
      if cache.refusedSelect = some (requested, refusal) then []
      else
        [.warn (s!"{name}: cannot select output line {requested} ({refusal.label}), " ++
          s!"keeping line {current}")]

/-- What a tick logs. -/
def tickLog (cache : Cache) (inputs : CacheInputs) : List LogLine :=
  cache.handshakeLog inputs ++
    cache.selectionLog inputs.selectOut.toNat (writeTarget inputs)

end Cache

/-!
## The engine

Requests and their decoded form are details. A request that ends early and a
unit outside the memory are warnings.
-/

/-- The listing of a request. -/
def TransferRequest.render (request : TransferRequest) : String :=
  s!"TransferRequest \x7b cache_type: {request.selector.toNat}, " ++
    s!"address: {request.address.toNat}, place: {request.place.toNat} \x7d"

/-- The listing of a request under way. -/
def TransferContext.render (context : TransferContext) : String :=
  s!"TransferContext \x7b kind: {context.kind.label}, address: {context.address}, " ++
    s!"place: {context.place}, block: {context.block}, remaining: {context.remaining}, " ++
    s!"step: {context.step}, count: {context.count} \x7d"

namespace Engine

/-- What decoding a request logs. -/
def decodeLog (engine : Engine) (request : TransferRequest) : LogLine :=
  match CacheKind.ofSelector? request.selector with
  | none =>
    .warn s!"mmu: unrecognized cache type {request.selector.toNat}, aborting request"
  | some kind =>
    .debug s!"mmu: decoded {(contextOf (engine.features.get kind) kind request).render}"

/-- What a step of a job logs. -/
def serveLog (engine : Engine) (inputs : Inputs) (job : Job) : Step → List LogLine
  | .validate =>
    let kind := job.context.kind
    let place := job.context.place
    let places := (engine.features.get kind).places
    if kind.isData ∧ places ≤ place then
      [.warn (s!"mmu: place {place} out of range for {kind.name} ({places} places per line), " ++
        "request dropped")]
    else []
  | .writeData =>
    match engine.memory.check job.context.address job.context.step with
    | .ok _ => []
    | .error error => [.warn s!"mmu: {job.context.kind.name} read skipped: {error.message}"]
  | .readData =>
    let unit := inputs.inbound.take job.context.step
    match engine.memory.check job.context.address unit.length with
    | .ok _ => []
    | .error error => [.warn s!"mmu: {job.context.kind.name} write-back skipped: {error.message}"]
  | _ => []

/-- What a tick logs. -/
def tickLog (engine : Engine) (inputs : Inputs) : List LogLine :=
  match engine.state.phase with
  | .await =>
    if inputs.start && !engine.state.ready then
      let request : TransferRequest := ⟨inputs.selector, inputs.address, inputs.place⟩
      [.debug s!"mmu: request {request.render}"]
    else []
  | .decode request => [engine.decodeLog request]
  | .serve step job => engine.serveLog inputs job step

/-- What building an engine logs. -/
def buildLog (memorySize : Nat) : LogLine :=
  .info s!"memory access engine instantiated with {memorySize} bytes of shared memory"

end Engine

/-! ## The datapath -/

namespace Datapath

/-- What a tick logs, component by component. -/
def tickLog (datapath : Datapath) (inputs : DatapathInputs) : List LogLine :=
  datapath.engine.tickLog (datapath.engineInputs inputs) ++
    CacheKind.all.flatMap fun kind =>
      (datapath.caches.get kind).tickLog (datapath.cacheInputs inputs kind)

end Datapath

end AccessController
