import AccessController.Controller.Basic
import AccessController.Datapath.Log
import AccessController.Log
import AccessController.Machine.Run

/-!
# What the machine logs

A tick logs what its components log, the array first. A run also logs its
beginning and its finish.
-/

namespace AccessController

/-!
## The controller

Instructions and the beginning and end of a run are of general interest; the
traffic with the engine, the array and the caches is detail. The log of a tick
follows its reactions in their order.
-/

namespace Controller

/-- A number filled with blanks on the left. -/
def column (width number : Nat) : String :=
  let digits := toString number
  String.ofList (List.replicate (width - digits.length) ' ') ++ digits

/-- What an edge of the engine's ready logs. -/
def onEngineEdgeLog (controller : Controller) (rising : Bool) : List LogLine :=
  match controller.state.activity with
  | .waiting .engine =>
    if rising then []
    else [.debug s!"ctrl: mmu ready released, resuming at pp {controller.state.pointer}"]
  | .waiting .array =>
    [.warn "ctrl: mmu ready edge while waiting on the array, ignored"]
  | activity =>
    let fault : Desynchronized := ⟨rising, activity, controller.state.pointer⟩
    [.error s!"ctrl: {fault.message}"]

/-- What finding the stage of an instruction logs. -/
def dispatchLog (controller : Controller) : LogLine :=
  let instruction := controller.state.instruction
  let pointer := controller.state.pointer
  match instruction.operation? with
  | some _ => .info s!"ctrl: pp {column 3 pointer} {instruction.render}"
  | none =>
    let code := Hex.marked 2 instruction.opcode.toNat
    .warn s!"ctrl: unknown opcode {code} at pp {pointer}, skipped"

/-- What a request for the engine logs. -/
def requestLog (controller : Controller) (operation : TransferOp) : LogLine :=
  let instruction := controller.state.instruction
  let place :=
    if operation.wholeLine then Instruction.wholeLinePlace else instruction.place
  let address := Hex.marked 4 instruction.address.toNat
  .debug (s!"ctrl: mmu request {operation.kind.name} line {instruction.line.toNat} " ++
    s!"place {place.toNat} addr {address}")

/-- What a step logs. -/
def stepLog (controller : Controller) (run : Bool) : List LogLine :=
  let state := controller.state
  match state.stage with
  | .fetch =>
    if (controller.program.word? state.pointer).isSome then []
    else [.warn s!"ctrl: pp {state.pointer} ran past the end of the program, finishing"]
  | .decode => [controller.dispatchLog]
  | .transfer operation => [controller.requestLog operation]
  | .select kind =>
    [.debug s!"ctrl: select {kind.name} output line {state.instruction.line.toNat}"]
  | .finish =>
    if run then []
    else [.info s!"ctrl: program finished after {state.stats.instructions} instructions"]
  | _ => []

/-- What the controller logs once all edges have been seen. -/
def actLog (controller : Controller) (run : Bool) : List LogLine :=
  if controller.state.activity = .running then controller.stepLog run else []

/-- What a tick logs. -/
def tickLog (controller : Controller) (pins : ControlPins) : List LogLine :=
  let before := controller.state.sampled
  let sampled := controller.sample pins
  if sampled.state.activity = .failed then []
  else
    let engineLog :=
      if pins.engineReady = before.engineReady then []
      else sampled.onEngineEdgeLog pins.engineReady
    let synchronized := sampled.engineEdge before pins
    if synchronized.state.activity = .failed then engineLog
    else
      let arrayLog :=
        if pins.arrayReady && !before.arrayReady then [.debug "ctrl: array ready pulse"] else []
      let stopped := (synchronized.arrayEdge before pins).resetEdge before pins
      let resetLog :=
        if before.reset && !pins.reset then [.info "ctrl: reset released, stopping"] else []
      let runLog :=
        if pins.run && !before.run then [.info s!"ctrl: run from pp {stopped.state.pointer}"]
        else []
      let acting := (stopped.runEdge before pins).onPause before pins
      engineLog ++ arrayLog ++ resetLog ++ runLog ++ acting.actLog pins.run

/-- What building a controller logs. -/
def buildLog (program : Program) : LogLine :=
  .info s!"control unit loaded {program.size} instructions"

end Controller

/-! ## The machine -/

namespace Machine

/-- What the tick of the array logs, results that cannot be stored included. -/
def arrayLog (machine : Machine) : List LogLine :=
  let start := machine.controller.outputs.arrayStart.level
  let dropped := match machine.arrayTick.2 with
    | none => []
    | some values =>
      match machine.datapath.storeResults .dataOut (machine.fittingResults values) with
      | .ok _ => []
      | .error error => [LogLine.warn s!"sim: array results dropped: {error.message}"]
  machine.array.tickLog start machine.arrayInputs ++ dropped

/-- What a tick logs. -/
def tickLog (machine : Machine) : List LogLine :=
  let stepped := machine.stepArray
  machine.arrayLog ++ stepped.controller.tickLog stepped.controlPins ++
    stepped.datapath.tickLog stepped.datapathInputs

/-- What the wait for the finish line logs. -/
def awaitFinishLog (timeout : Nat) : (budget : Nat) → Machine → List LogLine
  | 0, _ => []
  | budget + 1, machine =>
    if machine.finishLevel then []
    else
      let next := machine.tick
      match next.haltError? with
      | some _ => machine.tickLog
      | none => machine.tickLog ++ awaitFinishLog timeout budget next

/-- What rewinding logs. -/
def drainLog : (budget : Nat) → Machine → List LogLine
  | 0, _ => []
  | budget + 1, machine =>
    let next := machine.tick
    if next.haltError?.isSome ∨ next.controller.state.stage = .idle then machine.tickLog
    else machine.tickLog ++ drainLog budget next

/-- What a run logs. -/
def runLog (timeout : Nat) (machine : Machine) : List LogLine :=
  let running := machine.setRun true
  let opening := LogLine.info s!"sim: running {machine.controller.program.size} instructions"
  let waiting := awaitFinishLog timeout timeout running
  match awaitFinish timeout timeout running with
  | (_, some _) => opening :: waiting
  | (finished, none) =>
    opening :: waiting ++
      .info s!"sim: finish pulse at cycle {finished.cycle}" ::
        drainLog drainTicks (finished.setRun false)

end Machine

end AccessController
