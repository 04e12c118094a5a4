import AccessController.Machine.Basic
import AccessController.Text.Structured

/-!
# Runs and their reports

A run raises the run pin and ticks until the finish line is high, within a
budget of ticks; then it lowers the pin and lets the controller rewind. It fails
when the budget is used up and when the controller has failed, and ends with a
report otherwise.
-/

namespace AccessController

/-!
## Reports

The summary of a run: how long it took, whether the program came to its end,
and what every component has counted.
-/

/-- The part of a report that is about one cache. -/
structure CacheReport where
  kind : CacheKind
  outputLine : Nat
  stats : CacheStats
  deriving Repr, DecidableEq

/-- The summary of a run. -/
structure Report where
  cycles : Nat
  finished : Bool
  control : ControlStats
  engine : EngineStats
  caches : List CacheReport
  lastTransfer : Option TransferRecord
  deriving Repr, DecidableEq

/-- The summary of what the machine has done so far. -/
def Machine.report (machine : Machine) : Report where
  cycles := machine.cycle
  finished := machine.controller.state.stage = .idle ∧ machine.controller.state.pointer = 0
  control := machine.controller.state.stats
  engine := machine.datapath.engine.state.stats
  caches := CacheKind.all.map fun kind =>
    ⟨kind, (machine.cache kind).outputLine, (machine.cache kind).stats⟩
  lastTransfer := machine.datapath.engine.state.lastTransfer

/-- The counters of the controller by name. -/
def ControlStats.document (stats : ControlStats) : Document := .record [
  ("instructions", .number stats.instructions),
  ("mmu_requests", .number stats.engineRequests),
  ("wait_cycles", .number stats.waitCycles),
  ("pause_cycles", .number stats.pauseCycles),
  ("unknown_opcodes", .number stats.unknownOpcodes),
  ("ignored_edges", .number stats.ignoredEdges)]

/-- The counters of the engine by name. -/
def EngineStats.document (stats : EngineStats) : Document := .record [
  ("requests", .number stats.requests),
  ("transfers", .number stats.transfers),
  ("bytes_to_cache", .number stats.bytesToCache),
  ("bytes_to_memory", .number stats.bytesToMemory),
  ("bounds_violations", .number stats.boundsViolations),
  ("rejected_requests", .number stats.rejectedRequests),
  ("aborted_requests", .number stats.abortedRequests)]

/-- The counters of a cache by name. -/
def CacheStats.fields (stats : CacheStats) : List (String × Document) := [
  ("accepted_writes", .number stats.acceptedWrites),
  ("rejected_writes", .number stats.rejectedWrites),
  ("selects", .number stats.selects),
  ("rejected_selects", .number stats.rejectedSelects)]

def CacheReport.document (report : CacheReport) : Document :=
  .record ([("kind", .text report.kind.reportName), ("output_line", .number report.outputLine)] ++
    report.stats.fields)

def TransferRecord.document (record : TransferRecord) : Document := .record [
  ("kind", .text record.kind.reportName),
  ("start_address", .number record.startAddress),
  ("final_address", .number record.finalAddress),
  ("transfer_count", .number record.transferCount),
  ("transfers", .number record.transfers)]

def Report.document (report : Report) : Document := .record [
  ("cycles", .number report.cycles),
  ("finished", .flag report.finished),
  ("control", report.control.document),
  ("engine", report.engine.document),
  ("caches", .list (report.caches.map CacheReport.document)),
  ("last_transfer", (report.lastTransfer.map TransferRecord.document).getD .absent)]

/-- The text of a report. -/
def Report.render (report : Report) : String := report.document.pretty

/-! ## Runs -/

/-- Why a run failed. -/
inductive RunError where
  | timeout (ticks : Nat) (activity : Activity) (stage : Stage) (pointer : Nat)
      (phase : Engine.Phase)
  | halted (cycle : Nat) (fault : Desynchronized)
  deriving Repr, DecidableEq

def RunError.message : RunError → String
  | .timeout ticks activity stage pointer phase =>
    s!"no finish pulse after {ticks} ticks (ctrl {activity.label}/{stage.label} " ++
      s!"at pp {pointer}, mmu {phase.label})"
  | .halted cycle fault => s!"controller halted at cycle {cycle}: {fault.message}"

namespace Machine

/-- The ticks that the controller has for rewinding. -/
def drainTicks : Nat := 16

/-- The failure of the controller, if it has failed. -/
def haltError? (machine : Machine) : Option RunError :=
  machine.controller.state.fault.map (.halted machine.cycle)

/-- The error of a machine that used up its budget of ticks. -/
def timeoutError (machine : Machine) (timeout : Nat) : RunError :=
  .timeout timeout machine.controller.state.activity machine.controller.state.stage
    machine.controller.state.pointer machine.datapath.engine.state.phase

/-- Ticks until the finish line is high, at most `budget` times. -/
def awaitFinish (timeout : Nat) : (budget : Nat) → Machine → Machine × Option RunError
  | 0, machine =>
    (machine, if machine.finishLevel then none else some (machine.timeoutError timeout))
  | budget + 1, machine =>
    if machine.finishLevel then (machine, none)
    else
      let next := machine.tick
      match next.haltError? with
      | some error => (next, some error)
      | none => awaitFinish timeout budget next

/-- Ticks until the controller is idle, at most `budget` times. -/
def drain : (budget : Nat) → Machine → Machine × Option RunError
  | 0, machine => (machine, none)
  | budget + 1, machine =>
    let next := machine.tick
    match next.haltError? with
    | some error => (next, some error)
    | none => if next.controller.state.stage = .idle then (next, none) else drain budget next

/-- Runs the program until it is finished, within `timeout` ticks. -/
def run (timeout : Nat) (machine : Machine) : Machine × Except RunError Report :=
  match awaitFinish timeout timeout (machine.setRun true) with
  | (failed, some error) => (failed, .error error)
  | (finished, none) =>
    match drain drainTicks (finished.setRun false) with
    | (failed, some error) => (failed, .error error)
    | (drained, none) => (drained, .ok drained.report)

end Machine

end AccessController
