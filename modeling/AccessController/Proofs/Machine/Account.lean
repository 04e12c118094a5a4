import AccessController.Proofs.Controller.Placed
import AccessController.Proofs.Machine.Underway

/-!
# What a run counts

The instructions in front of the first FINISH are retired one after the other, and each
transfer among them is one request to the engine.  What has been counted and what is
still to be counted add up to the same at any time of a run, whatever the pins do to
its pace, and what is left of the program is always an end of it.
-/

namespace AccessController

/-- Whether an instruction makes a request to the engine. -/
def Instruction.transfers (instruction : Instruction) : Bool :=
  match instruction.operation? with
  | some (.transfer _) => true
  | _ => false

/-- Whether an instruction has been executed and not been counted yet. -/
def Stage.uncounted : Stage → Nat
  | .awaitEngine | .engineDone | .advance => 1
  | _ => 0

namespace Controller

/-- The instructions that have been retired and those that are still to be. -/
def retiring (controller : Controller) : Nat :=
  controller.state.stats.instructions +
    (controller.state.stage.uncounted + (executed controller.remaining).length)

/-- The requests that have been made and those that are still to be. -/
def requesting (controller : Controller) : Nat :=
  controller.state.stats.engineRequests +
    (executed controller.remaining).countP Instruction.transfers

/-- Both numbers are the same before and after, and instructions are only taken from the
front. -/
structure Balances (before after : Controller) : Prop where
  retiring : after.retiring = before.retiring
  requesting : after.requesting = before.requesting
  remaining : after.remaining <:+ before.remaining

theorem Balances.refl (controller : Controller) : Balances controller controller :=
  ⟨rfl, rfl, List.suffix_refl _⟩

theorem Balances.trans {before middle after : Controller} (left : Balances before middle)
    (right : Balances middle after) : Balances before after where
  retiring := right.retiring.trans left.retiring
  requesting := right.requesting.trans left.requesting
  remaining := right.remaining.trans left.remaining

variable {controller : Controller}

/-- An instruction that is not a transfer passes from the program into the one that is to
be counted. -/
theorem balances_of_passed {after : Controller}
    (before : controller.remaining = controller.state.instruction :: controller.behind)
    (unfinished : controller.state.instruction.operation? ≠ some .finish)
    (quiet : controller.state.instruction.transfers = false)
    (fresh : controller.state.stage.uncounted = 0)
    (stage : after.state.stage = .advance) (behind : after.behind = controller.behind)
    (instructions : after.state.stats.instructions = controller.state.stats.instructions)
    (requests : after.state.stats.engineRequests = controller.state.stats.engineRequests) :
    Balances controller after := by
  have rest : after.remaining = controller.behind := by
    rw [remaining, stage, ← behind]
  constructor
  · rw [retiring, retiring, rest, before, executed_cons unfinished, stage, fresh, instructions,
      List.length_cons]
    simp only [Stage.uncounted]
    omega
  · rw [requesting, requesting, rest, before, executed_cons unfinished, requests,
      List.countP_cons_of_neg (by simp [quiet])]
  · rw [rest, before]
    exact List.suffix_cons ..

theorem balances_of_moved {after : Controller}
    (rest : after.remaining = controller.remaining)
    (counted : after.state.stage.uncounted = controller.state.stage.uncounted)
    (instructions : after.state.stats.instructions = controller.state.stats.instructions)
    (requests : after.state.stats.engineRequests = controller.state.stats.engineRequests) :
    Balances controller after := by
  constructor
  · rw [retiring, retiring, rest, counted, instructions]
  · rw [requesting, requesting, rest, requests]
  · exact rest ▸ List.suffix_refl _

/-- The stage of an instruction is one that this instruction has. -/
def Executes (controller : Controller) : Prop :=
  ∀ opcode, controller.state.stage.opcode? = some opcode →
    controller.state.instruction.operation? = some opcode

/-- Carrying out an instruction that makes no request. -/
theorem Executes.balances_of_executed (executes : controller.Executes) {opcode : Opcode}
    (code : controller.state.stage.opcode? = some opcode) (unfinished : opcode ≠ .finish)
    (quiet : ∀ operation, opcode ≠ .transfer operation) {after : Controller}
    (stage : after.state.stage = .advance) (behind : after.behind = controller.behind)
    (instructions : after.state.stats.instructions = controller.state.stats.instructions)
    (requests : after.state.stats.engineRequests = controller.state.stats.engineRequests) :
    Balances controller after := by
  have found := executes opcode code
  have staged : controller.remaining = controller.state.instruction :: controller.behind ∧
      controller.state.stage.uncounted = 0 := by
    rw [remaining]
    cases now : controller.state.stage with
    | transfer operation => exact ⟨rfl, rfl⟩
    | select kind => exact ⟨rfl, rfl⟩
    | start => exact ⟨rfl, rfl⟩
    | waitReady => exact ⟨rfl, rfl⟩
    | _ => simp [now, Stage.opcode?] at code
  have transfers : controller.state.instruction.transfers = false := by
    rw [Instruction.transfers, found]
    cases opcode with
    | transfer operation => exact absurd rfl (quiet operation)
    | _ => rfl
  exact balances_of_passed staged.1 (by simpa [found] using unfinished) transfers staged.2 stage
    behind instructions requests

theorem balances_fetch (stage : controller.state.stage = .fetch) :
    Balances controller controller.fetch := by
  have before : controller.remaining =
      controller.program.instructions.drop controller.state.pointer := by
    rw [remaining, stage]
  rw [fetch]
  cases fetched : controller.program.word? controller.state.pointer with
  | some word =>
    refine balances_of_moved ?_ (by rw [stage]; rfl) rfl rfl
    rw [before, Program.drop_instructions fetched]
    rfl
  | none =>
    refine balances_of_moved ?_ (by rw [stage]; rfl) rfl rfl
    rw [before, Program.drop_instructions_of_none fetched]
    rfl

theorem balances_dispatch (stage : controller.state.stage = .decode) :
    Balances controller controller.dispatch := by
  have before : controller.remaining = controller.state.instruction :: controller.behind := by
    rw [remaining, stage]
  have fresh : controller.state.stage.uncounted = 0 := by
    rw [stage]
    rfl
  rw [dispatch]
  cases found : controller.state.instruction.operation? with
  | none =>
    exact balances_of_passed before (by simp [found]) (by simp [Instruction.transfers, found])
      fresh rfl rfl rfl rfl
  | some opcode =>
    cases opcode with
    | noop =>
      exact balances_of_passed before (by simp [found]) (by simp [Instruction.transfers, found])
        fresh rfl rfl rfl rfl
    | finish =>
      have after : (controller.enter (Stage.ofOpcode .finish)).remaining = [] := rfl
      constructor
      · rw [retiring, retiring, after, before, executed_finish found, fresh]
        rfl
      · rw [requesting, requesting, after, before, executed_finish found]
        rfl
      · rw [after]
        exact List.nil_suffix
    | _ =>
      refine balances_of_moved ?_ ?_ rfl rfl
      · rw [before]
        rfl
      · rw [fresh]
        rfl

/-- A transfer that is asked for passes from the requests to come to those made. -/
theorem Executes.balances_request (executes : controller.Executes) {operation : TransferOp}
    (stage : controller.state.stage = .transfer operation) :
    Balances controller (controller.request operation) := by
  have found := executes (.transfer operation) (by rw [stage]; rfl)
  have unfinished : controller.state.instruction.operation? ≠ some .finish := by simp [found]
  have before : controller.remaining = controller.state.instruction :: controller.behind := by
    rw [remaining, stage]
  have after : (controller.request operation).remaining = controller.behind := rfl
  constructor
  · rw [retiring, retiring, after, before, executed_cons unfinished, stage, List.length_cons]
    simp only [request, Stage.uncounted]
    omega
  · rw [requesting, requesting, after, before, executed_cons unfinished,
      List.countP_cons_of_pos (by simp [Instruction.transfers, found])]
    simp only [request]
    omega
  · rw [after, before]
    exact List.suffix_cons ..

theorem balances_advance (stage : controller.state.stage = .advance) :
    Balances controller controller.advance := by
  have same : controller.advance.remaining = controller.remaining := by
    rw [remaining, remaining, stage]
    rfl
  constructor
  · rw [retiring, retiring, same, stage]
    simp only [advance, enter, Stage.uncounted]
    omega
  · rw [requesting, requesting, same]
    rfl
  · exact same ▸ List.suffix_refl _

/-- A step of a run. -/
theorem Executes.balances_step (executes : controller.Executes) :
    Balances controller (controller.step true) := by
  rw [step]
  cases stage : controller.state.stage with
  | fetch => exact balances_fetch stage
  | decode => exact balances_dispatch stage
  | transfer operation => exact executes.balances_request stage
  | select kind =>
    have code : controller.state.stage.opcode? = some (.select kind) := by rw [stage]; rfl
    exact executes.balances_of_executed code (by simp) (by simp) rfl rfl rfl rfl
  | start =>
    have code : controller.state.stage.opcode? = some .start := by rw [stage]; rfl
    exact executes.balances_of_executed code (by simp) (by simp) rfl rfl rfl rfl
  | waitReady =>
    have code : controller.state.stage.opcode? = some .waitReady := by rw [stage]; rfl
    dsimp only
    rw [waitReady]
    split
    · exact executes.balances_of_executed code (by simp) (by simp) rfl rfl rfl rfl
    · exact balances_of_moved rfl rfl rfl rfl
  | advance => exact balances_advance stage
  | engineDone =>
    refine balances_of_moved ?_ (by rw [stage]; rfl) rfl rfl
    rw [remaining, remaining, stage]
    rfl
  | finish => exact balances_of_moved rfl rfl rfl rfl
  | awaitEngine => exact balances_of_moved rfl rfl rfl rfl
  | idle => exact .refl controller

theorem Executes.balances_act (executes : controller.Executes) :
    Balances controller (controller.act true) := by
  rw [act]
  cases activity : controller.state.activity with
  | running => exact executes.balances_step
  | _ => exact balances_of_moved rfl rfl rfl rfl

/-- An answer of the engine is noted with its instruction still to be counted. -/
theorem Placed.balances_engineEdge (placed : controller.Placed) (before pins : ControlPins) :
    Balances controller (controller.engineEdge before pins) := by
  rw [Controller.engineEdge]
  split
  · exact .refl controller
  · rw [onEngineEdge]
    cases activity : controller.state.activity with
    | waiting awaited =>
      cases awaited with
      | engine =>
        have stage := placed.engine activity
        dsimp only
        split
        · exact .refl controller
        · refine balances_of_moved ?_ (by rw [stage]; rfl) rfl rfl
          rw [remaining, remaining, stage]
          rfl
      | array => exact balances_of_moved rfl rfl rfl rfl
    | _ => exact balances_of_moved rfl rfl rfl rfl

/-- The end of a wait for the array executes the instruction that waits. -/
theorem Placed.balances_arrayEdge (placed : controller.Placed) (executes : controller.Executes)
    (before pins : ControlPins) : Balances controller (controller.arrayEdge before pins) := by
  rw [Controller.arrayEdge]
  split
  · rw [onArrayReady]
    split
    next awaited =>
      have code : controller.state.stage.opcode? = some .waitReady := by
        rw [placed.array awaited]
        rfl
      exact executes.balances_of_executed code (by simp) (by simp) rfl rfl rfl rfl
    next => exact balances_of_moved rfl rfl rfl rfl
  · exact .refl controller

theorem Placed.balances_attend (placed : controller.Placed) (executes : controller.Executes)
    (pins : ControlPins)
    (unstarted : ¬(controller.state.sampled.run = false ∧ pins.run = true))
    (unreset : ¬(controller.state.sampled.reset = true ∧ pins.reset = false)) :
    Balances controller (controller.attend pins) := by
  have sampled : (controller.sample pins).Placed := placed.move rfl rfl
  have noted : ((controller.sample pins).engineEdge controller.state.sampled pins).Executes := by
    rw [Controller.engineEdge]
    split
    · exact executes
    · rw [onEngineEdge]
      split
      · split
        · exact executes
        · intro opcode found
          cases found
      · exact executes
      · exact executes
  have samples : Balances controller (controller.sample pins) := balances_of_moved rfl rfl rfl rfl
  have engine := sampled.balances_engineEdge controller.state.sampled pins
  have array := (sampled.engineEdge controller.state.sampled pins).balances_arrayEdge noted
    controller.state.sampled pins
  rw [attend_of_run unstarted unreset, onPause_eq]
  apply samples.trans
  apply engine.trans
  apply array.trans
  exact balances_of_moved rfl rfl rfl rfl

end Controller

namespace Machine

variable {machine : Machine}

theorem Underway.placed (underway : machine.Underway) : machine.controller.Placed where
  stopped stopped := absurd stopped underway.started
  engine waiting := by
    rcases underway.situation with resting | requested | answered
    · exact absurd waiting resting.free.unasked
    · exact requested.stage
    · exact answered.stage
  array awaited := (underway.awaits awaited).1

theorem Underway.balances_attended (underway : machine.Underway) :
    machine.controller.Balances machine.attended.controller := by
  have attend := underway.placed.balances_attend underway.executes machine.controlPins
    (by simp [underway.sampledRun]) (by simp [underway.sampledReset])
  exact ⟨attend.retiring, attend.requesting, attend.remaining⟩

theorem Poised.balances_acted (poised : machine.Poised) :
    machine.controller.Balances machine.acted.controller := by
  have act : machine.controller.Balances (machine.controller.act true) :=
    Controller.Executes.balances_act poised.executes
  rw [acted, poised.sampledRun]
  exact ⟨act.retiring, act.requesting, act.remaining⟩

end Machine

end AccessController
