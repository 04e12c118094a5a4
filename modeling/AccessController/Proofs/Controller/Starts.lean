import Mathlib.Data.Nat.Count
import AccessController.Proofs.Controller.Coherence

/-!
# Starts and the requests behind them

The start wires tell what a tick has done: that of the engine is high behind a request and
that of the array behind a start, and neither stays for a second tick.  A request is on its
wires from the tick of its start on, and it stays there for as long as the controller waits
for the answer, whatever the pins do in the meantime.
-/

namespace AccessController

namespace Controller

variable {controller : Controller} {pins : ControlPins}

/-! ## Pulses -/

theorem engineStartHigh_tick :
    (controller.tick pins).state.engineStartHigh = true ↔
      ∃ operation, controller.stepped? pins = some (.transfer operation) := by
  have attended := controller.attended_attend pins
  cases steps : controller.stepped? pins with
  | none =>
    rw [(attended_tick steps).engineStartHigh]
    exact iff_of_false Bool.false_ne_true (by simp)
  | some stage =>
    obtain ⟨-, -, here⟩ := stepped?_eq_some_iff.1 steps
    rw [tick_of_stepped steps, engineStartHigh_step, here, attended.engineStartHigh]
    cases stage with
    | transfer operation => exact iff_of_true rfl ⟨operation, rfl⟩
    | _ => exact iff_of_false Bool.false_ne_true (by simp)

theorem arrayStartHigh_tick :
    (controller.tick pins).state.arrayStartHigh = true ↔
      controller.stepped? pins = some .start := by
  have attended := controller.attended_attend pins
  cases steps : controller.stepped? pins with
  | none =>
    rw [(attended_tick steps).arrayStartHigh]
    exact iff_of_false Bool.false_ne_true (by simp)
  | some stage =>
    obtain ⟨-, -, here⟩ := stepped?_eq_some_iff.1 steps
    rw [tick_of_stepped steps, arrayStartHigh_step, here, attended.arrayStartHigh]
    cases stage with
    | start => exact iff_of_true rfl rfl
    | _ => exact iff_of_false Bool.false_ne_true (by simp)

theorem engineRequests_tick :
    (controller.tick pins).state.stats.engineRequests =
      controller.state.stats.engineRequests +
        if (controller.tick pins).state.engineStartHigh then 1 else 0 := by
  have attended := controller.attended_attend pins
  cases steps : controller.stepped? pins with
  | none =>
    rw [(attended_tick steps).engineStartHigh, (attended_tick steps).engineRequests]
    rfl
  | some stage =>
    obtain ⟨-, -, here⟩ := stepped?_eq_some_iff.1 steps
    rw [tick_of_stepped steps, engineRequests_step, engineStartHigh_step, here,
      attended.engineStartHigh, attended.engineRequests]
    cases stage <;> rfl

/-- Behind a pulse a tick takes a step of another kind. -/
theorem stepped?_ne_of_unreached {stage : Stage} (apart : controller.state.stage ≠ stage)
    (unreached : stage ∉ [.engineDone, .advance, .idle, .fetch]) :
    controller.stepped? pins ≠ some stage := by
  intro steps
  obtain ⟨-, -, here⟩ := stepped?_eq_some_iff.1 steps
  rcases controller.stage_attend pins with same | moved
  · exact apart (same.symm.trans here)
  · exact unreached (here ▸ moved)

/-! ## Waits for the engine -/

/-- A tick that ends in a wait for the engine has asked for it or has found it so. -/
theorem Coherent.asks_or_waits (coherent : controller.Coherent)
    (waits : (controller.tick pins).state.activity = .waiting .engine) :
    (∃ operation, controller.stepped? pins = some (.transfer operation)) ∨
      controller.stepped? pins = none ∧ controller.state.activity = .waiting .engine ∧
        (controller.tick pins).state.pointer = controller.state.pointer := by
  rcases controller.tick_outcome pins with ⟨failed, only⟩ | ⟨-, failed, only⟩ | ⟨working, -⟩
  · rw [only] at waits
    exact absurd (failed.symm.trans waits) Activity.noConfusion
  · rw [only] at waits
    exact absurd (failed.symm.trans waits) Activity.noConfusion
  · cases steps : controller.stepped? pins with
    | some stage =>
      obtain ⟨-, running, here⟩ := stepped?_eq_some_iff.1 steps
      rw [tick_of_stepped steps, activity_step, here, running] at waits
      cases stage with
      | transfer operation => exact .inl ⟨operation, rfl⟩
      | awaitEngine =>
        have fits := (coherent.attend working).activity
        rw [running] at fits
        exact absurd here fits
      | waitReady =>
        dsimp only at waits
        split at waits <;> simp at waits
      | _ => cases waits
    | none =>
      rw [state_tick_of_silent working steps] at waits ⊢
      obtain ⟨waited, unreset⟩ := waits_of_attend _ _ working waits
      refine .inr ⟨rfl, waited, ?_⟩
      rw [state_attend]
      exact if_neg (by simp [unreset])

/-- The wires that carry a request are the same, its start apart. -/
structure SameRequest (before after : ControlOutputs) : Prop where
  selector : after.selector = before.selector
  address : after.address = before.address
  place : after.place = before.place
  selectIn : after.selectIn = before.selectIn

/-- The levels of the wires are those of the instruction that makes a request. -/
structure Presents (operation : TransferOp) (instruction : Instruction)
    (outputs : ControlOutputs) : Prop where
  selector : outputs.selector.level = operation.kind.selector
  address : outputs.address.level.toNat = instruction.address.toNat
  place : outputs.place.level.toNat =
    if operation.wholeLine then 127 else instruction.place.toNat
  line : (outputs.selectIn.get operation.kind).level.toNat = instruction.line.toNat

theorem SameRequest.presents {before after : ControlOutputs} (same : SameRequest before after)
    {operation : TransferOp} {instruction : Instruction}
    (presents : Presents operation instruction before) : Presents operation instruction after where
  selector := same.selector ▸ presents.selector
  address := same.address ▸ presents.address
  place := same.place ▸ presents.place
  line := same.selectIn ▸ presents.line

theorem sameRequest_cycled (silent : controller.stepped? pins = none)
    (committed : controller.outputs.commit = controller.outputs) :
    SameRequest controller.outputs (controller.cycled pins).outputs := by
  have outputs : (controller.cycled pins).outputs = (controller.sample pins).outputs.commit :=
    congrArg ControlOutputs.commit (attended_tick silent).outputs
  have same : SameRequest controller.outputs controller.outputs.commit := by
    rw [committed]
    exact ⟨rfl, rfl, rfl, rfl⟩
  rw [outputs]
  exact ⟨same.selector, same.address, same.place, same.selectIn⟩

/-- A request is on its wires from the tick of its start on. -/
theorem Coherent.presents_cycled (coherent : controller.Coherent) {operation : TransferOp}
    (steps : controller.stepped? pins = some (.transfer operation)) :
    (controller.cycled pins).state.instruction.operation? = some (.transfer operation) ∧
      Presents operation (controller.cycled pins).state.instruction
        (controller.cycled pins).outputs := by
  obtain ⟨working, -, here⟩ := stepped?_eq_some_iff.1 steps
  have fits := (coherent.attend working).stage
  have acts : controller.cycled pins = ((controller.attend pins).request operation).commit := by
    rw [cycled, tick_of_stepped steps, Controller.step, here]
  rw [here] at fits
  rw [acts]
  refine ⟨fits.2, rfl, rfl, ?_, ?_⟩
  · change (UInt8.ofNat (if operation.wholeLine then Instruction.wholeLinePlace
      else (controller.attend pins).state.instruction.place).toNat).toNat = _
    split
    · rfl
    · have bound := (controller.attend pins).state.instruction.place.isLt
      rw [UInt8.toNat_ofNat']
      exact Nat.mod_eq_of_lt (Nat.lt_trans bound (by decide))
  · let selectIn := (controller.attend pins).outputs.selectIn
    let line := (controller.attend pins).state.instruction.lineLevel
    change (((selectIn.modify operation.kind (·.drive line)).map Wire.commit).get
      operation.kind).level.toNat = _
    rw [PerCache.get_map, PerCache.get_modify, if_pos rfl]
    exact Instruction.toNat_lineLevel _

/-! ## Traces -/

/-- A wait for the engine is one for the request of the instruction fetched last, which is
on its wires. -/
theorem presents_after (program : Program) (levels : Nat → ControlPins) {ticks : Nat}
    (waits : (after { program } levels ticks).state.activity = .waiting .engine) :
    ∃ operation,
      (after { program } levels ticks).state.instruction.operation? = some (.transfer operation) ∧
        Presents operation (after { program } levels ticks).state.instruction
          (after { program } levels ticks).outputs := by
  induction ticks with
  | zero => cases waits
  | succ ticks ih =>
    have coherent := coherent_after program levels ticks
    rw [after_succ] at waits ⊢
    rcases coherent.asks_or_waits waits with ⟨operation, steps⟩ | ⟨silent, waited, -⟩
    · exact ⟨operation, coherent.presents_cycled steps⟩
    · obtain ⟨operation, code, presents⟩ := ih waited
      have same : ((after { program } levels ticks).cycled (levels ticks)).state.instruction =
          (after { program } levels ticks).state.instruction := (attended_tick silent).instruction
      rw [same]
      exact ⟨operation, code,
        (sameRequest_cycled silent (commit_outputs_after program levels ticks)).presents presents⟩

theorem level_engineStart_after (program : Program) (levels : Nat → ControlPins) (ticks : Nat) :
    (after { program } levels ticks).outputs.engineStart.level =
      (after { program } levels ticks).state.engineStartHigh := by
  rw [← commit_outputs_after]
  exact (pulsing_after program levels ticks).engineStart

theorem level_arrayStart_after (program : Program) (levels : Nat → ControlPins) (ticks : Nat) :
    (after { program } levels ticks).outputs.arrayStart.level =
      (after { program } levels ticks).state.arrayStartHigh := by
  rw [← commit_outputs_after]
  exact (pulsing_after program levels ticks).arrayStart

theorem engineRequests_after (program : Program) (levels : Nat → ControlPins) (ticks : Nat) :
    (after { program } levels ticks).state.stats.engineRequests =
      Nat.count (fun tick => (after { program } levels (tick + 1)).outputs.engineStart.level = true)
        ticks := by
  induction ticks with
  | zero => rfl
  | succ ticks ih =>
    rw [Nat.count_succ, ← ih, level_engineStart_after, after_succ]
    exact engineRequests_tick

/-- What the start wires and the wires of a request tell of a run at one of its ticks. -/
structure Signals (program : Program) (levels : Nat → ControlPins) (run : Nat → Controller)
    (tick : Nat) : Prop where
  asked : (run (tick + 1)).outputs.engineStart.level = true ↔
    ∃ operation, (run tick).stepped? (levels tick) = some (.transfer operation)
  started : (run (tick + 1)).outputs.arrayStart.level = true ↔
    (run tick).stepped? (levels tick) = some .start
  askedOnce : (run tick).outputs.engineStart.level = true →
    (run (tick + 1)).outputs.engineStart.level = false
  startedOnce : (run tick).outputs.arrayStart.level = true →
    (run (tick + 1)).outputs.arrayStart.level = false
  counted : (run tick).state.stats.engineRequests =
    Nat.count (fun earlier => (run (earlier + 1)).outputs.engineStart.level = true) tick
  /-- The start comes with a wait, so a request is on its wires with the start already. -/
  waits : (run tick).outputs.engineStart.level = true →
    (run tick).state.activity = .waiting .engine
  presents : (run tick).state.activity = .waiting .engine →
    ∃ instruction operation,
      program.instruction? (run tick).state.pointer = some instruction ∧
        instruction.operation? = some (.transfer operation) ∧
        Presents operation instruction (run tick).outputs
  held : (run tick).state.activity = .waiting .engine →
    (run (tick + 1)).state.activity = .waiting .engine →
      (run (tick + 1)).state.pointer = (run tick).state.pointer ∧
        SameRequest (run tick).outputs (run (tick + 1)).outputs

/-- Whatever the program is and whatever the pins do from power-up on, the start wires and
the wires of a request tell what the controller has done and what it waits for. -/
theorem signals_after (program : Program) (levels : Nat → ControlPins) (tick : Nat) :
    Signals program levels (after { program } levels) tick := by
  have pulsing := pulsing_after program levels tick
  have coherent := coherent_after program levels tick
  have asked : (after { program } levels (tick + 1)).outputs.engineStart.level = true ↔
      ∃ operation,
        (after { program } levels tick).stepped? (levels tick) = some (.transfer operation) := by
    rw [level_engineStart_after, after_succ]
    exact engineStartHigh_tick
  have started : (after { program } levels (tick + 1)).outputs.arrayStart.level = true ↔
      (after { program } levels tick).stepped? (levels tick) = some .start := by
    rw [level_arrayStart_after, after_succ]
    exact arrayStartHigh_tick
  refine ⟨asked, started, fun high => ?_, fun high => ?_, engineRequests_after program levels tick,
    fun high => ?_, fun waits => ?_, fun waits still => ?_⟩
  · have stage := pulsing.asked ((level_engineStart_after ..).symm.trans high)
    rw [← Bool.not_eq_true, asked]
    rintro ⟨operation, steps⟩
    exact stepped?_ne_of_unreached (by rw [stage]; simp) (by simp) steps
  · have stage := pulsing.started ((level_arrayStart_after ..).symm.trans high)
    rw [← Bool.not_eq_true, started]
    exact stepped?_ne_of_unreached (by rw [stage]; simp) (by simp)
  · exact coherent.waiting_iff.2 (pulsing.asked ((level_engineStart_after ..).symm.trans high))
  · obtain ⟨operation, code, presents⟩ := presents_after program levels waits
    have fits := coherent.stage
    rw [coherent.waiting_iff.1 waits, program_after] at fits
    exact ⟨_, operation, fits.1, code, presents⟩
  · rw [after_succ] at still ⊢
    rcases coherent.asks_or_waits still with ⟨operation, steps⟩ | ⟨silent, -, pointer⟩
    · have stage := coherent.waiting_iff.1 waits
      exact absurd steps (stepped?_ne_of_unreached (by rw [stage]; simp) (by simp))
    · exact ⟨pointer, sameRequest_cycled silent (commit_outputs_after program levels tick)⟩

end Controller

end AccessController
