import AccessController.Proofs.Controller.Transitions

/-!
# Activities, stages and the program pointer

An activity comes with certain stages only, and a stage that works on an instruction
comes with that instruction at the program pointer.  Five edges may meet in one tick with
a step behind them, and none of them leads out of this (`Coherent.tick`).  The main result
spells it out for all programs and all traces of the pins (`consistent_after`).
-/

namespace AccessController

/-- The operations that bring an instruction to a stage. -/
def Stage.Admits (operation? : Option Opcode) : Stage → Prop
  | .transfer operation => operation? = some (.transfer operation)
  | .awaitEngine | .engineDone => ∃ operation, operation? = some (.transfer operation)
  | .select kind => operation? = some (.select kind)
  | .start => operation? = some .start
  | .waitReady => operation? = some .waitReady
  | .idle | .fetch | .decode | .finish | .advance => True

/-- Where the program pointer is at a stage. -/
def Stage.Fits (program : Program) (pointer : Nat) (instruction : Instruction) : Stage → Prop
  | .idle => pointer = 0
  | .fetch | .finish => pointer ≤ program.size
  | stage =>
    program.instruction? pointer = some instruction ∧ stage.Admits instruction.operation?

/-- At which stages a controller is active in some way, given the level of the pause pin. -/
def Activity.Fits (pause : Bool) (stage : Stage) (arrayDone : Bool) : Activity → Prop
  | .stopped => stage = .idle
  | .waiting .engine => stage = .awaitEngine
  | .waiting .array => stage = .waitReady ∧ arrayDone = false
  | .paused => stage ≠ .awaitEngine ∧ pause = true
  | .running | .failed => stage ≠ .awaitEngine

theorem Stage.Fits.le_size {program : Program} {pointer : Nat} {instruction : Instruction}
    {stage : Stage} (fits : stage.Fits program pointer instruction) : pointer ≤ program.size := by
  cases stage with
  | idle => exact fits ▸ Nat.zero_le _
  | fetch | finish => exact fits
  | _ => exact Nat.le_of_lt (Program.lt_size_of_instruction? fits.1)

theorem Stage.fits_ofOpcode {program : Program} {pointer : Nat} {instruction : Instruction}
    {opcode : Opcode} (found : program.instruction? pointer = some instruction)
    (code : instruction.operation? = some opcode) :
    (Controller.Stage.ofOpcode opcode).Fits program pointer instruction := by
  cases opcode with
  | finish => exact Nat.le_of_lt (Program.lt_size_of_instruction? found)
  | noop => exact ⟨found, trivial⟩
  | _ => exact ⟨found, code⟩

namespace Activity.Fits

variable {before now : ControlPins} {stage : Stage} {arrayDone : Bool} {activity : Activity}

/-- A pause begins while the pin is high, and ends when it falls. -/
theorem follow (fits : activity.Fits before.pause stage arrayDone) :
    (activity.follow before now).Fits now.pause stage arrayDone := by
  cases activity with
  | running =>
    rw [Activity.follow]
    split
    next high => exact ⟨fits, high⟩
    next => exact fits
  | paused =>
    obtain ⟨apart, past⟩ := fits
    dsimp only [Activity.follow]
    split
    · exact apart
    next held =>
      rw [past, Bool.true_and, Bool.not_eq_true', Bool.not_eq_false] at held
      exact ⟨apart, held⟩
  | waiting awaited => cases awaited <;> exact fits
  | stopped | failed => exact fits

theorem note {pause done : Bool} (fits : activity.Fits pause stage arrayDone)
    (kept : activity = .waiting .array → done = false) : activity.Fits pause stage done := by
  cases activity with
  | waiting awaited =>
    cases awaited with
    | array => exact ⟨fits.1, kept rfl⟩
    | engine => exact fits
  | _ => exact fits

end Activity.Fits

namespace Controller

variable {controller : Controller} {pins : ControlPins}

/-- Activity, stage and program pointer of a controller fit together. -/
structure Coherent (controller : Controller) : Prop where
  stage : controller.state.stage.Fits controller.program controller.state.pointer
    controller.state.instruction
  activity : controller.state.activity.Fits controller.state.sampled.pause controller.state.stage
    controller.state.arrayDone
  fault : controller.state.fault ≠ none ↔ controller.state.activity = .failed

namespace Coherent

variable (coherent : controller.Coherent)

include coherent

/-- A wait for the engine is the only activity at its stage. -/
theorem waiting_iff :
    controller.state.activity = .waiting .engine ↔ controller.state.stage = .awaitEngine := by
  have fits := coherent.activity
  cases activity : controller.state.activity with
  | waiting awaited =>
    rw [activity] at fits
    cases awaited with
    | engine => exact iff_of_true rfl fits
    | array => simp [fits.1]
  | stopped =>
    rw [activity] at fits
    simp [show controller.state.stage = .idle from fits]
  | paused =>
    rw [activity] at fits
    simp [fits.1]
  | running | failed =>
    rw [activity] at fits
    exact iff_of_false Activity.noConfusion fits

theorem stage_heard :
    (controller.heard pins).state.stage.Fits controller.program controller.state.pointer
      controller.state.instruction := by
  rw [Controller.stage_heard]
  split
  next answered =>
    have waiting := ((answered_eq_true_iff ..).1 answered).1
    have fits := coherent.stage
    rwa [coherent.waiting_iff.1 waiting] at fits
  next => exact coherent.stage

theorem activity_heard (working : (controller.heard pins).state.activity ≠ .failed) :
    (controller.heard pins).state.activity.Fits controller.state.sampled.pause
      (controller.heard pins).state.stage controller.state.arrayDone := by
  rw [Controller.activity_heard _ _ working, Controller.stage_heard]
  split
  · exact Stage.noConfusion
  · exact coherent.activity

/-- A failure is new or has been recorded before. -/
theorem failed_heard (unfailed : controller.state.activity ≠ .failed)
    (failed : (controller.heard pins).state.activity = .failed) :
    (controller.heard pins).Coherent := by
  obtain ⟨unwaiting, fault⟩ := fault_of_heard _ _ unfailed failed
  have program : (controller.heard pins).program = controller.program :=
    (attended_engineEdge ..).program
  have instruction : (controller.heard pins).state.instruction = controller.state.instruction :=
    (attended_engineEdge ..).instruction
  constructor
  · rw [program, instruction, pointer_heard]
    exact coherent.stage_heard
  · rw [failed, Controller.stage_heard]
    split
    · exact Stage.noConfusion
    · exact mt coherent.waiting_iff.2 (unwaiting .engine)
  · exact iff_of_true fault failed

/-- An edge of run or reset leads to where nothing is asked of the instruction, and a wait
for the array ends at the instruction that has waited. -/
theorem fits_stage_attend :
    (controller.attend pins).state.stage.Fits controller.program
      (controller.attend pins).state.pointer controller.state.instruction := by
  rw [state_attend]
  dsimp only
  cases rises : controller.runRises pins with
  | true =>
    split
    · exact Nat.zero_le _
    · exact coherent.stage.le_size
  | false =>
    cases falls : controller.resetFalls pins with
    | true => exact rfl
    | false =>
      cases awoken : controller.awoken pins with
      | true =>
        have waiting := ((awoken_eq_true_iff ..).1 awoken).1
        have fits := coherent.activity
        have stage := coherent.stage
        rw [waiting] at fits
        rw [fits.1] at stage
        exact ⟨stage.1, trivial⟩
      | false => exact coherent.stage_heard

theorem fits_activity_attend (working : (controller.heard pins).state.activity ≠ .failed) :
    (controller.attend pins).state.activity.Fits pins.pause (controller.attend pins).state.stage
      (controller.attend pins).state.arrayDone := by
  rw [state_attend]
  dsimp only
  apply Activity.Fits.follow
  cases rises : controller.runRises pins with
  | true => exact Stage.noConfusion
  | false =>
    cases falls : controller.resetFalls pins with
    | true => exact rfl
    | false =>
      cases awoken : controller.awoken pins with
      | true => exact Stage.noConfusion
      | false =>
        refine (coherent.activity_heard working).note fun heard => ?_
        have waiting := (awaits_heard ..).1 heard
        have fits := coherent.activity
        rw [waiting] at fits
        rw [fits.2]
        simpa [Controller.awoken, waiting] using awoken

theorem attend (working : (controller.heard pins).state.activity ≠ .failed) :
    (controller.attend pins).Coherent := by
  have attended := controller.attended_attend pins
  constructor
  · rw [show (controller.attend pins).program = controller.program from attended.program,
      show (controller.attend pins).state.instruction = controller.state.instruction from
        attended.instruction]
    exact coherent.fits_stage_attend
  · rw [show (controller.attend pins).state.sampled = pins from attended.sampled]
    exact coherent.fits_activity_attend working
  · have unfailed : controller.state.activity ≠ .failed :=
      fun failed => working (Controller.failed_heard _ _ failed)
    refine iff_of_false ?_ (working_attend _ _ working)
    rw [state_attend]
    dsimp only
    rwa [fault_heard _ _ working, coherent.fault]

theorem apart_of_running (running : controller.state.activity = .running) :
    controller.state.stage ≠ .awaitEngine := by
  have fits := coherent.activity
  rwa [running] at fits

/-- The instruction at the program pointer goes from stage to stage, until the next one is
fetched. -/
theorem fits_stage_step (running : controller.state.activity = .running) (run : Bool) :
    (controller.step run).state.stage.Fits controller.program (controller.step run).state.pointer
      (controller.step run).state.instruction := by
  have fits := coherent.stage
  rw [stage_step, pointer_step, instruction_step]
  cases stage : controller.state.stage with
  | idle =>
    rw [stage] at fits
    exact fits
  | fetch =>
    dsimp only
    cases found : controller.program.instruction? controller.state.pointer with
    | some instruction => exact ⟨found, trivial⟩
    | none => exact fits.le_size
  | decode =>
    rw [stage] at fits
    dsimp only
    cases code : controller.state.instruction.operation? with
    | some opcode => exact Stage.fits_ofOpcode fits.1 code
    | none => exact ⟨fits.1, trivial⟩
  | transfer operation =>
    rw [stage] at fits
    exact ⟨fits.1, operation, fits.2⟩
  | awaitEngine => exact absurd stage (coherent.apart_of_running running)
  | engineDone | select kind | start =>
    rw [stage] at fits
    exact ⟨fits.1, trivial⟩
  | waitReady =>
    rw [stage] at fits
    dsimp only
    split
    · exact ⟨fits.1, trivial⟩
    · exact fits
  | finish =>
    dsimp only
    split
    · exact fits.le_size
    · exact rfl
  | advance =>
    rw [stage] at fits
    exact Program.lt_size_of_instruction? fits.1

theorem fits_activity_step (running : controller.state.activity = .running) (run : Bool) :
    (controller.step run).state.activity.Fits controller.state.sampled.pause
      (controller.step run).state.stage (controller.step run).state.arrayDone := by
  rw [activity_step, stage_step, arrayDone_step, running]
  cases stage : controller.state.stage with
  | transfer operation => exact rfl
  | awaitEngine => exact absurd stage (coherent.apart_of_running running)
  | waitReady =>
    dsimp only
    split
    · exact Stage.noConfusion
    · exact ⟨rfl, rfl⟩
  | fetch | finish =>
    dsimp only
    split <;> exact Stage.noConfusion
  | decode =>
    cases controller.state.instruction.operation? with
    | some opcode => cases opcode <;> exact Stage.noConfusion
    | none => exact Stage.noConfusion
  | _ => exact Stage.noConfusion

theorem step (running : controller.state.activity = .running) (run : Bool) :
    (controller.step run).Coherent := by
  have unfailed : controller.state.fault = none := by
    simpa [running] using coherent.fault
  constructor
  · rw [program_step]
    exact coherent.fits_stage_step running run
  · rw [sampled_step]
    exact coherent.fits_activity_step running run
  · rw [fault_step, unfailed]
    refine iff_of_false (by simp) ?_
    rw [activity_step, running]
    cases controller.state.stage with
    | waitReady =>
      dsimp only
      split <;> exact Activity.noConfusion
    | _ => exact Activity.noConfusion

theorem tick (pins : ControlPins) : (controller.tick pins).Coherent := by
  rcases controller.tick_outcome pins with ⟨failed, only⟩ | ⟨unfailed, failed, only⟩ |
    ⟨working, acts⟩
  · have apart := coherent.activity
    rw [failed] at apart
    rw [only]
    refine ⟨coherent.stage, ?_, coherent.fault⟩
    change Activity.Fits _ controller.state.stage _ controller.state.activity
    rw [failed]
    exact apart
  · rw [only]
    exact coherent.failed_heard unfailed failed
  · have attended := coherent.attend working
    rw [acts, act]
    split
    next running => exact attended.step running pins.run
    all_goals exact ⟨attended.stage, attended.activity, attended.fault⟩

end Coherent

/-! ## Failures -/

/-- One controller is the other one some ticks later, with nothing changed but the levels
that it samples. -/
structure Frozen (before after : Controller) : Prop where
  state : after.state = { before.state with sampled := after.state.sampled }
  outputs : after.outputs = before.outputs

/-- A failed controller has nothing left to do, not even a pulse to end. -/
theorem Unpulsed.frozen_cycled (unpulsed : controller.Unpulsed)
    (failed : controller.state.activity = .failed)
    (committed : controller.outputs.commit = controller.outputs) (pins : ControlPins) :
    Frozen controller (controller.cycled pins) := by
  have only : controller.tick pins = controller.sample pins := by
    rcases controller.tick_outcome pins with ⟨-, only⟩ | ⟨unfailed, -, -⟩ | ⟨working, -⟩
    · exact only
    · exact absurd failed unfailed
    · exact absurd (Controller.failed_heard _ _ failed) working
  have sampled : (controller.sample pins).outputs = controller.outputs := by
    simp only [sample, dropPulses, unpulsed.engineStartHigh, unpulsed.arrayStartHigh]
    rfl
  constructor
  · simp only [cycled, only, state_commit, sample, dropPulses, unpulsed.engineStartHigh,
      unpulsed.arrayStartHigh]
  · rw [cycled, only]
    change (controller.sample pins).outputs.commit = _
    rw [sampled, committed]

/-! ## Traces -/

theorem coherent_new (program : Program) : Coherent { program } where
  stage := rfl
  activity := rfl
  fault := by simp

theorem coherent_after (program : Program) (levels : Nat → ControlPins) (ticks : Nat) :
    (after { program } levels ticks).Coherent :=
  after_of_cycled Coherent (coherent_new program)
    (fun _ pins coherent => ⟨(coherent.tick pins).stage, (coherent.tick pins).activity,
      (coherent.tick pins).fault⟩) levels ticks

/-- A failed controller has ended its pulses in the tick of its failure. -/
theorem unpulsed_after (program : Program) (levels : Nat → ControlPins) {ticks : Nat}
    (failed : (after { program } levels ticks).state.activity = .failed) :
    (after { program } levels ticks).Unpulsed := by
  cases ticks with
  | zero => cases failed
  | succ ticks =>
    rw [after_succ] at failed ⊢
    have silent : (after { program } levels ticks).stepped? (levels ticks) = none :=
      stepped?_of_failed (failed_tick_iff.1 failed)
    have sampled := (pulsing_after program levels ticks).unpulsed_sample (levels ticks)
    obtain ⟨engineStart, arrayStart, asked, started⟩ := sampled.attended (attended_tick silent)
    exact ⟨engineStart, arrayStart, asked, started⟩

theorem frozen_after (program : Program) (levels : Nat → ControlPins) {ticks : Nat}
    (failed : (after { program } levels ticks).state.activity = .failed) {later : Nat}
    (past : ticks ≤ later) :
    Frozen (after { program } levels ticks) (after { program } levels later) := by
  induction past with
  | refl => exact ⟨rfl, rfl⟩
  | @step later _ ih =>
    have fails : (after { program } levels later).state.activity = .failed := by
      rw [ih.state]
      exact failed
    have next := (unpulsed_after program levels fails).frozen_cycled fails
      (commit_outputs_after program levels later) (levels later)
    rw [after_succ]
    constructor
    · rw [next.state, ih.state]
    · rw [next.outputs, ih.outputs]

/-- What holds of a controller behind a tick that has sampled given pins. -/
structure Consistent (program : Program) (pins : ControlPins) (controller : Controller) :
    Prop where
  engine : controller.state.activity = .waiting .engine ↔ controller.state.stage = .awaitEngine
  array : controller.state.activity = .waiting .array →
    controller.state.stage = .waitReady ∧ controller.state.arrayDone = false
  stopped : controller.state.activity = .stopped →
    controller.state.stage = .idle ∧ controller.state.pointer = 0
  idle : controller.state.stage = .idle → controller.state.pointer = 0
  inside : controller.state.pointer ≤ program.size
  /-- The stages from the decoding of an instruction to its retirement have an instruction:
  the one at the program pointer. -/
  fetched : controller.state.stage ≠ .idle → controller.state.stage ≠ .fetch →
    controller.state.stage ≠ .finish →
      controller.state.pointer < program.size ∧
        program.instruction? controller.state.pointer = some controller.state.instruction
  paused : controller.state.activity = .paused → pins.pause = true
  fault : controller.state.fault ≠ none ↔ controller.state.activity = .failed

theorem Coherent.consistent (coherent : controller.Coherent) :
    controller.Consistent controller.program controller.state.sampled where
  engine := coherent.waiting_iff
  array waiting := by
    have fits := coherent.activity
    rwa [waiting] at fits
  stopped stopped := by
    have idle := coherent.activity
    have fits := coherent.stage
    rw [stopped] at idle
    rw [show controller.state.stage = .idle from idle] at fits
    exact ⟨idle, fits⟩
  idle idle := by
    have fits := coherent.stage
    rwa [idle] at fits
  inside := coherent.stage.le_size
  fetched busy unfetched unfinished := by
    have fits := coherent.stage
    cases stage : controller.state.stage with
    | idle => exact absurd stage busy
    | fetch => exact absurd stage unfetched
    | finish => exact absurd stage unfinished
    | _ =>
      rw [stage] at fits
      exact ⟨Program.lt_size_of_instruction? fits.1, fits.1⟩
  paused paused := by
    have fits := coherent.activity
    rw [paused] at fits
    exact fits.2
  fault := coherent.fault

/-- Whatever the program is and whatever the pins do from power-up on: behind each tick the
controller is consistent, no tick takes the step of a wait for the engine, and a failed
controller stays as it is, with both start wires low. -/
theorem consistent_after (program : Program) (levels : Nat → ControlPins) (tick : Nat) :
    let run := after { program } levels
    (run (tick + 1)).Consistent program (levels tick) ∧
      (run tick).stepped? (levels tick) ≠ some .awaitEngine ∧
      ((run tick).state.activity = .failed →
        (run tick).outputs.engineStart.level = false ∧
          (run tick).outputs.arrayStart.level = false ∧
          ∀ later, tick ≤ later → (run tick).Frozen (run later)) := by
  intro run
  have coherent : ∀ ticks, (run ticks).Coherent := coherent_after program levels
  refine ⟨?_, fun steps => ?_, fun failed => ?_⟩
  · have consistent := (coherent (tick + 1)).consistent
    have sampled : (run (tick + 1)).state.sampled = levels tick := by
      change (after { program } levels (tick + 1)).state.sampled = _
      rw [after_succ]
      exact sampled_tick ..
    have same : (run (tick + 1)).program = program := program_after ..
    rwa [same, sampled] at consistent
  · obtain ⟨working, running, stage⟩ := stepped?_eq_some_iff.1 steps
    have fits := ((coherent tick).attend working).activity
    rw [running] at fits
    exact fits stage
  · have unpulsed := unpulsed_after program levels failed
    have committed : (run tick).outputs.commit = (run tick).outputs := commit_outputs_after ..
    refine ⟨?_, ?_, fun later past => frozen_after program levels failed past⟩
    · rw [← committed]
      exact unpulsed.engineStart
    · rw [← committed]
      exact unpulsed.arrayStart

end Controller

end AccessController
