import AccessController.Proofs.Controller.FinishLine
import AccessController.Proofs.Controller.Pulses

/-!
# The transition table of the controller

A tick attends to the edges of the pins and then takes the step of one stage at most.
`state_attend` gives the state behind all edges in the order in which they win over one
another, and the step has one theorem for each register of the controller.  `stepped?`
names the stage whose step a tick takes; a tick without one leaves all wires and registers
to the edges (`attended_tick`).  Later modules cite these theorems and open neither the
edges nor the steps.  The controller behind a number of ticks of a trace is `after`.
-/

namespace AccessController

/-- The instruction at a program pointer. -/
def Program.instruction? (program : Program) (pointer : Nat) : Option Instruction :=
  (program.word? pointer).map .ofWord

theorem Program.lt_size_of_instruction? {program : Program} {pointer : Nat}
    {instruction : Instruction} (found : program.instruction? pointer = some instruction) :
    pointer < program.size := by
  obtain ⟨word, here, -⟩ := Option.map_eq_some_iff.1 found
  exact (List.getElem?_eq_some_iff.1 here).1

theorem Activity.follow_eq_iff {activity other : Activity} (before now : ControlPins)
    (unpaused : other ≠ .running ∧ other ≠ .paused) :
    activity.follow before now = other ↔ activity = other := by
  obtain ⟨unrunning, unpaused⟩ := unpaused
  cases activity with
  | running | paused =>
    dsimp only [follow]
    split <;> simp [unrunning.symm, unpaused.symm]
  | _ => rfl

namespace Controller

variable (controller : Controller) (pins : ControlPins)

/-! ## Edges -/

/-- The controller when it has heard of the engine's ready. -/
def heard : Controller :=
  (controller.sample pins).engineEdge controller.state.sampled pins

/-- The engine has answered the request that the controller waits for. -/
def answered : Bool :=
  controller.state.activity = .waiting .engine && controller.state.sampled.engineReady &&
    !pins.engineReady

/-- The array is ready for a controller that waits for it. -/
def awoken : Bool :=
  controller.state.activity = .waiting .array && controller.arrayRises pins

theorem answered_eq_true_iff :
    controller.answered pins = true ↔
      controller.state.activity = .waiting .engine ∧
        controller.state.sampled.engineReady = true ∧ pins.engineReady = false := by
  simp [answered, and_assoc]

theorem awoken_eq_true_iff :
    controller.awoken pins = true ↔
      controller.state.activity = .waiting .array ∧ controller.arrayRises pins = true := by
  simp [awoken]

section

attribute [local grind =] heard engineEdge onEngineEdge sample dropPulses answered become enter

theorem stage_heard :
    (controller.heard pins).state.stage =
      if controller.answered pins then .engineDone else controller.state.stage := by
  grind

theorem activity_heard (working : (controller.heard pins).state.activity ≠ .failed) :
    (controller.heard pins).state.activity =
      if controller.answered pins then .running else controller.state.activity := by
  grind

theorem failed_heard (failed : controller.state.activity = .failed) :
    (controller.heard pins).state.activity = .failed := by
  grind

theorem awaits_heard :
    (controller.heard pins).state.activity = .waiting .array ↔
      controller.state.activity = .waiting .array := by
  grind

/-- An edge that comes out of turn fails a controller that waits for nothing, and is
recorded. -/
theorem fault_of_heard (working : controller.state.activity ≠ .failed)
    (failed : (controller.heard pins).state.activity = .failed) :
    (∀ awaited, controller.state.activity ≠ .waiting awaited) ∧
      (controller.heard pins).state.fault ≠ none := by
  refine ⟨fun awaited => ?_, by grind⟩
  cases awaited <;> grind

theorem fault_heard (working : (controller.heard pins).state.activity ≠ .failed) :
    (controller.heard pins).state.fault = controller.state.fault := by
  grind

theorem pointer_heard : (controller.heard pins).state.pointer = controller.state.pointer := by
  grind

theorem arrayDone_heard :
    (controller.heard pins).state.arrayDone = controller.state.arrayDone := by
  grind

end

/-- The edges behind that of the engine's ready: run wins over reset, and reset over the
array. -/
theorem state_attend :
    (controller.attend pins).state =
      { (controller.heard pins).state with
        stage :=
          if controller.runRises pins then .fetch
          else if controller.resetFalls pins then .idle
          else if controller.awoken pins then .advance
          else (controller.heard pins).state.stage
        activity :=
          Activity.follow
            (if controller.runRises pins then .running
            else if controller.resetFalls pins then .stopped
            else if controller.awoken pins then .running
            else (controller.heard pins).state.activity) controller.state.sampled pins
        pointer := if controller.resetFalls pins then 0 else controller.state.pointer
        arrayDone :=
          !controller.resetFalls pins && !controller.awoken pins &&
            (controller.arrayRises pins || controller.state.arrayDone) } := by
  have attend : controller.attend pins =
      ((((controller.heard pins).arrayEdge controller.state.sampled pins).resetEdge
        controller.state.sampled pins).runEdge controller.state.sampled pins).onPause
          controller.state.sampled pins := rfl
  have awoken : controller.awoken pins =
      ((controller.heard pins).state.activity = .waiting .array && controller.arrayRises pins) := by
    rw [Controller.awoken]
    congr 1
    rw [decide_eq_decide, awaits_heard]
  rw [attend, onPause_eq, awoken, ← arrayDone_heard controller pins,
    ← pointer_heard controller pins]
  simp only [become, runEdge, resetEdge, arrayEdge, resetFalls, runRises, arrayRises]
  grind [onArrayReady, onResetReleased, onRun, become, enter]

theorem working_attend (working : (controller.heard pins).state.activity ≠ .failed) :
    (controller.attend pins).state.activity ≠ .failed := by
  rw [state_attend]
  dsimp only
  rw [ne_eq, Activity.follow_eq_iff _ _ (by simp)]
  split
  · exact Activity.noConfusion
  · split
    · exact Activity.noConfusion
    · split
      · exact Activity.noConfusion
      · exact working

/-- A wait behind the edges is one that they have left alone. -/
theorem waits_of_attend (working : (controller.heard pins).state.activity ≠ .failed)
    {awaited : Awaited} (waits : (controller.attend pins).state.activity = .waiting awaited) :
    controller.state.activity = .waiting awaited ∧ controller.resetFalls pins = false := by
  have heard := controller.activity_heard pins working
  rw [state_attend] at waits
  dsimp only at waits
  rw [Activity.follow_eq_iff _ _ (by simp)] at waits
  grind

/-! ## Steps -/

section

variable (run : Bool)

attribute [local grind =] step fetch dispatch request select startArray waitReady finish advance
  enter become Program.instruction?

theorem stage_step :
    (controller.step run).state.stage =
      match controller.state.stage with
      | .idle => .idle
      | .fetch =>
        if (controller.program.instruction? controller.state.pointer).isSome then .decode
        else .finish
      | .decode => (controller.state.instruction.operation?.map Stage.ofOpcode).getD .advance
      | .transfer _ | .awaitEngine => .awaitEngine
      | .engineDone | .select _ | .start => .advance
      | .waitReady => if controller.state.arrayDone then .advance else .waitReady
      | .finish => if run then .finish else .idle
      | .advance => .fetch := by
  cases stage : controller.state.stage <;> grind

theorem activity_step :
    (controller.step run).state.activity =
      match controller.state.stage with
      | .transfer _ | .awaitEngine => .waiting .engine
      | .waitReady =>
        if controller.state.arrayDone then controller.state.activity else .waiting .array
      | _ => controller.state.activity := by
  cases stage : controller.state.stage <;> grind

theorem pointer_step :
    (controller.step run).state.pointer =
      match controller.state.stage with
      | .finish => if run then controller.state.pointer else 0
      | .advance => controller.state.pointer + 1
      | _ => controller.state.pointer := by
  cases stage : controller.state.stage <;> grind

theorem instruction_step :
    (controller.step run).state.instruction =
      match controller.state.stage with
      | .fetch =>
        (controller.program.instruction? controller.state.pointer).getD
          controller.state.instruction
      | _ => controller.state.instruction := by
  cases stage : controller.state.stage <;> grind

theorem arrayDone_step :
    (controller.step run).state.arrayDone =
      match controller.state.stage with
      | .start | .waitReady => false
      | _ => controller.state.arrayDone := by
  cases stage : controller.state.stage <;> grind

theorem engineStartHigh_step :
    (controller.step run).state.engineStartHigh =
      match controller.state.stage with
      | .transfer _ => true
      | _ => controller.state.engineStartHigh := by
  cases stage : controller.state.stage <;> grind

theorem arrayStartHigh_step :
    (controller.step run).state.arrayStartHigh =
      match controller.state.stage with
      | .start => true
      | _ => controller.state.arrayStartHigh := by
  cases stage : controller.state.stage <;> grind

theorem engineRequests_step :
    (controller.step run).state.stats.engineRequests =
      match controller.state.stage with
      | .transfer _ => controller.state.stats.engineRequests + 1
      | _ => controller.state.stats.engineRequests := by
  cases stage : controller.state.stage <;> grind

theorem fault_step : (controller.step run).state.fault = controller.state.fault := by
  cases stage : controller.state.stage <;> grind

theorem program_step : (controller.step run).program = controller.program := by
  cases stage : controller.state.stage <;> grind

theorem sampled_step : (controller.step run).state.sampled = controller.state.sampled := by
  cases stage : controller.state.stage <;> grind

end

/-! ## Ticks -/

/-- The stage whose step a tick takes, if it takes one. -/
def stepped? : Option Stage :=
  if (controller.heard pins).state.activity ≠ .failed ∧
      (controller.attend pins).state.activity = .running then
    some (controller.attend pins).state.stage
  else none

/-- A tick stops at a failure, which is an old one or one that it has just heard of. -/
theorem tick_outcome :
    (controller.state.activity = .failed ∧ controller.tick pins = controller.sample pins) ∨
      (controller.state.activity ≠ .failed ∧ (controller.heard pins).state.activity = .failed ∧
        controller.tick pins = controller.heard pins) ∨
      ((controller.heard pins).state.activity ≠ .failed ∧
        controller.tick pins = (controller.attend pins).act pins.run) := by
  have sampled : (controller.sample pins).state.activity = controller.state.activity := rfl
  by_cases working : controller.state.activity = .failed
  · refine .inl ⟨working, ?_⟩
    simp only [tick]
    rw [sampled, if_pos working]
  · by_cases failed : (controller.heard pins).state.activity = .failed
    · refine .inr (.inl ⟨working, failed, ?_⟩)
      simp only [tick]
      rw [sampled, if_neg working]
      exact if_pos failed
    · refine .inr (.inr ⟨failed, ?_⟩)
      simp only [tick]
      rw [sampled, if_neg working]
      exact if_neg failed

variable {controller pins}

theorem tick_of_heard (working : (controller.heard pins).state.activity ≠ .failed) :
    controller.tick pins = (controller.attend pins).act pins.run := by
  rcases controller.tick_outcome pins with ⟨failed, -⟩ | ⟨-, failed, -⟩ | ⟨-, acts⟩
  · exact absurd (failed_heard _ _ failed) working
  · exact absurd failed working
  · exact acts

/-- A step is that of a running controller. -/
theorem stepped?_eq_some_iff {stage : Stage} :
    controller.stepped? pins = some stage ↔
      (controller.heard pins).state.activity ≠ .failed ∧
        (controller.attend pins).state.activity = .running ∧
        (controller.attend pins).state.stage = stage := by
  rw [stepped?]
  split
  next runs => simp [runs]
  next stands =>
    simp only [reduceCtorEq, false_iff]
    exact fun ⟨working, running, _⟩ => stands ⟨working, running⟩

theorem tick_of_stepped {stage : Stage} (steps : controller.stepped? pins = some stage) :
    controller.tick pins = (controller.attend pins).step pins.run := by
  obtain ⟨working, running, -⟩ := stepped?_eq_some_iff.1 steps
  rw [tick_of_heard working, act_of_running running]

theorem stepped?_of_failed (failed : (controller.heard pins).state.activity = .failed) :
    controller.stepped? pins = none := by
  rw [stepped?, if_neg]
  exact fun runs => runs.1 failed

/-- Behind its edges a tick without a step only counts. -/
theorem state_tick_of_silent (working : (controller.heard pins).state.activity ≠ .failed)
    (silent : controller.stepped? pins = none) :
    (controller.tick pins).state =
      { (controller.attend pins).state with stats := (controller.tick pins).state.stats } := by
  have stands : (controller.attend pins).state.activity ≠ .running :=
    fun running => nomatch silent.symm.trans (stepped?_eq_some_iff.2 ⟨working, running, rfl⟩)
  rw [tick_of_heard working, act]
  split
  next running => exact absurd running stands
  all_goals rfl

/-- A tick without a step leaves everything to the edges. -/
theorem attended_tick (silent : controller.stepped? pins = none) :
    Attended (controller.sample pins) (controller.tick pins) := by
  rcases controller.tick_outcome pins with ⟨-, only⟩ | ⟨-, -, only⟩ | ⟨working, acts⟩
  · rw [only]
    constructor <;> rfl
  · rw [only]
    exact attended_engineEdge ..
  · have stands : (controller.attend pins).state.activity ≠ .running :=
      fun running => nomatch silent.symm.trans (stepped?_eq_some_iff.2 ⟨working, running, rfl⟩)
    rw [acts]
    refine (controller.attended_attend pins).trans ?_
    rw [act]
    split
    next running => exact absurd running stands
    all_goals constructor <;> rfl

/-- A tick fails at an edge of the engine's ready or not at all. -/
theorem failed_tick_iff :
    (controller.tick pins).state.activity = .failed ↔
      (controller.heard pins).state.activity = .failed := by
  rcases controller.tick_outcome pins with ⟨failed, only⟩ | ⟨-, failed, only⟩ | ⟨working, acts⟩
  · rw [only]
    exact iff_of_true failed (failed_heard _ _ failed)
  · rw [only]
  · refine iff_of_false ?_ working
    have attended := working_attend _ _ working
    rw [acts, act]
    split
    · rw [activity_step]
      split
      · exact Activity.noConfusion
      · exact Activity.noConfusion
      · split
        · exact attended
        · exact Activity.noConfusion
      · exact attended
    all_goals exact attended

@[simp] theorem sampled_act (controller : Controller) (run : Bool) :
    (controller.act run).state.sampled = controller.state.sampled := by
  rw [act]
  split
  · exact sampled_step controller run
  all_goals rfl

theorem sampled_tick (controller : Controller) (pins : ControlPins) :
    (controller.tick pins).state.sampled = pins := by
  rcases controller.tick_outcome pins with ⟨-, only⟩ | ⟨-, -, only⟩ | ⟨-, acts⟩
  · rw [only]
    rfl
  · rw [only]
    exact (attended_engineEdge ..).sampled
  · rw [acts, sampled_act]
    exact (attended_attend ..).sampled

theorem program_tick (controller : Controller) (pins : ControlPins) :
    (controller.tick pins).program = controller.program := by
  rcases controller.tick_outcome pins with ⟨-, only⟩ | ⟨-, -, only⟩ | ⟨-, acts⟩
  · rw [only]
    rfl
  · rw [only]
    exact (attended_engineEdge ..).program
  · have attended : (controller.attend pins).program = controller.program :=
      (controller.attended_attend pins).program
    rw [acts, act]
    split
    · exact (program_step ..).trans attended
    all_goals exact attended

/-! ## Traces -/

/-- The controller behind some ticks of a trace of levels. -/
def after (controller : Controller) (levels : Nat → ControlPins) (ticks : Nat) : Controller :=
  controller.follow ((List.range ticks).map levels)

theorem after_succ (controller : Controller) (levels : Nat → ControlPins) (ticks : Nat) :
    controller.after levels (ticks + 1) =
      (controller.after levels ticks).cycled (levels ticks) := by
  simp only [after, List.range_succ, List.map_append, List.map_cons, List.map_nil,
    follow_append_singleton]

/-- What holds at first and is kept by every tick holds all along a trace. -/
theorem after_of_cycled (holds : Controller → Prop) (begins : holds controller)
    (keeps : ∀ controller pins, holds controller → holds (controller.cycled pins))
    (levels : Nat → ControlPins) (ticks : Nat) : holds (controller.after levels ticks) := by
  induction ticks with
  | zero => exact begins
  | succ ticks ih =>
    rw [after_succ]
    exact keeps _ _ ih

theorem program_after (controller : Controller) (levels : Nat → ControlPins) (ticks : Nat) :
    (controller.after levels ticks).program = controller.program :=
  after_of_cycled (fun other => other.program = controller.program) rfl
    (fun other pins same => (other.program_tick pins).trans same) levels ticks

theorem commit_outputs_after (program : Program) (levels : Nat → ControlPins) (ticks : Nat) :
    (after { program } levels ticks).outputs.commit = (after { program } levels ticks).outputs :=
  after_of_cycled (fun other => other.outputs.commit = other.outputs) rfl
    (fun _ _ _ => rfl) levels ticks

theorem pulsing_after (program : Program) (levels : Nat → ControlPins) (ticks : Nat) :
    (after { program } levels ticks).Pulsing := by
  have begins : Pulsing { program } := ⟨rfl, rfl, nofun, nofun⟩
  refine after_of_cycled Pulsing begins (fun other pins pulsing => ?_) levels ticks
  obtain ⟨engineStart, arrayStart, asked, started⟩ := pulsing.tick pins
  exact ⟨engineStart, arrayStart, asked, started⟩

end Controller

end AccessController
