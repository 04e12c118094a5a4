import AccessController.Proofs.Controller.Tick

/-!
# The edges of a run

While run is held and the reset pin does not fall, only four edges are left: the
engine has answered, the array has become ready, and pause comes or goes.  For
each situation of the controller this file says in one equation what attending
to them does.
-/

namespace AccessController

/-- The activity behind the edges of the pause pin. -/
def Activity.follow (activity : Activity) (before now : ControlPins) : Activity :=
  match activity with
  | .running => if now.pause then .paused else .running
  | .paused => if before.pause && !now.pause then .running else .paused
  | other => other

@[simp] theorem Activity.follow_waiting (awaited : Awaited) (before now : ControlPins) :
    (Activity.waiting awaited).follow before now = .waiting awaited := rfl

theorem Activity.follow_running_or_paused {activity : Activity}
    (active : activity = .running ∨ activity = .paused) (before now : ControlPins) :
    activity.follow before now = .running ∨ activity.follow before now = .paused := by
  rcases active with rfl | rfl
  · rw [follow]
    split
    · exact .inr rfl
    · exact .inl rfl
  · rw [follow]
    split
    · exact .inl rfl
    · exact .inr rfl

namespace Controller

variable {controller : Controller} {pins : ControlPins}

theorem onPause_eq (before : ControlPins) :
    controller.onPause before pins =
      controller.become (controller.state.activity.follow before pins) := by
  rw [onPause]
  cases activity : controller.state.activity with
  | running =>
    dsimp only [Activity.follow]
    split
    · rfl
    · rw [become, ← activity]
  | paused =>
    dsimp only [Activity.follow]
    split
    · rfl
    · rw [become, ← activity]
  | _ =>
    dsimp only [Activity.follow]
    rw [become, ← activity]

/-- Whether the array's ready rises. -/
def arrayRises (controller : Controller) (pins : ControlPins) : Bool :=
  pins.arrayReady && !controller.state.sampled.arrayReady

section

variable (unstarted : ¬(controller.state.sampled.run = false ∧ pins.run = true))
  (unreset : ¬(controller.state.sampled.reset = true ∧ pins.reset = false))

include unstarted unreset

/-- Neither run nor reset has an edge that matters. -/
theorem attend_of_run :
    controller.attend pins =
      (((controller.sample pins).engineEdge controller.state.sampled pins).arrayEdge
        controller.state.sampled pins).onPause controller.state.sampled pins := by
  have reset : ¬(controller.state.sampled.reset && !pins.reset) = true := by
    simpa using unreset
  have run : ¬(pins.run && !controller.state.sampled.run) = true := by
    simpa [and_comm] using unstarted
  rw [attend, resetEdge, if_neg reset, runEdge, if_neg run]

/-- A controller that does not wait for the array keeps in mind that it has become
ready. To a wait for the engine only a falling ready makes a difference. -/
theorem attend_of_unawaited (unawaited : controller.state.activity ≠ .waiting .array)
    (unended : pins.engineReady = controller.state.sampled.engineReady ∨
      controller.state.activity = .waiting .engine ∧
        ¬(controller.state.sampled.engineReady = true ∧ pins.engineReady = false)) :
    controller.attend pins =
      { controller.sample pins with
        state.arrayDone := controller.state.arrayDone || controller.arrayRises pins
        state.activity := controller.state.activity.follow controller.state.sampled pins } := by
  have sampled : (controller.sample pins).state.activity ≠ .waiting .array := unawaited
  have unheeded : (controller.sample pins).engineEdge controller.state.sampled pins =
      controller.sample pins := by
    rcases unended with same | ⟨waiting, unended⟩
    · exact if_pos same
    · exact engineEdge_of_waiting _ waiting unended
  rw [attend_of_run unstarted unreset, unheeded, arrayEdge_of_unawaited _ sampled, onPause_eq]
  rfl

theorem attend_of_awaited (awaited : controller.state.activity = .waiting .array)
    (same : pins.engineReady = controller.state.sampled.engineReady)
    (rises : controller.arrayRises pins = true) :
    controller.attend pins =
      { controller.sample pins with
        state.arrayDone := false
        state.stage := .advance
        state.activity := Activity.running.follow controller.state.sampled pins } := by
  have sampled : (controller.sample pins).state.activity = .waiting .array := awaited
  have edge : (controller.sample pins).arrayEdge controller.state.sampled pins =
      (controller.sample pins).onArrayReady := if_pos rises
  rw [attend_of_run unstarted unreset, engineEdge, if_pos same, edge, onArrayReady,
    if_pos sampled, onPause_eq]
  rfl

theorem attend_of_unready (awaited : controller.state.activity = .waiting .array)
    (same : pins.engineReady = controller.state.sampled.engineReady)
    (unready : controller.arrayRises pins = false) :
    controller.attend pins = controller.sample pins := by
  have sampled : (controller.sample pins).state.activity = .waiting .array := awaited
  have edge : (controller.sample pins).arrayEdge controller.state.sampled pins =
      controller.sample pins := if_neg (Bool.eq_false_iff.1 unready)
  rw [attend_of_run unstarted unreset, engineEdge, if_pos same, edge, onPause, sampled]

theorem attend_of_answered (waiting : controller.state.activity = .waiting .engine)
    (past : controller.state.sampled.engineReady = true) (now : pins.engineReady = false) :
    controller.attend pins =
      { controller.sample pins with
        state.arrayDone := controller.state.arrayDone || controller.arrayRises pins
        state.stage := .engineDone
        state.activity := Activity.running.follow controller.state.sampled pins } := by
  have sampled : (controller.sample pins).state.activity = .waiting .engine := waiting
  have ended : (controller.sample pins).engineEdge controller.state.sampled pins =
      ((controller.sample pins).become .running).enter .engineDone := by
    rw [engineEdge, if_neg (by simp [past, now]), onEngineEdge, sampled, now]
    rfl
  have unawaited : (((controller.sample pins).become .running).enter
      .engineDone).state.activity ≠ .waiting .array := Activity.noConfusion
  rw [attend_of_run unstarted unreset, ended, arrayEdge_of_unawaited _ unawaited, onPause_eq]
  rfl

end

/-- When run rises the controller goes to the instruction at its pointer, and pauses there
if the pause pin is high. -/
theorem attend_of_raised (same : pins.engineReady = controller.state.sampled.engineReady)
    (unready : controller.arrayRises pins = false)
    (unreset : controller.state.sampled.reset = false)
    (before : controller.state.sampled.run = false) (now : pins.run = true) :
    controller.attend pins =
      { controller.sample pins with
        state.activity := if pins.pause then .paused else .running
        state.stage := .fetch } := by
  have array : (controller.sample pins).arrayEdge controller.state.sampled pins =
      controller.sample pins := if_neg (Bool.eq_false_iff.1 unready)
  rw [attend, engineEdge, if_pos same, array, resetEdge, if_neg (by simp [unreset]), runEdge,
    if_pos (by simp [before, now]), onPause_eq]
  rfl

theorem act_of_running (running : controller.state.activity = .running) (run : Bool) :
    controller.act run = controller.step run := by
  rw [act, running]

/-! ## Pauses and faults -/

theorem fault_act (run : Bool) : (controller.act run).state.fault = controller.state.fault := by
  rw [act]
  split <;> try rfl
  rw [step]
  split <;> try rfl
  next => rw [fetch]; split <;> rfl
  next => rw [dispatch]; split <;> rfl
  next => rw [waitReady]; split <;> rfl
  next => rw [finish]; split <;> rfl

/-- Acting never pauses. -/
theorem unpaused_act (unpaused : controller.state.activity ≠ .paused) (run : Bool) :
    (controller.act run).state.activity ≠ .paused := by
  rw [act]
  cases activity : controller.state.activity with
  | running =>
    dsimp only
    have stays (other : Controller) (same : other.state.activity = controller.state.activity) :
        other.state.activity ≠ .paused := same ▸ unpaused
    rw [step]
    cases controller.state.stage with
    | fetch =>
      dsimp only
      rw [fetch]
      split <;> exact stays _ rfl
    | decode =>
      dsimp only
      rw [dispatch]
      split <;> exact stays _ rfl
    | waitReady =>
      dsimp only
      rw [waitReady]
      split
      · exact stays _ rfl
      · exact Activity.noConfusion
    | finish =>
      dsimp only
      rw [finish]
      split <;> exact stays _ rfl
    | transfer operation => exact Activity.noConfusion
    | awaitEngine => exact Activity.noConfusion
    | _ => exact stays _ rfl
  | _ => exact unpaused

theorem unpaused_attend (unpaused : controller.state.activity ≠ .paused) (low : pins.pause = false) :
    (controller.attend pins).state.activity ≠ .paused := by
  have engine (other : Controller) (before : ControlPins) (running : other.state.activity ≠ .paused) :
      (other.engineEdge before pins).state.activity ≠ .paused := by
    rw [engineEdge]
    split
    · exact running
    · rw [onEngineEdge]
      split
      · split
        · exact running
        · exact Activity.noConfusion
      · exact running
      · exact Activity.noConfusion
  have array (other : Controller) (before : ControlPins) (running : other.state.activity ≠ .paused) :
      (other.arrayEdge before pins).state.activity ≠ .paused := by
    rw [arrayEdge]
    split
    · rw [onArrayReady]
      split
      · exact Activity.noConfusion
      · exact running
    · exact running
  have reset (other : Controller) (before : ControlPins) (running : other.state.activity ≠ .paused) :
      (other.resetEdge before pins).state.activity ≠ .paused := by
    rw [resetEdge]
    split
    · exact Activity.noConfusion
    · exact running
  have run (other : Controller) (before : ControlPins) (running : other.state.activity ≠ .paused) :
      (other.runEdge before pins).state.activity ≠ .paused := by
    rw [runEdge]
    split
    · exact Activity.noConfusion
    · exact running
  have pause (other : Controller) (before : ControlPins) (running : other.state.activity ≠ .paused) :
      (other.onPause before pins).state.activity ≠ .paused := by
    rw [onPause_eq]
    change other.state.activity.follow before pins ≠ .paused
    cases activity : other.state.activity with
    | running => simp [Activity.follow, low]
    | paused => exact absurd activity running
    | _ => exact Activity.noConfusion
  exact pause _ _ (run _ _ (reset _ _ (array _ _ (engine _ _ unpaused))))

theorem failed_tick (failed : controller.state.activity = .failed) :
    (controller.tick pins).state.activity = .failed := by
  have sampled : (controller.sample pins).state.activity = .failed := failed
  simp only [tick]
  rw [if_pos sampled]
  exact sampled

/-- An edge of the engine's ready fails a controller that waits for nothing. -/
theorem failed_of_edge (unwaiting : ∀ awaited, controller.state.activity ≠ .waiting awaited)
    (edge : pins.engineReady ≠ controller.state.sampled.engineReady) :
    (controller.tick pins).state.activity = .failed := by
  by_cases working : controller.state.activity = .failed
  · exact failed_tick working
  · have sampled : (controller.sample pins).state.activity = controller.state.activity := rfl
    have fails : ((controller.sample pins).engineEdge controller.state.sampled
        pins).state.activity = .failed := by
      rw [engineEdge, if_neg edge, onEngineEdge, sampled]
      split
      next engine => exact absurd engine (unwaiting .engine)
      next array => exact absurd array (unwaiting .array)
      next => rfl
    simp only [tick]
    rw [sampled, if_neg working, if_pos fails]
    exact fails

/-! ## The reset pin -/

/-- Where the controller is when the reset pin is released makes no difference behind
it. -/
theorem tick_of_released (working : controller.state.activity ≠ .failed)
    (heeded : pins.engineReady = controller.state.sampled.engineReady ∨
      controller.state.activity = .waiting .engine)
    (unstarted : ¬(controller.state.sampled.run = false ∧ pins.run = true))
    (past : controller.state.sampled.reset = true) (now : pins.reset = false) :
    controller.tick pins =
      { controller.sample pins with
        state.activity := .stopped
        state.stage := .idle
        state.arrayDone := false
        state.pointer := 0 } := by
  have run : ¬(pins.run && !controller.state.sampled.run) = true := by
    simpa [and_comm] using unstarted
  -- the release comes behind the edges of engine and array and overwrites what they change
  have engine : ((controller.sample pins).engineEdge controller.state.sampled
      pins).onResetReleased = (controller.sample pins).onResetReleased := by
    rw [engineEdge]
    split
    · rfl
    next edge =>
      have waiting : (controller.sample pins).state.activity = .waiting .engine :=
        heeded.resolve_left edge
      rw [onEngineEdge, waiting]
      dsimp only
      split <;> rfl
  have array (other : Controller) :
      (other.arrayEdge controller.state.sampled pins).onResetReleased = other.onResetReleased := by
    rw [arrayEdge]
    split
    · rw [onArrayReady]
      split <;> rfl
    · rfl
  rw [tick_eq_act _ _ working heeded, attend, resetEdge, if_pos (by simp [past, now]), array,
    engine, runEdge, if_neg run]
  rfl

/-- A controller that stands still only takes note of the array. -/
theorem tick_of_stopped (stopped : controller.state.activity = .stopped)
    (same : pins.engineReady = controller.state.sampled.engineReady)
    (unstarted : ¬(controller.state.sampled.run = false ∧ pins.run = true))
    (unreset : ¬(controller.state.sampled.reset = true ∧ pins.reset = false)) :
    controller.tick pins =
      { controller.sample pins with
        state.arrayDone := controller.state.arrayDone || controller.arrayRises pins } := by
  have stays : controller.state.activity.follow controller.state.sampled pins =
      controller.state.activity := by
    rw [stopped]
    rfl
  have still (other : Controller) (stands : other.state.activity = .stopped) :
      other.act pins.run = other := by
    rw [act, stands]
  have attend := attend_of_unawaited unstarted unreset (by simp [stopped]) (.inl same)
  rw [stays] at attend
  rw [tick_eq_act _ _ (by simp [stopped]) (.inl same), attend]
  exact still _ stopped

/-! ## The clock edge -/

@[simp] theorem program_commit (controller : Controller) :
    controller.commit.program = controller.program := rfl

/-- A clock edge before a step makes no difference behind it. -/
theorem commit_step_commit (run : Bool) :
    (controller.commit.step run).commit = (controller.step run).commit := by
  rw [step, step, state_commit]
  cases stage : controller.state.stage with
  | fetch =>
    dsimp only
    rw [fetch, fetch, program_commit, state_commit]
    cases controller.program.word? controller.state.pointer <;> rfl
  | decode =>
    dsimp only
    rw [dispatch, dispatch, state_commit]
    cases controller.state.instruction.operation? <;> rfl
  | transfer operation => cases operation <;> rfl
  | select kind => cases kind <;> rfl
  | waitReady =>
    dsimp only
    rw [waitReady, waitReady, state_commit]
    cases controller.state.arrayDone <;> rfl
  | finish =>
    cases run <;> rfl
  | _ => rfl

theorem commit_act_commit (run : Bool) :
    (controller.commit.act run).commit = (controller.act run).commit := by
  rw [act, act, state_commit]
  cases activity : controller.state.activity with
  | running => exact commit_step_commit run
  | _ => rfl

end Controller

end AccessController
