import AccessController.Proofs.Controller.Agreement

/-!
# Requests and the waits for them

A request goes out in a tick that began at a transfer, and nothing but a request
raises the start of the engine.  As long as the controller waits for the answer it
leaves all wires alone, apart from the start that it lowers again.
-/

namespace AccessController

namespace Controller

variable {controller : Controller} {pins : ControlPins}

/-! ## Requests -/

/-- Edges lead to four stages only. -/
theorem stage_attend (controller : Controller) (pins : ControlPins) :
    (controller.attend pins).state.stage = controller.state.stage ∨
      (controller.attend pins).state.stage ∈ [.engineDone, .advance, .idle, .fetch] := by
  have engine (other : Controller) (before : ControlPins) :
      (other.engineEdge before pins).state.stage = other.state.stage ∨
        (other.engineEdge before pins).state.stage = .engineDone := by
    rw [engineEdge]
    split
    · exact .inl rfl
    · rw [onEngineEdge]
      split
      · split
        · exact .inl rfl
        · exact .inr rfl
      · exact .inl rfl
      · exact .inl rfl
  have array (other : Controller) (before : ControlPins) :
      (other.arrayEdge before pins).state.stage = other.state.stage ∨
        (other.arrayEdge before pins).state.stage = .advance := by
    rw [arrayEdge]
    split
    · rw [onArrayReady]
      split
      · exact .inr rfl
      · exact .inl rfl
    · exact .inl rfl
  have reset (other : Controller) (before : ControlPins) :
      (other.resetEdge before pins).state.stage = other.state.stage ∨
        (other.resetEdge before pins).state.stage = .idle := by
    rw [resetEdge]
    split
    · exact .inr rfl
    · exact .inl rfl
  have run (other : Controller) (before : ControlPins) :
      (other.runEdge before pins).state.stage = other.state.stage ∨
        (other.runEdge before pins).state.stage = .fetch := by
    rw [runEdge]
    split
    · exact .inr rfl
    · exact .inl rfl
  have sampled : (controller.sample pins).state.stage = controller.state.stage := rfl
  rw [attend, onPause_eq]
  simp only [become, List.mem_cons, List.not_mem_nil, or_false]
  grind

/-- A tick goes all the way unless the controller fails. -/
theorem tick_cases (controller : Controller) (pins : ControlPins) :
    controller.tick pins = controller.sample pins ∨
      controller.tick pins =
        (controller.sample pins).engineEdge controller.state.sampled pins ∨
      controller.tick pins = (controller.attend pins).act pins.run := by
  simp only [tick]
  split
  · exact .inl rfl
  · split
    · exact .inr (.inl rfl)
    · exact .inr (.inr rfl)

theorem request_of_startHigh {run : Bool} (low : controller.state.engineStartHigh = false)
    (high : (controller.act run).state.engineStartHigh = true) :
    ∃ operation, controller.state.stage = .transfer operation ∧
      controller.act run = controller.request operation := by
  have stays (other : Controller)
      (same : other.state.engineStartHigh = controller.state.engineStartHigh)
      (high : other.state.engineStartHigh = true) : False := by
    rw [same, low] at high
    cases high
  rw [act] at high ⊢
  cases activity : controller.state.activity with
  | running =>
    simp only [activity, step] at high ⊢
    cases stage : controller.state.stage with
    | transfer operation => exact ⟨operation, rfl, rfl⟩
    | fetch =>
      simp only [stage, fetch] at high
      split at high <;> exact (stays _ rfl high).elim
    | decode =>
      simp only [stage, dispatch] at high
      split at high <;> exact (stays _ rfl high).elim
    | waitReady =>
      simp only [stage, Controller.waitReady] at high
      split at high <;> exact (stays _ rfl high).elim
    | finish =>
      simp only [stage, Controller.finish] at high
      split at high <;> exact (stays _ rfl high).elim
    | _ =>
      simp only [stage] at high
      exact (stays _ rfl high).elim
  | _ =>
    simp only [activity] at high
    exact (stays _ rfl high).elim

/-- The controller issues a request in a tick. -/
def Issues (controller : Controller) (pins : ControlPins) (operation : TransferOp) : Prop :=
  controller.state.stage = .transfer operation ∧
    controller.tick pins = (controller.attend pins).request operation

theorem issues_of_startHigh (high : (controller.tick pins).state.engineStartHigh = true) :
    ∃ operation, controller.Issues pins operation := by
  have attended := controller.attended_attend pins
  have low : (controller.attend pins).state.engineStartHigh = false := attended.engineStartHigh
  rcases controller.tick_cases pins with failed | failed | acts
  · rw [failed] at high
    cases high
  · rw [failed, (attended_engineEdge ..).engineStartHigh] at high
    cases high
  · obtain ⟨operation, stage, requests⟩ := request_of_startHigh low (acts ▸ high)
    refine ⟨operation, ?_, acts.trans requests⟩
    rcases controller.stage_attend pins with same | moved
    · exact same.symm.trans stage
    · rw [stage] at moved
      simp at moved

theorem Issues.forthcomingInputs {operation : TransferOp}
    (issues : controller.Issues pins operation) :
    (controller.tick pins).forthcomingInputs =
      let request := controller.state.instruction.request operation
      { controller.forthcomingInputs with
        start := true
        selector := request.selector
        address := request.address
        place := request.place
        selectIn := controller.forthcomingInputs.selectIn.set operation.kind
          controller.state.instruction.lineLevel } := by
  have attended := controller.attended_attend pins
  have inputs : (controller.attend pins).forthcomingInputs =
      (controller.sample pins).forthcomingInputs := by
    rw [Controller.forthcomingInputs, attended.outputs]
    rfl
  rw [issues.2, forthcomingInputs_request, inputs, forthcomingInputs_sample, attended.instruction]
  rfl

/-! ## Waits -/

section

variable (waiting : controller.state.activity = .waiting .engine)
  (unstarted : ¬(controller.state.sampled.run = false ∧ pins.run = true))
  (unreset : ¬(controller.state.sampled.reset = true ∧ pins.reset = false))

include waiting unstarted unreset

/-- A wait that goes on changes nothing but what is known of the array. -/
theorem tick_of_unended
    (unended : ¬(controller.state.sampled.engineReady = true ∧ pins.engineReady = false)) :
    controller.tick pins =
      { controller.sample pins with
        state.arrayDone := controller.state.arrayDone || controller.arrayRises pins
        state.stats.waitCycles := controller.state.stats.waitCycles + 1 } := by
  rw [tick_eq_act _ _ (by simp [waiting]) (.inr waiting),
    attend_of_unawaited unstarted unreset (by simp [waiting]) (.inr ⟨waiting, unended⟩), waiting,
    Activity.follow_waiting, act]
  dsimp only
  rw [← waiting]
  rfl

/-- When ready falls the controller goes on behind its request. -/
theorem tick_of_ended (past : controller.state.sampled.engineReady = true)
    (now : pins.engineReady = false) :
    (controller.tick pins).state.activity ≠ .waiting .engine ∧
      (pins.pause = false → controller.tick pins =
        { controller.sample pins with
          state.arrayDone := controller.state.arrayDone || controller.arrayRises pins
          state.stage := .advance
          state.activity := .running }) := by
  have attend := attend_of_answered unstarted unreset waiting past now
  rw [tick_eq_act _ _ (by simp [waiting]) (.inr waiting), attend]
  cases pause : pins.pause with
  | false =>
    rw [Activity.follow, pause, act]
    exact ⟨Activity.noConfusion, fun _ => rfl⟩
  | true =>
    rw [Activity.follow, pause, act]
    exact ⟨Activity.noConfusion, Bool.noConfusion⟩

end

end Controller

end AccessController
