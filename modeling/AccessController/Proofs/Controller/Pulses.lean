import AccessController.Proofs.Controller.Waiting

/-!
# Start pulses

The engine and the array are started by pulses of one tick.  Whatever the pins do, the
controller remembers which of the two wires it has put up, and a pulse is up only right
behind the step that began it, so a controller at any other stage has ended both.
-/

namespace AccessController

namespace Controller

/-- The start wires are on their way to where the controller remembers them, and a pulse
is up only behind its step. -/
structure Pulsing (controller : Controller) : Prop where
  engineStart : controller.outputs.engineStart.next = controller.state.engineStartHigh
  arrayStart : controller.outputs.arrayStart.next = controller.state.arrayStartHigh
  asked : controller.state.engineStartHigh = true → controller.state.stage = .awaitEngine
  started : controller.state.arrayStartHigh = true → controller.state.stage = .advance

/-- Both start wires are on their way down. -/
structure Unpulsed (controller : Controller) : Prop where
  engineStart : controller.outputs.engineStart.next = false
  arrayStart : controller.outputs.arrayStart.next = false
  engineStartHigh : controller.state.engineStartHigh = false
  arrayStartHigh : controller.state.arrayStartHigh = false

variable {controller : Controller}

theorem Unpulsed.pulsing (unpulsed : controller.Unpulsed) : controller.Pulsing where
  engineStart := unpulsed.engineStart.trans unpulsed.engineStartHigh.symm
  arrayStart := unpulsed.arrayStart.trans unpulsed.arrayStartHigh.symm
  asked high := Bool.noConfusion (unpulsed.engineStartHigh.symm.trans high)
  started high := Bool.noConfusion (unpulsed.arrayStartHigh.symm.trans high)

/-- Nothing that leaves the start wires alone begins a pulse. -/
theorem Unpulsed.move (unpulsed : controller.Unpulsed) {after : Controller}
    (engineStart : after.outputs.engineStart = controller.outputs.engineStart)
    (arrayStart : after.outputs.arrayStart = controller.outputs.arrayStart)
    (engineStartHigh : after.state.engineStartHigh = controller.state.engineStartHigh)
    (arrayStartHigh : after.state.arrayStartHigh = controller.state.arrayStartHigh) :
    after.Unpulsed where
  engineStart := engineStart ▸ unpulsed.engineStart
  arrayStart := arrayStart ▸ unpulsed.arrayStart
  engineStartHigh := engineStartHigh.trans unpulsed.engineStartHigh
  arrayStartHigh := arrayStartHigh.trans unpulsed.arrayStartHigh

theorem Pulsing.unpulsed_sample (pulsing : controller.Pulsing) (pins : ControlPins) :
    (controller.sample pins).Unpulsed := by
  have lowered (wire : Wire Bool) : (wire.driveIf wire.next false).next = false := by
    rcases wire with ⟨level, _ | _⟩ <;> rfl
  constructor
  · simp only [sample, dropPulses, ← pulsing.engineStart, lowered]
  · simp only [sample, dropPulses, ← pulsing.arrayStart, lowered]
  · rfl
  · rfl

theorem Unpulsed.attended (unpulsed : controller.Unpulsed) {after : Controller}
    (attended : Attended controller after) : after.Unpulsed :=
  unpulsed.move (congrArg ControlOutputs.engineStart attended.outputs)
    (congrArg ControlOutputs.arrayStart attended.outputs) attended.engineStartHigh
    attended.arrayStartHigh

/-- Only a request and a start of the array begin a pulse. -/
theorem Unpulsed.pulsing_act (unpulsed : controller.Unpulsed) (run : Bool) :
    (controller.act run).Pulsing := by
  have quiet (after : Controller)
      (engineStart : after.outputs.engineStart = controller.outputs.engineStart)
      (arrayStart : after.outputs.arrayStart = controller.outputs.arrayStart)
      (engineStartHigh : after.state.engineStartHigh = controller.state.engineStartHigh)
      (arrayStartHigh : after.state.arrayStartHigh = controller.state.arrayStartHigh) :
      after.Pulsing :=
    (unpulsed.move engineStart arrayStart engineStartHigh arrayStartHigh).pulsing
  rw [act]
  split <;> try exact quiet _ rfl rfl rfl rfl
  rw [step]
  split <;> try exact quiet _ rfl rfl rfl rfl
  next => rw [fetch]; split <;> exact quiet _ rfl rfl rfl rfl
  next => rw [dispatch]; split <;> exact quiet _ rfl rfl rfl rfl
  next =>
    exact {
      engineStart := rfl
      arrayStart := unpulsed.arrayStart.trans unpulsed.arrayStartHigh.symm
      asked := fun _ => rfl
      started := fun high => Bool.noConfusion (unpulsed.arrayStartHigh.symm.trans high) }
  next =>
    exact {
      engineStart := unpulsed.engineStart.trans unpulsed.engineStartHigh.symm
      arrayStart := rfl
      asked := fun high => Bool.noConfusion (unpulsed.engineStartHigh.symm.trans high)
      started := fun _ => rfl }
  next => rw [waitReady]; split <;> exact quiet _ rfl rfl rfl rfl
  next => rw [finish]; split <;> exact quiet _ rfl rfl rfl rfl

theorem Pulsing.tick (pulsing : controller.Pulsing) (pins : ControlPins) :
    (controller.tick pins).Pulsing := by
  have sampled := pulsing.unpulsed_sample pins
  rcases controller.tick_cases pins with failed | failed | acts
  · rw [failed]
    exact sampled.pulsing
  · rw [failed]
    exact (sampled.attended (attended_engineEdge ..)).pulsing
  · rw [acts]
    exact (sampled.attended (controller.attended_attend pins)).pulsing_act _

end Controller

end AccessController
