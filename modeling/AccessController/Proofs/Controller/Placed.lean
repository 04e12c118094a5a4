import AccessController.Proofs.Controller.Waiting

/-!
# Where activities are found

Not every activity comes with every stage.  A controller that stands still is idle,
and one that waits is at the stage where its wait began.  No edge and no step leads
out of this.
-/

namespace AccessController

namespace Controller

variable {controller : Controller}

/-- A controller that stands still is idle, and one that waits is where its wait
began. -/
structure Placed (controller : Controller) : Prop where
  stopped : controller.state.activity = .stopped → controller.state.stage = .idle
  engine : controller.state.activity = .waiting .engine → controller.state.stage = .awaitEngine
  array : controller.state.activity = .waiting .array → controller.state.stage = .waitReady

theorem placed_of_free
    (free : controller.state.activity = .running ∨ controller.state.activity = .paused ∨
      controller.state.activity = .failed) : controller.Placed := by
  constructor
  all_goals
    intro same
    rw [same] at free
    simp at free

theorem placed_of_engine (waiting : controller.state.activity = .waiting .engine)
    (stage : controller.state.stage = .awaitEngine) : controller.Placed where
  stopped same := Activity.noConfusion (waiting.symm.trans same)
  engine _ := stage
  array same := by simp [waiting] at same

theorem placed_of_array (awaited : controller.state.activity = .waiting .array)
    (stage : controller.state.stage = .waitReady) : controller.Placed where
  stopped same := Activity.noConfusion (awaited.symm.trans same)
  engine same := by simp [awaited] at same
  array _ := stage

theorem Placed.move (placed : controller.Placed) {after : Controller}
    (activity : after.state.activity = controller.state.activity)
    (stage : after.state.stage = controller.state.stage) : after.Placed where
  stopped same := stage.trans (placed.stopped (activity.symm.trans same))
  engine same := stage.trans (placed.engine (activity.symm.trans same))
  array same := stage.trans (placed.array (activity.symm.trans same))

theorem Placed.engineEdge (placed : controller.Placed) (before pins : ControlPins) :
    (controller.engineEdge before pins).Placed := by
  rw [Controller.engineEdge]
  split
  · exact placed
  · rw [onEngineEdge]
    split
    · split
      · exact placed
      · exact placed_of_free (.inl rfl)
    · exact placed.move rfl rfl
    · exact placed_of_free (.inr (.inr rfl))

theorem Placed.attend (placed : controller.Placed) (pins : ControlPins) :
    (controller.attend pins).Placed := by
  have sampled : (controller.sample pins).Placed := placed.move rfl rfl
  have array (other : Controller) (before : ControlPins) (placed : other.Placed) :
      (other.arrayEdge before pins).Placed := by
    rw [arrayEdge]
    split
    · rw [onArrayReady]
      split
      · exact placed_of_free (.inl rfl)
      · exact placed.move rfl rfl
    · exact placed
  have reset (other : Controller) (before : ControlPins) (placed : other.Placed) :
      (other.resetEdge before pins).Placed := by
    rw [resetEdge]
    split
    · exact ⟨fun _ => rfl, Activity.noConfusion, Activity.noConfusion⟩
    · exact placed
  have run (other : Controller) (before : ControlPins) (placed : other.Placed) :
      (other.runEdge before pins).Placed := by
    rw [runEdge]
    split
    · exact placed_of_free (.inl rfl)
    · exact placed
  have pause (other : Controller) (before : ControlPins) (placed : other.Placed) :
      (other.onPause before pins).Placed := by
    rw [onPause]
    split
    · split
      · exact placed_of_free (.inr (.inl rfl))
      · exact placed
    · split
      · exact placed_of_free (.inl rfl)
      · exact placed
    · exact placed
  apply pause
  apply run
  apply reset
  apply array
  exact sampled.engineEdge _ _

theorem Placed.act (placed : controller.Placed) (run : Bool) : (controller.act run).Placed := by
  rw [Controller.act]
  cases activity : controller.state.activity with
  | running =>
    have runs (other : Controller) (same : other.state.activity = controller.state.activity) :
        other.Placed := placed_of_free (.inl (same.trans activity))
    dsimp only
    rw [step]
    cases stage : controller.state.stage with
    | fetch =>
      dsimp only
      rw [fetch]
      split <;> exact runs _ rfl
    | decode =>
      dsimp only
      rw [dispatch]
      split <;> exact runs _ rfl
    | waitReady =>
      dsimp only
      rw [waitReady]
      split
      · exact runs _ rfl
      · exact placed_of_array rfl stage
    | finish =>
      dsimp only
      rw [finish]
      split <;> exact runs _ rfl
    | transfer operation => exact placed_of_engine rfl rfl
    | awaitEngine => exact placed_of_engine rfl stage
    | _ => exact runs _ rfl
  | _ => exact placed.move rfl rfl

theorem Placed.tick (placed : controller.Placed) (pins : ControlPins) :
    (controller.tick pins).Placed := by
  have sampled : (controller.sample pins).Placed := placed.move rfl rfl
  rcases controller.tick_cases pins with failed | failed | acts
  · rw [failed]
    exact sampled
  · rw [failed]
    exact sampled.engineEdge _ _
  · rw [acts]
    exact (placed.attend pins).act _

/-- A controller in a finish can only be running, paused or failed. -/
theorem Placed.activity_of_finish (placed : controller.Placed)
    (finishing : controller.state.stage = .finish) (working : controller.state.activity ≠ .failed) :
    controller.state.activity = .running ∨ controller.state.activity = .paused := by
  cases activity : controller.state.activity with
  | running => exact .inl rfl
  | paused => exact .inr rfl
  | stopped => exact Stage.noConfusion (finishing.symm.trans (placed.stopped activity))
  | failed => exact absurd activity working
  | waiting awaited =>
    cases awaited with
    | engine => exact Stage.noConfusion (finishing.symm.trans (placed.engine activity))
    | array => exact Stage.noConfusion (finishing.symm.trans (placed.array activity))

end Controller

end AccessController
