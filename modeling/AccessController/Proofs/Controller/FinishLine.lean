import AccessController.Proofs.Controller.Placed

/-!
# The finish line

The finish line goes up in the step of a finish, and the same step lowers it once
run is low.  Two edges take the controller away from a finish before that step
comes round again: the reset pin falls, or run rises during a pause.  They leave the
line as it is, so it tells of a finish that is over.  The main result says that
these are the only ticks that do: over any levels of the pins the line is high only
in a finish exactly when the controller never abandons one.
-/

namespace AccessController

namespace Controller

/-- A tick with the clock edge behind it. -/
def cycled (controller : Controller) (pins : ControlPins) : Controller :=
  (controller.tick pins).commit

/-- The ticks of a controller under given levels of its pins. -/
def follow (controller : Controller) (levels : List ControlPins) : Controller :=
  levels.foldl cycled controller

variable {controller : Controller} {pins : ControlPins}

theorem follow_append_singleton (controller : Controller) (past : List ControlPins)
    (pins : ControlPins) :
    controller.follow (past ++ [pins]) = (controller.follow past).cycled pins := by
  simp [follow]

/-! ## The line over one tick -/

/-- The line is high only in a finish. -/
def Truthful (controller : Controller) : Prop :=
  controller.outputs.finish.level = true → controller.state.activity ≠ .failed →
    controller.state.stage = .finish

/-- The reset pin falls. -/
def resetFalls (controller : Controller) (pins : ControlPins) : Bool :=
  controller.state.sampled.reset && !pins.reset

/-- The run pin rises. -/
def runRises (controller : Controller) (pins : ControlPins) : Bool :=
  pins.run && !controller.state.sampled.run

/-- The controller leaves a finish that it has signalled. When run rises it goes on to
fetch, which brings it back to a finish at once where the program has no word. -/
def Abandons (controller : Controller) (pins : ControlPins) : Prop :=
  controller.outputs.finish.level = true ∧ controller.state.activity ≠ .failed ∧
    pins.engineReady = controller.state.sampled.engineReady ∧
    if controller.runRises pins then
      pins.pause = true ∨
        (controller.program.word?
          (if controller.resetFalls pins then 0 else controller.state.pointer)).isSome
    else controller.resetFalls pins = true

instance (controller : Controller) : Decidable controller.Truthful :=
  inferInstanceAs (Decidable (_ → _ → _))

instance (controller : Controller) (pins : ControlPins) : Decidable (controller.Abandons pins) :=
  inferInstanceAs (Decidable (_ ∧ _ ∧ _ ∧ ite _ _ _))

/-- Only a finish raises the line. -/
theorem stage_of_finishLine {run : Bool} (low : controller.outputs.finish.next = false)
    (high : (controller.act run).outputs.finish.next = true) :
    (controller.act run).state.stage = .finish := by
  have stays (other : Controller) (same : other.outputs.finish = controller.outputs.finish)
      (high : other.outputs.finish.next = true) : False := by
    rw [same, low] at high
    cases high
  rw [act] at high ⊢
  cases activity : controller.state.activity with
  | running =>
    simp only [activity, step] at high ⊢
    cases stage : controller.state.stage with
    | finish =>
      simp only [stage, finish] at high ⊢
      cases run with
      | true => exact stage
      | false => cases high
    | fetch =>
      simp only [stage, fetch] at high
      split at high <;> exact (stays _ rfl high).elim
    | decode =>
      simp only [stage, dispatch] at high
      split at high <;> exact (stays _ rfl high).elim
    | waitReady =>
      simp only [stage, waitReady] at high
      split at high <;> exact (stays _ rfl high).elim
    | _ =>
      simp only [stage] at high
      exact (stays _ rfl high).elim
  | _ =>
    simp only [activity] at high
    exact (stays _ rfl high).elim

section

variable (active : controller.state.activity = .running ∨ controller.state.activity = .paused)
  (same : pins.engineReady = controller.state.sampled.engineReady)

include active same

theorem attend_of_quiet :
    controller.attend pins =
      ((({ controller.sample pins with
          state.arrayDone :=
            controller.state.arrayDone || controller.arrayRises pins }).resetEdge
        controller.state.sampled pins).runEdge controller.state.sampled pins).onPause
          controller.state.sampled pins := by
  have unawaited : (controller.sample pins).state.activity ≠ .waiting .array := by
    change controller.state.activity ≠ .waiting .array
    rcases active with running | paused
    · simp [running]
    · simp [paused]
  rw [attend, engineEdge, if_pos same, arrayEdge_of_unawaited _ unawaited]
  rfl

theorem tick_of_quiet : controller.tick pins = (controller.attend pins).act pins.run := by
  apply tick_eq_act
  · rcases active with running | paused
    · simp [running]
    · simp [paused]
  · exact .inl same

/-- When the reset pin falls and run does not rise, the line stays and the controller
stands still. -/
theorem tick_of_resetFalls (falls : controller.resetFalls pins = true)
    (steady : controller.runRises pins = false) :
    (controller.tick pins).outputs.finish = controller.outputs.finish ∧
      (controller.tick pins).state.activity = .stopped ∧
      (controller.tick pins).state.stage = .idle := by
  have reset : (controller.state.sampled.reset && !pins.reset) = true := falls
  have run : ¬(pins.run && !controller.state.sampled.run) = true := Bool.eq_false_iff.1 steady
  have attend : controller.attend pins = ({ controller.sample pins with
      state.arrayDone := controller.state.arrayDone || controller.arrayRises pins }
        ).onResetReleased := by
    rw [attend_of_quiet active same, resetEdge, if_pos reset, runEdge, if_neg run]
    rfl
  rw [tick_of_quiet active same, attend]
  exact ⟨rfl, rfl, rfl⟩

theorem tick_of_runRises (rises : controller.runRises pins = true) :
    (controller.tick pins).outputs.finish = controller.outputs.finish ∧
      (controller.tick pins).state.activity ≠ .failed ∧
      ((controller.tick pins).state.stage = .finish ↔
        pins.pause = false ∧
          controller.program.word?
            (if controller.resetFalls pins then 0 else controller.state.pointer) = none) := by
  have run : (pins.run && !controller.state.sampled.run) = true := rises
  have pointer : ∃ fetching : Controller,
      controller.attend pins = fetching ∧
      fetching.outputs.finish = controller.outputs.finish ∧
      fetching.program = controller.program ∧
      fetching.state.stage = .fetch ∧
      fetching.state.activity = (if pins.pause then .paused else .running) ∧
      fetching.state.pointer =
        if controller.resetFalls pins then 0 else controller.state.pointer := by
    refine ⟨_, attend_of_quiet active same, ?_⟩
    rw [runEdge, if_pos run, onPause_eq, resetEdge, resetFalls]
    split
    · exact ⟨rfl, rfl, rfl, rfl, rfl⟩
    · exact ⟨rfl, rfl, rfl, rfl, rfl⟩
  obtain ⟨fetching, attend, outputs, program, stage, activity, pointer⟩ := pointer
  rw [tick_of_quiet active same, attend, ← pointer, ← program, act, activity]
  cases pause : pins.pause with
  | true =>
    refine ⟨outputs, ?_, ?_⟩
    · dsimp only
      rw [activity, pause]
      exact Activity.noConfusion
    · simp [stage]
  | false =>
    have running : fetching.state.activity = .running := by rw [activity, pause]; rfl
    simp only [Bool.false_eq_true, if_false, step, stage, fetch]
    cases fetching.program.word? fetching.state.pointer with
    | none => exact ⟨outputs, by simp [enter, running], by simp [enter]⟩
    | some word => exact ⟨outputs, by simp [enter, running], by simp [enter]⟩

theorem tick_of_finish (finishing : controller.state.stage = .finish)
    (unreset : controller.resetFalls pins = false) (steady : controller.runRises pins = false) :
    (controller.tick pins).outputs.finish.next = true →
      (controller.tick pins).state.stage = .finish := by
  have reset : ¬(controller.state.sampled.reset && !pins.reset) = true :=
    Bool.eq_false_iff.1 unreset
  have run : ¬(pins.run && !controller.state.sampled.run) = true := Bool.eq_false_iff.1 steady
  have stage : (controller.attend pins).state.stage = .finish := by
    rw [attend_of_quiet active same, resetEdge, if_neg reset, runEdge, if_neg run, onPause_eq]
    exact finishing
  have activity : (controller.attend pins).state.activity = .running ∨
      (controller.attend pins).state.activity = .paused := by
    rw [attend_of_quiet active same, resetEdge, if_neg reset, runEdge, if_neg run, onPause_eq]
    exact Activity.follow_running_or_paused active _ _
  intro high
  rw [tick_of_quiet active same, act] at high ⊢
  rcases activity with running | paused
  · simp only [running, step, stage, finish] at high ⊢
    cases level : pins.run with
    | true => exact stage
    | false =>
      rw [level] at high
      cases high
  · simp only [paused]
    exact stage

end

/-- A controller behind a clock edge. -/
structure Settled (controller : Controller) : Prop extends Placed controller where
  line : controller.outputs.finish.next = controller.outputs.finish.level

theorem Settled.cycled (settled : controller.Settled) (pins : ControlPins) :
    (controller.cycled pins).Settled where
  toPlaced := (settled.toPlaced.tick pins).move rfl rfl
  line := rfl

/-- From a low line a tick only gets to a high one in a finish. -/
theorem Settled.truthful_of_low (settled : controller.Settled)
    (low : controller.outputs.finish.level = false) : (controller.cycled pins).Truthful := by
  intro high working
  change (controller.tick pins).outputs.finish.next = true at high
  change (controller.tick pins).state.stage = .finish
  have next : controller.outputs.finish.next = false := settled.line.trans low
  have attended := controller.attended_attend pins
  rcases controller.tick_cases pins with failed | failed | acts
  · rw [failed] at high
    exact nomatch next.symm.trans high
  · rw [failed, (attended_engineEdge ..).outputs] at high
    exact nomatch next.symm.trans high
  · rw [acts] at high ⊢
    apply stage_of_finishLine _ high
    rw [attended.outputs]
    exact next

/-- A tick that begins in a signalled finish and has no edge of the engine's ready. -/
theorem Settled.truthful_cycled_iff_of_finish (settled : controller.Settled)
    (level : controller.outputs.finish.level = true)
    (working : controller.state.activity ≠ .failed)
    (finishing : controller.state.stage = .finish)
    (same : pins.engineReady = controller.state.sampled.engineReady) :
    (controller.cycled pins).Truthful ↔ ¬controller.Abandons pins := by
  have active := settled.activity_of_finish finishing working
  have kept (line : (controller.tick pins).outputs.finish = controller.outputs.finish) :
      (controller.cycled pins).outputs.finish.level = true :=
    (congrArg Wire.next line).trans (settled.line.trans level)
  cases rises : controller.runRises pins with
  | true =>
    obtain ⟨line, going, stage⟩ := tick_of_runRises active same rises
    have truth : (controller.cycled pins).Truthful ↔
        (controller.tick pins).state.stage = .finish :=
      ⟨fun truthful => truthful (kept line) going, fun stage _ _ => stage⟩
    rw [truth, stage, Abandons, if_pos rises]
    simp [level, working, same]
  | false =>
    cases falls : controller.resetFalls pins with
    | true =>
      obtain ⟨line, activity, stage⟩ := tick_of_resetFalls active same falls rises
      constructor
      · intro truthful
        have going : (controller.cycled pins).state.activity ≠ .failed := by
          change (controller.tick pins).state.activity ≠ .failed
          simp [activity]
        exact nomatch stage.symm.trans (truthful (kept line) going)
      · intro unabandoned
        refine absurd ⟨level, working, same, ?_⟩ unabandoned
        simp [rises, falls]
    | false =>
      constructor
      · rintro - ⟨-, -, -, leaves⟩
        simp [rises, falls] at leaves
      · intro _ high _
        exact tick_of_finish active same finishing falls rises high

/-- What a tick does to a line that has told the truth. -/
theorem Settled.truthful_cycled_iff (settled : controller.Settled)
    (truthful : controller.Truthful) :
    (controller.cycled pins).Truthful ↔ ¬controller.Abandons pins := by
  cases level : controller.outputs.finish.level with
  | false =>
    constructor
    · intro _ abandons
      exact nomatch level.symm.trans abandons.1
    · intro _
      exact settled.truthful_of_low level
  | true =>
    by_cases working : controller.state.activity = .failed
    · constructor
      · intro _ abandons
        exact abandons.2.1 working
      · intro _ _ recovered
        exact absurd (failed_tick working) recovered
    · have finishing := truthful level working
      by_cases same : pins.engineReady = controller.state.sampled.engineReady
      · exact settled.truthful_cycled_iff_of_finish level working finishing same
      · have unwaiting (awaited : Awaited) :
            controller.state.activity ≠ .waiting awaited := by
          rcases settled.activity_of_finish finishing working with running | paused
          · simp [running]
          · simp [paused]
        constructor
        · intro _ abandons
          exact same abandons.2.2.1
        · intro _ _ working
          exact absurd (failed_of_edge unwaiting same) working

/-! ## The line over all ticks -/

theorem settled_of_build? {capacity : Nat} {program : Program}
    (built : build? capacity program = .ok controller) : controller.Settled := by
  rw [build?] at built
  split at built
  · cases built
    exact ⟨⟨fun _ => rfl, nofun, nofun⟩, rfl⟩
  · cases built

theorem truthful_of_build? {capacity : Nat} {program : Program}
    (built : build? capacity program = .ok controller) : controller.Truthful := by
  rw [build?] at built
  split at built
  · cases built
    nofun
  · cases built

theorem Settled.follow (settled : controller.Settled) (levels : List ControlPins) :
    (controller.follow levels).Settled := by
  induction levels generalizing controller with
  | nil => exact settled
  | cons pins rest ih => exact ih (settled.cycled pins)

/-- From power-up on, over any levels of the pins, the finish line is high only in a
finish if and only if no tick abandons a finish that has been signalled. -/
theorem truthful_iff_unabandoned {capacity : Nat} {program : Program}
    (built : build? capacity program = .ok controller) (levels : List ControlPins) :
    (∀ count ≤ levels.length, (controller.follow (levels.take count)).Truthful) ↔
      ∀ count (inside : count < levels.length),
        ¬(controller.follow (levels.take count)).Abandons levels[count] := by
  have settled := settled_of_build? built
  have next (count : Nat) (inside : count < levels.length)
      (before : (controller.follow (levels.take count)).Truthful) :
      (controller.follow (levels.take (count + 1))).Truthful ↔
        ¬(controller.follow (levels.take count)).Abandons levels[count] := by
    rw [List.take_succ_eq_append_getElem inside, follow_append_singleton]
    exact (settled.follow _).truthful_cycled_iff before
  constructor
  · intro truthful count inside
    rw [← next count inside (truthful count (Nat.le_of_lt inside))]
    exact truthful (count + 1) inside
  · intro unabandoned count
    induction count with
    | zero =>
      intro _
      exact truthful_of_build? built
    | succ count ih =>
      intro inside
      rw [next count inside (ih (Nat.le_of_lt inside))]
      exact unabandoned count inside

/-- A program of one finish. -/
def finishOnly : Program := ⟨[(Instruction.ofFields 9 0 0 0).toWord]⟩

/-- Run is held until the finish is signalled and then lowered. -/
theorem truthful_of_finishOnly :
    let controller : Controller := { program := finishOnly }
    let levels : List ControlPins :=
      List.replicate 4 { run := true } ++ List.replicate 2 { run := false }
    build? 1 finishOnly = .ok controller ∧
      (controller.follow (levels.take 4)).outputs.finish.level = true ∧
      ∀ count ≤ levels.length, (controller.follow (levels.take count)).Truthful := by
  intro controller levels
  have built : build? 1 finishOnly = .ok controller := rfl
  have unabandoned : ∀ count (inside : count < levels.length),
      ¬(controller.follow (levels.take count)).Abandons levels[count] := by decide
  exact ⟨built, by decide, (truthful_iff_unabandoned built levels).2 unabandoned⟩

/-- A reset pulse in the finish leaves the line high behind it, so the line is not always
high in a finish only. -/
theorem not_truthful_of_cutFinish :
    ¬∀ (capacity : Nat) (program : Program) (controller : Controller) (levels : List ControlPins),
      build? capacity program = .ok controller → (controller.follow levels).Truthful := by
  intro truthful
  let levels : List ControlPins :=
    List.replicate 3 { run := true } ++ [{ run := true, reset := true }, { run := true }]
  have cut : ¬(follow { program := finishOnly } levels).Truthful := by decide
  exact cut (truthful 1 finishOnly _ levels rfl)

end Controller

end AccessController
