import AccessController.Proofs.Controller.Coherence

/-!
# Instructions that a controller has passed

An instruction is behind the controller once it comes to the stage that retires it.  A
finish never is, for it leads back to the first instruction, and a transfer only is when
its answer has been heard.  So an edge that takes the controller out of a wait for the
engine leaves it in front of the transfer that it has asked for, and it comes back to that
transfer before it can come to a finish (`Bound.tick`).
-/

namespace AccessController

/-- None of the first instructions of a program is a finish. -/
def Program.Unfinished (program : Program) (count : Nat) : Prop :=
  ∀ index < count, ∀ instruction, program.instruction? index = some instruction →
    instruction.operation? ≠ some .finish

namespace Controller

/-- The number of instructions behind the controller. -/
def passed (controller : Controller) : Nat :=
  if controller.state.stage = .advance then controller.state.pointer + 1
  else controller.state.pointer

/-- The instruction at the program pointer may be passed. -/
def Passable (controller : Controller) : Prop :=
  ∃ instruction, controller.program.instruction? controller.state.pointer = some instruction ∧
    instruction.operation? ≠ some .finish ∧
    ∀ operation, instruction.operation? = some (.transfer operation) →
      controller.state.stage = .engineDone

/-- One controller passes one instruction more than another one at most. -/
def Follows (before after : Controller) : Prop :=
  after.passed ≤ before.passed ∨ after.passed ≤ before.state.pointer + 1 ∧ before.Passable

/-- The controller is in front of a transfer that no finish comes before. -/
structure Bound (target : Nat) (controller : Controller) : Prop where
  ahead : controller.passed ≤ target
  unfinished : controller.program.Unfinished target
  transfer : ∃ instruction operation, controller.program.instruction? target = some instruction ∧
    instruction.operation? = some (.transfer operation)
  stage : controller.state.stage ∉ [.awaitEngine, .engineDone, .finish]

/-- The controller is coherent, and no finish is behind it. -/
structure Clear (controller : Controller) : Prop extends Coherent controller where
  unfinished : controller.program.Unfinished controller.passed

variable {controller : Controller} {pins : ControlPins}

theorem pointer_le_passed : controller.state.pointer ≤ controller.passed := by
  rw [passed]
  split
  · exact Nat.le_succ _
  · exact Nat.le_refl _

theorem passed_of_apart (apart : controller.state.stage ≠ .advance) :
    controller.passed = controller.state.pointer := if_neg apart

/-- The program pointer never gets ahead but over an instruction that may be passed. -/
theorem passed_le {after : Controller} (apart : after.state.stage ≠ .advance)
    (pointer : after.state.pointer ≤ controller.state.pointer) :
    after.passed ≤ controller.passed := by
  rw [passed_of_apart apart]
  exact Nat.le_trans pointer pointer_le_passed

/-! ## Edges and steps -/

theorem passed_heard : (controller.heard pins).passed ≤ controller.passed := by
  rw [passed, passed, stage_heard, pointer_heard]
  split
  · exact pointer_le_passed
  · exact Nat.le_refl _

theorem stage_tick_of_asked (asked : controller.state.stage = .awaitEngine)
    (operation : TransferOp) : (controller.tick pins).state.stage ≠ .transfer operation := by
  rcases controller.tick_outcome pins with ⟨-, only⟩ | ⟨-, -, only⟩ | ⟨-, acts⟩
  · rw [only]
    change controller.state.stage ≠ _
    simp [asked]
  · rw [only, stage_heard]
    split <;> simp [asked]
  · have moved : (controller.attend pins).state.stage ∈
        [Stage.awaitEngine, .engineDone, .advance, .idle, .fetch] := by
      rcases controller.stage_attend pins with same | moved
      · simp [same, asked]
      · exact List.mem_cons_of_mem _ moved
    rw [acts, act]
    split
    · rw [stage_step]
      generalize (controller.attend pins).state.stage = stage at moved
      cases stage with
      | fetch =>
        dsimp only
        split <;> exact Stage.noConfusion
      | awaitEngine | engineDone | advance | idle => exact Stage.noConfusion
      | _ => simp at moved
    all_goals
      intro same
      rw [show (controller.attend pins).state.stage = .transfer operation from same] at moved
      simp at moved

/-- Without an answer of the engine edges lead to three stages only. -/
theorem stage_attend_of_unanswered (unanswered : controller.answered pins = false) :
    (controller.attend pins).state.stage = controller.state.stage ∨
      (controller.attend pins).state.stage ∈ [.advance, .idle, .fetch] := by
  rw [state_attend, stage_heard, unanswered]
  dsimp only
  split
  · simp
  · split
    · simp
    · split
      · simp
      · exact .inl rfl

theorem notMem_of_moved :
    ∀ stage ∈ [Stage.advance, .idle, .fetch],
      stage ∉ [Stage.awaitEngine, .engineDone, .finish] := by
  decide

theorem passable_of_code {instruction : Instruction} {opcode : Opcode}
    (found : controller.program.instruction? controller.state.pointer = some instruction)
    (code : instruction.operation? = some opcode) (unfinished : opcode ≠ .finish)
    (apart : ∀ operation, opcode ≠ .transfer operation) : controller.Passable := by
  refine ⟨instruction, found, ?_, fun operation transfer => ?_⟩
  · rw [code]
    exact fun same => unfinished (Option.some.inj same)
  · rw [code] at transfer
    exact absurd (Option.some.inj transfer) (apart operation)

namespace Coherent

variable (coherent : controller.Coherent)

include coherent

theorem passable_of_awoken (awoken : controller.awoken pins = true) : controller.Passable := by
  have waiting := ((awoken_eq_true_iff ..).1 awoken).1
  have fits := coherent.activity
  have stage := coherent.stage
  rw [waiting] at fits
  rw [fits.1] at stage
  exact passable_of_code stage.1 stage.2 (by simp) (by simp)

theorem unanswered_of_apart (pins : ControlPins) (apart : controller.state.stage ≠ .awaitEngine) :
    controller.answered pins = false :=
  Bool.eq_false_iff.2 fun answered =>
    apart (coherent.waiting_iff.1 ((answered_eq_true_iff ..).1 answered).1)

theorem follows_attend (pins : ControlPins) : controller.Follows (controller.attend pins) := by
  have state := controller.state_attend pins
  cases rises : controller.runRises pins with
  | true =>
    rw [rises] at state
    refine .inl (passed_le (by simp [state]) ?_)
    rw [state]
    dsimp only
    split
    · exact Nat.zero_le _
    · exact Nat.le_refl _
  | false =>
    cases falls : controller.resetFalls pins with
    | true =>
      rw [rises, falls] at state
      exact .inl (passed_le (by simp [state]) (by simp [state]))
    | false =>
      rw [rises, falls] at state
      cases awoken : controller.awoken pins with
      | true =>
        rw [awoken] at state
        refine .inr ⟨?_, coherent.passable_of_awoken awoken⟩
        rw [passed, state]
        exact Nat.le_refl _
      | false =>
        rw [awoken] at state
        have same : (controller.attend pins).passed = (controller.heard pins).passed := by
          rw [passed, passed, state, pointer_heard]
          rfl
        exact .inl (same ▸ passed_heard)

/-- Each stage that leads to the end of an instruction has one that may be passed. -/
theorem passable_of_advance {run : Bool} (apart : controller.state.stage ≠ .advance)
    (advances : (controller.step run).state.stage = .advance) : controller.Passable := by
  have fits := coherent.stage
  rw [stage_step] at advances
  cases stage : controller.state.stage with
  | decode =>
    rw [stage] at fits advances
    refine ⟨_, fits.1, fun finish => ?_, fun operation transfer => ?_⟩
    · rw [finish] at advances
      cases advances
    · rw [transfer] at advances
      cases advances
  | engineDone =>
    rw [stage] at fits
    obtain ⟨found, operation, code⟩ := fits
    exact ⟨_, found, by simp [code], fun _ _ => stage⟩
  | select _ | start | waitReady =>
    rw [stage] at fits
    exact passable_of_code fits.1 fits.2 (by simp) (by simp)
  | advance => exact absurd stage apart
  | fetch | finish =>
    rw [stage] at advances
    dsimp only at advances
    split at advances <;> cases advances
  | idle | transfer | awaitEngine =>
    rw [stage] at advances
    cases advances

theorem follows_step (run : Bool) : controller.Follows (controller.step run) := by
  by_cases retires : controller.state.stage = .advance
  · have pointer := controller.pointer_step run
    have stage := controller.stage_step run
    rw [retires] at pointer stage
    refine .inl (Nat.le_of_eq ?_)
    rw [passed_of_apart (by simp [stage]), passed, if_pos retires]
    exact pointer
  · have pointer : (controller.step run).state.pointer ≤ controller.state.pointer := by
      rw [pointer_step]
      cases stage : controller.state.stage with
      | advance => exact absurd stage retires
      | finish =>
        dsimp only
        split
        · exact Nat.le_refl _
        · exact Nat.zero_le _
      | _ => exact Nat.le_refl _
    by_cases advances : (controller.step run).state.stage = .advance
    · refine .inr ⟨?_, coherent.passable_of_advance retires advances⟩
      rw [passed, if_pos advances]
      exact Nat.succ_le_succ pointer
    · exact .inl (passed_le advances pointer)

end Coherent

theorem Follows.unfinished {after : Controller} (follows : controller.Follows after)
    (unfinished : controller.program.Unfinished controller.passed) :
    controller.program.Unfinished after.passed := by
  intro index inside instruction found
  rcases follows with le | ⟨le, passing, here, other, -⟩
  · exact unfinished index (Nat.lt_of_lt_of_le inside le) instruction found
  · rcases Nat.lt_or_eq_of_le (Nat.le_of_lt_succ (Nat.lt_of_lt_of_le inside le)) with before | rfl
    · exact unfinished index (Nat.lt_of_lt_of_le before pointer_le_passed) instruction found
    · rw [found] at here
      cases here
      exact other

/-! ## Ticks -/

/-- No tick leaves a finish behind the controller. -/
theorem Clear.tick (clear : controller.Clear) (pins : ControlPins) :
    (controller.tick pins).Clear := by
  have coherent := clear.toCoherent
  refine ⟨coherent.tick pins, ?_⟩
  rw [program_tick]
  rcases controller.tick_outcome pins with ⟨-, only⟩ | ⟨-, -, only⟩ | ⟨working, acts⟩
  · rw [only]
    exact clear.unfinished
  · rw [only]
    exact Follows.unfinished (.inl passed_heard) clear.unfinished
  · have attended := (coherent.follows_attend pins).unfinished clear.unfinished
    have program : (controller.attend pins).program = controller.program :=
      (controller.attended_attend pins).program
    rw [acts, act]
    split
    · have follows := (coherent.attend working).follows_step pins.run
      rw [← program] at attended ⊢
      exact follows.unfinished attended
    all_goals exact attended

namespace Bound

variable {target : Nat} (bound : controller.Bound target)

include bound

theorem pointer_le : controller.state.pointer ≤ target :=
  Nat.le_trans pointer_le_passed bound.ahead

theorem unfinished_here {instruction : Instruction}
    (found : controller.program.instruction? controller.state.pointer = some instruction) :
    instruction.operation? ≠ some .finish := by
  obtain ⟨other, operation, there, code⟩ := bound.transfer
  rcases Nat.lt_or_eq_of_le bound.pointer_le with before | here
  · exact bound.unfinished _ before _ found
  · rw [here, there] at found
    cases found
    simp [code]

/-- The transfer in front of the controller is not passed. -/
theorem passed_le_of_follows {after : Controller} (follows : controller.Follows after) :
    after.passed ≤ target := by
  rcases follows with le | ⟨le, instruction, found, -, answered⟩
  · exact Nat.le_trans le bound.ahead
  · refine Nat.le_trans le (Nat.lt_of_le_of_ne bound.pointer_le fun here => ?_)
    obtain ⟨other, operation, there, code⟩ := bound.transfer
    rw [here, there] at found
    cases found
    exact bound.stage (by simp [answered operation code])

theorem found : (controller.program.instruction? controller.state.pointer).isSome := by
  obtain ⟨other, operation, there, -⟩ := bound.transfer
  have inside := Nat.lt_of_le_of_lt bound.pointer_le (Program.lt_size_of_instruction? there)
  rw [Program.instruction?, Option.isSome_map, Program.word?, List.getElem?_eq_getElem inside]
  rfl

theorem move {after : Controller} (program : after.program = controller.program)
    (follows : controller.Follows after)
    (stage : after.state.stage ∉ [.awaitEngine, .engineDone, .finish]) : after.Bound target where
  ahead := bound.passed_le_of_follows follows
  unfinished := program ▸ bound.unfinished
  transfer := program ▸ bound.transfer
  stage

/-- Edges do not bring the controller nearer to a finish than to the transfer. -/
theorem attend (coherent : controller.Coherent) : (controller.attend pins).Bound target := by
  refine bound.move (controller.attended_attend pins).program (coherent.follows_attend pins) ?_
  have apart := bound.stage
  have unanswered := coherent.unanswered_of_apart pins fun waits => apart (by simp [waits])
  rcases stage_attend_of_unanswered unanswered with same | moved
  · rwa [same]
  · exact notMem_of_moved _ moved

theorem step (coherent : controller.Coherent) (run : Bool) :
    (controller.step run).state.activity = .waiting .engine ∨
      (controller.step run).Bound target := by
  by_cases asks : ∃ operation, controller.state.stage = .transfer operation
  · obtain ⟨operation, stage⟩ := asks
    left
    rw [activity_step, stage]
  · refine .inr (bound.move (program_step ..) (coherent.follows_step run) ?_)
    have fits := coherent.stage
    have apart := bound.stage
    rw [stage_step]
    cases stage : controller.state.stage with
    | transfer operation => exact absurd ⟨operation, stage⟩ asks
    | awaitEngine | engineDone | finish =>
      rw [stage] at apart
      simp at apart
    | fetch =>
      dsimp only
      rw [if_pos bound.found]
      simp
    | decode =>
      rw [stage] at fits
      have unfinished := bound.unfinished_here fits.1
      dsimp only
      cases code : controller.state.instruction.operation? with
      | none => simp
      | some opcode =>
        rw [code] at unfinished
        cases opcode with
        | finish => exact absurd rfl unfinished
        | _ => simp [Stage.ofOpcode]
    | waitReady =>
      dsimp only
      split <;> simp
    | _ => simp

/-- What a controller does behind its edges. -/
theorem act (coherent : controller.Coherent) (run : Bool) :
    (controller.act run).state.activity = .waiting .engine ∨ (controller.act run).Bound target := by
  rw [Controller.act]
  split
  · exact bound.step coherent run
  all_goals exact .inr (bound.move rfl (.inl (Nat.le_refl _)) bound.stage)

/-- A controller in front of a transfer stays there until it asks for it, unless it fails. -/
theorem tick (coherent : controller.Coherent)
    (working : (controller.tick pins).state.activity ≠ .failed) :
    (controller.tick pins).state.activity = .waiting .engine ∨
      (controller.tick pins).Bound target := by
  have heard := mt failed_tick_iff.2 working
  rw [tick_of_heard heard]
  exact (bound.attend coherent).act (coherent.attend heard) pins.run

end Bound

/-- A wait for the engine that is cut short leaves the controller in front of its transfer. -/
theorem Clear.bound_of_cut (clear : controller.Clear)
    (waiting : controller.state.activity = .waiting .engine)
    (unanswered : controller.answered pins = false) :
    (controller.tick pins).state.activity = .waiting .engine ∨
      (controller.tick pins).Bound controller.state.pointer := by
  have coherent := clear.toCoherent
  have stage := coherent.waiting_iff.1 waiting
  have heard : (controller.heard pins).state.activity ≠ .failed := fun failed =>
    (fault_of_heard _ _ (by simp [waiting]) failed).1 .engine waiting
  have attended := coherent.attend heard
  rw [tick_of_heard heard]
  by_cases cut : (controller.attend pins).state.stage = .awaitEngine
  · left
    have waits := attended.waiting_iff.2 cut
    rw [act, waits]
    exact waits
  · have fits := coherent.stage
    have here : controller.passed = controller.state.pointer := passed_of_apart (by simp [stage])
    have moved := (stage_attend_of_unanswered unanswered).resolve_left (by rwa [stage])
    have program : (controller.attend pins).program = controller.program :=
      (controller.attended_attend pins).program
    rw [stage] at fits
    obtain ⟨found, operation, code⟩ := fits
    refine Bound.act ⟨?_, ?_, ⟨_, operation, program ▸ found, code⟩, ?_⟩ attended pins.run
    · rcases coherent.follows_attend pins with le | ⟨-, other, passed, -, answered⟩
      · exact here ▸ le
      · rw [found] at passed
        cases passed
        exact absurd (stage.symm.trans (answered operation code)) Stage.noConfusion
    · rw [program, ← here]
      exact clear.unfinished
    · exact notMem_of_moved _ moved

end Controller

end AccessController
