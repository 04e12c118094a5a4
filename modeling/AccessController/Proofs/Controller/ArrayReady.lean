import Mathlib.Tactic.Choose
import AccessController.Proofs.Controller.Coherence

/-!
# Edges of the array's ready

An edge of the array's ready lets one wait for the array pass, be it a wait that is under
way or the next one.  Both directions follow the edge through the trace.  A wait that
retires has passed, behind the retirement before it, and it has passed by an edge that no
start and no other wait has used up (`exists_origin`); an edge that nothing uses up is still
there when the controller comes to a wait (`rises_or_arrayDone_after`).
-/

namespace AccessController

namespace Controller

variable (controller : Controller) (pins : ControlPins)

/-- A wait for the array uses an edge up and is over, as the edge comes or as the
controller comes to the wait behind it. -/
def Passes : Prop :=
  controller.awoken pins = true ∨
    controller.stepped? pins = some .waitReady ∧
      (controller.attend pins).state.arrayDone = true

/-- A wait for the array retires. -/
def RetiresWait : Prop :=
  controller.stepped? pins = some .advance ∧
    controller.state.instruction.operation? = some .waitReady

/-- A wait for the array has nothing left to do but to retire. -/
def Passed : Prop :=
  controller.state.stage = .advance ∧
    controller.state.instruction.operation? = some .waitReady

variable {controller pins}

/-! ## What is kept of an edge -/

theorem arrayDone_attend :
    (controller.attend pins).state.arrayDone = true ↔
      controller.resetFalls pins = false ∧ controller.awoken pins = false ∧
        (controller.arrayRises pins = true ∨ controller.state.arrayDone = true) := by
  rw [state_attend]
  simp [and_assoc]

/-- A tick keeps an edge unless it starts the array or comes to a wait for it. -/
theorem arrayDone_tick (working : (controller.heard pins).state.activity ≠ .failed) :
    (controller.tick pins).state.arrayDone = true ↔
      (controller.attend pins).state.arrayDone = true ∧
        controller.stepped? pins ≠ some .start ∧ controller.stepped? pins ≠ some .waitReady := by
  cases steps : controller.stepped? pins with
  | some stage =>
    obtain ⟨-, -, here⟩ := stepped?_eq_some_iff.1 steps
    rw [tick_of_stepped steps, arrayDone_step, here]
    cases stage <;> simp
  | none =>
    rw [state_tick_of_silent working steps]
    simp

theorem working_of_awoken (awoken : controller.awoken pins = true) :
    (controller.heard pins).state.activity ≠ .failed := by
  have waiting := ((awoken_eq_true_iff ..).1 awoken).1
  have working : controller.state.activity ≠ .failed := by simp [waiting]
  exact fun failed => (fault_of_heard _ _ working failed).1 .array waiting

theorem Passes.rises_or_arrayDone (passes : controller.Passes pins) :
    controller.arrayRises pins = true ∨ controller.state.arrayDone = true := by
  rcases passes with awoken | ⟨-, done⟩
  · exact .inl ((awoken_eq_true_iff ..).1 awoken).2
  · exact (arrayDone_attend.1 done).2.2

/-- What a controller knows of the array behind a tick has not been used up in it. -/
theorem unspent_of_arrayDone (done : (controller.tick pins).state.arrayDone = true) :
    (¬controller.Passes pins ∧ controller.stepped? pins ≠ some .start) ∧
      (controller.arrayRises pins = true ∨ controller.state.arrayDone = true) := by
  by_cases failed : (controller.heard pins).state.activity = .failed
  · have silent := stepped?_of_failed failed
    refine ⟨⟨?_, by simp [silent]⟩, .inr ?_⟩
    · rintro (awoken | ⟨steps, -⟩)
      · exact working_of_awoken awoken failed
      · cases silent.symm.trans steps
    · rcases controller.tick_outcome pins with ⟨-, only⟩ | ⟨-, -, only⟩ | ⟨working, -⟩
      · rwa [only] at done
      · rwa [only, arrayDone_heard] at done
      · exact absurd failed working
  · obtain ⟨attended, unstarted, unwaited⟩ := (arrayDone_tick failed).1 done
    obtain ⟨-, sleeps, origin⟩ := arrayDone_attend.1 attended
    refine ⟨⟨?_, unstarted⟩, origin⟩
    rintro (awoken | ⟨steps, -⟩)
    · rw [sleeps] at awoken
      cases awoken
    · exact unwaited steps

theorem passes_of_stepped (steps : controller.stepped? pins = some .waitReady)
    (unreset : controller.resetFalls pins = false)
    (kept : controller.arrayRises pins = true ∨ controller.state.arrayDone = true) :
    controller.Passes pins ∧ (controller.tick pins).state.stage = .advance ∧
      (controller.tick pins).state.activity = .running := by
  obtain ⟨-, running, here⟩ := stepped?_eq_some_iff.1 steps
  have sleeps : controller.awoken pins = false := by
    rw [Bool.eq_false_iff]
    intro awoken
    rw [state_attend] at here
    simp only [awoken, if_true] at here
    split at here
    · cases here
    · split at here <;> cases here
  have done := arrayDone_attend.2 ⟨unreset, sleeps, kept⟩
  rw [tick_of_stepped steps, stage_step, activity_step, here]
  exact ⟨.inr ⟨steps, done⟩, if_pos done, (if_pos done).trans running⟩

/-! ## From a wait to its retirement -/

/-- Behind the edges of a tick a wait has passed if it had before or passes by them. -/
theorem passes_or_passed_of_attend (stage : (controller.attend pins).state.stage = .advance)
    (code : controller.state.instruction.operation? = some .waitReady) :
    controller.Passes pins ∨ controller.Passed := by
  rw [state_attend] at stage
  dsimp only at stage
  split at stage
  · cases stage
  · split at stage
    · cases stage
    · split at stage
      next awoken => exact .inl (.inl awoken)
      next =>
        rw [stage_heard] at stage
        split at stage
        · cases stage
        · exact .inr ⟨stage, code⟩

theorem RetiresWait.passes_or_passed (retires : controller.RetiresWait pins) :
    controller.Passes pins ∨ controller.Passed :=
  passes_or_passed_of_attend (stepped?_eq_some_iff.1 retires.1).2.2 retires.2

/-- The step of a running controller brings a wait to its retirement by what is known of
the array only. -/
theorem Coherent.stage_of_passed_step (coherent : controller.Coherent) {run : Bool}
    (passed : (controller.step run).Passed) :
    controller.state.stage = .waitReady ∧ controller.state.arrayDone = true := by
  have fits := coherent.stage
  obtain ⟨next, code⟩ := passed
  rw [stage_step] at next
  rw [instruction_step] at code
  cases stage : controller.state.stage with
  | decode =>
    rw [stage] at next code
    dsimp only at next code
    rw [code] at next
    cases next
  | engineDone =>
    rw [stage] at fits code
    obtain ⟨-, operation, other⟩ := fits
    cases other.symm.trans code
  | select kind | start =>
    rw [stage] at fits code
    cases fits.2.symm.trans code
  | waitReady =>
    rw [stage] at next
    dsimp only at next
    split at next
    next done => exact ⟨rfl, done⟩
    next => cases next
  | fetch | finish =>
    rw [stage] at next
    dsimp only at next
    split at next <;> cases next
  | _ =>
    rw [stage] at next
    cases next

theorem Coherent.unretired_of_passed (coherent : controller.Coherent)
    (passed : (controller.tick pins).Passed) :
    (¬controller.RetiresWait pins ∧ controller.stepped? pins ≠ some .start) ∧
      (controller.Passes pins ∨ controller.Passed) := by
  cases steps : controller.stepped? pins with
  | some stage =>
    obtain ⟨working, -, here⟩ := stepped?_eq_some_iff.1 steps
    rw [tick_of_stepped steps] at passed
    obtain ⟨waits, done⟩ := (coherent.attend working).stage_of_passed_step passed
    obtain rfl : stage = .waitReady := here.symm.trans waits
    refine ⟨⟨fun retires => ?_, by simp⟩, .inl (.inr ⟨steps, done⟩)⟩
    cases steps.symm.trans retires.1
  | none =>
    refine ⟨⟨fun retires => ?_, by simp⟩, ?_⟩
    · cases steps.symm.trans retires.1
    · obtain ⟨stage, code⟩ := passed
      rw [(attended_tick steps).instruction] at code
      rcases controller.tick_outcome pins with ⟨-, only⟩ | ⟨-, -, only⟩ | ⟨working, -⟩
      · rw [only] at stage
        exact .inr ⟨stage, code⟩
      · rw [only, Controller.stage_heard] at stage
        split at stage
        · cases stage
        · exact .inr ⟨stage, code⟩
      · rw [state_tick_of_silent working steps] at stage
        exact passes_or_passed_of_attend stage code

/-! ## Traces -/

/-- What has been set and kept since has an origin, with nothing but quiet ticks behind it. -/
theorem exists_origin (flag : Nat → Prop) {sets quiet : Nat → Prop} (begins : ¬flag 0)
    (keeps : ∀ tick, flag (tick + 1) → quiet tick ∧ (sets tick ∨ flag tick)) (tick : Nat)
    (now : sets tick ∨ flag tick) :
    ∃ origin ≤ tick, sets origin ∧
      ∀ between, origin ≤ between → between < tick → quiet between := by
  rcases now with set | flagged
  · exact ⟨tick, Nat.le_refl _, set, fun between past before => absurd past (Nat.not_le.2 before)⟩
  · induction tick with
    | zero => exact absurd flagged begins
    | succ tick ih =>
      obtain ⟨still, set | flagged⟩ := keeps tick flagged
      · refine ⟨tick, Nat.le_succ _, set, fun between past before => ?_⟩
        exact Nat.le_antisymm past (Nat.le_of_lt_succ before) ▸ still
      · obtain ⟨origin, past, set, quiet⟩ := ih flagged
        refine ⟨origin, Nat.le_succ_of_le past, set, fun between behind before => ?_⟩
        rcases Nat.lt_succ_iff_lt_or_eq.1 before with before | rfl
        · exact quiet between behind before
        · exact still

theorem working_of_stepped (program : Program) (levels : Nat → ControlPins) {later : Nat}
    {stage : Stage}
    (steps : (after { program } levels later).stepped? (levels later) = some stage) {tick : Nat}
    (past : tick ≤ later) :
    ((after { program } levels tick).heard (levels tick)).state.activity ≠ .failed := by
  intro failed
  rcases Nat.lt_or_eq_of_le past with before | rfl
  · have fails : (after { program } levels (tick + 1)).state.activity = .failed := by
      rw [after_succ]
      exact failed_tick_iff.2 failed
    have frozen := frozen_after program levels fails before
    have still : (after { program } levels later).state.activity = .failed := by
      rw [frozen.state]
      exact fails
    exact (stepped?_eq_some_iff.1 steps).1 (failed_heard _ _ still)
  · exact (stepped?_eq_some_iff.1 steps).1 failed

/-- An edge that nothing uses up stays for the wait that the controller comes to next. -/
theorem rises_or_arrayDone_after (program : Program) (levels : Nat → ControlPins)
    {edge wait : Nat} (rises : (after { program } levels edge).arrayRises (levels edge) = true)
    (steps : (after { program } levels wait).stepped? (levels wait) = some .waitReady)
    (unspent : ∀ tick, edge ≤ tick → tick < wait →
      ¬(after { program } levels tick).Passes (levels tick) ∧
        (after { program } levels tick).stepped? (levels tick) ≠ some .start ∧
        (after { program } levels tick).resetFalls (levels tick) = false)
    {tick : Nat} (behind : edge ≤ tick) (past : tick ≤ wait) :
    (after { program } levels tick).arrayRises (levels tick) = true ∨
      (after { program } levels tick).state.arrayDone = true := by
  induction behind with
  | refl => exact .inl rises
  | @step tick behind ih =>
    have kept := ih (Nat.le_of_succ_le past)
    obtain ⟨unused, unstarted, unreset⟩ := unspent tick behind past
    have sleeps : (after { program } levels tick).awoken (levels tick) = false :=
      Bool.eq_false_iff.2 fun awoken => unused (.inl awoken)
    have done := arrayDone_attend.2 ⟨unreset, sleeps, kept⟩
    have working := working_of_stepped program levels steps (Nat.le_of_succ_le past)
    refine .inr ?_
    rw [after_succ]
    exact (arrayDone_tick working).2 ⟨done, unstarted, fun waits => unused (.inr ⟨waits, done⟩)⟩

/-- A wait passes by an edge that no start and no other wait has come to since. -/
theorem exists_edge_of_passes (program : Program) (levels : Nat → ControlPins) (pass : Nat)
    (passes : (after { program } levels pass).Passes (levels pass)) :
    ∃ edge ≤ pass, (after { program } levels edge).arrayRises (levels edge) = true ∧
      ∀ tick, edge ≤ tick → tick < pass →
        ¬(after { program } levels tick).Passes (levels tick) ∧
          (after { program } levels tick).stepped? (levels tick) ≠ some .start := by
  have keeps : ∀ tick, (after { program } levels (tick + 1)).state.arrayDone = true →
      (¬(after { program } levels tick).Passes (levels tick) ∧
        (after { program } levels tick).stepped? (levels tick) ≠ some .start) ∧
      ((after { program } levels tick).arrayRises (levels tick) = true ∨
        (after { program } levels tick).state.arrayDone = true) := by
    intro tick done
    rw [after_succ] at done
    exact unspent_of_arrayDone done
  exact exists_origin (fun tick => (after { program } levels tick).state.arrayDone = true)
    Bool.false_ne_true keeps pass passes.rises_or_arrayDone

/-- A wait that retires has passed, and no other has retired since. -/
theorem exists_pass_of_retires (program : Program) (levels : Nat → ControlPins) (last : Nat)
    (retires : (after { program } levels last).RetiresWait (levels last)) :
    ∃ pass ≤ last, (after { program } levels pass).Passes (levels pass) ∧
      ∀ tick, pass ≤ tick → tick < last →
        ¬(after { program } levels tick).RetiresWait (levels tick) ∧
          (after { program } levels tick).stepped? (levels tick) ≠ some .start := by
  have keeps : ∀ tick, (after { program } levels (tick + 1)).Passed →
      (¬(after { program } levels tick).RetiresWait (levels tick) ∧
        (after { program } levels tick).stepped? (levels tick) ≠ some .start) ∧
      ((after { program } levels tick).Passes (levels tick) ∨
        (after { program } levels tick).Passed) := by
    intro tick passed
    rw [after_succ] at passed
    exact (coherent_after program levels tick).unretired_of_passed passed
  exact exists_origin (fun tick => (after { program } levels tick).Passed)
    (fun passed => nomatch passed.1) keeps last retires.passes_or_passed

/-- What becomes of the edges of the array's ready in a run. -/
structure ArrayEdges (levels : Nat → ControlPins) (run : Nat → Controller) : Prop where
  /-- Each wait that retires has an edge of its own, behind the last start. -/
  owned : ∃ edge : Nat → Nat,
    (∀ tick, (run tick).RetiresWait (levels tick) →
      edge tick ≤ tick ∧ (run (edge tick)).arrayRises (levels (edge tick)) = true ∧
        ∀ start < tick, (run start).stepped? (levels start) = some .start → start < edge tick) ∧
      ∀ one other, (run one).RetiresWait (levels one) → (run other).RetiresWait (levels other) →
        edge one = edge other → one = other
  /-- An edge that no wait has used, no start has cleared and no reset has dropped lets the
  next wait pass as the controller comes to it.  A run that has failed comes to no wait, and
  a rising run pin does not matter to an edge. -/
  kept : ∀ edge wait, edge ≤ wait → (run edge).arrayRises (levels edge) = true →
    (∀ tick, edge ≤ tick → tick < wait → ¬(run tick).Passes (levels tick)) →
    (∀ tick, edge ≤ tick → tick ≤ wait →
      (run tick).stepped? (levels tick) ≠ some .start ∧
        (run tick).resetFalls (levels tick) = false) →
    (run wait).stepped? (levels wait) = some .waitReady →
    (run wait).Passes (levels wait) ∧ (run (wait + 1)).state.stage = .advance ∧
      (run (wait + 1)).state.activity = .running

/-- Whatever the program is and whatever the pins do from power-up on, no edge of the
array's ready is lost or used twice. -/
theorem arrayEdges_after (program : Program) (levels : Nat → ControlPins) :
    ArrayEdges levels (after { program } levels) := by
  constructor
  · choose! pass past passes unretired using exists_pass_of_retires program levels
    choose! edge before rises unspent using exists_edge_of_passes program levels
    -- Two retirements with one edge would be two passes with one edge.
    have apart : ∀ one other, one < other →
        (after { program } levels one).RetiresWait (levels one) →
        (after { program } levels other).RetiresWait (levels other) →
        edge (pass one) ≠ edge (pass other) := by
      intro one other earlier retires later same
      have unpassed : one < pass other := by
        refine Nat.lt_of_not_le fun late => ?_
        exact (unretired other later one late earlier).1 retires
      have between : edge (pass other) ≤ pass one := same ▸ before _ (passes one retires)
      exact (unspent (pass other) (passes other later) (pass one) between
        (Nat.lt_of_le_of_lt (past one retires) unpassed)).1 (passes one retires)
    refine ⟨fun last => edge (pass last), fun last retires => ?_,
      fun one other one' other' same => ?_⟩
    · refine ⟨Nat.le_trans (before _ (passes last retires)) (past last retires),
        rises _ (passes last retires), fun start earlier starts => ?_⟩
      refine Nat.lt_of_not_le fun late => ?_
      rcases Nat.lt_or_ge start (pass last) with ahead | behind
      · exact (unspent _ (passes last retires) start late ahead).2 starts
      · exact (unretired last retires start behind earlier).2 starts
    · rcases Nat.lt_trichotomy one other with earlier | rfl | later
      · exact absurd same (apart one other earlier one' other')
      · rfl
      · exact absurd same.symm (apart other one later other' one')
  · intro edge wait behind rises unused still steps
    have unspent := fun tick behind before =>
      And.intro (unused tick behind before) (still tick behind (Nat.le_of_lt before))
    have kept := rises_or_arrayDone_after program levels rises steps unspent behind
      (Nat.le_refl wait)
    rw [after_succ]
    exact passes_of_stepped steps (still wait behind (Nat.le_refl wait)).2 kept

end Controller

end AccessController
