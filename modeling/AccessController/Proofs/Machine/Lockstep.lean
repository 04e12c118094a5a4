import AccessController.Machine.Run

/-!
# Runs in lockstep

A run looks at the finish line, at the fault of the controller and at its stage, and at a
few more things once it fails.  Two machines that agree on these as long as both tick
take the same number of ticks to the end of a run and fail alike
(`Lockstep.run`), whatever else there is between them.
-/

namespace AccessController

namespace Machine

/-- A relation between machines that ticks and the run pin keep, and that fixes all that
a run looks at. -/
structure Lockstep (related : Machine → Machine → Prop) : Prop where
  tick : ∀ {left right}, related left right → related left.tick right.tick
  setRun : ∀ {left right} level, related left right →
    related (left.setRun level) (right.setRun level)
  finishLevel : ∀ {left right}, related left right → left.finishLevel = right.finishLevel
  timeoutError : ∀ {left right} timeout, related left right →
    left.timeoutError timeout = right.timeoutError timeout
  haltError? : ∀ {left right}, related left right → left.haltError? = right.haltError?
  stage : ∀ {left right}, related left right →
    left.controller.state.stage = right.controller.state.stage

namespace Lockstep

variable {related : Machine → Machine → Prop} (lockstep : Lockstep related)
  {left right : Machine} (alike : related left right)

include lockstep alike

/-- Both wait equally long for the finish line, and with the same outcome. -/
theorem awaitFinish (timeout budget : Nat) :
    related (awaitFinish timeout budget left).1 (awaitFinish timeout budget right).1 ∧
      (Machine.awaitFinish timeout budget left).2 =
        (Machine.awaitFinish timeout budget right).2 := by
  have finish := lockstep.finishLevel alike
  induction budget generalizing left right with
  | zero =>
    have late := lockstep.timeoutError timeout alike
    rw [Machine.awaitFinish, Machine.awaitFinish, finish, late]
    exact ⟨alike, rfl⟩
  | succ budget ih =>
    have next := lockstep.tick alike
    have halt := lockstep.haltError? next
    rw [Machine.awaitFinish, Machine.awaitFinish]
    dsimp only
    rw [finish, halt]
    split
    · exact ⟨alike, rfl⟩
    · cases right.tick.haltError? with
      | some error => exact ⟨next, rfl⟩
      | none => exact ih next (lockstep.finishLevel next)

theorem drain (budget : Nat) :
    related (drain budget left).1 (drain budget right).1 ∧
      (Machine.drain budget left).2 = (Machine.drain budget right).2 := by
  induction budget generalizing left right with
  | zero => exact ⟨alike, rfl⟩
  | succ budget ih =>
    have next := lockstep.tick alike
    rw [Machine.drain, Machine.drain, lockstep.haltError? next, lockstep.stage next]
    cases right.tick.haltError? with
    | some error => exact ⟨next, rfl⟩
    | none =>
      dsimp only
      split
      · exact ⟨next, rfl⟩
      · exact ih next

/-- Both runs fail with the same error, or both end with a report. -/
theorem run (timeout : Nat) :
    related (left.run timeout).1 (right.run timeout).1 ∧
      ((∃ error, (left.run timeout).2 = .error error ∧ (right.run timeout).2 = .error error) ∨
        (left.run timeout).2 = .ok (left.run timeout).1.report ∧
          (right.run timeout).2 = .ok (right.run timeout).1.report) := by
  obtain ⟨awaited, outcome⟩ :=
    lockstep.awaitFinish (lockstep.setRun true alike) timeout timeout
  rw [Machine.run, Machine.run]
  rcases ours : Machine.awaitFinish timeout timeout (left.setRun true) with ⟨mine, failure⟩
  rcases theirs : Machine.awaitFinish timeout timeout (right.setRun true) with ⟨other, same⟩
  rw [ours, theirs] at awaited outcome
  dsimp only at awaited outcome
  subst outcome
  cases failure with
  | some error => exact ⟨awaited, .inl ⟨error, rfl, rfl⟩⟩
  | none =>
    obtain ⟨drained, outcome⟩ := lockstep.drain (lockstep.setRun false awaited) drainTicks
    dsimp only
    rcases ours : Machine.drain drainTicks (mine.setRun false) with ⟨mine, failure⟩
    rcases theirs : Machine.drain drainTicks (other.setRun false) with ⟨other, same⟩
    rw [ours, theirs] at drained outcome
    dsimp only at drained outcome
    subst outcome
    cases failure with
    | some error => exact ⟨drained, .inl ⟨error, rfl, rfl⟩⟩
    | none => exact ⟨drained, .inr ⟨rfl, rfl⟩⟩

end Lockstep

end Machine

end AccessController
