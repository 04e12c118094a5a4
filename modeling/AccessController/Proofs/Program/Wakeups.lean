import AccessController.Proofs.Program.Interpreter

/-!
# Programs that are always woken

A wait for the array ends when the array becomes ready behind a start.  A program is
woken from each of its waits if the wait has a start of its own, behind the wait before
it (`Awoken`).  It may have more than one, and the starts and waits may stand anywhere
else: unlike a `Sequenced` program this one can well start a busy array, or forget that
the array was ready.
-/

namespace AccessController

/-- Up to the first FINISH, every wait has a start between it and the wait before.
`started` says whether there has been a start already. -/
def Awoken : (started : Bool) → List Instruction → Prop
  | _, [] => True
  | started, instruction :: rest =>
    match instruction.operation? with
    | some .finish => True
    | some .start => Awoken true rest
    | some .waitReady => started = true ∧ Awoken false rest
    | _ => Awoken started rest

namespace Awoken

variable {started : Bool} {instruction : Instruction} {rest : List Instruction}

theorem finish (code : instruction.operation? = some .finish) :
    Awoken started (instruction :: rest) := by
  rw [Awoken, code]
  trivial

theorem start_iff (code : instruction.operation? = some .start) :
    Awoken started (instruction :: rest) ↔ Awoken true rest := by
  rw [Awoken, code]

theorem waitReady_iff (code : instruction.operation? = some .waitReady) :
    Awoken started (instruction :: rest) ↔ started = true ∧ Awoken false rest := by
  rw [Awoken, code]

theorem other_iff (unfinished : instruction.operation? ≠ some .finish)
    (start : instruction.operation? ≠ some .start)
    (wait : instruction.operation? ≠ some .waitReady) :
    Awoken started (instruction :: rest) ↔ Awoken started rest := by
  cases code : instruction.operation? with
  | none => rw [Awoken, code]
  | some opcode =>
    cases opcode with
    | finish => exact absurd code unfinished
    | start => exact absurd code start
    | waitReady => exact absurd code wait
    | _ => rw [Awoken, code]

instance decidable :
    (started : Bool) → (instructions : List Instruction) → Decidable (Awoken started instructions)
  | _, [] => .isTrue trivial
  | _, instruction :: rest =>
    have (next : Bool) : Decidable (Awoken next rest) := decidable next rest
    if finished : instruction.operation? = some .finish then .isTrue (finish finished)
    else if start : instruction.operation? = some .start then
      decidable_of_iff _ (start_iff start).symm
    else if wait : instruction.operation? = some .waitReady then
      decidable_of_iff _ (waitReady_iff wait).symm
    else decidable_of_iff _ (other_iff finished start wait).symm

/-- A start before the program does no harm. -/
theorem mono {instructions : List Instruction} {before after : Bool}
    (more : before = true → after = true) (awoken : Awoken before instructions) :
    Awoken after instructions := by
  induction instructions generalizing before after with
  | nil => trivial
  | cons instruction rest ih =>
    by_cases finished : instruction.operation? = some .finish
    · exact finish finished
    by_cases start : instruction.operation? = some .start
    · exact (start_iff start).2 ((start_iff start).1 awoken)
    by_cases wait : instruction.operation? = some .waitReady
    · obtain ⟨started, awoken⟩ := (waitReady_iff wait).1 awoken
      exact (waitReady_iff wait).2 ⟨more started, awoken⟩
    · exact (other_iff finished start wait).2 (ih more ((other_iff finished start wait).1 awoken))

end Awoken

end AccessController
