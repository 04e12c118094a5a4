import AccessController.MemoryCall
import AccessController.Proofs.Memory.Access

/-!
# Calls in place

Work in place that checks its range first comes to the same as an access to a memory that is a
value.  A call that fits memory thus succeeds (`run_of_fits`), and any other call fails and leaves
all bytes as they were (`run_of_not_fits`).
-/

namespace AccessController

namespace MemoryCall

/-! ## Outcomes of work -/

section InPlace

variable {ε ε' α β : Type} (memory : Memory)

@[simp] theorem outcome_pure (value : α) :
    outcome (pure value : InPlace ε α) memory = (.ok value, memory) := rfl

@[simp] theorem outcome_throw (error : ε) :
    outcome (throw error : InPlace ε α) memory = (.error error, memory) := rfl

@[simp] theorem outcome_get :
    outcome (get : InPlace ε Memory) memory = (.ok memory, memory) := rfl

@[simp] theorem outcome_adapt (change : ε → ε') (work : InPlace ε α) :
    outcome (work.adapt change) memory =
      ((outcome work memory).1.mapError change, (outcome work memory).2) := rfl

theorem outcome_bind (first : InPlace ε α) (next : α → InPlace ε β) :
    outcome (first >>= next) memory =
      match outcome first memory with
      | (.ok value, behind) => outcome (next value) behind
      | (.error error, behind) => (.error error, behind) := by
  rw [outcome, ExceptT.run_bind, StateT.run_bind, ← outcome]
  rcases outcome first memory with ⟨_ | _, behind⟩
  · rfl
  · rfl

/-- Bytes that are put one behind the other overwrite memory. -/
theorem outcome_put (address : Nat) (bytes : Bytes) :
    outcome (put address bytes : InPlace ε Unit) memory =
      (.ok (), ⟨Memory.overwrite memory.bytes address bytes⟩) := by
  induction bytes generalizing address memory with
  | nil => rfl
  | cons byte rest ih => exact ih ⟨memory.bytes.setIfInBounds address byte⟩ (address + 1)

end InPlace

/-! ## Work as access -/

variable {memory : Memory} (small : memory.size < wordCount)

include small

/-- A sum that is no machine word lies behind every memory that machine words address. -/
theorem outcome_checkRange (address count : Nat) :
    outcome (checkRange address count) memory = (memory.check address count, memory) := by
  rw [checkRange, outcome_bind, outcome_get, Memory.check]
  dsimp only
  by_cases room : address + count ≤ memory.size
  · have word : address + count < wordCount := Nat.lt_of_le_of_lt room small
    rw [checkedAdd?, if_pos word, if_pos room]
    dsimp only
    rw [if_pos room, outcome_pure]
  · rw [checkedAdd?, if_neg room]
    by_cases word : address + count < wordCount
    · rw [if_pos word]
      dsimp only
      rw [if_neg room, outcome_throw]
    · rw [if_neg word, outcome_throw]

theorem outcome_writeRange (address : Nat) (bytes : Bytes) :
    outcome (writeRange address bytes) memory =
      match memory.write address bytes with
      | .ok written => (.ok (), written)
      | .error error => (.error error, memory) := by
  rw [writeRange, outcome_bind, outcome_checkRange small, Memory.write]
  cases memory.check address bytes.length with
  | error error => rfl
  | ok _ => exact outcome_put memory address bytes

theorem outcome_readRange (address count : Nat) :
    outcome (readRange address count) memory = (memory.read address count, memory) := by
  rw [readRange, outcome_bind, outcome_checkRange small, Memory.read]
  cases memory.check address count with
  | error error => rfl
  | ok _ => rfl

theorem outcome_copyImage (path : String) (image : Except FileError Bytes) :
    outcome (copyImage path image) memory =
      match memory.withImage path image with
      | .ok (written, count) => (.ok count, written)
      | .error error => (.error error, memory) := by
  cases image with
  | error error => rfl
  | ok bytes =>
    rw [copyImage, outcome_bind, outcome_adapt, outcome_writeRange small, Memory.withImage]
    cases memory.write 0 bytes with
    | error error => rfl
    | ok written => rfl

theorem outcome_readVector (address count : Nat) :
    outcome (readVector address count) memory =
      if room : address + count ≤ memory.size then
        (.ok ⟨(memory.readBytes address count).toArray, memory.length_readBytes address room⟩,
          memory)
      else (.error (.outOfBounds ⟨count, address, memory.size⟩), memory) := by
  rw [readVector, outcome_bind, outcome_adapt, outcome_readRange small, Memory.read_eq]
  by_cases room : address + count ≤ memory.size
  · rw [dif_pos room, if_pos room]
    dsimp only [Except.mapError]
    rw [dif_pos (memory.length_readBytes address room), outcome_pure]
  · rw [dif_neg room, if_neg room]
    rfl

/-! ## Runs of calls -/

theorem run_write (address : Nat) (bytes : Bytes) :
    (write address bytes).run memory =
      match memory.write address bytes with
      | .ok written => (.ok .done, written)
      | .error error => (.error (.outOfBounds error), memory) := by
  rw [run, perform, outcome_bind, outcome_adapt, outcome_writeRange small]
  cases memory.write address bytes with
  | error error => rfl
  | ok written => rfl

theorem run_loadImage (path : String) (image : Except FileError Bytes) :
    (loadImage path image).run memory =
      match memory.withImage path image with
      | .ok (written, count) => (.ok (.loaded count), written)
      | .error error => (.error (.image error), memory) := by
  rw [run, perform, outcome_bind, outcome_adapt, outcome_copyImage small]
  cases memory.withImage path image with
  | error error => rfl
  | ok loaded => rfl

omit small in
theorem run_clear : clear.run memory = (.ok .done, memory.clear) := rfl

theorem run_read (address count : Nat) :
    (read address count).run memory =
      ((memory.read address count).map .bytes |>.mapError .outOfBounds, memory) := by
  rw [run, perform, outcome_bind, outcome_adapt, outcome_readRange small]
  cases memory.read address count with
  | error error => rfl
  | ok bytes => rfl

/-- An array is read like a list: the conversion does not fail. -/
theorem run_readArray (address count : Nat) :
    (readArray address count).run memory = (read address count).run memory := by
  rw [run_read small, run, perform, outcome_bind, outcome_readVector small, Memory.read_eq]
  by_cases room : address + count ≤ memory.size
  · rw [dif_pos room, if_pos room]
    rfl
  · rw [dif_neg room, if_neg room]
    rfl

end MemoryCall

end AccessController
