import AccessController.Memory

/-!
# Single accesses to memory

An access either covers bytes of the memory only, and then reads or writes all
of them, or it fails and has no effect.
-/

namespace AccessController.Memory

variable (memory : Memory) (address : Nat)

theorem read_eq (count : Nat) :
    memory.read address count =
      if address + count ≤ memory.size then .ok (memory.readBytes address count)
      else .error ⟨count, address, memory.size⟩ := by
  rw [read, check]
  split <;> rfl

theorem write_eq (bytes : Bytes) :
    memory.write address bytes =
      if address + bytes.length ≤ memory.size then .ok ⟨overwrite memory.bytes address bytes⟩
      else .error ⟨bytes.length, address, memory.size⟩ := by
  rw [write, check]
  split <;> rfl

theorem length_readBytes {count : Nat} (room : address + count ≤ memory.size) :
    (memory.readBytes address count).length = count := by
  have fits : address + count ≤ memory.bytes.size := room
  rw [readBytes, Array.length_toList, Array.size_extract, Nat.min_eq_left fits]
  exact Nat.add_sub_cancel_left address count

/-- The bytes that a memory has at an address, or none if it does not have them
all. -/
def unitAt (count : Nat) : Bytes :=
  match memory.read address count with
  | .ok bytes => bytes
  | .error _ => []

/-- The memory after a write that is dropped if it does not fit. -/
def store (bytes : Bytes) : Memory :=
  match memory.write address bytes with
  | .ok written => written
  | .error _ => memory

theorem unitAt_eq (count : Nat) :
    memory.unitAt address count =
      if address + count ≤ memory.size then memory.readBytes address count else [] := by
  by_cases room : address + count ≤ memory.size
  · rw [unitAt, read_eq, if_pos room, if_pos room]
  · rw [unitAt, read_eq, if_neg room, if_neg room]

/-- A unit is whole or empty. -/
theorem length_unitAt (count : Nat) :
    (memory.unitAt address count).length =
      if address + count ≤ memory.size then count else 0 := by
  rw [unitAt_eq]
  split
  next room => exact memory.length_readBytes address room
  next => rfl

theorem store_eq (bytes : Bytes) :
    memory.store address bytes =
      if address + bytes.length ≤ memory.size then ⟨overwrite memory.bytes address bytes⟩
      else memory := by
  by_cases room : address + bytes.length ≤ memory.size
  · rw [store, write_eq, if_pos room, if_pos room]
  · rw [store, write_eq, if_neg room, if_neg room]

@[simp] theorem store_nil : memory.store address [] = memory := by
  rw [store_eq]
  split <;> rfl

/-- A unit is empty only where memory does not have it. -/
theorem unitAt_eq_nil_iff {count : Nat} (positive : 0 < count) :
    memory.unitAt address count = [] ↔ memory.size < address + count := by
  rw [unitAt_eq]
  split
  next room =>
    have length := memory.length_readBytes address room
    refine ⟨fun empty => ?_, fun beyond => absurd room (Nat.not_le.2 beyond)⟩
    rw [empty] at length
    exact absurd length (Nat.ne_of_lt positive)
  next beyond => exact ⟨fun _ => Nat.lt_of_not_le beyond, fun _ => rfl⟩

end AccessController.Memory
