import AccessController.Bytes

/-!
# Shared memory

A flat array of bytes, of at most the 65536 that a 16-bit address reaches. An
access is checked as a whole before the first byte moves, so it either covers
only bytes of the memory or has no effect.
-/

namespace AccessController

/-- The bytes shared by the host and the transfer engine. -/
structure Memory where
  bytes : Array UInt8
  deriving Repr, DecidableEq

namespace Memory

/-- The bytes that a 16-bit address reaches. -/
def maxSize : Nat := 65536

/-- A size that no memory has. -/
structure SizeError where
  size : Nat
  deriving Repr, DecidableEq

def SizeError.message (error : SizeError) : String :=
  s!"shared memory of {error.size} bytes does not fit the 16-bit address space"

/-- A memory of zeros. -/
def zeros (size : Nat) : Memory := ⟨Array.replicate size 0⟩

/-- A memory of zeros of a size that fits the address space. -/
def ofSize? (size : Nat) : Except SizeError Memory :=
  if 0 < size ∧ size ≤ maxSize then .ok (zeros size) else .error ⟨size⟩

def size (memory : Memory) : Nat := memory.bytes.size

/-- The byte at an address. -/
def byte? (memory : Memory) (address : Nat) : Option UInt8 := memory.bytes[address]?

/-- An access that reaches beyond the memory. -/
structure OutOfBounds where
  count : Nat
  address : Nat
  size : Nat
  deriving Repr, DecidableEq

def OutOfBounds.message (error : OutOfBounds) : String :=
  let address := Hex.marked 4 error.address
  s!"access of {error.count} bytes @ {address} exceeds memory of {error.size} bytes"

/-- Accepts an access that ends inside the memory. -/
def check (memory : Memory) (address count : Nat) : Except OutOfBounds Unit :=
  if address + count ≤ memory.size then .ok () else .error ⟨count, address, memory.size⟩

/-- The bytes from an address on. -/
def readBytes (memory : Memory) (address count : Nat) : Bytes :=
  (memory.bytes.extract address (address + count)).toList

/-- Overwrites bytes from an index on; what reaches beyond the end is lost. -/
def overwrite (bytes : Array UInt8) (index : Nat) : Bytes → Array UInt8
  | [] => bytes
  | byte :: rest => overwrite (bytes.setIfInBounds index byte) (index + 1) rest

/-- The bytes from an address on, if the memory has them all. -/
def read (memory : Memory) (address count : Nat) : Except OutOfBounds Bytes := do
  memory.check address count
  return memory.readBytes address count

/-- Writes bytes from an address on, if the memory has room for them all. -/
def write (memory : Memory) (address : Nat) (bytes : Bytes) : Except OutOfBounds Memory := do
  memory.check address bytes.length
  return ⟨overwrite memory.bytes address bytes⟩

/-- All bytes zero. -/
def clear (memory : Memory) : Memory := zeros memory.size

/-- All bytes in the order of their addresses. -/
def toList (memory : Memory) : Bytes := memory.bytes.toList

/-- Continues a list of runs with the byte in front of them. -/
def extendRuns (address : Nat) (byte : UInt8) (runs : List (Nat × Bytes)) : List (Nat × Bytes) :=
  if byte = 0 then runs
  else
    match runs with
    | (start, bytes) :: rest =>
      if start = address + 1 then (address, byte :: bytes) :: rest
      else (address, [byte]) :: (start, bytes) :: rest
    | [] => [(address, [byte])]

/-- The maximal runs of bytes that are not zero, each with its address. -/
def runs (memory : Memory) : List (Nat × Bytes) :=
  (memory.bytes.foldr
    (fun byte (address, found) => (address - 1, extendRuns (address - 1) byte found))
    (memory.size, [])).2

@[simp] theorem size_overwrite (bytes : Array UInt8) (index : Nat) (data : Bytes) :
    (overwrite bytes index data).size = bytes.size := by
  induction data generalizing bytes index with
  | nil => rfl
  | cons byte rest ih => simp [overwrite, ih]

/-- After overwriting, the covered addresses hold the data and the others what
they held before. -/
theorem getElem?_overwrite (bytes : Array UInt8) (index : Nat) (data : Bytes) (address : Nat)
    (room : index + data.length ≤ bytes.size) :
    (overwrite bytes index data)[address]? =
      if index ≤ address ∧ address < index + data.length then data[address - index]?
      else bytes[address]? := by
  induction data generalizing bytes index with
  | nil =>
    rw [if_neg fun covered => absurd covered.2 (Nat.not_lt.2 covered.1)]
    rfl
  | cons byte rest ih =>
    simp only [List.length_cons] at room ⊢
    rw [overwrite, ih _ _ (by rw [Array.size_setIfInBounds]; omega)]
    rcases Nat.lt_trichotomy address index with before | rfl | behind
    · rw [if_neg (by omega), if_neg (by omega), Array.getElem?_setIfInBounds_ne (by omega)]
    · rw [if_neg (by omega), if_pos (by omega), Nat.sub_self,
        Array.getElem?_setIfInBounds_self_of_lt (by omega), List.getElem?_cons_zero]
    · have next : address - index = address - (index + 1) + 1 := by omega
      rw [next, List.getElem?_cons_succ, Array.getElem?_setIfInBounds_ne (by omega)]
      by_cases covered : address < index + (rest.length + 1)
      · rw [if_pos (by omega), if_pos (by omega)]
      · rw [if_neg (by omega), if_neg (by omega)]

end Memory

end AccessController
