import AccessController.Files

/-!
# Calls on the shared memory

The host works on the shared memory in place, byte by byte, and what a call did
before it failed stays done. That a failure has no effect is thus a matter of
what a call does first: it checks its range, in the arithmetic of machine words.
-/

namespace AccessController

/-- A call on a memory. The image of a file comes as what was read from the file. -/
inductive MemoryCall where
  | write (address : Nat) (bytes : Bytes)
  | loadImage (path : String) (image : Except FileError Bytes)
  | clear
  | read (address count : Nat)
  | readArray (address count : Nat)

namespace MemoryCall

/-- Why a call fails. -/
inductive Failure where
  | outOfBounds (error : Memory.OutOfBounds)
  | image (error : Memory.ImageError)
  | wrongLength
  deriving Repr, DecidableEq

def Failure.message : Failure → String
  | .outOfBounds error => error.message
  | .image error => error.message
  | .wrongLength => "could not convert slice to array"

/-- What a call returns. -/
inductive Reply where
  | done
  | loaded (count : Nat)
  | bytes (bytes : Bytes)
  deriving Repr, DecidableEq

/-- Work on a memory in place, which may fail halfway. -/
abbrev InPlace (ε α : Type) : Type := ExceptT ε (StateM Memory) α

/-- What work on a memory comes to, and the memory behind it. -/
def outcome {ε α : Type} (work : InPlace ε α) (memory : Memory) : Except ε α × Memory :=
  StateT.run (ExceptT.run work) memory

/-- How many machine words there are. -/
def wordCount : Nat := UInt64.size

/-- The sum of two machine words if it is one. -/
def checkedAdd? (left right : Nat) : Option Nat :=
  if left + right < wordCount then some (left + right) else none

/-- Fails unless a range ends inside the memory. -/
def checkRange (address count : Nat) : InPlace Memory.OutOfBounds Unit := do
  let memory ← get
  match checkedAdd? address count with
  | some stop =>
    if stop ≤ memory.size then return else throw ⟨count, address, memory.size⟩
  | none => throw ⟨count, address, memory.size⟩

/-- Puts one byte behind the other. -/
def put (address : Nat) : Bytes → StateM Memory Unit
  | [] => return
  | byte :: rest => do
    modify fun memory => ⟨memory.bytes.setIfInBounds address byte⟩
    put (address + 1) rest

def writeRange (address : Nat) (bytes : Bytes) : InPlace Memory.OutOfBounds Unit := do
  checkRange address bytes.length
  put address bytes

def readRange (address count : Nat) : InPlace Memory.OutOfBounds Bytes := do
  checkRange address count
  return (← get).readBytes address count

/-- Reads bytes into an array of their number. -/
def readVector (address count : Nat) : InPlace Failure (Vector UInt8 count) := do
  let bytes ← (readRange address count).adapt .outOfBounds
  if filled : bytes.length = count then return ⟨bytes.toArray, filled⟩ else throw .wrongLength

/-- Copies an image to address 0. The result is the number of its bytes. -/
def copyImage (path : String) : Except FileError Bytes → InPlace Memory.ImageError Nat
  | .error error => throw (.unreadable path error)
  | .ok bytes => do
    (writeRange 0 bytes).adapt (.tooLarge path)
    return bytes.length

def perform : MemoryCall → InPlace Failure Reply
  | .write address bytes => do
    (writeRange address bytes).adapt .outOfBounds
    return .done
  | .loadImage path image => return .loaded (← (copyImage path image).adapt .image)
  | .clear => do
    modify Memory.clear
    return .done
  | .read address count => return .bytes (← (readRange address count).adapt .outOfBounds)
  | .readArray address count => return .bytes (← readVector address count).toList

/-- What a call returns or fails with, and the memory behind it. -/
def run (call : MemoryCall) (memory : Memory) : Except Failure Reply × Memory :=
  outcome call.perform memory

/-- The memory after some calls. -/
def runAll (calls : List MemoryCall) (memory : Memory) : Memory :=
  calls.foldl (fun memory call => (call.run memory).2) memory

end MemoryCall

end AccessController
