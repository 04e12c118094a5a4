import AccessController.Proofs.Datapath.Timing
import AccessController.Proofs.Program.Interpreter

/-!
# The price of a program

Every instruction is fetched and decoded in two ticks, and what comes behind that
depends on the instruction. A program that leaves the array alone has a price that can
be read off its words: every instruction costs a number of cycles that depends on the
geometry of the cache that it names and on nothing else, and so does the end.
`executionTicks_add_one` says that this is the time until the finish line is high and
the tick in which the controller rewinds.
-/

namespace AccessController

/-!
## Ticks

Only a start has its price set to the ticks until the array has become ready,
although the program does not wait for it there.
-/

section Ticks

variable (features : FeatureTable) (latency : Nat)

/-- The ticks of an instruction behind its decoding. -/
def Instruction.executionTicks (instruction : Instruction) : Nat :=
  match instruction.operation? with
  | some (.transfer operation) => (instruction.request operation).answerTicks features + 3
  | some (.select _) | some .waitReady => 2
  | some .start => latency + 4
  | some .noop | some .finish | none => 1

/-- The ticks of the instructions up to the first FINISH. A program without one
takes a fetch to find its end. -/
def executionTicks : List Instruction → Nat
  | [] => 2
  | instruction :: rest =>
    2 + (instruction.executionTicks features latency +
      if instruction.operation? = some .finish then 0 else executionTicks rest)

theorem two_le_executionTicks (instructions : List Instruction) :
    2 ≤ executionTicks features latency instructions := by
  cases instructions with
  | nil => exact Nat.le_refl 2
  | cons instruction rest => exact Nat.le_add_right 2 _

theorem executionTicks_cons {instruction : Instruction}
    (unfinished : instruction.operation? ≠ some .finish) (rest : List Instruction) :
    executionTicks features latency (instruction :: rest) =
      2 + (instruction.executionTicks features latency +
        executionTicks features latency rest) := by
  rw [executionTicks, if_neg unfinished]

theorem executionTicks_finish {instruction : Instruction}
    (finish : instruction.operation? = some .finish) (rest : List Instruction) :
    executionTicks features latency (instruction :: rest) = 3 := by
  rw [executionTicks, Instruction.executionTicks, finish]
  rfl

end Ticks

/-! ## Cycles -/

/-- Whether an instruction starts the array or waits for it. -/
def Instruction.usesArray (instruction : Instruction) : Bool :=
  match instruction.operation? with
  | some .start | some .waitReady => true
  | _ => false

/-- No instruction starts the array or waits for it. -/
def LeavesArray (instructions : List Instruction) : Prop :=
  ∀ instruction ∈ instructions, instruction.usesArray = false

instance : DecidablePred LeavesArray := fun _ => inferInstanceAs (Decidable (∀ _ ∈ _, _))

/-- The cycles of an instruction that leaves the array alone, its fetch included: a unit
that goes through a cache costs six, and a place beyond the end of a line is found out
before the first one. -/
def Instruction.cycles (features : FeatureTable) (instruction : Instruction) : Nat :=
  match instruction.operation? with
  | some (.transfer operation) =>
    let geometry := features.get operation.kind
    if operation.wholeLine ∨ instruction.isWholeLine then
      6 * (geometry.blockTransferCount + 1) + 8
    else if geometry.places ≤ instruction.place.toNat then 9
    else 6 * 1 + 8
  | some (.select _) => 4
  | _ => 3

/-- The cycles of a program: those of the instructions in front of the first FINISH, and
those of the FINISH or of a fetch that finds no instruction. -/
def executionCycles (features : FeatureTable) (instructions : List Instruction) : Nat :=
  (executed instructions).foldr (fun instruction cycles => instruction.cycles features + cycles)
    (if ∃ instruction ∈ instructions, instruction.operation? = some .finish then 4 else 3)

namespace LeavesArray

variable {instruction : Instruction} {instructions rest : List Instruction}

theorem of_suffix (leaves : LeavesArray instructions) (suffix : rest <:+ instructions) :
    LeavesArray rest :=
  fun instruction among => leaves instruction (suffix.subset among)

theorem ne_start (leaves : LeavesArray (instruction :: rest)) :
    instruction.operation? ≠ some .start := by
  intro code
  have uses := leaves instruction (List.mem_cons_self ..)
  rw [Instruction.usesArray, code] at uses
  cases uses

theorem ne_waitReady (leaves : LeavesArray (instruction :: rest)) :
    instruction.operation? ≠ some .waitReady := by
  intro code
  have uses := leaves instruction (List.mem_cons_self ..)
  rw [Instruction.usesArray, code] at uses
  cases uses

theorem tail (leaves : LeavesArray (instruction :: rest)) : LeavesArray rest :=
  leaves.of_suffix (List.suffix_cons ..)

/-- There is nothing to wait for, and nothing must be owed from before. -/
theorem sequenced_iff (leaves : LeavesArray instructions) {owed : Bool} :
    Sequenced owed instructions ↔ owed = false := by
  induction instructions with
  | nil => exact Sequenced.nil_iff
  | cons instruction rest ih =>
    have rest := ih leaves.tail
    cases code : instruction.operation? with
    | none => exact (Sequenced.noop_iff (.inr code)).trans rest
    | some opcode =>
      cases opcode with
      | noop => exact (Sequenced.noop_iff (.inl code)).trans rest
      | transfer operation => exact (Sequenced.transfer_iff code).trans rest
      | finish => exact Sequenced.finish_iff code
      | select kind =>
        rw [Sequenced.select_iff code, rest]
        exact and_iff_right_of_imp fun settled _ => settled
      | start => exact absurd code leaves.ne_start
      | waitReady => exact absurd code leaves.ne_waitReady

end LeavesArray

namespace Instruction

variable (instruction : Instruction) (operation : TransferOp)

theorem isWholeLine_request :
    (instruction.request operation).isWholeLine =
      (operation.wholeLine || instruction.isWholeLine) := by
  have place : (instruction.request operation).place.toNat =
      (if operation.wholeLine then wholeLinePlace else instruction.place).toNat := by
    have bound := (if operation.wholeLine then wholeLinePlace else instruction.place).isLt
    rw [request, UInt8.toNat_ofNat']
    omega
  rw [TransferRequest.isWholeLine, isWholeLine, Bool.eq_iff_iff]
  simp only [beq_iff_eq, Bool.or_eq_true, TransferRequest.wholeLinePlace, ← UInt8.toNat_inj,
    ← BitVec.toNat_inj, place]
  split <;> simp [*, wholeLinePlace]

theorem toNat_place_request (element : (instruction.request operation).isWholeLine = false) :
    (instruction.request operation).place.toNat = instruction.place.toNat := by
  have bound := instruction.place.isLt
  rw [isWholeLine_request, Bool.or_eq_false_iff] at element
  rw [request, element.1, if_neg Bool.false_ne_true, UInt8.toNat_ofNat']
  omega

end Instruction

theorem executionCycles_cons {features : FeatureTable} {instruction : Instruction}
    (unfinished : instruction.operation? ≠ some .finish) (rest : List Instruction) :
    executionCycles features (instruction :: rest) =
      instruction.cycles features + executionCycles features rest := by
  rw [executionCycles, executionCycles, executed_cons unfinished, List.foldr_cons]
  simp only [List.mem_cons, exists_eq_or_imp, unfinished, false_or]

theorem executionCycles_finish {features : FeatureTable} {instruction : Instruction}
    (finish : instruction.operation? = some .finish) (rest : List Instruction) :
    executionCycles features (instruction :: rest) = 4 := by
  rw [executionCycles, executed_finish finish, if_pos ⟨instruction, List.mem_cons_self .., finish⟩]
  rfl

theorem TransferOp.isData_of_element {operation : TransferOp} (element : operation.wholeLine = false)
    (features : FeatureTable) : (features.get operation.kind).isData := by
  cases operation with
  | loadElement => simp [Geometry.isData, kind, CacheKind.isData]
  | storeElement => simp [Geometry.isData, kind, CacheKind.isData]
  | _ => cases element

variable {features : FeatureTable}

/-- The cycles of a transfer are the ticks of its answer and five around them. -/
theorem Instruction.cycles_of_transfer {instruction : Instruction} {operation : TransferOp}
    (code : instruction.operation? = some (.transfer operation)) :
    instruction.cycles features = (instruction.request operation).answerTicks features + 5 := by
  have known : CacheKind.ofSelector? (instruction.request operation).selector =
      some operation.kind := CacheKind.ofSelector?_selector operation.kind
  rw [cycles, code, TransferRequest.answerTicks, known]
  dsimp only
  rw [TransferRequest.beyond, TransferRequest.unitCount]
  cases whole : (instruction.request operation).isWholeLine with
  | true =>
    have asks := (instruction.isWholeLine_request operation).symm.trans whole
    rw [if_pos (by simpa using asks), Bool.not_true, Bool.and_false, Bool.false_and,
      if_neg Bool.false_ne_true, if_pos rfl]
  | false =>
    have asks := (instruction.isWholeLine_request operation).symm.trans whole
    have place := instruction.toNat_place_request operation whole
    rw [Bool.or_eq_false_iff] at asks
    rw [if_neg (by simp [asks]), TransferOp.isData_of_element asks.1, place,
      if_neg Bool.false_ne_true]
    split <;> simp [*]

/-- What an instruction costs is the time that it takes. -/
theorem Instruction.executionTicks_add_two {instruction : Instruction}
    (leaves : instruction.usesArray = false) (latency : Nat) :
    2 + instruction.executionTicks features latency = instruction.cycles features := by
  cases code : instruction.operation? with
  | none =>
    rw [executionTicks, cycles, code]
    rfl
  | some opcode =>
    cases opcode with
    | transfer operation =>
      rw [cycles_of_transfer code, executionTicks, code]
      dsimp only
      omega
    | start => simp [usesArray, code] at leaves
    | waitReady => simp [usesArray, code] at leaves
    | _ =>
      rw [executionTicks, cycles, code]
      rfl

/-- The time until the finish line is high, and the tick in which the controller rewinds. -/
theorem executionTicks_add_one {instructions : List Instruction} (leaves : LeavesArray instructions)
    (latency : Nat) :
    executionTicks features latency instructions + 1 = executionCycles features instructions := by
  induction instructions with
  | nil => rfl
  | cons instruction rest ih =>
    by_cases finish : instruction.operation? = some .finish
    · rw [executionTicks_finish _ _ finish, executionCycles_finish finish]
    · have first : 2 + instruction.executionTicks features latency = instruction.cycles features :=
        Instruction.executionTicks_add_two (leaves instruction (List.mem_cons_self ..)) latency
      rw [executionTicks_cons _ _ finish, executionCycles_cons finish, ← first, ← ih leaves.tail]
      omega

end AccessController
