import AccessController.Controller.Basic
import AccessController.Proofs.Datapath.Selection

/-!
# Programs one instruction at a time

The interpreter executes a program without clock, wires and components.  An
instruction takes effect on the contents at once; only the results of the array
are kept back between a start and the wait for it.

The machine stores results as soon as the array has them.  `Sequenced` programs
cannot tell the difference (`run_deliver`): between a start and its wait they
neither start the array again nor move the line that receives the results.
-/

namespace AccessController

namespace Instruction

/-- The request of an instruction for a transfer. -/
def request (instruction : Instruction) (operation : TransferOp) : TransferRequest where
  selector := operation.kind.selector
  address := .ofBitVec instruction.address
  place := .ofNat (if operation.wholeLine then wholeLinePlace else instruction.place).toNat

/-- The level of a selector that names the line of an instruction. -/
def lineLevel (instruction : Instruction) : UInt8 := .ofNat instruction.line.toNat

end Instruction

/-- The instructions of a program. -/
def Program.instructions (program : Program) : List Instruction :=
  program.words.map .ofWord

namespace Program

variable {program : Program} {pointer : Nat}

theorem drop_instructions {word : Word} (fetched : program.word? pointer = some word) :
    program.instructions.drop pointer =
      .ofWord word :: program.instructions.drop (pointer + 1) := by
  rw [word?, List.getElem?_eq_some_iff] at fetched
  obtain ⟨bound, fetched⟩ := fetched
  have inside : pointer < program.instructions.length := by
    rw [instructions, List.length_map]
    exact bound
  rw [List.drop_eq_getElem_cons inside]
  simp only [instructions, List.getElem_map, fetched]

theorem drop_instructions_of_none (out : program.word? pointer = none) :
    program.instructions.drop pointer = [] := by
  rw [List.drop_eq_nil_iff, instructions, List.length_map]
  exact List.getElem?_eq_none_iff.1 out

end Program

/-- The instructions that are executed: those in front of the first FINISH. -/
def executed (instructions : List Instruction) : List Instruction :=
  instructions.takeWhile fun instruction => instruction.operation? ≠ some .finish

theorem executed_cons {instruction : Instruction}
    (unfinished : instruction.operation? ≠ some .finish) (rest : List Instruction) :
    executed (instruction :: rest) = instruction :: executed rest := by
  rw [executed, List.takeWhile_cons, if_pos (by simpa using unfinished)]
  rfl

theorem executed_finish {instruction : Instruction}
    (finish : instruction.operation? = some .finish) (rest : List Instruction) :
    executed (instruction :: rest) = [] := by
  rw [executed, List.takeWhile_cons, if_neg (by simp [finish])]

/-- The values that the array would be started with: those of the line of the
cache for values that it sees. -/
def Contents.arrayValues (contents : Contents) : List UInt64 :=
  match (contents.lines.get .dataIn).line (contents.outputLine.get .dataIn) with
  | .data elements => elements
  | .config _ => []

/-- What a program changes: the contents of the datapath, and results of the
array that it has not waited for. -/
@[ext] structure ProgramState where
  contents : Contents
  results : Option (List UInt64) := none

namespace ProgramState

variable (features : FeatureTable)

/-- The effect of one instruction. -/
def execute (instruction : Instruction) (state : ProgramState) : ProgramState :=
  match instruction.operation? with
  | some (.transfer operation) =>
    { state with
      contents :=
        state.contents.transfer features (.replicate instruction.lineLevel)
          (instruction.request operation) }
  | some (.select kind) =>
    { state with contents := state.contents.select features kind instruction.line.toNat }
  | some .start => { state with results := some state.contents.arrayValues }
  | some .waitReady =>
    { contents := state.contents.deliver features state.results, results := none }
  | some .noop | some .finish | none => state

/-- The effect of the instructions up to the first FINISH. -/
def run : List Instruction → ProgramState → ProgramState
  | [], state => state
  | instruction :: rest, state =>
    if instruction.operation? = some .finish then state
    else run rest (state.execute features instruction)

theorem run_cons {instruction : Instruction} (unfinished : instruction.operation? ≠ some .finish)
    (rest : List Instruction) (state : ProgramState) :
    run features (instruction :: rest) state =
      run features rest (state.execute features instruction) := by
  rw [run, if_neg unfinished]

theorem run_finish {instruction : Instruction} (finish : instruction.operation? = some .finish)
    (rest : List Instruction) (state : ProgramState) :
    run features (instruction :: rest) state = state := by
  rw [run, if_pos finish]

end ProgramState

/-- Up to the first FINISH, every start of the array has its wait before the next
start and before the end, and in between the output line of the cache for results
stays where it is. `owed` says whether the wait for a start is still to come. -/
def Sequenced : (owed : Bool) → List Instruction → Prop
  | owed, [] => owed = false
  | owed, instruction :: rest =>
    match instruction.operation? with
    | some .finish => owed = false
    | some .start => owed = false ∧ Sequenced true rest
    | some .waitReady => owed = true ∧ Sequenced false rest
    | some (.select .dataOut) => owed = false ∧ Sequenced false rest
    | _ => Sequenced owed rest

namespace Sequenced

variable {owed : Bool} {instruction : Instruction} {rest : List Instruction}

theorem nil_iff : Sequenced owed [] ↔ owed = false := .rfl

theorem finish_iff (code : instruction.operation? = some .finish) :
    Sequenced owed (instruction :: rest) ↔ owed = false := by
  rw [Sequenced, code]

theorem start_iff (code : instruction.operation? = some .start) :
    Sequenced owed (instruction :: rest) ↔ owed = false ∧ Sequenced true rest := by
  rw [Sequenced, code]

theorem waitReady_iff (code : instruction.operation? = some .waitReady) :
    Sequenced owed (instruction :: rest) ↔ owed = true ∧ Sequenced false rest := by
  rw [Sequenced, code]

theorem select_iff {kind : CacheKind} (code : instruction.operation? = some (.select kind)) :
    Sequenced owed (instruction :: rest) ↔
      (kind = .dataOut → owed = false) ∧ Sequenced owed rest := by
  rw [Sequenced, code]
  cases kind with
  | dataOut =>
    constructor
    · rintro ⟨rfl, sequenced⟩
      exact ⟨fun _ => rfl, sequenced⟩
    · rintro ⟨settled, sequenced⟩
      obtain rfl := settled rfl
      exact ⟨rfl, sequenced⟩
  | _ => simp

theorem transfer_iff {operation : TransferOp}
    (code : instruction.operation? = some (.transfer operation)) :
    Sequenced owed (instruction :: rest) ↔ Sequenced owed rest := by
  rw [Sequenced, code]

theorem noop_iff (code : instruction.operation? = some .noop ∨ instruction.operation? = none) :
    Sequenced owed (instruction :: rest) ↔ Sequenced owed rest := by
  rcases code with code | code <;> rw [Sequenced, code]

instance decidable :
    (owed : Bool) → (instructions : List Instruction) → Decidable (Sequenced owed instructions)
  | _, [] => decidable_of_iff _ nil_iff.symm
  | _, instruction :: rest =>
    have (next : Bool) : Decidable (Sequenced next rest) := decidable next rest
    match code : instruction.operation? with
    | some .finish => decidable_of_iff _ (finish_iff code).symm
    | some .start => decidable_of_iff _ (start_iff code).symm
    | some .waitReady => decidable_of_iff _ (waitReady_iff code).symm
    | some (.select _) => decidable_of_iff _ (select_iff code).symm
    | some (.transfer _) => decidable_of_iff _ (transfer_iff code).symm
    | some .noop => decidable_of_iff _ (noop_iff (.inl code)).symm
    | none => decidable_of_iff _ (noop_iff (.inr code)).symm

end Sequenced

namespace Contents

/-- Results do not depend on which other lines the array sees. -/
theorem select_deliver (contents : Contents) (features : FeatureTable)
    (results : Option (List UInt64)) {kind : CacheKind} (other : kind ≠ .dataOut) (line : Nat) :
    (contents.deliver features results).select features kind line =
      (contents.select features kind line).deliver features results := by
  rw [select, select]
  split
  · have stays : (contents.outputLine.set kind line).get .dataOut =
        contents.outputLine.get .dataOut := by
      rw [PerCache.get_set, if_neg other]
    rw [deliver, deliver, stays]
  · rfl

end Contents

namespace ProgramState

variable {features : FeatureTable}

/-- Whether results are stored at once or at the wait for them is the same to a
program that is to wait for them. -/
theorem run_deliver {instructions : List Instruction} (sequenced : Sequenced true instructions)
    (contents : Contents) (results : Option (List UInt64)) :
    run features instructions ⟨contents, results⟩ =
      run features instructions ⟨contents.deliver features results, none⟩ := by
  induction instructions generalizing contents with
  | nil => cases sequenced
  | cons instruction rest ih =>
    rw [run, run, execute, execute]
    cases code : instruction.operation? with
    | none => exact ih ((Sequenced.noop_iff (.inr code)).1 sequenced) contents
    | some opcode =>
      cases opcode with
      | noop => exact ih ((Sequenced.noop_iff (.inl code)).1 sequenced) contents
      | transfer operation =>
        dsimp only
        rw [Contents.transfer_deliver]
        exact ih ((Sequenced.transfer_iff code).1 sequenced) _
      | start => cases ((Sequenced.start_iff code).1 sequenced).1
      | waitReady =>
        dsimp only
        rw [Contents.deliver_none]
        rfl
      | finish => cases (Sequenced.finish_iff code).1 sequenced
      | select kind =>
        obtain ⟨settled, sequenced⟩ := (Sequenced.select_iff code).1 sequenced
        dsimp only
        rw [Contents.select_deliver _ _ _ fun same => nomatch settled same]
        exact ih sequenced _

end ProgramState

end AccessController
