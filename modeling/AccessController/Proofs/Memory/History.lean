import AccessController.Proofs.Memory.InPlace

/-!
# Histories of calls

After any calls, memory holds at each address the byte of the latest call that gave one to it since
memory was cleared (`latest`).  Each call leaves the bytes of the history that has one more call
(`Holds.run`), so a run of calls does, and what is read is what the history says
(`served_of_history`).
-/

namespace AccessController

namespace MemoryCall

/-! ## Bytes of a history -/

/-- Whether a call stays inside a memory of a size. An image begins at address 0. -/
def Fits (size : Nat) : MemoryCall → Prop
  | .write address bytes => address + bytes.length ≤ size
  | .loadImage _ (.ok bytes) => 0 + bytes.length ≤ size
  | .loadImage _ (.error _) => False
  | .clear => True
  | .read address count | .readArray address count => address + count ≤ size

instance decidableFits (size : Nat) : (call : MemoryCall) → Decidable (call.Fits size)
  | .write address bytes => inferInstanceAs (Decidable (address + bytes.length ≤ size))
  | .loadImage _ (.ok bytes) => inferInstanceAs (Decidable (0 + bytes.length ≤ size))
  | .loadImage _ (.error _) => inferInstanceAs (Decidable False)
  | .clear => inferInstanceAs (Decidable True)
  | .read address count | .readArray address count =>
    inferInstanceAs (Decidable (address + count ≤ size))

/-- The byte at an address among bytes from an address on. -/
def byteAt? (start : Nat) (bytes : Bytes) (address : Nat) : Option UInt8 :=
  if start ≤ address then bytes[address - start]? else none

/-- The byte that a call stores at an address if it succeeds. -/
def stored? (address : Nat) : MemoryCall → Option UInt8
  | .write start bytes => byteAt? start bytes address
  | .loadImage _ (.ok bytes) => byteAt? 0 bytes address
  | .loadImage _ (.error _) | .clear | .read _ _ | .readArray _ _ => none

/-- The byte that a call gives to an address of a memory of a size. -/
def given? (size address : Nat) (call : MemoryCall) : Option UInt8 :=
  if call.Fits size then call.stored? address else none

def clears : MemoryCall → Bool
  | .clear => true
  | .write _ _ | .loadImage _ _ | .read _ _ | .readArray _ _ => false

/-- The byte that the latest call gave to an address since memory was cleared, or zero. -/
def latest (size : Nat) (calls : List MemoryCall) (address : Nat) : UInt8 :=
  ((calls.reverse.takeWhile fun call => !call.clears).findSome? (given? size address)).getD 0

/-- The bytes after a call. -/
def change (size : Nat) (call : MemoryCall) (contents : Nat → UInt8) (address : Nat) : UInt8 :=
  if call.clears then 0 else (call.given? size address).getD (contents address)

/-- What a call that fits memory returns. -/
def reply (contents : Nat → UInt8) : MemoryCall → Reply
  | .loadImage _ (.ok bytes) => .loaded bytes.length
  | .write _ _ | .loadImage _ (.error _) | .clear => .done
  | .read address count | .readArray address count =>
    .bytes ((List.range' address count).map contents)

theorem latest_concat (size : Nat) (calls : List MemoryCall) (call : MemoryCall) :
    latest size (calls ++ [call]) = call.change size (latest size calls) := by
  funext address
  rw [latest, List.reverse_concat, change, List.takeWhile_cons]
  cases clearing : call.clears with
  | true => rfl
  | false =>
    rw [Bool.not_false, if_pos rfl, if_neg Bool.false_ne_true, List.findSome?_cons, latest]
    cases call.given? size address with
    | none => rfl
    | some byte => rfl

theorem change_of_fits {size : Nat} {call : MemoryCall} (fits : call.Fits size)
    (kept : call.clears = false) (contents : Nat → UInt8) :
    call.change size contents = fun address =>
      (call.stored? address).getD (contents address) := by
  funext address
  rw [change, kept, if_neg Bool.false_ne_true, given?, if_pos fits]

theorem change_of_not_fits {size : Nat} {call : MemoryCall} (unfit : ¬ call.Fits size)
    (contents : Nat → UInt8) : call.change size contents = contents := by
  have kept : ¬ call.clears := by
    cases call with
    | clear => exact absurd trivial unfit
    | _ => exact Bool.false_ne_true
  funext address
  rw [change, if_neg kept, given?, if_neg unfit]
  rfl

/-! ## Bytes of a memory -/

/-- A memory of a size with these bytes. -/
structure Holds (memory : Memory) (size : Nat) (contents : Nat → UInt8) : Prop where
  size_eq : memory.size = size
  byte?_eq : ∀ {address}, address < size → memory.byte? address = some (contents address)

theorem holds_zeros (size : Nat) : Holds (.zeros size) size fun _ => 0 where
  size_eq := Array.size_replicate
  byte?_eq inside := by
    rw [Memory.byte?, Memory.zeros, Array.getElem?_replicate, if_pos inside]

namespace Holds

variable {memory : Memory} {size : Nat} {contents : Nat → UInt8}
  (holds : Holds memory size contents)

include holds

theorem overwrite {start : Nat} {bytes : Bytes} (room : start + bytes.length ≤ size) :
    Holds ⟨Memory.overwrite memory.bytes start bytes⟩ size fun address =>
      (byteAt? start bytes address).getD (contents address) where
  size_eq := (Memory.size_overwrite memory.bytes start bytes).trans holds.size_eq
  byte?_eq {address} inside := by
    have fits : start + bytes.length ≤ memory.bytes.size :=
      Nat.le_trans room (Nat.le_of_eq holds.size_eq.symm)
    have before : memory.bytes[address]? = some (contents address) := holds.byte?_eq inside
    rw [Memory.byte?, Memory.getElem?_overwrite memory.bytes start bytes address fits, byteAt?]
    by_cases covered : start ≤ address ∧ address < start + bytes.length
    · have index : address - start < bytes.length := by omega
      rw [if_pos covered, if_pos covered.1, List.getElem?_eq_getElem index]
      rfl
    · rw [if_neg covered, before]
      split
      next behind =>
        have beyond : bytes.length ≤ address - start := by omega
        rw [List.getElem?_eq_none beyond]
        rfl
      next => rfl

theorem clear : Holds memory.clear size fun _ => 0 := by
  rw [Memory.clear, holds.size_eq]
  exact holds_zeros size

theorem readBytes_eq {address count : Nat} (room : address + count ≤ size) :
    memory.readBytes address count = (List.range' address count).map contents := by
  have fits : address + count ≤ memory.bytes.size :=
    Nat.le_trans room (Nat.le_of_eq holds.size_eq.symm)
  apply List.ext_getElem?
  intro index
  rw [Memory.readBytes, Array.getElem?_toList, Array.getElem?_extract, Nat.min_eq_left fits,
    Nat.add_sub_cancel_left, List.getElem?_map]
  by_cases inside : index < count
  · have shown : memory.bytes[address + index]? = some (contents (address + index)) :=
      holds.byte?_eq (by omega)
    rw [if_pos inside, shown, List.getElem?_range' inside, Nat.one_mul]
    rfl
  · rw [if_neg inside, List.getElem?_eq_none (by rw [List.length_range']; omega)]
    rfl

/-! ## Runs -/

theorem run_read_of_fits (small : size < wordCount) {address count : Nat}
    (room : address + count ≤ size) :
    (read address count).run memory =
      (.ok (.bytes ((List.range' address count).map contents)), memory) := by
  have addressed : memory.size < wordCount := holds.size_eq ▸ small
  have inside : address + count ≤ memory.size := holds.size_eq ▸ room
  rw [run_read addressed, Memory.read_eq, if_pos inside, holds.readBytes_eq room]
  rfl

/-- A call that fits memory succeeds and leaves the bytes that it gives. -/
theorem run_of_fits (small : size < wordCount) {call : MemoryCall} (fits : call.Fits size) :
    ∃ behind, call.run memory = (.ok (call.reply contents), behind) ∧
      Holds behind size (call.change size contents) := by
  have addressed : memory.size < wordCount := holds.size_eq ▸ small
  cases call with
  | write start bytes =>
    have room : start + bytes.length ≤ memory.size := holds.size_eq ▸ fits
    rw [run_write addressed, Memory.write_eq, if_pos room, change_of_fits fits rfl]
    exact ⟨_, rfl, holds.overwrite fits⟩
  | loadImage path image =>
    cases image with
    | error error => exact fits.elim
    | ok bytes =>
      have room : 0 + bytes.length ≤ memory.size := holds.size_eq ▸ fits
      rw [run_loadImage addressed, Memory.withImage, Memory.write_eq, if_pos room,
        change_of_fits fits rfl]
      exact ⟨_, rfl, holds.overwrite fits⟩
  | clear => exact ⟨_, run_clear, holds.clear⟩
  | read address count =>
    rw [holds.run_read_of_fits small fits, change_of_fits fits rfl]
    exact ⟨_, rfl, holds⟩
  | readArray address count =>
    rw [run_readArray addressed, holds.run_read_of_fits small fits, change_of_fits fits rfl]
    exact ⟨_, rfl, holds⟩

/-- Any other call fails and leaves memory as it was. -/
theorem run_of_not_fits (small : size < wordCount) {call : MemoryCall} (unfit : ¬ call.Fits size) :
    ∃ failure, call.run memory = (.error failure, memory) := by
  have addressed : memory.size < wordCount := holds.size_eq ▸ small
  cases call with
  | write start bytes =>
    have beyond : ¬ start + bytes.length ≤ memory.size := holds.size_eq ▸ unfit
    rw [run_write addressed, Memory.write_eq, if_neg beyond]
    exact ⟨_, rfl⟩
  | loadImage path image =>
    rw [run_loadImage addressed]
    cases image with
    | error error => exact ⟨_, rfl⟩
    | ok bytes =>
      have beyond : ¬ 0 + bytes.length ≤ memory.size := holds.size_eq ▸ unfit
      rw [Memory.withImage, Memory.write_eq, if_neg beyond]
      exact ⟨_, rfl⟩
  | clear => exact absurd trivial unfit
  | read address count =>
    have beyond : ¬ address + count ≤ memory.size := holds.size_eq ▸ unfit
    rw [run_read addressed, Memory.read_eq, if_neg beyond]
    exact ⟨_, rfl⟩
  | readArray address count =>
    have beyond : ¬ address + count ≤ memory.size := holds.size_eq ▸ unfit
    rw [run_readArray addressed, run_read addressed, Memory.read_eq, if_neg beyond]
    exact ⟨_, rfl⟩

/-- One call, fitting or not, leaves the bytes that it changes. -/
theorem run (small : size < wordCount) (call : MemoryCall) :
    Holds (call.run memory).2 size (call.change size contents) := by
  by_cases fits : call.Fits size
  · obtain ⟨behind, run_eq, held⟩ := holds.run_of_fits small fits
    rw [run_eq]
    exact held
  · obtain ⟨failure, run_eq⟩ := holds.run_of_not_fits small fits
    rw [run_eq, change_of_not_fits fits]
    exact holds

end Holds

/-- Any calls behind those of a history leave the latest bytes of them all. -/
theorem Holds.runAll {memory : Memory} {size : Nat} {before : List MemoryCall}
    (holds : Holds memory size (latest size before)) (small : size < wordCount)
    (calls : List MemoryCall) :
    Holds (runAll calls memory) size (latest size (before ++ calls)) := by
  induction calls generalizing memory before with
  | nil =>
    rw [List.append_nil]
    exact holds
  | cons call rest ih =>
    have next := holds.run small call
    rw [← latest_concat] at next
    have rested := ih next
    rw [List.append_assoc] at rested
    exact rested

/-- What a memory of a size owes to a call after others. -/
structure Served (size : Nat) (calls : List MemoryCall) (memory : Memory) (call : MemoryCall) :
    Prop where
  succeeds_iff : (∃ reply, (call.run memory).1 = .ok reply) ↔ call.Fits size
  /-- A failure leaves every byte as it was. -/
  unchanged : ∀ failure, (call.run memory).1 = .error failure → (call.run memory).2 = memory
  /-- A success returns the latest bytes if it reads any. -/
  reply_eq : ∀ reply, (call.run memory).1 = .ok reply → reply = call.reply (latest size calls)

theorem Holds.served {memory : Memory} {size : Nat} {calls : List MemoryCall}
    (holds : Holds memory size (latest size calls)) (small : size < wordCount)
    (call : MemoryCall) : Served size calls memory call := by
  by_cases fits : call.Fits size
  · obtain ⟨behind, run_eq, _⟩ := holds.run_of_fits small fits
    constructor
    case succeeds_iff =>
      rw [run_eq]
      exact ⟨fun _ => fits, fun _ => ⟨_, rfl⟩⟩
    case unchanged =>
      rw [run_eq]
      intro failure failed
      cases failed
    case reply_eq =>
      rw [run_eq]
      intro reply replied
      cases replied
      rfl
  · obtain ⟨failure, run_eq⟩ := holds.run_of_not_fits small fits
    constructor
    case succeeds_iff =>
      rw [run_eq]
      exact ⟨nofun, fun fits' => absurd fits' fits⟩
    case unchanged =>
      rw [run_eq]
      exact fun _ _ => rfl
    case reply_eq =>
      rw [run_eq]
      intro reply replied
      cases replied

/-- A memory of any size that fits the address space, after any calls, has the latest bytes, and
serves one more call accordingly: it succeeds if it stays inside the memory, then returns the
latest bytes, and otherwise changes nothing. -/
theorem served_of_history {size : Nat} (positive : 0 < size) (small : size ≤ Memory.maxSize) :
    ∃ memory, Memory.ofSize? size = .ok memory ∧
      ∀ (calls : List MemoryCall) (call : MemoryCall),
        Holds (runAll calls memory) size (latest size calls) ∧
          Served size calls (runAll calls memory) call := by
  have addressed : size < wordCount := Nat.lt_of_le_of_lt small (by decide)
  have made : Memory.ofSize? size = .ok (.zeros size) := if_pos ⟨positive, small⟩
  refine ⟨.zeros size, made, fun calls call => ?_⟩
  have blank : Holds (.zeros size) size (latest size []) := holds_zeros size
  have holds : Holds (runAll calls (.zeros size)) size (latest size calls) :=
    blank.runAll addressed calls
  exact ⟨holds, holds.served addressed call⟩

/-- Writes that overlap, that do not fit and that come before memory is cleared. -/
theorem served_of_history_overlapping :
    ∃ memory, Memory.ofSize? 6 = .ok memory ∧
      ((read 0 6).run (runAll [write 4 [9, 9], clear, write 1 [1, 2, 3],
        loadImage "image" (.ok [4, 5]), write (wordCount - 1) [7], write 5 [8, 8],
        write 6 []] memory)).1 = .ok (.bytes [4, 5, 2, 3, 0, 0]) := by
  obtain ⟨memory, made, history⟩ := served_of_history (by decide : 0 < 6) (by decide)
  have served := (history [write 4 [9, 9], clear, write 1 [1, 2, 3],
    loadImage "image" (.ok [4, 5]), write (wordCount - 1) [7], write 5 [8, 8], write 6 []]
    (read 0 6)).2
  obtain ⟨reply, replied⟩ := served.succeeds_iff.2 (by decide)
  refine ⟨memory, made, ?_⟩
  rw [replied, served.reply_eq reply replied]
  rfl

end MemoryCall

end AccessController
