import AccessController.Proofs.Datapath.Handshake

/-!
# The effect of a request

The contents of a datapath are what a program can tell apart: the memory, the
lines of the caches and which of them the array sees.  A request moves units
between memory and one line, and `Contents.transfer` says what becomes of the
contents without mentioning phases, wires or ticks.
-/

namespace AccessController

/-- What a program can change in a datapath. -/
@[ext] structure Contents where
  memory : Memory
  lines : PerCache Lines
  outputLine : PerCache Nat

namespace Datapath

/-- The contents of a datapath. -/
def contents (datapath : Datapath) : Contents where
  memory := datapath.engine.memory
  lines := datapath.caches.map (·.lines)
  outputLine := datapath.caches.map (·.outputLine)

end Datapath

namespace TransferRequest

/-- Whether a request is for a whole line. -/
def isWholeLine (request : TransferRequest) : Bool := request.place == wholeLinePlace

/-- The place of the first unit. -/
def firstPlace (request : TransferRequest) : Nat :=
  if request.isWholeLine then 0 else request.place.toNat

/-- The units that a request moves between memory and a cache. -/
def unitCount (request : TransferRequest) (geometry : Geometry) : Nat :=
  if request.isWholeLine then geometry.blockTransferCount + 1 else 1

end TransferRequest

/-- The request on the inputs of a datapath. -/
def DatapathInputs.request (inputs : DatapathInputs) : TransferRequest where
  selector := inputs.selector
  address := inputs.address
  place := inputs.place

/-! ## Decoded requests -/

namespace Engine

variable (geometry : Geometry) (kind : CacheKind) (request : TransferRequest)

@[simp] theorem kind_contextOf : (contextOf geometry kind request).kind = kind := by
  simp only [contextOf]
  grind

@[simp] theorem place_contextOf :
    (contextOf geometry kind request).place = request.firstPlace := by
  simp only [contextOf, TransferRequest.firstPlace, TransferRequest.isWholeLine]
  grind

@[simp] theorem address_contextOf :
    (contextOf geometry kind request).address = request.address.toNat := by
  simp only [contextOf]
  grind

@[simp] theorem remaining_contextOf :
    (contextOf geometry kind request).remaining + 1 = request.unitCount geometry := by
  simp only [contextOf, TransferRequest.unitCount, TransferRequest.isWholeLine]
  grind

end Engine

/-! ## Moving units -/

namespace Contents

variable (contents : Contents) (geometry : Geometry) (kind : CacheKind) (line place address : Nat)

/-- A unit may be moved: its line and place are there, and the array does not
see the line. -/
def Grants : Prop :=
  line < geometry.lineCount ∧ (geometry.isData → place < geometry.places) ∧
    line ≠ contents.outputLine.get kind

instance : Decidable (contents.Grants geometry kind line place) :=
  inferInstanceAs (Decidable (_ ∧ _ ∧ _))

/-- Merges the unit of memory at an address into a line, if memory has it. -/
def load : Contents :=
  if address + geometry.stepBytes ≤ contents.memory.size then
    let unit := contents.memory.readBytes address geometry.stepBytes
    { contents with
      lines := contents.lines.modify kind fun lines => lines.merge geometry line place unit }
  else contents

/-- Writes an element of a line to memory, if memory has room for it. -/
def unload : Contents :=
  let element := ((contents.lines.get kind).element? geometry line place).getD []
  { contents with memory := contents.memory.store address element }

/-- Moves one unit, out of the cache for results and into any other one. -/
def moveUnit : Contents :=
  if contents.Grants geometry kind line place then
    if kind = .dataOut then contents.unload geometry kind line place address
    else contents.load geometry kind line place address
  else contents

/-- Moves units at consecutive places and addresses. -/
def moveUnits (contents : Contents) (place address : Nat) : (count : Nat) → Contents
  | 0 => contents
  | count + 1 =>
    moveUnits (contents.moveUnit geometry kind line place address) (place + 1)
      (address + geometry.stepBytes) count

/-- The contents after a request, where `selectIn` names the lines: its units
are moved one after the other.  A selector without a cache moves none. -/
def transfer (features : FeatureTable) (selectIn : PerCache UInt8) (request : TransferRequest) :
    Contents :=
  match CacheKind.ofSelector? request.selector with
  | none => contents
  | some kind =>
    let geometry := features.get kind
    (List.range (request.unitCount geometry)).foldl
      (fun moved index =>
        moved.moveUnit geometry kind (selectIn.get kind).toNat (request.firstPlace + index)
          (request.address.toNat + index * geometry.stepBytes))
      contents

@[simp] theorem outputLine_moveUnit :
    (contents.moveUnit geometry kind line place address).outputLine = contents.outputLine := by
  simp only [moveUnit, load, unload]
  grind

variable {kind} in
theorem memory_moveUnit (loads : kind ≠ .dataOut) :
    (contents.moveUnit geometry kind line place address).memory = contents.memory := by
  simp only [moveUnit, load]
  grind

@[simp] theorem lines_moveUnit_dataOut :
    (contents.moveUnit geometry .dataOut line place address).lines = contents.lines := by
  simp only [moveUnit, unload]
  grind

variable {kind} in
theorem get_lines_moveUnit (loads : kind ≠ .dataOut) (other : CacheKind) :
    (contents.moveUnit geometry kind line place address).lines.get other =
      if kind = other ∧ contents.Grants geometry kind line place ∧
          address + geometry.stepBytes ≤ contents.memory.size then
        (contents.lines.get other).merge geometry line place
          (contents.memory.readBytes address geometry.stepBytes)
      else contents.lines.get other := by
  simp only [moveUnit, load]
  grind [PerCache.get_modify]

theorem moveUnits_eq_foldl (count : Nat) :
    contents.moveUnits geometry kind line place address count =
      (List.range count).foldl
        (fun moved index =>
          moved.moveUnit geometry kind line (place + index)
            (address + index * geometry.stepBytes))
        contents := by
  induction count generalizing contents place address with
  | zero => rfl
  | succ count ih =>
    rw [moveUnits, ih, List.range_succ_eq_map, List.foldl_cons, List.foldl_map]
    have shifted (index : Nat) :
        address + geometry.stepBytes + index * geometry.stepBytes =
          address + (index + 1) * geometry.stepBytes := by
      rw [Nat.succ_mul]
      omega
    simp only [shifted, Nat.add_zero, Nat.zero_mul, Nat.add_assoc, Nat.add_comm 1]

theorem transfer_eq {features : FeatureTable} {request : TransferRequest} {kind : CacheKind}
    (known : CacheKind.ofSelector? request.selector = some kind) (selectIn : PerCache UInt8) :
    contents.transfer features selectIn request =
      contents.moveUnits (features.get kind) kind (selectIn.get kind).toNat request.firstPlace
        request.address.toNat (request.unitCount (features.get kind)) := by
  simp only [transfer, known, moveUnits_eq_foldl]

/-- A unit that is not granted leaves everything as it is. -/
theorem moveUnit_of_not_grants (refused : ¬contents.Grants geometry kind line place) :
    contents.moveUnit geometry kind line place address = contents := if_neg refused

end Contents

end AccessController
