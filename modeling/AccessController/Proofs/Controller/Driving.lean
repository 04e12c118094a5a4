import AccessController.Proofs.Controller.Running
import AccessController.Proofs.Program.Interpreter

/-!
# What the controller puts on the wires

Three steps drive wires that leave the controller: a transfer puts a request up,
a selection moves one selector, and a start begins a pulse for the array.  Behind
the clock edge the driven values are the levels, and every other wire is where it
was.
-/

namespace AccessController

namespace PerCache

variable {α β : Type} (kind : CacheKind)

theorem map_set (family : PerCache α) (image : α → β) (value : α) :
    (family.set kind value).map image = (family.map image).set kind (image value) := by
  apply ext_get
  intro other
  rw [get_map, get_set, get_set, get_map]
  split <;> rfl

theorem map_commit_modify_drive (wires : PerCache (Wire α)) (value : α) :
    (wires.modify kind (·.drive value)).map Wire.commit =
      (wires.map Wire.commit).set kind (.rest value) := by
  apply ext_get
  intro other
  rw [get_map, get_set, get_modify, get_map]
  split <;> rfl

end PerCache

/-- The lines of instructions are few enough for a selector. -/
theorem Instruction.toNat_lineLevel (instruction : Instruction) :
    instruction.lineLevel.toNat = instruction.line.toNat := by
  have bound := instruction.line.isLt
  rw [lineLevel, UInt8.toNat_ofNat']
  omega

namespace Controller

variable {controller : Controller} (committed : controller.outputs.commit = controller.outputs)

include committed

theorem outputs_request (operation : TransferOp) :
    (controller.request operation).commit.outputs =
      let request := controller.state.instruction.request operation
      { controller.outputs with
        engineStart := .rest true
        selector := .rest request.selector
        address := .rest request.address
        place := .rest request.place
        selectIn := controller.outputs.selectIn.set operation.kind
          (.rest controller.state.instruction.lineLevel) } := by
  have selectIn : (controller.request operation).commit.outputs.selectIn =
      (controller.outputs.commit.selectIn).set operation.kind
        (.rest controller.state.instruction.lineLevel) := PerCache.map_commit_modify_drive ..
  rw [committed] at selectIn
  rw [← selectIn]
  dsimp only
  rw [← committed]
  rfl

theorem outputs_select (kind : CacheKind) :
    (controller.select kind).commit.outputs =
      { controller.outputs with
        selectOut := controller.outputs.selectOut.set kind
          (.rest controller.state.instruction.lineLevel) } := by
  have selectOut : (controller.select kind).commit.outputs.selectOut =
      (controller.outputs.commit.selectOut).set kind
        (.rest controller.state.instruction.lineLevel) := PerCache.map_commit_modify_drive ..
  rw [committed] at selectOut
  rw [← selectOut, ← committed]
  rfl

theorem outputs_startArray :
    controller.startArray.commit.outputs =
      { controller.outputs with arrayStart := .rest true } := by
  rw [← committed]
  rfl

end Controller

end AccessController
