import AccessController.Proofs.Controller.Transitions
import AccessController.Proofs.Machine.Order
import AccessController.Proofs.Signal.Netlist

/-!
# The wires of the machine

What the wires of a machine carry can be coded as words, in any way, and then the wires are a
netlist that follows the clock as a whole: its clock edge is that of the machine
(`netlist_commit`).  A component only puts values up, and only on wires of its own, so a tick
shows at its end what has been put up, and nothing before (`netlist_tick`).
-/

namespace AccessController

universe u v

namespace Wire

variable {α : Type u} {β : Type v}

/-- A wire in another code. -/
def map (code : α → β) (wire : Wire α) : Wire β := ⟨code wire.level, code wire.next⟩

@[simp] theorem level_map (code : α → β) (wire : Wire α) :
    (wire.map code).level = code wire.level := rfl

end Wire

/-- What a wire carries. -/
inductive Payload where
  | flag (value : Bool)
  | byte (value : UInt8)
  | half (value : UInt16)
  | place (value : Nat)
  | unit (bytes : Bytes)
  deriving Repr, DecidableEq

namespace ControlOutputs

/-- A wire that the controller drives. -/
def wire (outputs : ControlOutputs) : Signal → Wire Payload
  | .engineStart => outputs.engineStart.map .flag
  | .selector => outputs.selector.map .byte
  | .address => outputs.address.map .half
  | .place => outputs.place.map .byte
  | .selectIn kind => (outputs.selectIn.get kind).map .byte
  | .selectOut kind => (outputs.selectOut.get kind).map .byte
  | .arrayStart => outputs.arrayStart.map .flag
  | .finish => outputs.finish.map .flag

end ControlOutputs

namespace Engine.Outputs

/-- A wire that the engine drives. -/
def wire (outputs : Outputs) : Signal → Wire Payload
  | .ready => outputs.ready.map .flag
  | .writeEnable kind => (outputs.writeEnable.get kind).map .flag
  | .place => outputs.place.map .place
  | .outbound => outputs.outbound.map .unit

end Engine.Outputs

namespace CacheOutputs

/-- A wire that a cache drives. -/
def wire (outputs : CacheOutputs) : Signal → Wire Payload
  | .ack => outputs.ack.map .flag
  | .data => outputs.data.map .unit

end CacheOutputs

namespace ExternalPins

/-- A pin. -/
def wire (pins : ExternalPins) : Signal → Wire Payload
  | .run => pins.run.map .flag
  | .pause => pins.pause.map .flag
  | .reset => pins.reset.map .flag

end ExternalPins

/-! ## No level moves in a tick -/

theorem PerCache.level_get_modify_drive {α : Type} (wires : PerCache (Wire α))
    (kind other : CacheKind) (value : α) :
    ((wires.modify kind (·.drive value)).get other).level = (wires.get other).level := by
  rw [get_modify]
  split <;> rfl

namespace Controller

variable (controller : Controller) (pins : ControlPins) (run : Bool)
variable (signal : ControlOutputs.Signal)

theorem level_wire_sample :
    ((controller.sample pins).outputs.wire signal).level =
      (controller.outputs.wire signal).level := by
  cases signal <;> simp [sample, dropPulses, ControlOutputs.wire]

theorem level_wire_act :
    ((controller.act run).outputs.wire signal).level = (controller.outputs.wire signal).level := by
  rw [act]
  split <;> try rfl
  rw [step]
  split <;> try rfl
  next => rw [fetch]; split <;> rfl
  next => rw [dispatch]; split <;> rfl
  next =>
    cases signal <;> simp [request, ControlOutputs.wire, PerCache.level_get_modify_drive]
  next =>
    cases signal <;> simp [select, enter, ControlOutputs.wire, PerCache.level_get_modify_drive]
  next => cases signal <;> rfl
  next => rw [waitReady]; split <;> rfl
  next => rw [finish]; split <;> cases signal <;> rfl

theorem level_wire_tick :
    ((controller.tick pins).outputs.wire signal).level =
      (controller.outputs.wire signal).level := by
  rw [← controller.level_wire_sample pins signal]
  rcases controller.tick_outcome pins with ⟨-, only⟩ | ⟨-, -, only⟩ | ⟨-, acts⟩
  · rw [only]
  · rw [only, heard, (attended_engineEdge ..).outputs]
  · rw [acts, level_wire_act, (controller.attended_attend pins).outputs]

end Controller

namespace Machine

variable (machine : Machine)

/-- A wire of the machine. -/
def wire (machine : Machine) : Signal → Wire Payload
  | .controller signal => machine.controller.outputs.wire signal
  | .engine signal => machine.datapath.engine.outputs.wire signal
  | .cache kind signal => (machine.cache kind).outputs.wire signal
  | .arrayReady => machine.array.ready.map .flag
  | .pin signal => machine.pins.wire signal

/-- The component that drives a wire, if it is neither the array nor from outside. -/
def Signal.driver? : Signal → Option Component
  | .controller _ => some .controller
  | .engine _ => some .engine
  | .cache kind _ => some (.cache kind)
  | .arrayReady | .pin _ => none

theorem wire_commit (signal : Signal) : machine.commit.wire signal = (machine.wire signal).commit := by
  cases signal with
  | controller signal =>
    cases signal with
    | selectIn kind => cases kind <;> rfl
    | selectOut kind => cases kind <;> rfl
    | _ => rfl
  | engine signal =>
    cases signal with
    | writeEnable kind => cases kind <;> rfl
    | _ => rfl
  | cache kind signal => cases kind <;> cases signal <;> rfl
  | arrayReady => rfl
  | pin signal => cases signal <;> rfl

theorem Component.mem_all (component : Component) : component ∈ all := by
  cases component with
  | cache kind => cases kind <;> decide
  | _ => decide

theorem Component.nodup_all : all.Nodup := by decide

/-- A component drives wires of its own only. -/
theorem wire_tickComponent_of_ne {signal : Signal} {component : Component}
    (other : signal.driver? ≠ some component) :
    (machine.tickComponent component).wire signal = machine.wire signal := by
  cases component with
  | controller =>
    cases signal with
    | controller => exact absurd rfl other
    | _ => rfl
  | engine =>
    cases signal with
    | engine => exact absurd rfl other
    | _ => rfl
  | cache kind =>
    cases signal with
    | cache driver signal =>
      have apart : kind ≠ driver := fun same => other (same ▸ rfl)
      simp only [wire, cache, tickComponent, Datapath.tickCache, PerCache.get_modify, if_neg apart]
    | _ => rfl

/-- And it does not move their levels. -/
theorem level_wire_tickComponent (component : Component) (signal : Signal) :
    ((machine.tickComponent component).wire signal).level = (machine.wire signal).level := by
  by_cases driven : signal.driver? = some component
  · cases signal with
    | controller signal =>
      cases driven
      exact Controller.level_wire_tick ..
    | engine signal =>
      cases driven
      cases signal <;> simp [wire, tickComponent, Datapath.tickEngine, Engine.Outputs.wire]
    | cache kind signal =>
      cases driven
      cases signal <;>
        simp [wire, cache, tickComponent, Datapath.tickCache, CacheOutputs.wire, PerCache.get_modify]
    | arrayReady | pin => cases driven
  · rw [machine.wire_tickComponent_of_ne driven]

theorem level_wire_stepArray (signal : Signal) :
    (machine.stepArray.wire signal).level = (machine.wire signal).level := by
  rw [stepArray_eq]
  cases signal with
  | engine signal => simp only [wire, engine_delivered]
  | cache kind signal => simp only [wire, cache, delivered, Datapath.outputs_deliver]
  | arrayReady => exact congrArg Payload.flag machine.level_ready_arrayTick
  | _ => rfl

/-- The machine in a tick, when everything has been put up and the clock edge is still to
come. -/
def driven (machine : Machine) : Machine := Component.all.foldl tickComponent machine.stepArray

theorem wire_foldl_tickComponent {signal : Signal} {components : List Component}
    (others : ∀ component ∈ components, signal.driver? ≠ some component) :
    (components.foldl tickComponent machine).wire signal = machine.wire signal := by
  induction components generalizing machine with
  | nil => rfl
  | cons component rest ih =>
    have elsewhere := machine.wire_tickComponent_of_ne (others component List.mem_cons_self)
    exact (ih _ fun other member => others other (List.mem_cons_of_mem _ member)).trans elsewhere

/-- A wire that no component drives is left to the array and to the pins. -/
theorem wire_driven_of_none {signal : Signal} (none : signal.driver? = none) :
    machine.driven.wire signal = machine.stepArray.wire signal :=
  machine.stepArray.wire_foldl_tickComponent fun _ _ => none ▸ nofun

/-- On a wire stands what its driver puts up by itself, as if there were no other component. -/
theorem wire_driven_of_driver {signal : Signal} {component : Component}
    (driver : signal.driver? = some component) :
    machine.driven.wire signal = (machine.stepArray.tickComponent component).wire signal := by
  have first : Component.all.Perm (component :: Component.all.erase component) :=
    List.perm_cons_erase component.mem_all
  have reordered : machine.driven =
      (Component.all.erase component).foldl tickComponent
        (machine.stepArray.tickComponent component) := by
    rw [driven]
    exact first.foldl_eq' (fun one _ other _ reached => reached.tickComponent_comm one other) _
  rw [reordered]
  apply wire_foldl_tickComponent
  intro other member same
  cases driver.symm.trans same
  exact Component.nodup_all.not_mem_erase member

theorem level_wire_driven (signal : Signal) :
    (machine.driven.wire signal).level = (machine.wire signal).level := by
  rw [← machine.level_wire_stepArray]
  cases driver : signal.driver? with
  | none => rw [machine.wire_driven_of_none driver]
  | some component =>
    rw [machine.wire_driven_of_driver driver, level_wire_tickComponent]

/-! ## The netlist -/

/-- The wires of the machine as a netlist, all of them on the clock. -/
def netlist (machine : Machine) (code : Payload → UInt64) : Netlist where
  wires := Signal.all.map fun signal => (machine.wire signal).map code
  tracked := List.range wireCount

variable (code : Payload → UInt64)

theorem size_netlist : (machine.netlist code).size = wireCount := List.length_range

/-- The clock edge of the machine is that of its netlist. -/
theorem netlist_commit : machine.commit.netlist code = (machine.netlist code).commit := by
  have all : ∀ wire < (machine.netlist code).wires.length, wire ∈ (machine.netlist code).tracked :=
    fun _ inside => List.mem_range.2 inside
  rw [Netlist.commit_of_tracked all, netlist, netlist, List.map_map]
  simp only [wire_commit]
  rfl

/-- A tick leaves all levels to the clock edge, which shows what has been put up until then. -/
theorem netlist_tick :
    (machine.driven.netlist code).levels = (machine.netlist code).levels ∧
      machine.tick.netlist code = (machine.driven.netlist code).commit := by
  constructor
  · simp [Netlist.levels, netlist, level_wire_driven]
  · rw [← netlist_commit]
    rfl

end Machine

end AccessController
