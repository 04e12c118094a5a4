import AccessController.Proofs.Machine.Build
import AccessController.Proofs.Machine.Tick

/-!
# The order of ticks and clock edges

A component reads levels only, drives only wires of its own, and no level moves
before the clock edge.  So no component can tell which of the others have ticked
before it (`tickComponent_comm`), the wires may follow the clock one after the
other in any order (`commitSignal_comm`), and the tick of a machine does not
depend on the order that it is carried out in (`tick_eq_of_perm`).
-/

namespace AccessController

universe u

namespace PerCache

variable {α : Type u} (family : PerCache α) (kind other : CacheKind)

theorem modify_comm_of_ne (apart : kind ≠ other) (first second : α → α) :
    (family.modify kind first).modify other second =
      (family.modify other second).modify kind first := by
  apply ext_get
  intro seen
  rw [get_modify, get_modify, get_modify, get_modify]
  by_cases here : kind = seen
  · have elsewhere : other ≠ seen := fun there => apart (here.trans there.symm)
    rw [if_neg elsewhere, if_neg elsewhere]
  · rw [if_neg here, if_neg here]

theorem modify_comm {first second : α → α}
    (comm : ∀ value, second (first value) = first (second value)) :
    (family.modify kind first).modify other second =
      (family.modify other second).modify kind first := by
  by_cases same : kind = other
  · subst same
    apply ext_get
    intro seen
    rw [get_modify, get_modify, get_modify, get_modify]
    split
    · exact comm _
    · rfl
  · exact family.modify_comm_of_ne kind other same first second

end PerCache

/-! ## What a component sees -/

namespace Cache

@[simp] theorem level_ackWire_tick (cache : Cache) (inputs : CacheInputs) :
    (cache.tick inputs).outputs.ack.level = cache.outputs.ack.level := by
  rw [ackWire_tick, Wire.level_drive]

@[simp] theorem level_dataWire_tick (cache : Cache) (inputs : CacheInputs) :
    (cache.tick inputs).outputs.data.level = cache.outputs.data.level := by
  rw [dataWire_tick, dataWire_serve]
  split
  · split <;> rfl
  · rfl

end Cache

namespace Datapath

variable (datapath : Datapath) (inputs : DatapathInputs)

@[simp] theorem engineInputs_tickCache (kind : CacheKind) :
    (datapath.tickCache inputs kind).engineInputs inputs = datapath.engineInputs inputs := by
  have acks : (datapath.tickCache inputs kind).caches.map (·.outputs.ack.level) =
      datapath.caches.map (·.outputs.ack.level) := by
    apply PerCache.ext_get
    intro other
    rw [tickCache, PerCache.get_map, PerCache.get_map, PerCache.get_modify]
    split
    · exact Cache.level_ackWire_tick ..
    · rfl
  have inbound : (datapath.tickCache inputs kind).caches.dataOut.outputs.data.level =
      datapath.caches.dataOut.outputs.data.level := by
    cases kind with
    | dataOut => exact Cache.level_dataWire_tick ..
    | _ => rfl
  rw [engineInputs, engineInputs, acks, inbound]

theorem tickEngine_tickCache (kind : CacheKind) :
    (datapath.tickCache inputs kind).tickEngine inputs =
      (datapath.tickEngine inputs).tickCache inputs kind := by
  rw [tickEngine, engineInputs_tickCache, tickCache, tickCache, cacheInputs_tickEngine]
  rfl

theorem tickCache_comm (kind other : CacheKind) :
    (datapath.tickCache inputs kind).tickCache inputs other =
      (datapath.tickCache inputs other).tickCache inputs kind := by
  by_cases same : kind = other
  · rw [same]
  · have comm := datapath.caches.modify_comm_of_ne kind other same
      (·.tick (datapath.cacheInputs inputs kind)) (·.tick (datapath.cacheInputs inputs other))
    exact congrArg (Datapath.mk datapath.engine) comm

end Datapath

namespace Machine

variable (machine : Machine)

/-- The controller does not see who has ticked before it. -/
@[simp] theorem controlPins_tickComponent (component : Component) :
    (machine.tickComponent component).controlPins = machine.controlPins := by
  cases component with
  | controller => rfl
  | cache kind => rfl
  | engine =>
    have ready : (machine.datapath.engine.tick
        (machine.datapath.engineInputs machine.datapathInputs)).outputs.ready.level =
          machine.datapath.engine.outputs.ready.level := by
      rw [Engine.readyWire_tick, Wire.level_drive]
    simp only [controlPins, tickComponent, Datapath.tickEngine, ready]

@[simp] theorem datapathInputs_tickComponent (component : Component) :
    (machine.tickComponent component).datapathInputs = machine.datapathInputs := by
  cases component with
  | controller => exact Controller.datapathInputs_tick ..
  | _ => rfl

theorem tickComponent_controller_comm (component : Component) :
    (machine.tickComponent .controller).tickComponent component =
      (machine.tickComponent component).tickComponent .controller := by
  have pins := machine.controlPins_tickComponent component
  have inputs := machine.datapathInputs_tickComponent .controller
  cases component with
  | controller => rfl
  | engine =>
    simp only [tickComponent] at pins inputs ⊢
    rw [inputs, pins]
  | cache kind =>
    simp only [tickComponent] at pins inputs ⊢
    rw [inputs, pins]

/-- The ticks of two components commute. -/
theorem tickComponent_comm (first second : Component) :
    (machine.tickComponent first).tickComponent second =
      (machine.tickComponent second).tickComponent first := by
  have between (component : Component) (datapath : Datapath) :
      ({ machine with datapath } : Machine).datapathInputs = machine.datapathInputs := rfl
  cases first with
  | controller => exact machine.tickComponent_controller_comm second
  | engine =>
    cases second with
    | controller => exact (machine.tickComponent_controller_comm .engine).symm
    | engine => rfl
    | cache kind =>
      have comm := machine.datapath.tickEngine_tickCache machine.datapathInputs kind
      exact congrArg (fun datapath => { machine with datapath }) comm.symm
  | cache kind =>
    cases second with
    | controller => exact (machine.tickComponent_controller_comm (.cache kind)).symm
    | engine =>
      have comm := machine.datapath.tickEngine_tickCache machine.datapathInputs kind
      exact congrArg (fun datapath => { machine with datapath }) comm
    | cache other =>
      have comm := machine.datapath.tickCache_comm machine.datapathInputs kind other
      exact congrArg (fun datapath => { machine with datapath }) comm

end Machine

/-! ## Single wires -/

namespace ControlOutputs

/-- The wires that the controller drives. -/
inductive Signal where
  | engineStart
  | selector
  | address
  | place
  | selectIn (kind : CacheKind)
  | selectOut (kind : CacheKind)
  | arrayStart
  | finish
  deriving Repr, DecidableEq

def Signal.all : List Signal :=
  [.engineStart, .selector, .address, .place, .arrayStart, .finish] ++
    CacheKind.all.map .selectIn ++ CacheKind.all.map .selectOut

/-- The clock edge of one wire. -/
def commitSignal (outputs : ControlOutputs) : Signal → ControlOutputs
  | .engineStart => { outputs with engineStart := outputs.engineStart.commit }
  | .selector => { outputs with selector := outputs.selector.commit }
  | .address => { outputs with address := outputs.address.commit }
  | .place => { outputs with place := outputs.place.commit }
  | .selectIn kind => { outputs with selectIn := outputs.selectIn.modify kind Wire.commit }
  | .selectOut kind => { outputs with selectOut := outputs.selectOut.modify kind Wire.commit }
  | .arrayStart => { outputs with arrayStart := outputs.arrayStart.commit }
  | .finish => { outputs with finish := outputs.finish.commit }

variable (outputs : ControlOutputs)

theorem commitSignal_comm (first second : Signal) :
    (outputs.commitSignal first).commitSignal second =
      (outputs.commitSignal second).commitSignal first := by
  cases first with
  | selectIn kind =>
    cases second with
    | selectIn other =>
      have comm := outputs.selectIn.modify_comm kind other fun wire => Eq.refl wire.commit.commit
      exact congrArg (fun selectIn => { outputs with selectIn }) comm
    | _ => rfl
  | selectOut kind =>
    cases second with
    | selectOut other =>
      have comm := outputs.selectOut.modify_comm kind other fun wire => Eq.refl wire.commit.commit
      exact congrArg (fun selectOut => { outputs with selectOut }) comm
    | _ => rfl
  | _ => cases second <;> rfl

theorem foldl_commitSignal_all : Signal.all.foldl commitSignal outputs = outputs.commit := by
  cases outputs
  rfl

end ControlOutputs

namespace Engine.Outputs

/-- The wires that the engine drives. The place and the outbound unit are one wire
each, whatever the number of their readers. -/
inductive Signal where
  | ready
  | writeEnable (kind : CacheKind)
  | place
  | outbound
  deriving Repr, DecidableEq

def Signal.all : List Signal := [.ready, .place, .outbound] ++ CacheKind.all.map .writeEnable

/-- The clock edge of one wire. -/
def commitSignal (outputs : Outputs) : Signal → Outputs
  | .ready => { outputs with ready := outputs.ready.commit }
  | .writeEnable kind =>
    { outputs with writeEnable := outputs.writeEnable.modify kind Wire.commit }
  | .place => { outputs with place := outputs.place.commit }
  | .outbound => { outputs with outbound := outputs.outbound.commit }

theorem commitSignal_comm (outputs : Outputs) (first second : Signal) :
    (outputs.commitSignal first).commitSignal second =
      (outputs.commitSignal second).commitSignal first := by
  cases first with
  | writeEnable kind =>
    cases second with
    | writeEnable other =>
      have comm := outputs.writeEnable.modify_comm kind other fun wire =>
        Eq.refl wire.commit.commit
      exact congrArg (fun writeEnable => { outputs with writeEnable }) comm
    | _ => rfl
  | _ => cases second <;> rfl

theorem foldl_commitSignal_all (outputs : Outputs) :
    Signal.all.foldl commitSignal outputs =
      { ready := outputs.ready.commit
        writeEnable := outputs.writeEnable.map Wire.commit
        place := outputs.place.commit
        outbound := outputs.outbound.commit } := by
  cases outputs
  rfl

end Engine.Outputs

namespace CacheOutputs

/-- The wires that a cache drives. -/
inductive Signal where
  | ack
  | data
  deriving Repr, DecidableEq

def Signal.all : List Signal := [.ack, .data]

/-- The clock edge of one wire. -/
def commitSignal (outputs : CacheOutputs) : Signal → CacheOutputs
  | .ack => { outputs with ack := outputs.ack.commit }
  | .data => { outputs with data := outputs.data.commit }

end CacheOutputs

namespace ExternalPins

/-- The pins. -/
inductive Signal where
  | run
  | pause
  | reset
  deriving Repr, DecidableEq

def Signal.all : List Signal := [.run, .pause, .reset]

/-- The clock edge of one pin. -/
def commitSignal (pins : ExternalPins) : Signal → ExternalPins
  | .run => { pins with run := pins.run.commit }
  | .pause => { pins with pause := pins.pause.commit }
  | .reset => { pins with reset := pins.reset.commit }

end ExternalPins

namespace Machine

/-- The wires of the machine by their drivers. -/
inductive Signal where
  | controller (signal : ControlOutputs.Signal)
  | engine (signal : Engine.Outputs.Signal)
  | cache (kind : CacheKind) (signal : CacheOutputs.Signal)
  | arrayReady
  | pin (signal : ExternalPins.Signal)
  deriving Repr, DecidableEq

/-- All wires. -/
def Signal.all : List Signal :=
  ControlOutputs.Signal.all.map .controller ++ Engine.Outputs.Signal.all.map .engine ++
    CacheKind.all.flatMap (fun kind => CacheOutputs.Signal.all.map (.cache kind)) ++
    .arrayReady :: ExternalPins.Signal.all.map .pin

example : Signal.all.length = wireCount := rfl

/-- No wire has been left out. -/
theorem Signal.mem_all (signal : Signal) : signal ∈ all := by
  cases signal with
  | controller signal =>
    cases signal with
    | selectIn kind => cases kind <;> decide
    | selectOut kind => cases kind <;> decide
    | _ => decide
  | engine signal =>
    cases signal with
    | writeEnable kind => cases kind <;> decide
    | _ => decide
  | cache kind signal => cases kind <;> cases signal <;> decide
  | arrayReady => decide
  | pin signal => cases signal <;> decide

variable (machine : Machine)

/-- The clock edge of one wire. -/
def commitSignal (machine : Machine) : Signal → Machine
  | .controller signal =>
    { machine with controller.outputs := machine.controller.outputs.commitSignal signal }
  | .engine signal =>
    { machine with datapath.engine.outputs := machine.datapath.engine.outputs.commitSignal signal }
  | .cache kind signal =>
    { machine with
      datapath.caches := machine.datapath.caches.modify kind fun cache =>
        { cache with outputs := cache.outputs.commitSignal signal } }
  | .arrayReady => { machine with array.ready := machine.array.ready.commit }
  | .pin signal => { machine with pins := machine.pins.commitSignal signal }

theorem commitSignal_comm (first second : Signal) :
    (machine.commitSignal first).commitSignal second =
      (machine.commitSignal second).commitSignal first := by
  cases first with
  | controller signal =>
    cases second with
    | controller other =>
      have comm := machine.controller.outputs.commitSignal_comm signal other
      exact congrArg (fun outputs => { machine with controller.outputs := outputs }) comm
    | _ => rfl
  | engine signal =>
    cases second with
    | engine other =>
      have comm := machine.datapath.engine.outputs.commitSignal_comm signal other
      exact congrArg (fun outputs => { machine with datapath.engine.outputs := outputs }) comm
    | _ => rfl
  | cache kind signal =>
    cases second with
    | cache other driven =>
      let edge (signal : CacheOutputs.Signal) (cache : Cache) : Cache :=
        { cache with outputs := cache.outputs.commitSignal signal }
      have edges (cache : Cache) :
          edge driven (edge signal cache) = edge signal (edge driven cache) := by
        cases signal <;> cases driven <;> rfl
      have comm := machine.datapath.caches.modify_comm kind other edges
      exact congrArg (fun caches => { machine with datapath.caches := caches }) comm
    | _ => rfl
  | arrayReady => cases second <;> rfl
  | pin signal =>
    cases second with
    | pin other => cases signal <;> cases other <;> rfl
    | _ => rfl

theorem foldl_commitSignal_controller (signals : List ControlOutputs.Signal) :
    (signals.map Signal.controller).foldl commitSignal machine =
      { machine with
        controller.outputs := signals.foldl ControlOutputs.commitSignal
          machine.controller.outputs } := by
  induction signals generalizing machine with
  | nil => rfl
  | cons signal rest ih =>
    rw [List.map_cons, List.foldl_cons, ih]
    rfl

theorem foldl_commitSignal_engine (signals : List Engine.Outputs.Signal) :
    (signals.map Signal.engine).foldl commitSignal machine =
      { machine with
        datapath.engine.outputs := signals.foldl Engine.Outputs.commitSignal
          machine.datapath.engine.outputs } := by
  induction signals generalizing machine with
  | nil => rfl
  | cons signal rest ih =>
    rw [List.map_cons, List.foldl_cons, ih]
    rfl

theorem foldl_commitSignal_cache (kinds : List CacheKind) :
    (kinds.flatMap fun kind => CacheOutputs.Signal.all.map (Signal.cache kind)).foldl
        commitSignal machine =
      { machine with
        datapath.caches := kinds.foldl (fun caches kind => caches.modify kind Cache.commit)
          machine.datapath.caches } := by
  induction kinds generalizing machine with
  | nil => rfl
  | cons kind rest ih =>
    have edges : (CacheOutputs.Signal.all.map (Signal.cache kind)).foldl commitSignal machine =
        { machine with
          datapath.caches := machine.datapath.caches.modify kind Cache.commit } := by
      cases kind <;> rfl
    rw [List.flatMap_cons, List.foldl_append, edges, ih]
    rfl

/-- When every wire has followed the clock, so has the machine. -/
theorem foldl_commitSignal_all : Signal.all.foldl commitSignal machine = machine.commit := by
  rw [Signal.all, List.foldl_append, List.foldl_append, List.foldl_append,
    foldl_commitSignal_controller, ControlOutputs.foldl_commitSignal_all,
    foldl_commitSignal_engine, Engine.Outputs.foldl_commitSignal_all, foldl_commitSignal_cache]
  rfl

/-- In whatever order the components of a machine tick once the array has, and in
whatever order the wires follow the clock, the machine is the same behind the
tick. -/
theorem tick_eq_of_perm {components : List Component} {signals : List Signal}
    (ticked : components.Perm Component.all) (committed : signals.Perm Signal.all) :
    { signals.foldl commitSignal (components.foldl tickComponent machine.stepArray) with
      cycle := machine.cycle + 1 } = machine.tick := by
  have ticks : components.foldl tickComponent machine.stepArray =
      Component.all.foldl tickComponent machine.stepArray := by
    apply ticked.foldl_eq'
    intro first _ second _ reached
    exact reached.tickComponent_comm first second
  have edges (reached : Machine) : signals.foldl commitSignal reached = reached.commit := by
    rw [← foldl_commitSignal_all]
    apply committed.foldl_eq'
    intro first _ second _ between
    exact between.commitSignal_comm first second
  rw [ticks, edges]
  rfl

/-- With a request on its way to the engine everything may happen backwards. -/
theorem tick_eq_of_reverse :
    ∃ machine, build? { engine := { memorySize := 64 } } (.singleLoad 2 5) = .ok machine ∧
      let asked := (List.range 3).foldl (fun reached _ => reached.tick) (machine.setRun true)
      asked.datapathInputs.start = true ∧
        Component.all.reverse.Perm Component.all ∧ Signal.all.reverse.Perm Signal.all ∧
        { Signal.all.reverse.foldl commitSignal
            (Component.all.reverse.foldl tickComponent asked.stepArray) with
          cycle := asked.cycle + 1 } = asked.tick := by
  refine ⟨_, rfl, ?_⟩
  intro asked
  have components := Component.all.reverse_perm
  have signals := Signal.all.reverse_perm
  exact ⟨by decide +kernel, components, signals, asked.tick_eq_of_perm components signals⟩

end Machine

end AccessController
