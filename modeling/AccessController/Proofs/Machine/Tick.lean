import AccessController.Machine.Basic
import AccessController.Proofs.Controller.Tick
import AccessController.Proofs.Datapath.Delivery

/-!
# What a tick of the machine does

The parts of the machine tick side by side: each of them sees the levels that
the wires had before the tick, and only the results of the array reach the
datapath at once (`tick_eq`).
-/

namespace AccessController

namespace Machine

variable (machine : Machine)

/-- The datapath as it is once the results of the array are stored. -/
def delivered : Datapath := machine.datapath.deliver machine.arrayTick.2

theorem datapathInputs_eq :
    machine.datapathInputs = machine.controller.outputs.datapathInputs := rfl

theorem stepArray_eq :
    machine.stepArray =
      { machine with array := machine.arrayTick.1, datapath := machine.delivered } := by
  rw [stepArray, delivered]
  cases machine.arrayTick.2 with
  | none => rfl
  | some values =>
    simp only [storeResults, Datapath.deliver, fittingResults, cache]
    cases machine.datapath.storeResults .dataOut _ <;> rfl

theorem foldl_tickComponent_cache (kinds : List CacheKind) :
    (kinds.map Component.cache).foldl tickComponent machine =
      { machine with
        datapath := kinds.foldl (Datapath.tickCache machine.datapathInputs) machine.datapath } := by
  induction kinds generalizing machine with
  | nil => rfl
  | cons kind rest ih =>
    rw [List.map_cons, List.foldl_cons, ih]
    rfl

@[simp] theorem engine_delivered : machine.delivered.engine = machine.datapath.engine :=
  Datapath.engine_deliver ..

@[simp] theorem level_ready_arrayTick :
    machine.arrayTick.1.ready.level = machine.array.ready.level := by
  simp only [arrayTick, EchoArray.tick, EchoArray.lowerReady, EchoArray.sampleStart,
    EchoArray.countDown]
  grind [Wire.level_drive]

theorem controlPins_stepArray : machine.stepArray.controlPins = machine.controlPins := by
  rw [stepArray_eq, controlPins, controlPins, engine_delivered, level_ready_arrayTick]

/-- The tick of the machine, part by part. -/
theorem tick_eq :
    machine.tick =
      { controller := (machine.controller.tick machine.controlPins).commit
        datapath := machine.delivered.tick machine.datapathInputs
        array := machine.arrayTick.1.commit
        pins := machine.pins.commit
        cycle := machine.cycle + 1 } := by
  have levels : (machine.controller.tick machine.controlPins).outputs.datapathInputs =
      machine.datapathInputs := Controller.datapathInputs_tick ..
  rw [tick, Component.all, List.foldl_cons, List.foldl_cons, foldl_tickComponent_cache]
  simp only [tickComponent, controlPins_stepArray, datapathInputs_eq] at levels ⊢
  rw [stepArray_eq]
  simp only [levels]
  rfl

variable {machine} in
/-- A controller that has sampled ready low sees no edge of an idle engine. -/
theorem engineReady_of_idle (idle : machine.datapath.Idle)
    (unready : machine.controller.state.sampled.engineReady = false) :
    machine.controlPins.engineReady = machine.controller.state.sampled.engineReady :=
  idle.readyWire_low.trans unready.symm

theorem controller_tick :
    machine.tick.controller = (machine.controller.tick machine.controlPins).commit := by
  rw [tick_eq]

theorem datapath_tick :
    machine.tick.datapath = machine.delivered.tick machine.datapathInputs := by
  rw [tick_eq]

end Machine

end AccessController
