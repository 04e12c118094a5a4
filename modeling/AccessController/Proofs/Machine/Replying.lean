import AccessController.Proofs.Controller.Progress
import AccessController.Proofs.Machine.Orderly

/-!
# Answers on their way

Once the engine has taken a request in, its ready rises and falls again, whatever
the controller does in the meantime: the engine counts the ticks of its answer down
(`Replying.tick`).  Both edges are still to come while the answer has ticks left.
-/

namespace AccessController

namespace Machine

variable {machine : Machine}

theorem sampled_tick : machine.tick.controller.state.sampled = machine.controlPins := by
  rw [controller_tick]
  exact Controller.sampled_tick ..

/-- The engine is on its way to the end of an answer. The controller has sampled its
ready as high when the answer has no tick left. -/
structure Replying (machine : Machine) : Prop where
  streaming : machine.datapath.Streaming machine.datapathInputs.selectIn
  ready : machine.controller.state.sampled.engineReady = decide (machine.datapath.ticksLeft = 0)

/-- A request on the wires is taken in. -/
theorem Asked.replying_tick (asked : machine.Asked)
    (selectIn : machine.tick.datapathInputs.selectIn = machine.datapathInputs.selectIn) :
    machine.tick.Replying where
  streaming := by
    rw [selectIn, datapath_tick]
    exact (asked.idle.deliver machine.arrayTick.2).streaming_tick
  ready := by
    have start : machine.datapathInputs.start = true := congrArg Wire.level asked.start
    have left : machine.tick.datapath.ticksLeft =
        machine.datapathInputs.request.answerTicks machine.datapath.engine.features - 1 := by
      rw [datapath_tick, delivered, Datapath.ticksLeft,
        (asked.idle.deliver machine.arrayTick.2).phase_start start, Datapath.features_tick,
        Datapath.engine_deliver]
    have long := machine.datapathInputs.request.three_le_answerTicks
      machine.datapath.engine.features
    have ready : machine.controlPins.engineReady = false := asked.idle.readyWire_low
    rw [sampled_tick, ready, left, decide_eq_false (by omega)]

namespace Replying

variable (replying : machine.Replying)

include replying

theorem engineReady_eq :
    machine.controlPins.engineReady = decide (machine.datapath.ticksLeft = 1) :=
  replying.streaming.readyWire.trans replying.streaming.ready_eq

theorem ticksLeft_pos
    (unended : ¬(machine.controller.state.sampled.engineReady = true ∧
      machine.controlPins.engineReady = false)) :
    0 < machine.datapath.ticksLeft := by
  refine Nat.pos_of_ne_zero fun none => unended ?_
  rw [replying.ready, replying.engineReady_eq, none]
  exact ⟨rfl, rfl⟩

/-- With start low every tick brings the engine nearer to the end of its answer. -/
theorem tick (quiet : machine.datapath.Quiet machine.datapathInputs.selectOut)
    (low : machine.datapathInputs.start = false)
    (unended : ¬(machine.controller.state.sampled.engineReady = true ∧
      machine.controlPins.engineReady = false))
    (selectIn : machine.tick.datapathInputs.selectIn = machine.datapathInputs.selectIn) :
    machine.tick.Replying ∧ machine.tick.datapath.ticksLeft < machine.datapath.ticksLeft := by
  have streaming := replying.streaming.deliver machine.arrayTick.2
  have left : machine.tick.datapath.ticksLeft = machine.datapath.ticksLeft - 1 := by
    have left := streaming.ticksLeft_tick low
    rwa [Datapath.ticksLeft_deliver, ← delivered, ← datapath_tick] at left
  have more := replying.ticksLeft_pos unended
  refine ⟨⟨?_, ?_⟩, by omega⟩
  · rw [selectIn, datapath_tick]
    exact streaming.tick (quiet.deliver machine.arrayTick.2)
  · rw [sampled_tick, replying.engineReady_eq, left]
    exact decide_eq_decide.2 (by omega)

end Replying

end Machine

end AccessController
