import AccessController.Proofs.Controller.Waiting
import AccessController.Proofs.Datapath.Draining
import AccessController.Proofs.Machine.Synchronized

/-!
# Orderly waits for the engine

A line that has been selected is followed by its cache in the tick after, and the
controller takes longer than that to its next request.  So no cache has an output
line to follow while the controller waits for the engine (`Orderly`), whatever the
program is and whatever happens to the machine as long as nothing interferes with
a wait.
-/

namespace AccessController

namespace Machine

/-- In a wait for the engine no selector asks for another output line. -/
structure Orderly (machine : Machine) : Prop where
  synchronized : machine.Synchronized
  committed : machine.controller.outputs.commit = machine.controller.outputs
  quiet : machine.controller.state.activity = .waiting .engine →
    machine.datapath.Quiet machine.datapathInputs.selectOut

variable {machine : Machine}

theorem datapathInputs_tick :
    machine.tick.datapathInputs =
      (machine.controller.tick machine.controlPins).forthcomingInputs := by
  rw [datapathInputs_eq, controller_tick]
  rfl

theorem committed_tick :
    machine.tick.controller.outputs.commit = machine.tick.controller.outputs := by
  rw [controller_tick]
  rfl

theorem datapathInputs_of_sample
    (committed : machine.controller.outputs.commit = machine.controller.outputs)
    (outputs : (machine.controller.tick machine.controlPins).outputs =
      (machine.controller.sample machine.controlPins).outputs) :
    machine.tick.datapathInputs =
      { machine.datapathInputs with
        start := machine.datapathInputs.start &&
          !machine.controller.state.engineStartHigh } := by
  have levels : machine.controller.forthcomingInputs = machine.datapathInputs := by
    rw [Controller.forthcomingInputs, committed]
    rfl
  rw [datapathInputs_tick, Controller.forthcomingInputs, outputs, ← levels]
  exact machine.controller.forthcomingInputs_sample machine.controlPins

/-- What a wait that goes on leaves of the controller. -/
theorem controller_of_waits (waiting : machine.controller.state.activity = .waiting .engine)
    (uninterrupted : ¬machine.Interrupts)
    (waits : machine.tick.controller.state.activity = .waiting .engine) :
    ¬(machine.controller.state.sampled.engineReady = true ∧
        machine.controlPins.engineReady = false) ∧
      machine.controller.tick machine.controlPins =
        { machine.controller.sample machine.controlPins with
          state.arrayDone := machine.controller.state.arrayDone ||
            machine.controller.arrayRises machine.controlPins
          state.stats.waitCycles := machine.controller.state.stats.waitCycles + 1 } := by
  have unstarted : ¬(machine.controller.state.sampled.run = false ∧
      machine.controlPins.run = true) := fun rises => uninterrupted (.inl rises)
  have unreset : ¬(machine.controller.state.sampled.reset = true ∧
      machine.controlPins.reset = false) := fun falls => uninterrupted (.inr falls)
  have unended : ¬(machine.controller.state.sampled.engineReady = true ∧
      machine.controlPins.engineReady = false) := by
    rintro ⟨past, now⟩
    rw [controller_tick] at waits
    exact (Controller.tick_of_ended waiting unstarted unreset past now).1 waits
  exact ⟨unended, Controller.tick_of_unended waiting unstarted unreset unended⟩

/-- A wait that ends has seen ready fall, so the engine is idle. -/
theorem idle_of_ended (served : machine.Served) (uninterrupted : ¬machine.Interrupts)
    (ended : machine.tick.controller.state.activity ≠ .waiting .engine) :
    machine.datapath.Idle := by
  apply served.ended
  cases sampled : machine.controller.state.sampled.engineReady with
  | true => rfl
  | false =>
    obtain ⟨waits, -⟩ := controller_tick_of_waiting served.waiting (by simp [sampled])
      uninterrupted
    exact absurd waits ended

namespace Orderly

variable (orderly : machine.Orderly)

include orderly

theorem forthcomingInputs_eq : machine.controller.forthcomingInputs = machine.datapathInputs := by
  rw [Controller.forthcomingInputs, orderly.committed]
  rfl

/-- A controller that begins to wait has issued a request, and its caches have
followed their selectors. -/
theorem issues (free : machine.controller.state.activity ≠ .waiting .engine)
    (waits : machine.tick.controller.state.activity = .waiting .engine) :
    machine.tick.Asked ∧ (∃ operation, machine.controller.Issues machine.controlPins operation) ∧
      machine.tick.datapath.Quiet machine.datapathInputs.selectOut := by
  have rest : machine.AtRest := by
    rcases orderly.synchronized.situation with rest | asked | served
    · exact rest
    · exact absurd asked.waiting free
    · exact absurd served.waiting free
  have asked : machine.tick.Asked := by
    rcases rest.tick with rest | asked
    · exact absurd waits rest.free.unasked
    · exact asked
  refine ⟨asked, ?_, ?_⟩
  · apply Controller.issues_of_startHigh
    have high := asked.startHigh
    rw [controller_tick] at high
    exact high
  · rw [datapath_tick]
    exact (rest.idle.deliver machine.arrayTick.2).quiet_tick

theorem inputs_of_waits (waiting : machine.controller.state.activity = .waiting .engine)
    (uninterrupted : ¬machine.Interrupts)
    (waits : machine.tick.controller.state.activity = .waiting .engine) :
    machine.tick.datapathInputs =
      { machine.datapathInputs with
        start := machine.datapathInputs.start &&
          !machine.controller.state.engineStartHigh } := by
  obtain ⟨-, controller⟩ := controller_of_waits waiting uninterrupted waits
  exact datapathInputs_of_sample orderly.committed (by rw [controller])

theorem tick (uninterrupted : machine.controller.state.activity = .waiting .engine →
    ¬machine.Interrupts) : machine.tick.Orderly where
  synchronized := orderly.synchronized.tick uninterrupted
  committed := committed_tick
  quiet waits := by
    by_cases waiting : machine.controller.state.activity = .waiting .engine
    · rw [orderly.inputs_of_waits waiting (uninterrupted waiting) waits, datapath_tick]
      exact ((orderly.quiet waiting).deliver machine.arrayTick.2).tick
        (orderly.synchronized.handshake.deliver machine.arrayTick.2)
    · obtain ⟨-, ⟨operation, issues⟩, quiet⟩ := orderly.issues waiting waits
      rw [datapathInputs_tick, issues.forthcomingInputs, orderly.forthcomingInputs_eq]
      exact quiet

theorem outside {other : Machine} (controller : other.controller = machine.controller)
    (datapath : ∃ memory, other.datapath = machine.datapath.withMemory memory) :
    other.Orderly where
  synchronized := orderly.synchronized.outside controller datapath
  committed := by
    rw [controller]
    exact orderly.committed
  quiet waits := by
    obtain ⟨memory, datapath⟩ := datapath
    rw [controller] at waits
    rw [datapathInputs_eq, controller, datapath]
    exact orderly.quiet waits

theorem apply (event : Event)
    (uninterrupted : event = .tick → machine.controller.state.activity = .waiting .engine →
      ¬machine.Interrupts) :
    (machine.apply event).Orderly := by
  cases event with
  | tick => exact orderly.tick (uninterrupted rfl)
  | reset =>
    exact {
      synchronized := orderly.synchronized.reset
      committed := rfl
      quiet := nofun }
  | run level => exact orderly.outside rfl ⟨machine.memory, rfl⟩
  | pause level => exact orderly.outside rfl ⟨machine.memory, rfl⟩
  | resetPin level => exact orderly.outside rfl ⟨machine.memory, rfl⟩
  | write memory => exact orderly.outside rfl ⟨memory, rfl⟩

theorem play {events : List Event} (undisturbed : machine.Undisturbed events) :
    (machine.play events).Orderly := by
  induction events generalizing machine with
  | nil => exact orderly
  | cons event rest ih => exact ih (orderly.apply event undisturbed.1) undisturbed.2

end Orderly

theorem orderly_new (program : Program) (features : FeatureTable) (memory : Memory)
    (array : EchoArray) : (new { program } { features, memory } array).Orderly where
  synchronized := synchronized_new program features memory array
  committed := rfl
  quiet := nofun

end Machine

end AccessController
