import AccessController.Proofs.Datapath.Erasure
import AccessController.Proofs.Machine.History
import AccessController.Proofs.Machine.Lockstep

/-!
# Control does not depend on data

Data goes from memory through the caches and the array and back into memory.  Two
machines that differ in data only are alike without it (`Machine.withoutData`), and
they stay so whatever happens to them.  All that is seen of their control
(`Machine.control`) and every result of a simulation is therefore the same for both.
-/

namespace AccessController

/-! ## The array -/

/-- The array with all that it has taken in erased. -/
def EchoArray.withoutData (array : EchoArray) : EchoArray :=
  { array with state.captured := [], state.lastConfig := none }

theorem EchoArray.withoutData_tick (array : EchoArray) (start : Bool)
    (inputs others : ArrayInputs) :
    (array.tick start inputs).1.withoutData =
      (array.withoutData.tick start others).1.withoutData := by
  have lowered (other : EchoArray) :
      other.lowerReady.withoutData = other.withoutData.lowerReady := by
    have high : other.withoutData.state.readyHigh = other.state.readyHigh := rfl
    rw [lowerReady, lowerReady, high]
    split <;> rfl
  have sampled (other : EchoArray) :
      (other.sampleStart start inputs).withoutData =
        (other.withoutData.sampleStart start others).withoutData := by
    have previous : other.withoutData.state.previousStart = other.state.previousStart := rfl
    have countdown : other.withoutData.state.countdown = other.state.countdown := rfl
    rw [sampleStart, sampleStart, previous, countdown]
    split <;> rfl
  have counted (other : EchoArray) :
      other.countDown.1.withoutData = other.withoutData.countDown.1.withoutData := by
    have countdown : other.withoutData.state.countdown = other.state.countdown := rfl
    rw [countDown, countDown, countdown]
    cases other.state.countdown with
    | none => rfl
    | some ticks => cases ticks <;> rfl
  rw [tick, tick, counted, sampled, lowered, ← counted]
  rfl

namespace Machine

/-! ## The machine -/

/-- The machine with all its data erased. -/
def withoutData (machine : Machine) : Machine :=
  { machine with
    datapath := machine.datapath.withoutData
    array := machine.array.withoutData }

variable (machine : Machine)

theorem withoutData_delivered : machine.delivered.withoutData = machine.datapath.withoutData := by
  rw [delivered]
  cases machine.arrayTick.2 with
  | none => rfl
  | some values =>
    rw [Datapath.deliver]
    split
    next stored => exact machine.datapath.withoutData_storeResults stored
    next => rfl

@[simp] theorem withoutData_withoutData :
    machine.withoutData.withoutData = machine.withoutData := by
  have datapath := machine.datapath.withoutData_withoutData
  have array : machine.array.withoutData.withoutData = machine.array.withoutData := rfl
  simp only [withoutData, datapath, array]

theorem controlPins_withoutData : machine.withoutData.controlPins = machine.controlPins := rfl

/-- Behind a tick it makes no difference that data was erased before it. -/
theorem withoutData_tick : machine.tick.withoutData = machine.withoutData.tick.withoutData := by
  have inputs : machine.withoutData.datapathInputs = machine.datapathInputs := rfl
  have delivered : machine.withoutData.delivered.withoutData = machine.delivered.withoutData := by
    rw [withoutData_delivered, withoutData_delivered]
    exact machine.datapath.withoutData_withoutData
  have datapath : (machine.delivered.tick machine.datapathInputs).withoutData =
      (machine.withoutData.delivered.tick machine.datapathInputs).withoutData := by
    rw [Datapath.withoutData_tick, ← delivered, ← Datapath.withoutData_tick]
  have array : machine.arrayTick.1.commit.withoutData =
      machine.withoutData.arrayTick.1.commit.withoutData :=
    congrArg EchoArray.commit (machine.array.withoutData_tick ..)
  rw [tick_eq, tick_eq, withoutData, withoutData, controlPins_withoutData, inputs, array, datapath]
  rfl

theorem withoutData_reset : machine.reset.withoutData = machine.withoutData.reset := rfl

theorem withoutData_withMemory (memory : Memory) :
    (machine.withMemory memory).withoutData = machine.withoutData.withMemory memory.clear := rfl

/-- Whatever happens, it makes no difference that data was erased before it. -/
theorem withoutData_apply (event : Event) :
    (machine.apply event).withoutData = (machine.withoutData.apply event).withoutData := by
  have same := machine.withoutData_withoutData
  cases event with
  | tick => exact machine.withoutData_tick
  | reset => rw [apply, apply, withoutData_reset, withoutData_reset, same]
  | run level =>
    change machine.withoutData.setRun level = machine.withoutData.withoutData.setRun level
    rw [same]
  | pause level =>
    change machine.withoutData.setPause level = machine.withoutData.withoutData.setPause level
    rw [same]
  | resetPin level =>
    change machine.withoutData.setReset level = machine.withoutData.withoutData.setReset level
    rw [same]
  | write memory => rw [apply, apply, withoutData_withMemory, withoutData_withMemory, same]

/-! ## Two machines -/

section

variable {left right : Machine} (alike : left.withoutData = right.withoutData)

include alike

theorem withoutData_apply_congr (event : Event) :
    (left.apply event).withoutData = (right.apply event).withoutData := by
  rw [withoutData_apply, alike, ← withoutData_apply]

/-- Machines that are alike without data stay so. -/
theorem withoutData_play_congr (events : List Event) :
    (left.play events).withoutData = (right.play events).withoutData := by
  induction events generalizing left right with
  | nil => exact alike
  | cons event rest ih => exact ih (withoutData_apply_congr alike event)

/-- What is blind to data is the same for both. -/
theorem eq_of_blind {α : Type} (observed : Machine → α)
    (blind : ∀ machine, observed machine.withoutData = observed machine) :
    observed left = observed right := by
  rw [← blind left, alike, blind right]

end

/-- Machines that are alike without data run in lockstep. -/
theorem lockstep_withoutData :
    Lockstep fun left right => left.withoutData = right.withoutData where
  tick alike := withoutData_apply_congr alike .tick
  setRun level alike := withoutData_apply_congr alike (.run level)
  finishLevel alike := eq_of_blind alike Machine.finishLevel fun _ => rfl
  timeoutError timeout alike := eq_of_blind alike (timeoutError · timeout) fun _ => rfl
  haltError? alike := eq_of_blind alike Machine.haltError? fun _ => rfl
  stage alike := eq_of_blind alike (·.controller.state.stage) fun _ => rfl

theorem run_congr {left right : Machine} (alike : left.withoutData = right.withoutData)
    (timeout : Nat) :
    (left.run timeout).1.withoutData = (right.run timeout).1.withoutData ∧
      (left.run timeout).2 = (right.run timeout).2 := by
  obtain ⟨ended, outcome⟩ := lockstep_withoutData.run alike timeout
  refine ⟨ended, ?_⟩
  rcases outcome with ⟨error, ours, theirs⟩ | ⟨ours, theirs⟩
  · rw [ours, theirs]
  · rw [ours, theirs, eq_of_blind ended report fun _ => rfl]

/-- Whatever the host does with both, they differ in data only. -/
theorem withoutData_perform_congr {left right : Machine}
    (alike : left.withoutData = right.withoutData) (operation : Operation) :
    (left.perform operation).withoutData = (right.perform operation).withoutData := by
  cases operation with
  | event event => exact withoutData_apply_congr alike event
  | simulate timeout => exact (run_congr alike timeout).1

/-- All that is seen of a machine apart from its data: the state of the controller and
of the engine, the levels of the wires and what is put up for the clock edge, the output
lines, what every component has counted, and the pins. -/
structure Control where
  controller : Controller
  engine : Engine.State
  ready : Wire Bool
  writeEnable : PerCache (Wire Bool)
  place : Wire Nat
  acks : PerCache (Wire Bool)
  outputLines : PerCache Nat
  refusedSelects : PerCache (Option (Nat × SelectRefusal))
  cacheStats : PerCache CacheStats
  arrayReady : Wire Bool
  countdown : Option Nat
  runs : Nat
  pins : ExternalPins
  cycle : Nat

def control (machine : Machine) : Control where
  controller := machine.controller
  engine := machine.datapath.engine.state
  ready := machine.datapath.engine.outputs.ready
  writeEnable := machine.datapath.engine.outputs.writeEnable
  place := machine.datapath.engine.outputs.place
  acks := machine.datapath.caches.map (·.outputs.ack)
  outputLines := machine.datapath.caches.map (·.outputLine)
  refusedSelects := machine.datapath.caches.map (·.refusedSelect)
  cacheStats := machine.datapath.caches.map (·.stats)
  arrayReady := machine.array.ready
  countdown := machine.array.state.countdown
  runs := machine.array.state.runs
  pins := machine.pins
  cycle := machine.cycle

/-- Two machines that differ in data only are controlled alike whatever happens to both,
and a simulation without a report file has the same result for both. -/
theorem control_eq_of_withoutData_eq {left right : Machine}
    (alike : left.withoutData = right.withoutData) (events : List Event) :
    (left.play events).control = (right.play events).control ∧
      ∀ {m : Type → Type} [Monad m] (files : FileAccess m) (settings : RunSettings),
        settings.report = none →
        ∃ ours theirs result,
          simulate files settings (left.play events) = pure (ours, result) ∧
            simulate files settings (right.play events) = pure (theirs, result) ∧
            ours.control = theirs.control := by
  have played := withoutData_play_congr alike events
  refine ⟨eq_of_blind played control fun _ => rfl, ?_⟩
  intro m _ files settings unreported
  obtain ⟨ended, outcome⟩ := run_congr played settings.timeout
  rcases ours : (left.play events).run settings.timeout with ⟨mine, result⟩
  rcases theirs : (right.play events).run settings.timeout with ⟨other, same⟩
  rw [ours, theirs] at ended outcome
  dsimp only at ended outcome
  subst outcome
  have control := eq_of_blind ended control fun _ => rfl
  rw [simulate, simulate, ours, theirs, unreported]
  cases result with
  | error error => exact ⟨mine, other, _, rfl, rfl, control⟩
  | ok report => exact ⟨mine, other, _, rfl, rfl, control⟩

/-- Two loads of different values take the same course. -/
theorem control_eq_of_twoLoads :
    let events : List Event := .run true :: List.replicate 20 .tick
    ∃ machine, build? { engine := { memorySize := 16 } } (.singleLoad 2 4) = .ok machine ∧
      let left := machine.withMemory (.zeros 16)
      let right := machine.withMemory ⟨Array.replicate 16 7⟩
      left.withoutData = right.withoutData ∧
        (left.play events).datapath.contents.lines ≠ (right.play events).datapath.contents.lines ∧
        (left.play events).control = (right.play events).control ∧
        ∀ {m : Type → Type} [Monad m] (files : FileAccess m), ∃ ours theirs result,
          simulate files {} (left.play events) = pure (ours, result) ∧
            simulate files {} (right.play events) = pure (theirs, result) ∧
            ours.control = theirs.control := by
  intro events
  obtain ⟨machine, built, apart⟩ :
      ∃ machine, build? { engine := { memorySize := 16 } } (.singleLoad 2 4) = .ok machine ∧
        ((machine.withMemory (.zeros 16)).play events).datapath.contents.lines ≠
          ((machine.withMemory ⟨Array.replicate 16 7⟩).play events).datapath.contents.lines :=
    ⟨_, rfl, by decide +kernel⟩
  have alike : (machine.withMemory (.zeros 16)).withoutData =
      (machine.withMemory ⟨Array.replicate 16 7⟩).withoutData := rfl
  obtain ⟨control, simulated⟩ := control_eq_of_withoutData_eq alike events
  exact ⟨machine, built, alike, apart, control, fun files => simulated files {} rfl⟩

end Machine

end AccessController
