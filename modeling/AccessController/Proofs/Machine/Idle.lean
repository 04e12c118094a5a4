import AccessController.Proofs.Controller.Placed
import AccessController.Proofs.Controller.Pulses
import AccessController.Proofs.Machine.Dormant
import AccessController.Proofs.Machine.Erasure

/-!
# Idle machines

Whether a machine is idle at the first instruction can be seen from outside (`Idle`).
What cannot be seen, that no pulse is on its way and every wire is where its driver
remembers it, holds after any history (`Consistent`).  So every idle machine that has
come about is ready for a run (`Idle.parked`).
-/

namespace AccessController

namespace Machine

/-- The machine has nothing to do and stands at the first instruction, and all pins are
and have been seen low. -/
structure Idle (machine : Machine) : Prop where
  pins : machine.pins = {}
  sampled : machine.controller.state.sampled = {}
  stage : machine.controller.state.stage = .idle
  pointer : machine.controller.state.pointer = 0
  working : machine.controller.state.activity ≠ .failed
  fault : machine.controller.state.fault = none
  finishLevel : machine.finishLevel = false
  phase : machine.datapath.engine.state.phase = .await
  engineReady : machine.datapath.engine.state.ready = false
  countdown : machine.array.state.countdown = none
  arrayReady : machine.array.state.readyHigh = false
  arrayDone : machine.controller.state.arrayDone = false

/-- Behind the clock edge controller and array remember where their wires are. -/
structure Consistent (machine : Machine) : Prop where
  placed : machine.controller.Placed
  pulsing : machine.controller.Pulsing
  committed : machine.controller.outputs.commit = machine.controller.outputs
  ready : machine.array.ready = .rest machine.array.state.readyHigh

variable {machine : Machine}

theorem consistent_new (program : Program) (features : FeatureTable) (memory : Memory)
    (latency : Nat) : (new { program } { features, memory } { latency }).Consistent where
  placed := ⟨fun _ => rfl, nofun, nofun⟩
  pulsing := ⟨rfl, rfl, nofun, nofun⟩
  committed := rfl
  ready := rfl

theorem consistent_reset : machine.reset.Consistent where
  placed := ⟨fun _ => rfl, nofun, nofun⟩
  pulsing := ⟨rfl, rfl, nofun, nofun⟩
  committed := rfl
  ready := rfl

namespace Consistent

variable (consistent : machine.Consistent)

include consistent

theorem tick : machine.tick.Consistent where
  placed := by
    rw [controller_tick]
    exact (consistent.placed.tick machine.controlPins).move rfl rfl
  pulsing := by
    have pulsing := consistent.pulsing.tick machine.controlPins
    rw [controller_tick]
    exact ⟨pulsing.engineStart, pulsing.arrayStart, pulsing.asked, pulsing.started⟩
  committed := by
    rw [controller_tick]
    rfl
  ready := by
    rw [tick_eq]
    exact (array_attended consistent.ready).1

theorem apply (event : Event) : (machine.apply event).Consistent := by
  cases event with
  | tick => exact consistent.tick
  | reset => exact consistent_reset
  | _ => exact ⟨consistent.placed, consistent.pulsing, consistent.committed, consistent.ready⟩

theorem play (events : List Event) : (machine.play events).Consistent := by
  induction events generalizing machine with
  | nil => exact consistent
  | cons event rest ih => exact ih (consistent.apply event)

end Consistent

theorem Idle.congr {left right : Machine} (alike : left.withoutData = right.withoutData)
    (idle : right.Idle) : left.Idle where
  pins := (eq_of_blind alike (·.pins) fun _ => rfl).trans idle.pins
  sampled := (eq_of_blind alike (·.controller.state.sampled) fun _ => rfl).trans idle.sampled
  stage := (eq_of_blind alike (·.controller.state.stage) fun _ => rfl).trans idle.stage
  pointer := (eq_of_blind alike (·.controller.state.pointer) fun _ => rfl).trans idle.pointer
  working := by
    rw [eq_of_blind alike (·.controller.state.activity) fun _ => rfl]
    exact idle.working
  fault := (eq_of_blind alike (·.controller.state.fault) fun _ => rfl).trans idle.fault
  finishLevel := (eq_of_blind alike Machine.finishLevel fun _ => rfl).trans idle.finishLevel
  phase := (eq_of_blind alike (·.datapath.engine.state.phase) fun _ => rfl).trans idle.phase
  engineReady :=
    (eq_of_blind alike (·.datapath.engine.state.ready) fun _ => rfl).trans idle.engineReady
  countdown := (eq_of_blind alike (·.array.state.countdown) fun _ => rfl).trans idle.countdown
  arrayReady := (eq_of_blind alike (·.array.state.readyHigh) fun _ => rfl).trans idle.arrayReady
  arrayDone := (eq_of_blind alike (·.controller.state.arrayDone) fun _ => rfl).trans idle.arrayDone

theorem idle_new (program : Program) (features : FeatureTable) (memory : Memory) (latency : Nat) :
    (new { program } { features, memory } { latency }).Idle where
  pins := rfl
  sampled := rfl
  stage := rfl
  pointer := rfl
  working := nofun
  fault := rfl
  finishLevel := rfl
  phase := rfl
  engineReady := rfl
  countdown := rfl
  arrayReady := rfl
  arrayDone := rfl

namespace Idle

variable (idle : machine.Idle)

include idle

theorem free (placed : machine.controller.Placed) :
    machine.controller.Free ∧ machine.controller.state.activity ≠ .waiting .array := by
  have elsewhere {stage : Stage} (other : stage ≠ .idle)
      (same : machine.controller.state.stage = stage) : False :=
    other (same.symm.trans idle.stage)
  refine ⟨⟨idle.working, ?_, elsewhere Stage.noConfusion⟩, ?_⟩
  · exact fun waiting => elsewhere Stage.noConfusion (placed.engine waiting)
  · exact fun waiting => elsewhere Stage.noConfusion (placed.array waiting)

/-- An idle machine that has come about waits for run to rise. -/
theorem parked (consistent : machine.Consistent) (handshake : machine.datapath.Handshake) :
    machine.Parked := by
  obtain ⟨free, unawaited⟩ := idle.free consistent.placed
  have wire {α : Type} {wire : Wire α} {level : α} (committed : wire.commit = wire)
      (next : wire.next = level) : wire = .rest level := by
    rw [← committed, Wire.commit, next]
  have engineStartHigh : machine.controller.state.engineStartHigh = false :=
    Bool.eq_false_iff.2 fun high => Stage.noConfusion
      ((consistent.pulsing.asked high).symm.trans idle.stage)
  have arrayStartHigh : machine.controller.state.arrayStartHigh = false :=
    Bool.eq_false_iff.2 fun high => Stage.noConfusion
      ((consistent.pulsing.started high).symm.trans idle.stage)
  have arrayStart : machine.controller.outputs.arrayStart = .rest false :=
    wire (congrArg ControlOutputs.arrayStart consistent.committed)
      (consistent.pulsing.arrayStart.trans arrayStartHigh)
  have finish : machine.controller.outputs.finish.commit = machine.controller.outputs.finish :=
    congrArg ControlOutputs.finish consistent.committed
  exact {
    resting := {
      free
      idle := { handshake with phase := idle.phase, ready_low := idle.engineReady }
      startHigh := engineStartHigh
      unready := by rw [idle.sampled] }
    unawaited
    pointer := idle.pointer
    fault := idle.fault
    pins := idle.pins
    sampledRun := by rw [idle.sampled]
    sampledReset := by rw [idle.sampled]
    committed := consistent.committed
    engineStart :=
      wire (congrArg ControlOutputs.engineStart consistent.committed)
        (consistent.pulsing.engineStart.trans engineStartHigh)
    arrayStart
    arrayStartHigh
    finish := wire finish ((congrArg Wire.level finish).trans idle.finishLevel)
    ready := consistent.ready
    settled := by
      have begun : machine.begun = none := by
        rw [begun, arrayStart, Wire.level_rest, EchoArray.begun_of_low, EchoArray.underway,
          idle.countdown]
        rfl
      rw [owed, begun, idle.arrayReady, idle.arrayDone]
      rfl }

end Idle

end Machine

end AccessController
