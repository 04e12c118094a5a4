import AccessController.Proofs.Array.Tick
import AccessController.Proofs.Controller.Running
import AccessController.Proofs.Machine.Tick
import AccessController.Proofs.Program.Cycles

/-!
# Runs under way

A tick has two halves: all components tick and the controller attends to the edges
that it sees; then the controller acts.  `Underway` describes a machine in the course of
a run, between the two halves of a tick or at its end.  What is left of the program, and
the state that it goes on from, can be read off the machine at any time: the contents are
those that the requests and selectors under way lead to (`programState`), and the array
owes results from a start on (`owed`).
-/

namespace AccessController

/-!
## The two halves of a tick

Seen from the middle of a tick, a pulse of the controller has already arrived where it
goes, so there are fewer situations to tell apart than at the end.
-/

namespace Machine

variable (machine : Machine)

/-- The machine in the middle of a tick, when the controller has not acted yet. -/
def attended : Machine where
  controller := (machine.controller.attend machine.controlPins).commit
  datapath := machine.delivered.tick machine.datapathInputs
  array := machine.arrayTick.1.commit
  pins := machine.pins.commit
  cycle := machine.cycle + 1

/-- The machine once the controller has acted. -/
def acted : Machine :=
  { machine with
    controller := (machine.controller.act machine.controller.state.sampled.run).commit }

@[simp] theorem datapath_acted : machine.acted.datapath = machine.datapath := rfl

@[simp] theorem array_acted : machine.acted.array = machine.array := rfl

@[simp] theorem features_attended :
    machine.attended.datapath.engine.features = machine.datapath.engine.features := by
  rw [attended, Datapath.features_tick, engine_delivered]

/-- A tick is its two halves, as long as the controller has not failed and sees no
edge of the engine's ready out of turn. -/
theorem tick_eq_acted (working : machine.controller.state.activity ≠ .failed)
    (heeded : machine.controlPins.engineReady = machine.controller.state.sampled.engineReady ∨
      machine.controller.state.activity = .waiting .engine) :
    machine.tick = machine.attended.acted := by
  have sampled : (machine.controller.attend machine.controlPins).state.sampled =
      machine.controlPins := (machine.controller.attended_attend machine.controlPins).sampled
  rw [tick_eq, Controller.tick_eq_act _ _ working heeded, acted, attended,
    Controller.commit_act_commit, Controller.state_commit, sampled]

end Machine

/-! ## What is left of a program -/

/-- The instruction that a stage executes, if it executes one. -/
def Stage.opcode? : Stage → Option Opcode
  | .transfer operation => some (.transfer operation)
  | .select kind => some (.select kind)
  | .start => some .start
  | .waitReady => some .waitReady
  | _ => none

namespace Controller

variable (controller : Controller)

/-- The instructions behind the one at the program pointer. -/
def behind : List Instruction :=
  controller.program.instructions.drop (controller.state.pointer + 1)

/-- The instructions that are still to take effect. -/
def remaining : List Instruction :=
  match controller.state.stage with
  | .idle | .finish => []
  | .fetch => controller.program.instructions.drop controller.state.pointer
  | .decode | .transfer _ | .select _ | .start | .waitReady =>
    controller.state.instruction :: controller.behind
  | .awaitEngine | .engineDone | .advance => controller.behind

end Controller

namespace Machine

variable (machine : Machine)

/-- The run of the array once it has sampled its start. -/
def begun : Option EchoArray.Run :=
  machine.array.begun machine.controller.outputs.arrayStart.level machine.arrayInputs

/-- The state of the program: what has been asked for has taken effect. -/
def programState : ProgramState where
  contents := machine.datapath.forthcoming machine.datapathInputs
  results := machine.begun.map (·.results)

/-- Whether the wait for a start is still to come. -/
def owed : Bool :=
  machine.begun.isSome || machine.array.state.readyHigh || machine.controller.state.arrayDone

/-- No request is under way. -/
structure Resting : Prop where
  free : machine.controller.Free
  idle : machine.datapath.Idle
  startHigh : machine.controller.state.engineStartHigh = false
  unready : machine.controller.state.sampled.engineReady = false

/-- A request is on the wires. -/
structure Requested : Prop where
  waiting : machine.controller.state.activity = .waiting .engine
  stage : machine.controller.state.stage = .awaitEngine
  idle : machine.datapath.Idle
  startHigh : machine.controller.state.engineStartHigh = true
  unready : machine.controller.state.sampled.engineReady = false

/-- A request is being served. The controller has sampled the ready of the engine
when the answer has no tick left. -/
structure Answered : Prop where
  waiting : machine.controller.state.activity = .waiting .engine
  stage : machine.controller.state.stage = .awaitEngine
  streaming : machine.datapath.Streaming machine.datapathInputs.selectIn
  quiet : machine.datapath.Quiet machine.datapathInputs.selectOut
  startHigh : machine.controller.state.engineStartHigh = false
  ready : machine.controller.state.sampled.engineReady = decide (machine.datapath.ticksLeft = 0)

/-- A machine in the course of a run. -/
structure Underway : Prop where
  run : machine.pins.run = .rest true
  reset : machine.pins.reset = .rest false
  sampledRun : machine.controller.state.sampled.run = true
  sampledReset : machine.controller.state.sampled.reset = false
  fault : machine.controller.state.fault = none
  committed : machine.controller.outputs.commit = machine.controller.outputs
  engineStart : machine.controller.outputs.engineStart =
    .rest machine.controller.state.engineStartHigh
  arrayStart : machine.controller.outputs.arrayStart =
    .rest machine.controller.state.arrayStartHigh
  pulsed : machine.controller.state.arrayStartHigh = true →
    machine.controller.state.stage = .advance
  finish : machine.controller.outputs.finish = .rest false
  started : machine.controller.state.activity ≠ .stopped
  staged : machine.controller.state.stage ≠ .idle
  executes : ∀ opcode, machine.controller.state.stage.opcode? = some opcode →
    machine.controller.state.instruction.operation? = some opcode
  awaits : machine.controller.state.activity = .waiting .array →
    machine.controller.state.stage = .waitReady ∧ machine.controller.state.arrayDone = false
  situation : machine.Resting ∨ machine.Requested ∨ machine.Answered
  ready : machine.array.ready = .rest machine.array.state.readyHigh
  busy : machine.begun.isSome →
    machine.array.state.readyHigh = false ∧ machine.controller.state.arrayDone = false
  raised : machine.array.state.readyHigh = true →
    machine.controller.state.sampled.arrayReady = false ∧
      machine.controller.state.arrayDone = false
  holds : machine.begun.isSome →
    machine.datapath.Holds machine.datapathInputs.selectOut .dataOut

/-- A machine in the middle of a tick, when all pulses have arrived. -/
structure Poised : Prop extends Underway machine where
  unasked : machine.controller.state.engineStartHigh = false
  unstarted : machine.controller.state.arrayStartHigh = false
  quiet : machine.datapath.Quiet machine.datapathInputs.selectOut
  fallen : machine.array.state.previousStart = true → machine.controller.state.stage = .advance

/-- The controller is at the end of the program. -/
def Finishing : Prop :=
  machine.controller.state.activity = .running ∧ machine.controller.state.stage = .finish

/-- The ticks until the array is at rest, as far as the program can see. -/
def arrayTicks : Nat :=
  match machine.begun with
  | some run => run.ticks + 2
  | none => if machine.array.state.readyHigh then 1 else 0

/-- The ticks that the program takes without waiting for the array. -/
def stageTicks : Nat :=
  let features := machine.datapath.engine.features
  let ticks := executionTicks features machine.array.latency
  match machine.controller.state.stage with
  | .idle => 0
  | .finish => 1
  | .fetch => ticks machine.controller.remaining
  | .decode => ticks machine.controller.remaining - 1
  | .transfer _ | .select _ | .start | .waitReady => ticks machine.controller.remaining - 2
  | .awaitEngine =>
    ticks machine.controller.behind +
      if machine.controller.state.engineStartHigh then
        machine.datapathInputs.request.answerTicks features + 2
      else machine.datapath.ticksLeft + 3
  | .engineDone => ticks machine.controller.behind + 2
  | .advance => ticks machine.controller.behind + 1

/-- All ticks until the finish line is high. -/
def ticksLeft : Nat := machine.stageTicks + machine.arrayTicks

/-- One machine goes on with the program where the other one is, some ticks
later. -/
structure Continues (before after : Machine) (ticks : Nat) : Prop where
  underway : after.Underway
  features : after.datapath.engine.features = before.datapath.engine.features
  sequenced : Sequenced after.owed after.controller.remaining
  run :
    ProgramState.run before.datapath.engine.features after.controller.remaining
        after.programState =
      ProgramState.run before.datapath.engine.features before.controller.remaining
        before.programState
  ticks : after.ticksLeft + ticks = before.ticksLeft

variable {machine : Machine}

theorem Resting.move {after : Machine} (resting : machine.Resting)
    (datapath : after.datapath = machine.datapath) (free : after.controller.Free)
    (startHigh : after.controller.state.engineStartHigh =
      machine.controller.state.engineStartHigh)
    (sampled : after.controller.state.sampled = machine.controller.state.sampled) :
    after.Resting where
  free
  idle := datapath ▸ resting.idle
  startHigh := startHigh.trans resting.startHigh
  unready := (congrArg ControlPins.engineReady sampled).trans resting.unready

theorem results_arrayTick : machine.arrayTick.2 = machine.begun.bind EchoArray.Run.due? :=
  EchoArray.results_tick ..

/-- The run that the array has under way behind the first half of a tick. -/
theorem begun_attended (low : machine.attended.controller.outputs.arrayStart = .rest false) :
    machine.attended.begun = machine.begun.bind EchoArray.Run.next? := by
  rw [begun, low, Wire.level_rest, EchoArray.begun_of_low]
  exact EchoArray.underway_tick ..

/-- Ready is high behind a tick with results. -/
theorem array_attended (ready : machine.array.ready = .rest machine.array.state.readyHigh) :
    machine.attended.array.ready = .rest machine.attended.array.state.readyHigh ∧
      machine.attended.array.state.readyHigh = machine.arrayTick.2.isSome := by
  have steady : machine.array.Steady := by
    rw [EchoArray.Steady, ready]
    rfl
  obtain ⟨next, high⟩ := steady.tick machine.controller.outputs.arrayStart.level
    machine.arrayInputs
  exact ⟨congrArg Wire.rest next, high⟩

theorem rests_of_settled (settled : machine.owed = false) :
    machine.begun = none ∧ machine.array.state.readyHigh = false ∧
      machine.controller.state.arrayDone = false := by
  simpa [owed, and_assoc] using settled

/-- The results were stored when ready was raised. -/
theorem Underway.begun_eq_none (underway : machine.Underway)
    (returned : machine.array.state.readyHigh = true ∨ machine.controller.state.arrayDone = true) :
    machine.begun = none := by
  cases begun : machine.begun with
  | none => rfl
  | some run =>
    obtain ⟨low, undone⟩ := underway.busy (by rw [begun]; rfl)
    simp [low, undone] at returned

theorem Underway.resting (underway : machine.Underway)
    (unasked : machine.controller.state.activity ≠ .waiting .engine) : machine.Resting := by
  rcases underway.situation with resting | requested | answered
  · exact resting
  · exact absurd requested.waiting unasked
  · exact absurd answered.waiting unasked

theorem Underway.working (underway : machine.Underway) :
    machine.controller.state.activity ≠ .failed := by
  intro failed
  exact (underway.resting (by simp [failed])).free.working failed

/-- Between two requests the state of the program is that of the datapath. -/
theorem Poised.contents_programState (poised : machine.Poised) (resting : machine.Resting) :
    machine.programState.contents = machine.datapath.contents := by
  have low : machine.datapathInputs.start = false :=
    (congrArg Wire.level poised.engineStart).trans poised.unasked
  exact (poised.quiet.forthcoming_eq low).trans (resting.idle.outcome_eq _)

end Machine

end AccessController
