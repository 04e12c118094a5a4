import AccessController.Proofs.Machine.Underway

/-!
# The second half of a tick in the course of a run

The controller acts.  Fetching, decoding and retiring an instruction change
nothing but the controller itself; the step that executes it puts a request, a
selector or a start on the wires, or passes a wait for the array.
-/

namespace AccessController

/-- What a controller that only moves on leaves alone. -/
structure Controller.Moves (before after : Controller) : Prop where
  program : after.program = before.program
  outputs : after.outputs = before.outputs
  sampled : after.state.sampled = before.state.sampled
  engineStartHigh : after.state.engineStartHigh = before.state.engineStartHigh
  arrayStartHigh : after.state.arrayStartHigh = before.state.arrayStartHigh
  fault : after.state.fault = before.state.fault
  known : after.state.arrayDone = true → before.state.arrayDone = true

namespace Machine

variable {machine : Machine}

/-- The ticks that the second half of a tick takes off. -/
def actedTicks (machine : Machine) : Nat :=
  if machine.controller.state.activity = .running ∧
      (machine.controller.state.stage = .waitReady → machine.controller.state.arrayDone = true) then
    1
  else 0

theorem begun_acted
    (arrayStart : machine.acted.controller.outputs.arrayStart =
      machine.controller.outputs.arrayStart) :
    machine.acted.begun = machine.begun := by
  rw [begun, arrayStart]
  rfl

theorem owed_acted
    (arrayStart : machine.acted.controller.outputs.arrayStart =
      machine.controller.outputs.arrayStart)
    (done : machine.acted.controller.state.arrayDone = machine.controller.state.arrayDone) :
    machine.acted.owed = machine.owed := by
  rw [owed, owed, begun_acted arrayStart, done]
  rfl

theorem datapathInputs_acted
    (outputs : machine.acted.controller.outputs = machine.controller.outputs) :
    machine.acted.datapathInputs = machine.datapathInputs := by
  rw [datapathInputs_eq, outputs]
  rfl

theorem programState_acted
    (outputs : machine.acted.controller.outputs = machine.controller.outputs) :
    machine.acted.programState = machine.programState := by
  rw [programState, programState, begun_acted (by rw [outputs]), datapathInputs_acted outputs]
  rfl

theorem arrayTicks_acted
    (arrayStart : machine.acted.controller.outputs.arrayStart =
      machine.controller.outputs.arrayStart) :
    machine.acted.arrayTicks = machine.arrayTicks := by
  rw [arrayTicks, arrayTicks, begun_acted arrayStart]
  rfl

theorem stageTicks_acted
    (stage : machine.acted.controller.state.stage = machine.controller.state.stage)
    (unasked : machine.controller.state.stage ≠ .awaitEngine)
    (remaining : machine.acted.controller.remaining = machine.controller.remaining)
    (behind : machine.acted.controller.behind = machine.controller.behind) :
    machine.acted.stageTicks = machine.stageTicks := by
  rw [stageTicks, stageTicks, stage, remaining, behind]
  cases now : machine.controller.state.stage with
  | awaitEngine => exact absurd now unasked
  | _ => rfl

namespace Poised

variable (poised : machine.Poised)

include poised

theorem controller_acted : machine.acted.controller = (machine.controller.act true).commit := by
  rw [acted, poised.sampledRun]

theorem outputs_acted
    (outputs : (machine.controller.act true).outputs = machine.controller.outputs) :
    machine.acted.controller.outputs = machine.controller.outputs := by
  rw [poised.controller_acted]
  exact (congrArg ControlOutputs.commit outputs).trans poised.committed

/-- Behind a step the machine is in the course of the run, if the wires agree with
the state of the controller. -/
theorem underway_acted
    (sampled : machine.acted.controller.state.sampled = machine.controller.state.sampled)
    (fault : machine.acted.controller.state.fault = machine.controller.state.fault)
    (engineStart : machine.acted.controller.outputs.engineStart =
      .rest machine.acted.controller.state.engineStartHigh)
    (arrayStart : machine.acted.controller.outputs.arrayStart =
      .rest machine.acted.controller.state.arrayStartHigh)
    (finish : machine.acted.controller.outputs.finish = .rest false)
    (known : machine.acted.controller.state.arrayDone = true →
      machine.controller.state.arrayDone = true)
    (pulsed : machine.acted.controller.state.arrayStartHigh = true →
      machine.acted.controller.state.stage = .advance)
    (started : machine.acted.controller.state.activity ≠ .stopped)
    (staged : machine.acted.controller.state.stage ≠ .idle)
    (executes : ∀ opcode, machine.acted.controller.state.stage.opcode? = some opcode →
      machine.acted.controller.state.instruction.operation? = some opcode)
    (awaits : machine.acted.controller.state.activity = .waiting .array →
      machine.acted.controller.state.stage = .waitReady ∧
        machine.acted.controller.state.arrayDone = false)
    (situation : machine.acted.Resting ∨ machine.acted.Requested ∨ machine.acted.Answered)
    (busy : machine.acted.begun.isSome →
      machine.array.state.readyHigh = false ∧ machine.controller.state.arrayDone = false)
    (holds : machine.acted.begun.isSome →
      machine.datapath.Holds machine.acted.datapathInputs.selectOut .dataOut) :
    machine.acted.Underway := by
  have unknown (before : machine.controller.state.arrayDone = false) :
      machine.acted.controller.state.arrayDone = false :=
    Bool.eq_false_iff.2 fun after => Bool.eq_false_iff.1 before (known after)
  constructor
  case run => exact poised.run
  case reset => exact poised.reset
  case sampledRun => rw [sampled, poised.sampledRun]
  case sampledReset => rw [sampled, poised.sampledReset]
  case fault => rw [fault, poised.fault]
  case committed =>
    rw [poised.controller_acted]
    rfl
  case engineStart => exact engineStart
  case arrayStart => exact arrayStart
  case pulsed => exact pulsed
  case finish => exact finish
  case started => exact started
  case staged => exact staged
  case executes => exact executes
  case awaits => exact awaits
  case situation => exact situation
  case ready => exact poised.ready
  case busy =>
    intro left
    obtain ⟨low, undone⟩ := busy left
    exact ⟨low, unknown undone⟩
  case raised =>
    intro high
    obtain ⟨unseen, undone⟩ := poised.raised high
    rw [sampled]
    exact ⟨unseen, unknown undone⟩
  case holds => exact holds

/-- A step that drives no wire changes the program by what it makes of the
controller. -/
theorem continues_of_moves (moves : machine.controller.Moves (machine.controller.act true))
    (started : machine.acted.controller.state.activity ≠ .stopped)
    (staged : machine.acted.controller.state.stage ≠ .idle)
    (executes : ∀ opcode, machine.acted.controller.state.stage.opcode? = some opcode →
      machine.acted.controller.state.instruction.operation? = some opcode)
    (awaits : machine.acted.controller.state.activity = .waiting .array →
      machine.acted.controller.state.stage = .waitReady ∧
        machine.acted.controller.state.arrayDone = false)
    (situation : machine.acted.Resting ∨ machine.acted.Answered)
    (sequenced : Sequenced machine.acted.owed machine.acted.controller.remaining)
    (run :
      ProgramState.run machine.datapath.engine.features machine.acted.controller.remaining
          machine.programState =
        ProgramState.run machine.datapath.engine.features machine.controller.remaining
          machine.programState)
    {ticks : Nat} (taken : machine.acted.stageTicks + ticks = machine.stageTicks) :
    machine.Continues machine.acted ticks := by
  have controller := poised.controller_acted
  have outputs := poised.outputs_acted moves.outputs
  have begun : machine.acted.begun = machine.begun := begun_acted (by rw [outputs])
  have engineHigh : machine.acted.controller.state.engineStartHigh = false := by
    rw [controller]
    exact moves.engineStartHigh.trans poised.unasked
  have arrayHigh : machine.acted.controller.state.arrayStartHigh = false := by
    rw [controller]
    exact moves.arrayStartHigh.trans poised.unstarted
  have known : machine.acted.controller.state.arrayDone = true →
      machine.controller.state.arrayDone = true := by
    rw [controller]
    exact moves.known
  constructor
  case underway =>
    refine poised.underway_acted ?_ ?_ ?_ ?_ ?_ known ?_ started staged executes awaits ?_ ?_ ?_
    · rw [controller]
      exact moves.sampled
    · rw [controller]
      exact moves.fault
    · rw [outputs, engineHigh, poised.engineStart, poised.unasked]
    · rw [outputs, arrayHigh, poised.arrayStart, poised.unstarted]
    · rw [outputs, poised.finish]
    · simp [arrayHigh]
    · rcases situation with resting | answered
      · exact .inl resting
      · exact .inr (.inr answered)
    · rw [begun]
      exact poised.busy
    · rw [begun, datapathInputs_acted outputs]
      exact poised.holds
  case features => rfl
  case sequenced => exact sequenced
  case run => rw [programState_acted outputs, run]
  case ticks =>
    rw [ticksLeft, ticksLeft, arrayTicks_acted (by rw [outputs]), Nat.add_right_comm, taken]

theorem resting_acted (resting : machine.Resting)
    (moves : machine.controller.Moves (machine.controller.act true))
    (free : (machine.controller.act true).Free) : machine.acted.Resting := by
  have controller := poised.controller_acted
  refine resting.move rfl ?_ ?_ ?_
  · rw [controller]
    exact free.move rfl free.stage
  · rw [controller]
    exact moves.engineStartHigh
  · rw [controller]
    exact moves.sampled

theorem continues_of_enter (resting : machine.Resting) {stage : Stage} {pointer : Nat}
    {instruction : Instruction} {stats : ControlStats}
    (act : machine.controller.act true =
      { machine.controller with
        state.stage := stage
        state.pointer := pointer
        state.instruction := instruction
        state.stats := stats })
    (staged : stage ≠ .idle) (unasked : stage ≠ .awaitEngine)
    (executes : ∀ opcode, stage.opcode? = some opcode → instruction.operation? = some opcode)
    (awaits : machine.controller.state.activity = .waiting .array → stage = .waitReady)
    (sequenced : Sequenced machine.owed machine.acted.controller.remaining)
    (run :
      ProgramState.run machine.datapath.engine.features machine.acted.controller.remaining
          machine.programState =
        ProgramState.run machine.datapath.engine.features machine.controller.remaining
          machine.programState)
    {ticks : Nat} (taken : machine.acted.stageTicks + ticks = machine.stageTicks) :
    machine.Continues machine.acted ticks := by
  have moves : machine.controller.Moves (machine.controller.act true) := by
    rw [act]
    exact ⟨rfl, rfl, rfl, rfl, rfl, rfl, id⟩
  have controller := poised.controller_acted
  have free : (machine.controller.act true).Free := by
    rw [act]
    exact resting.free.move rfl unasked
  have outputs := poised.outputs_acted moves.outputs
  rw [act] at controller
  refine poised.continues_of_moves moves ?_ ?_ ?_ ?_
    (.inl (poised.resting_acted resting moves free)) ?_ run taken
  · rw [controller]
    exact poised.started
  · rw [controller]
    exact staged
  · rw [controller]
    exact executes
  · rw [controller]
    exact fun awaited => ⟨awaits awaited, (poised.awaits awaited).2⟩
  · rw [owed_acted (by rw [outputs]) (by rw [controller]; rfl)]
    exact sequenced

theorem continues_of_halted
    (halted : machine.controller.state.activity = .paused ∨
      machine.controller.state.activity = .waiting .array)
    (resting : machine.Resting)
    (sequenced : Sequenced machine.owed machine.controller.remaining) :
    machine.Continues machine.acted 0 := by
  have act : ∃ stats, machine.controller.act true =
      { machine.controller with state.stats := stats } := by
    rcases halted with paused | waiting
    · exact ⟨_, by rw [Controller.act, paused]⟩
    · exact ⟨_, by rw [Controller.act, waiting]⟩
  obtain ⟨stats, act⟩ := act
  have controller := poised.controller_acted
  rw [act] at controller
  have remaining : machine.acted.controller.remaining = machine.controller.remaining := by
    rw [controller]
    rfl
  refine poised.continues_of_enter resting act poised.staged resting.free.stage poised.executes
    (fun awaited => (poised.awaits awaited).1) ?_ ?_ ?_
  · rw [remaining]
    exact sequenced
  · rw [remaining]
  · exact stageTicks_acted (by rw [controller]; rfl) resting.free.stage remaining
      (by rw [controller]; rfl)

/-- A controller that waits for the engine leaves it to its answer. -/
theorem continues_of_answered (answered : machine.Answered)
    (sequenced : Sequenced machine.owed machine.controller.remaining) :
    machine.Continues machine.acted 0 := by
  have controller := poised.controller_acted
  have act : machine.controller.act true =
      { machine.controller with
        state.stats.waitCycles := machine.controller.state.stats.waitCycles + 1 } := by
    rw [Controller.act, answered.waiting]
  have moves : machine.controller.Moves (machine.controller.act true) := by
    rw [act]
    exact ⟨rfl, rfl, rfl, rfl, rfl, rfl, id⟩
  have outputs := poised.outputs_acted moves.outputs
  have inputs := datapathInputs_acted outputs
  rw [act] at controller
  have remaining : machine.acted.controller.remaining = machine.controller.remaining := by
    rw [controller]
    rfl
  have behind : machine.acted.controller.behind = machine.controller.behind := by
    rw [controller]
    rfl
  have next : machine.acted.Answered := by
    constructor
    case waiting => rw [controller]; exact answered.waiting
    case stage => rw [controller]; exact answered.stage
    case streaming => rw [inputs]; exact answered.streaming
    case quiet => rw [inputs]; exact answered.quiet
    case startHigh => rw [controller]; exact answered.startHigh
    case ready => rw [controller]; exact answered.ready
  refine poised.continues_of_moves moves ?_ ?_ ?_ ?_ (.inr next) ?_ ?_ ?_
  · simp [next.waiting]
  · simp [next.stage]
  · rw [next.stage]
    rintro _ ⟨⟩
  · simp [next.waiting]
  · rw [owed_acted (by rw [outputs]) (by rw [controller]; rfl), remaining]
    exact sequenced
  · rw [remaining]
  · rw [stageTicks, stageTicks, next.stage, answered.stage, next.startHigh, answered.startHigh,
      behind]
    rfl

theorem continues_of_fetch (running : machine.controller.state.activity = .running)
    (stage : machine.controller.state.stage = .fetch) (resting : machine.Resting)
    (sequenced : Sequenced machine.owed machine.controller.remaining) :
    machine.Continues machine.acted 1 := by
  have controller := poised.controller_acted
  have act : machine.controller.act true = machine.controller.fetch := by
    rw [Controller.act_of_running running, Controller.step, stage]
  have before : machine.controller.remaining =
      machine.controller.program.instructions.drop machine.controller.state.pointer := by
    rw [Controller.remaining, stage]
  rw [Controller.fetch] at act
  cases fetched : machine.controller.program.word? machine.controller.state.pointer with
  | none =>
    rw [fetched] at act
    rw [act] at controller
    have after : machine.acted.controller.remaining = [] := by
      rw [controller]
      rfl
    rw [Program.drop_instructions_of_none fetched] at before
    rw [before] at sequenced
    refine poised.continues_of_enter resting act
      Stage.noConfusion Stage.noConfusion (by rintro _ ⟨⟩) (by simp [running]) ?_ ?_ ?_
    · rw [after]
      exact sequenced
    · rw [after, before]
    · have finish : machine.acted.controller.state.stage = .finish := by
        rw [controller]
        rfl
      rw [stageTicks, stageTicks, stage, finish, before]
      rfl
  | some word =>
    rw [fetched] at act
    rw [act] at controller
    have after : machine.acted.controller.remaining = machine.controller.remaining := by
      rw [controller, before, Program.drop_instructions fetched]
      rfl
    refine poised.continues_of_enter resting act
      Stage.noConfusion Stage.noConfusion (by rintro _ ⟨⟩) (by simp [running]) ?_ ?_ ?_
    · rw [after]
      exact sequenced
    · rw [after]
    · have decode : machine.acted.controller.state.stage = .decode := by
        rw [controller]
        rfl
      rw [stageTicks, stageTicks, stage, decode, after]
      exact Nat.sub_add_cancel (Nat.le_of_succ_le (two_le_executionTicks _ _ _))

theorem continues_of_skip (running : machine.controller.state.activity = .running)
    (stage : machine.controller.state.stage = .decode) (resting : machine.Resting)
    (sequenced : Sequenced machine.owed machine.controller.remaining)
    (code : machine.controller.state.instruction.operation? = some .noop ∨
      machine.controller.state.instruction.operation? = none) {stats : ControlStats}
    (act : machine.controller.act true =
      { machine.controller with state.stage := .advance, state.stats := stats }) :
    machine.Continues machine.acted 1 := by
  have controller := poised.controller_acted
  rw [act] at controller
  have before : machine.controller.remaining =
      machine.controller.state.instruction :: machine.controller.behind := by
    rw [Controller.remaining, stage]
  have after : machine.acted.controller.remaining = machine.controller.behind := by
    rw [controller]
    rfl
  have behind : machine.acted.controller.behind = machine.controller.behind := by
    rw [controller]
    rfl
  have advance : machine.acted.controller.state.stage = .advance := by
    rw [controller]
    rfl
  have unfinished : machine.controller.state.instruction.operation? ≠ some .finish := by
    rcases code with code | code <;> simp [code]
  have idle (state : ProgramState) :
      state.execute machine.datapath.engine.features machine.controller.state.instruction =
        state := by
    rcases code with code | code <;> rw [ProgramState.execute, code]
  have short : machine.controller.state.instruction.executionTicks machine.datapath.engine.features
      machine.array.latency = 1 := by
    rcases code with code | code <;> rw [Instruction.executionTicks, code]
  rw [before] at sequenced
  refine poised.continues_of_enter resting act
    Stage.noConfusion Stage.noConfusion (by rintro _ ⟨⟩) (by simp [running]) ?_ ?_ ?_
  · rw [after]
    exact (Sequenced.noop_iff code).1 sequenced
  · rw [after, before, ProgramState.run_cons _ unfinished, idle]
  · rw [stageTicks, stageTicks, stage, advance, behind, before, datapath_acted, array_acted,
      executionTicks_cons _ _ unfinished, short]
    dsimp only
    omega

theorem continues_of_decode (running : machine.controller.state.activity = .running)
    (stage : machine.controller.state.stage = .decode) (resting : machine.Resting)
    (sequenced : Sequenced machine.owed machine.controller.remaining) :
    machine.Continues machine.acted 1 := by
  have controller := poised.controller_acted
  have act : machine.controller.act true = machine.controller.dispatch := by
    rw [Controller.act_of_running running, Controller.step, stage]
  have before : machine.controller.remaining =
      machine.controller.state.instruction :: machine.controller.behind := by
    rw [Controller.remaining, stage]
  have long := two_le_executionTicks machine.datapath.engine.features machine.array.latency
    machine.controller.remaining
  rw [Controller.dispatch] at act
  cases code : machine.controller.state.instruction.operation? with
  | none =>
    rw [code] at act
    exact poised.continues_of_skip running stage resting sequenced (.inr code) act
  | some opcode =>
    rw [code] at act
    rw [act] at controller
    have entered : machine.acted.controller.state.stage = Controller.Stage.ofOpcode opcode := by
      rw [controller]
      rfl
    cases opcode with
    | noop => exact poised.continues_of_skip running stage resting sequenced (.inl code) act
    | finish =>
      have after : machine.acted.controller.remaining = [] := by
        rw [controller]
        rfl
      rw [before] at sequenced
      refine poised.continues_of_enter resting act
        Stage.noConfusion Stage.noConfusion (by rintro _ ⟨⟩) (by simp [running]) ?_ ?_ ?_
      · rw [after]
        exact (Sequenced.finish_iff code).1 sequenced
      · rw [after, before, ProgramState.run_finish _ code]
        rfl
      · rw [stageTicks, stageTicks, stage, entered, before, executionTicks_finish _ _ code]
        rfl
    | _ =>
      have after : machine.acted.controller.remaining = machine.controller.remaining := by
        rw [controller, before]
        rfl
      refine poised.continues_of_enter resting act
        Stage.noConfusion Stage.noConfusion ?_ (by simp [running]) ?_ ?_ ?_
      · rintro _ ⟨⟩
        exact code
      · rw [after]
        exact sequenced
      · rw [after]
      · rw [stageTicks, stageTicks, stage, entered, after, datapath_acted, array_acted]
        dsimp only [Controller.Stage.ofOpcode]
        omega

theorem continues_of_advance (running : machine.controller.state.activity = .running)
    (stage : machine.controller.state.stage = .advance) (resting : machine.Resting)
    (sequenced : Sequenced machine.owed machine.controller.remaining) :
    machine.Continues machine.acted 1 := by
  have controller := poised.controller_acted
  have act : machine.controller.act true = machine.controller.advance := by
    rw [Controller.act_of_running running, Controller.step, stage]
  rw [act] at controller
  have remaining : machine.acted.controller.remaining = machine.controller.remaining := by
    rw [controller, Controller.remaining, Controller.remaining, stage]
    rfl
  have fetch : machine.acted.controller.state.stage = .fetch := by
    rw [controller]
    rfl
  have behind : machine.controller.remaining = machine.controller.behind := by
    rw [Controller.remaining, stage]
  refine poised.continues_of_enter resting act
    Stage.noConfusion Stage.noConfusion (by rintro _ ⟨⟩) (by simp [running]) ?_ ?_ ?_
  · rw [remaining]
    exact sequenced
  · rw [remaining]
  · rw [stageTicks, stageTicks, stage, fetch, remaining, behind]
    rfl

theorem continues_of_engineDone (running : machine.controller.state.activity = .running)
    (stage : machine.controller.state.stage = .engineDone) (resting : machine.Resting)
    (sequenced : Sequenced machine.owed machine.controller.remaining) :
    machine.Continues machine.acted 1 := by
  have controller := poised.controller_acted
  have act : machine.controller.act true = machine.controller.enter .advance := by
    rw [Controller.act_of_running running, Controller.step, stage]
  rw [act] at controller
  have remaining : machine.acted.controller.remaining = machine.controller.remaining := by
    rw [controller, Controller.remaining, Controller.remaining, stage]
    rfl
  have advance : machine.acted.controller.state.stage = .advance := by
    rw [controller]
    rfl
  have behind : machine.acted.controller.behind = machine.controller.behind := by
    rw [controller]
    rfl
  refine poised.continues_of_enter resting act
    Stage.noConfusion Stage.noConfusion (by rintro _ ⟨⟩) (by simp [running]) ?_ ?_ ?_
  · rw [remaining]
    exact sequenced
  · rw [remaining]
  · rw [stageTicks, stageTicks, stage, advance, behind]
    rfl

end Poised

end Machine

end AccessController
