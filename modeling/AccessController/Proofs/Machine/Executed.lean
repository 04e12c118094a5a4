import AccessController.Proofs.Controller.Driving
import AccessController.Proofs.Machine.Acted

/-!
# The steps that execute an instruction

A step that executes an instruction leaves the rest of the program to be run from
the state that the interpreter gives: a request or a selector counts as carried
out once it is on the wires, and a start once its pulse is.
-/

namespace AccessController

namespace Datapath

variable {datapath : Datapath}

theorem Quiet.settle_eq_select {before after : PerCache UInt8} (quiet : datapath.Quiet before)
    (kind : CacheKind) (others : ∀ other, kind ≠ other → after.get other = before.get other) :
    datapath.contents.settle datapath.engine.features after =
      datapath.contents.select datapath.engine.features kind (after.get kind).toNat := by
  ext1
  · rw [Contents.select]
    split <;> rfl
  · rw [Contents.select]
    split <;> rfl
  · apply PerCache.ext_get
    intro other
    rw [Contents.get_outputLine_settle, Contents.select]
    by_cases same : kind = other
    · subst same
      split
      · exact (PerCache.get_set_self ..).symm
      · rfl
    · have stays : (datapath.contents.settle datapath.engine.features before).outputLine.get other =
          datapath.contents.outputLine.get other := (quiet other).get_outputLine_settle rfl
      rw [Contents.get_outputLine_settle, ← others other same] at stays
      rw [stays]
      split
      · exact ((PerCache.get_set ..).trans (if_neg same)).symm
      · rfl

end Datapath

namespace Machine

variable {machine : Machine}

/-- The array takes in what the interpreter would start it with. -/
theorem arrayValues_contents :
    machine.datapath.contents.arrayValues = machine.arrayInputs.elements := by
  rw [Contents.arrayValues, Datapath.get_lines_contents, Datapath.get_outputLine_contents]
  rfl

/-- What is left of the program and of its time at a stage that executes an
instruction. -/
theorem Underway.executing (underway : machine.Underway) {opcode : Opcode}
    (executing : machine.controller.state.stage.opcode? = some opcode) :
    machine.controller.state.instruction.operation? = some opcode ∧
      machine.controller.state.instruction.operation? ≠ some .finish ∧
      machine.controller.remaining =
        machine.controller.state.instruction :: machine.controller.behind ∧
      machine.stageTicks =
        machine.controller.state.instruction.executionTicks machine.datapath.engine.features
            machine.array.latency +
          executionTicks machine.datapath.engine.features machine.array.latency
            machine.controller.behind := by
  have code := underway.executes opcode executing
  have unfinished : machine.controller.state.instruction.operation? ≠ some .finish := by
    rw [code]
    cases stage : machine.controller.state.stage <;> rw [stage] at executing <;> cases executing <;>
      nofun
  refine ⟨code, unfinished, ?_⟩
  have remaining : machine.controller.remaining =
      machine.controller.state.instruction :: machine.controller.behind := by
    rw [Controller.remaining]
    cases stage : machine.controller.state.stage <;> rw [stage] at executing <;> cases executing
  refine ⟨remaining, ?_⟩
  have ticks := executionTicks_cons machine.datapath.engine.features machine.array.latency
    unfinished machine.controller.behind
  rw [stageTicks, remaining, ticks]
  cases stage : machine.controller.state.stage <;> rw [stage] at executing <;> cases executing <;>
    exact Nat.add_sub_cancel_left 2 _

namespace Poised

variable (poised : machine.Poised)

include poised

/-- A step executes an instruction if it has its effect on the state of the
program. -/
theorem continues_of_executed {opcode : Opcode}
    (executing : machine.controller.state.stage.opcode? = some opcode)
    (underway : machine.acted.Underway)
    (remaining : machine.acted.controller.remaining = machine.controller.behind)
    (sequenced : Sequenced machine.acted.owed machine.controller.behind)
    (state : machine.acted.programState =
      machine.programState.execute machine.datapath.engine.features
        machine.controller.state.instruction)
    (ticks : machine.acted.stageTicks + machine.acted.arrayTicks + 1 =
      machine.controller.state.instruction.executionTicks machine.datapath.engine.features
          machine.array.latency +
        executionTicks machine.datapath.engine.features machine.array.latency
          machine.controller.behind + machine.arrayTicks) :
    machine.Continues machine.acted 1 := by
  obtain ⟨code, unfinished, before, stageTicks⟩ := poised.executing executing
  exact {
    underway
    features := rfl
    sequenced := by
      rw [remaining]
      exact sequenced
    run := by rw [remaining, before, ProgramState.run_cons _ unfinished, state]
    ticks := by rw [ticksLeft, ticksLeft, stageTicks, ticks] }

theorem underway_of_advance (running : machine.controller.state.activity = .running)
    (rested : machine.acted.Resting)
    (advance : machine.acted.controller.state.stage = .advance)
    (activity : machine.acted.controller.state.activity = machine.controller.state.activity)
    (sampled : machine.acted.controller.state.sampled = machine.controller.state.sampled)
    (fault : machine.acted.controller.state.fault = machine.controller.state.fault)
    (engineStart : machine.acted.controller.outputs.engineStart =
      .rest machine.acted.controller.state.engineStartHigh)
    (arrayStart : machine.acted.controller.outputs.arrayStart =
      .rest machine.acted.controller.state.arrayStartHigh)
    (finish : machine.acted.controller.outputs.finish = machine.controller.outputs.finish)
    (known : machine.acted.controller.state.arrayDone = true →
      machine.controller.state.arrayDone = true)
    (busy : machine.acted.begun.isSome →
      machine.array.state.readyHigh = false ∧ machine.controller.state.arrayDone = false)
    (holds : machine.acted.begun.isSome →
      machine.datapath.Holds machine.acted.datapathInputs.selectOut .dataOut) :
    machine.acted.Underway := by
  refine poised.underway_acted sampled fault engineStart arrayStart (finish.trans poised.finish)
    known (fun _ => advance) ?_ ?_ ?_ ?_ (.inl rested) busy holds
  · rw [activity]
    exact poised.started
  · simp [advance]
  · rw [advance]
    nofun
  · rw [activity]
    exact fun awaited => absurd (running.symm.trans awaited) nofun

/-- A wait for an array that has been ready is passed. -/
theorem continues_of_waited (running : machine.controller.state.activity = .running)
    (stage : machine.controller.state.stage = .waitReady) (resting : machine.Resting)
    (sequenced : Sequenced machine.owed machine.controller.remaining)
    (done : machine.controller.state.arrayDone = true) :
    machine.Continues machine.acted 1 := by
  have executing : machine.controller.state.stage.opcode? = some .waitReady := by
    rw [stage]
    rfl
  obtain ⟨code, unfinished, before, stageTicks⟩ := poised.executing executing
  have controller := poised.controller_acted
  have act : machine.controller.act true = machine.controller.waitReady := by
    rw [Controller.act_of_running running, Controller.step, stage]
  rw [Controller.waitReady, if_pos done] at act
  have moves : machine.controller.Moves (machine.controller.act true) := by
    rw [act]
    exact ⟨rfl, rfl, rfl, rfl, rfl, rfl, Bool.noConfusion⟩
  have free : (machine.controller.act true).Free := by
    rw [act]
    exact resting.free.move rfl Stage.noConfusion
  have arrayStart : machine.acted.controller.outputs.arrayStart =
      machine.controller.outputs.arrayStart := by rw [poised.outputs_acted moves.outputs]
  rw [act] at controller
  have after : machine.acted.controller.remaining = machine.controller.behind := by
    rw [controller]
    rfl
  have behind : machine.acted.controller.behind = machine.controller.behind := by
    rw [controller]
    rfl
  have advance : machine.acted.controller.state.stage = .advance := by
    rw [controller]
    rfl
  have idle := poised.begun_eq_none (.inr done)
  have low : machine.array.state.readyHigh = false :=
    Bool.eq_false_iff.2 fun high => by simp [(poised.raised high).2] at done
  have settled : machine.acted.owed = false := by
    rw [owed, begun_acted arrayStart, idle, array_acted, low, controller]
    rfl
  rw [before] at sequenced
  refine poised.continues_of_moves moves ?_ ?_ ?_ ?_
    (.inl (poised.resting_acted resting moves free)) ?_ ?_ ?_
  · rw [controller]
    exact poised.started
  · simp [advance]
  · rw [advance]
    rintro _ ⟨⟩
  · rw [controller]
    exact fun awaited => Activity.noConfusion (running.symm.trans awaited)
  · rw [settled, after]
    exact ((Sequenced.waitReady_iff code).1 sequenced).2
  · rw [after, before, ProgramState.run_cons _ unfinished, ProgramState.execute, code, programState,
      idle]
    dsimp only [Option.map]
    rw [Contents.deliver_none]
  · rw [stageTicks, Machine.stageTicks, advance, behind, datapath_acted, array_acted,
      Instruction.executionTicks, code]
    dsimp only
    omega

theorem continues_of_unready (running : machine.controller.state.activity = .running)
    (stage : machine.controller.state.stage = .waitReady) (resting : machine.Resting)
    (sequenced : Sequenced machine.owed machine.controller.remaining)
    (undone : machine.controller.state.arrayDone = false) :
    machine.Continues machine.acted 0 := by
  have controller := poised.controller_acted
  have act : machine.controller.act true = machine.controller.waitReady := by
    rw [Controller.act_of_running running, Controller.step, stage]
  rw [Controller.waitReady, if_neg (Bool.eq_false_iff.1 undone)] at act
  have moves : machine.controller.Moves (machine.controller.act true) := by
    rw [act]
    exact ⟨rfl, rfl, rfl, rfl, rfl, rfl, id⟩
  have free : (machine.controller.act true).Free := by
    rw [act]
    exact ⟨Activity.noConfusion, by rintro ⟨⟩, resting.free.stage⟩
  have arrayStart : machine.acted.controller.outputs.arrayStart =
      machine.controller.outputs.arrayStart := by rw [poised.outputs_acted moves.outputs]
  rw [act] at controller
  have same : machine.acted.controller.state.stage = machine.controller.state.stage := by
    rw [controller]
    rfl
  have remaining : machine.acted.controller.remaining = machine.controller.remaining := by
    rw [controller]
    rfl
  have owed : machine.acted.owed = machine.owed := owed_acted arrayStart (by rw [controller]; rfl)
  refine poised.continues_of_moves moves ?_ ?_ ?_ ?_
    (.inl (poised.resting_acted resting moves free)) ?_ ?_ ?_
  · rw [controller]
    exact Activity.noConfusion
  · rw [same]
    exact poised.staged
  · rw [same, controller]
    exact poised.executes
  · rw [same, controller]
    exact fun _ => ⟨stage, undone⟩
  · rw [owed, remaining]
    exact sequenced
  · rw [remaining]
  · exact stageTicks_acted same resting.free.stage remaining (by rw [controller]; rfl)

end Poised

theorem stageTicks_of_advance (advance : machine.acted.controller.state.stage = .advance)
    (behind : machine.acted.controller.behind = machine.controller.behind) :
    machine.acted.stageTicks =
      executionTicks machine.datapath.engine.features machine.array.latency
        machine.controller.behind + 1 := by
  rw [stageTicks, advance, behind]
  rfl

namespace Poised

variable (poised : machine.Poised)

section Transfer

variable {operation : TransferOp} (running : machine.controller.state.activity = .running)
  (stage : machine.controller.state.stage = .transfer operation) (resting : machine.Resting)

include poised running stage

theorem controller_of_transfer :
    machine.acted.controller = (machine.controller.request operation).commit := by
  rw [poised.controller_acted, Controller.act_of_running running, Controller.step, stage]

/-- The request goes out over the wires to the datapath, which is not asked for another output
line. -/
theorem inputs_of_transfer :
    let inputs := machine.acted.datapathInputs
    inputs.start = true ∧
      inputs.request = machine.controller.state.instruction.request operation ∧
      inputs.selectIn.get operation.kind = machine.controller.state.instruction.lineLevel ∧
      inputs.selectOut = machine.datapathInputs.selectOut := by
  rw [datapathInputs_eq, poised.controller_of_transfer running stage,
    Controller.outputs_request poised.committed]
  refine ⟨rfl, rfl, ?_, rfl⟩
  simp only [ControlOutputs.datapathInputs, PerCache.map_set, PerCache.get_set_self,
    Wire.level_rest]

theorem arrayStart_of_transfer :
    machine.acted.controller.outputs.arrayStart = machine.controller.outputs.arrayStart := by
  rw [poised.controller_of_transfer running stage, Controller.outputs_request poised.committed]

include resting

theorem requested_of_transfer : machine.acted.Requested := by
  have controller := poised.controller_of_transfer running stage
  constructor
  case waiting => rw [controller]; rfl
  case stage => rw [controller]; rfl
  case idle => exact resting.idle
  case startHigh => rw [controller]; rfl
  case unready => rw [controller]; exact resting.unready

/-- A request on the wires counts as served. -/
theorem contents_of_transfer :
    machine.acted.programState.contents =
      machine.datapath.contents.transfer machine.datapath.engine.features
        (.replicate machine.controller.state.instruction.lineLevel)
        (machine.controller.state.instruction.request operation) := by
  obtain ⟨start, request, selectIn, selectOut⟩ := poised.inputs_of_transfer running stage
  have quiet := poised.quiet
  rw [← selectOut] at quiet
  rw [programState, Datapath.forthcoming, datapath_acted, if_pos start, quiet.settle_outcome,
    resting.idle.outcome_eq, request]
  refine Contents.transfer_congr _ _ fun kind known => ?_
  obtain rfl : operation.kind = kind := by
    simpa [Instruction.request] using known
  rw [selectIn, PerCache.get_replicate]

theorem underway_of_transfer : machine.acted.Underway := by
  have controller := poised.controller_of_transfer running stage
  have outputs := Controller.outputs_request poised.committed operation
  have requested := poised.requested_of_transfer running stage resting
  obtain ⟨-, -, -, selectOut⟩ := poised.inputs_of_transfer running stage
  refine poised.underway_acted ?_ ?_ ?_ ?_ ?_ ?_ ?_ ?_ ?_ ?_ ?_ (.inr (.inl requested)) ?_ ?_
  · rw [controller]
    rfl
  · rw [controller]
    rfl
  · rw [controller, outputs]
    rfl
  · rw [controller, outputs]
    exact poised.arrayStart
  · rw [controller, outputs]
    exact poised.finish
  · rw [controller]
    exact id
  · rw [controller]
    intro high
    exact Bool.noConfusion (high.symm.trans poised.unstarted)
  · simp [requested.waiting]
  · simp [requested.stage]
  · rw [requested.stage]
    rintro _ ⟨⟩
  · simp [requested.waiting]
  · rw [begun_acted (poised.arrayStart_of_transfer running stage)]
    exact poised.busy
  · rw [selectOut]
    exact fun _ => poised.quiet .dataOut

/-- A request goes on the wires. -/
theorem continues_of_transfer (sequenced : Sequenced machine.owed machine.controller.remaining) :
    machine.Continues machine.acted 1 := by
  have executing : machine.controller.state.stage.opcode? = some (.transfer operation) := by
    rw [stage]
    rfl
  obtain ⟨code, -, before, -⟩ := poised.executing executing
  have controller := poised.controller_of_transfer running stage
  have arrayStart := poised.arrayStart_of_transfer running stage
  obtain ⟨-, request, -, -⟩ := poised.inputs_of_transfer running stage
  refine poised.continues_of_executed executing (poised.underway_of_transfer running stage resting)
    (by rw [controller]; rfl) ?sequenced ?state ?ticks
  case sequenced =>
    rw [before] at sequenced
    rw [owed_acted arrayStart (by rw [controller]; rfl)]
    exact (Sequenced.transfer_iff code).1 sequenced
  case state =>
    rw [ProgramState.execute, code]
    dsimp only
    rw [poised.contents_programState resting, ← poised.contents_of_transfer running stage resting,
      programState, programState, begun_acted arrayStart]
  case ticks =>
    have requested := poised.requested_of_transfer running stage resting
    have behind : machine.acted.controller.behind = machine.controller.behind := by
      rw [controller]
      rfl
    rw [arrayTicks_acted arrayStart, stageTicks, requested.stage, behind, requested.startHigh,
      request, datapath_acted, array_acted, Instruction.executionTicks, code]
    simp only [if_true]
    omega

end Transfer

section Select

variable {kind : CacheKind} (running : machine.controller.state.activity = .running)
  (stage : machine.controller.state.stage = .select kind) (resting : machine.Resting)

include poised running stage

theorem controller_of_select :
    machine.acted.controller = (machine.controller.select kind).commit := by
  rw [poised.controller_acted, Controller.act_of_running running, Controller.step, stage]

theorem arrayStart_of_select :
    machine.acted.controller.outputs.arrayStart = machine.controller.outputs.arrayStart := by
  rw [poised.controller_of_select running stage, Controller.outputs_select poised.committed]

theorem selectOut_of_select :
    machine.acted.datapathInputs.selectOut =
      machine.datapathInputs.selectOut.set kind machine.controller.state.instruction.lineLevel := by
  rw [datapathInputs_eq, poised.controller_of_select running stage,
    Controller.outputs_select poised.committed]
  exact PerCache.map_set ..

theorem get_selectOut_of_select {other : CacheKind} (apart : kind ≠ other) :
    machine.acted.datapathInputs.selectOut.get other =
      machine.datapathInputs.selectOut.get other := by
  rw [poised.selectOut_of_select running stage, PerCache.get_set, if_neg apart]

include resting

/-- A selector on the wires counts as followed. -/
theorem contents_of_select :
    machine.acted.programState.contents =
      machine.datapath.contents.select machine.datapath.engine.features kind
        machine.controller.state.instruction.line.toNat := by
  have selectOut := poised.selectOut_of_select running stage
  have low : machine.acted.datapathInputs.start = false := by
    rw [datapathInputs_eq, poised.controller_of_select running stage,
      Controller.outputs_select poised.committed]
    exact (congrArg Wire.level poised.engineStart).trans poised.unasked
  rw [programState, Datapath.forthcoming, datapath_acted, low, resting.idle.outcome_eq,
    ← Instruction.toNat_lineLevel]
  have settles := poised.quiet.settle_eq_select kind fun _ apart =>
    poised.get_selectOut_of_select running stage apart
  rwa [selectOut, PerCache.get_set_self, ← selectOut] at settles

/-- The line that is to receive results does not move. -/
theorem underway_of_select
    (settled : kind = .dataOut → machine.owed = false) : machine.acted.Underway := by
  have controller := poised.controller_of_select running stage
  have outputs := Controller.outputs_select poised.committed kind
  have begun := begun_acted (poised.arrayStart_of_select running stage)
  have advance : machine.acted.controller.state.stage = .advance := by
    rw [controller]
    rfl
  have rested : machine.acted.Resting := by
    refine resting.move rfl ?_ ?_ ?_ <;> rw [controller]
    · exact resting.free.move rfl Stage.noConfusion
    · rfl
    · rfl
  refine poised.underway_of_advance running rested advance ?_ ?_ ?_ ?_ ?_ ?_ ?_ ?_ ?_
  · rw [controller]
    rfl
  · rw [controller]
    rfl
  · rw [controller]
    rfl
  · rw [controller, outputs]
    exact poised.engineStart
  · rw [controller, outputs]
    exact poised.arrayStart
  · rw [controller, outputs]
  · rw [controller]
    exact id
  · rw [begun]
    exact poised.busy
  · rw [begun]
    intro left
    have apart : kind ≠ .dataOut := by
      rintro rfl
      have idle := (rests_of_settled (settled rfl)).1
      simp [idle] at left
    rw [Datapath.Holds, poised.get_selectOut_of_select running stage apart]
    exact poised.quiet .dataOut

/-- A selector goes on the wires. -/
theorem continues_of_select (sequenced : Sequenced machine.owed machine.controller.remaining) :
    machine.Continues machine.acted 1 := by
  have executing : machine.controller.state.stage.opcode? = some (.select kind) := by
    rw [stage]
    rfl
  obtain ⟨code, -, before, -⟩ := poised.executing executing
  have controller := poised.controller_of_select running stage
  have arrayStart := poised.arrayStart_of_select running stage
  rw [before] at sequenced
  obtain ⟨settled, sequenced⟩ := (Sequenced.select_iff code).1 sequenced
  refine poised.continues_of_executed executing
    (poised.underway_of_select running stage resting settled) (by rw [controller]; rfl)
    ?sequenced ?state ?ticks
  case sequenced =>
    rw [owed_acted arrayStart (by rw [controller]; rfl)]
    exact sequenced
  case state =>
    rw [ProgramState.execute, code]
    dsimp only
    rw [poised.contents_programState resting, ← poised.contents_of_select running stage resting,
      programState, programState, begun_acted arrayStart]
  case ticks =>
    rw [arrayTicks_acted arrayStart,
      stageTicks_of_advance (by rw [controller]; rfl) (by rw [controller]; rfl),
      Instruction.executionTicks, code]
    dsimp only
    omega

end Select

section Start

variable (running : machine.controller.state.activity = .running)
  (stage : machine.controller.state.stage = .start) (resting : machine.Resting)

include poised running stage

theorem controller_of_start :
    machine.acted.controller = machine.controller.startArray.commit := by
  rw [poised.controller_acted, Controller.act_of_running running, Controller.step, stage]

theorem inputs_of_start : machine.acted.datapathInputs = machine.datapathInputs := by
  rw [datapathInputs_eq, poised.controller_of_start running stage,
    Controller.outputs_startArray poised.committed]
  rfl

/-- An array at rest begins its run with what it sees on its inputs. -/
theorem begun_of_start (idle : machine.begun = none) :
    machine.acted.begun = some ⟨machine.array.latency, machine.arrayInputs.elements⟩ := by
  have level : machine.controller.outputs.arrayStart.level = false :=
    (congrArg Wire.level poised.arrayStart).trans poised.unstarted
  have fallen : machine.array.state.previousStart = false :=
    Bool.eq_false_iff.2 fun high => by
      have advance := poised.fallen high
      simp [stage] at advance
  rw [Machine.begun, level, EchoArray.begun_of_low] at idle
  rw [Machine.begun, poised.controller_of_start running stage,
    Controller.outputs_startArray poised.committed]
  exact EchoArray.begun_of_rising _ _ fallen idle

include resting

theorem underway_of_start (low : machine.array.state.readyHigh = false)
    (undone : machine.controller.state.arrayDone = false) : machine.acted.Underway := by
  have controller := poised.controller_of_start running stage
  have outputs := Controller.outputs_startArray poised.committed
  have advance : machine.acted.controller.state.stage = .advance := by
    rw [controller]
    rfl
  have rested : machine.acted.Resting := by
    refine resting.move rfl ?_ ?_ ?_ <;> rw [controller]
    · exact resting.free.move rfl Stage.noConfusion
    · rfl
    · rfl
  refine poised.underway_of_advance running rested advance ?_ ?_ ?_ ?_ ?_ ?_ ?_
    (fun _ => ⟨low, undone⟩) ?_
  · rw [controller]
    rfl
  · rw [controller]
    rfl
  · rw [controller]
    rfl
  · rw [controller, outputs]
    exact poised.engineStart
  · rw [controller, outputs]
    rfl
  · rw [controller, outputs]
  · rw [controller]
    exact Bool.noConfusion
  · rw [poised.inputs_of_start running stage]
    exact fun _ => poised.quiet .dataOut

/-- The array is started. -/
theorem continues_of_start (sequenced : Sequenced machine.owed machine.controller.remaining) :
    machine.Continues machine.acted 1 := by
  have executing : machine.controller.state.stage.opcode? = some .start := by
    rw [stage]
    rfl
  obtain ⟨code, -, before, -⟩ := poised.executing executing
  have controller := poised.controller_of_start running stage
  rw [before] at sequenced
  obtain ⟨settled, sequenced⟩ := (Sequenced.start_iff code).1 sequenced
  obtain ⟨idle, low, undone⟩ := rests_of_settled settled
  have begun := poised.begun_of_start running stage idle
  refine poised.continues_of_executed executing
    (poised.underway_of_start running stage resting low undone) (by rw [controller]; rfl)
    ?sequenced ?state ?ticks
  case sequenced =>
    have owed : machine.acted.owed = true := by
      rw [owed, begun]
      rfl
    rw [owed]
    exact sequenced
  case state =>
    have contents := poised.contents_programState resting
    have same : machine.acted.programState.contents = machine.programState.contents := by
      rw [programState, poised.inputs_of_start running stage]
      rfl
    rw [ProgramState.execute, code]
    dsimp only
    rw [contents, arrayValues_contents, ← contents, ← same, programState, begun]
    rfl
  case ticks =>
    rw [arrayTicks, arrayTicks, begun, idle, low,
      stageTicks_of_advance (by rw [controller]; rfl) (by rw [controller]; rfl),
      Instruction.executionTicks, code]
    simp only [Bool.false_eq_true, if_false]
    omega

end Start

include poised

/-- In the second half of a tick one step of an instruction is taken at most, and
the program goes on where it is. -/
theorem act (unfinished : ¬machine.Finishing)
    (sequenced : Sequenced machine.owed machine.controller.remaining) :
    machine.Continues machine.acted machine.actedTicks := by
  rw [actedTicks]
  have situation : machine.Resting ∨ machine.Answered := by
    rcases poised.situation with resting | requested | answered
    · exact .inl resting
    · exact absurd (requested.startHigh.symm.trans poised.unasked) nofun
    · exact .inr answered
  rcases situation with resting | answered
  · cases activity : machine.controller.state.activity with
    | stopped => exact absurd activity poised.started
    | failed => exact absurd activity resting.free.working
    | paused =>
      rw [if_neg (fun running => nomatch running.1)]
      exact poised.continues_of_halted (.inl activity) resting sequenced
    | waiting awaited =>
      rw [if_neg (fun running => nomatch running.1)]
      cases awaited with
      | engine => exact absurd activity resting.free.unasked
      | array => exact poised.continues_of_halted (.inr activity) resting sequenced
    | running =>
      cases stage : machine.controller.state.stage with
      | idle => exact absurd stage poised.staged
      | awaitEngine => exact absurd stage resting.free.stage
      | finish => exact absurd ⟨activity, stage⟩ unfinished
      | fetch => exact poised.continues_of_fetch activity stage resting sequenced
      | decode => exact poised.continues_of_decode activity stage resting sequenced
      | transfer operation => exact poised.continues_of_transfer activity stage resting sequenced
      | select kind => exact poised.continues_of_select activity stage resting sequenced
      | start => exact poised.continues_of_start activity stage resting sequenced
      | waitReady =>
        cases done : machine.controller.state.arrayDone with
        | true => exact poised.continues_of_waited activity stage resting sequenced done
        | false => exact poised.continues_of_unready activity stage resting sequenced done
      | engineDone => exact poised.continues_of_engineDone activity stage resting sequenced
      | advance => exact poised.continues_of_advance activity stage resting sequenced
  · rw [if_neg (by simp [answered.waiting])]
    exact poised.continues_of_answered answered sequenced

end Poised

end Machine

end AccessController
