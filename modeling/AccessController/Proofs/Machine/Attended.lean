import AccessController.Proofs.Machine.Underway

/-!
# The first half of a tick in the course of a run

The pulses of the controller arrive, what the wires ask for is carried out, and
the engine and the array go on with what they are doing.  None of this changes
what the program comes to (`Underway.attended`).
-/

namespace AccessController

namespace ProgramState

/-- A tick of the array keeps its results in the state of the program or stores
them, and a program that is to wait for them cannot tell which. -/
theorem run_arrayTick {features : FeatureTable} {owed : Bool} {instructions : List Instruction}
    (sequenced : Sequenced owed instructions) {begun : Option EchoArray.Run}
    (outstanding : begun.isSome → owed = true) (contents : Contents) :
    run features instructions
        ⟨contents.deliver features (begun.bind EchoArray.Run.due?),
          (begun.bind EchoArray.Run.next?).map (·.results)⟩ =
      run features instructions ⟨contents, begun.map (·.results)⟩ := by
  cases begun with
  | none =>
    dsimp only [Option.bind, Option.map]
    rw [Contents.deliver_none]
  | some begun =>
    obtain ⟨ticks, results⟩ := begun
    cases ticks with
    | zero =>
      obtain rfl := outstanding rfl
      exact (run_deliver sequenced contents (some results)).symm
    | succ ticks =>
      dsimp only [Option.bind, EchoArray.Run.due?]
      rw [Contents.deliver_none]
      rfl

end ProgramState

namespace Machine

variable {machine : Machine}

theorem isSome_begun_of_results (due : machine.arrayTick.2.isSome) : machine.begun.isSome := by
  rw [results_arrayTick] at due
  cases begun : machine.begun with
  | none => simp [begun] at due
  | some run => rfl

/-- The ticks that the first half of a tick takes off. -/
def attendedTicks (machine : Machine) : Nat :=
  min 1 machine.arrayTicks +
    ((if machine.controller.state.stage = .awaitEngine ∧
        machine.controller.state.engineStartHigh = false then 1 else 0) +
      if machine.controller.state.activity = .waiting .array ∧
        machine.array.state.readyHigh = true then 1 else 0)

namespace Underway

variable (underway : machine.Underway)

include underway

theorem start_eq : machine.datapathInputs.start = machine.controller.state.engineStartHigh :=
  congrArg Wire.level underway.engineStart

/-- The pulses end and all other wires keep their levels. -/
theorem outputs_attended :
    machine.attended.controller.outputs =
      { machine.controller.outputs with engineStart := .rest false, arrayStart := .rest false } := by
  have attended := (machine.controller.attended_attend machine.controlPins).outputs
  have engine := underway.engineStart
  have array := underway.arrayStart
  have committed := underway.committed
  have pulse (high : Bool) : (Wire.driveIf high (.rest high) false).commit = .rest false := by
    cases high <;> rfl
  change (Controller.attend _ _).outputs.commit = _
  rw [attended]
  simp only [Controller.sample, Controller.dropPulses, ControlOutputs.commit] at committed ⊢
  rw [engine, array, pulse, pulse]
  rw [← committed]
  rfl

theorem arrayStart_attended : machine.attended.controller.outputs.arrayStart = .rest false := by
  rw [underway.outputs_attended]

theorem datapathInputs_attended :
    machine.attended.datapathInputs = { machine.datapathInputs with start := false } := by
  rw [datapathInputs_eq, underway.outputs_attended]
  rfl

theorem arrayRises_eq :
    machine.controller.arrayRises machine.controlPins = machine.array.state.readyHigh := by
  rw [Controller.arrayRises, controlPins, underway.ready]
  cases high : machine.array.state.readyHigh with
  | false => rfl
  | true => rw [(underway.raised high).1]; rfl

/-- The contents that the program has come to receive the results of the tick. -/
theorem forthcoming_attended :
    machine.attended.datapath.Quiet machine.attended.datapathInputs.selectOut ∧
    machine.attended.datapath.forthcoming machine.attended.datapathInputs =
      (machine.datapath.forthcoming machine.datapathInputs).deliver
        machine.datapath.engine.features machine.arrayTick.2 := by
  have holds : machine.arrayTick.2.isSome →
      machine.datapath.Holds machine.datapathInputs.selectOut .dataOut :=
    fun due => underway.holds (isSome_begun_of_results due)
  have idle (idle : machine.datapath.Idle) :
      machine.attended.datapath.Quiet machine.datapathInputs.selectOut ∧
      machine.attended.datapath.outcome machine.datapathInputs.selectIn =
        (machine.datapath.forthcoming machine.datapathInputs).deliver
          machine.datapath.engine.features machine.arrayTick.2 := by
    have delivered := idle.deliver machine.arrayTick.2
    refine ⟨delivered.quiet_tick, ?_⟩
    rw [← idle.forthcoming_deliver _ holds]
    exact delivered.outcome_tick
  have reached : machine.attended.datapath.Quiet machine.datapathInputs.selectOut ∧
      machine.attended.datapath.outcome machine.datapathInputs.selectIn =
        (machine.datapath.forthcoming machine.datapathInputs).deliver
          machine.datapath.engine.features machine.arrayTick.2 := by
    rcases underway.situation with resting | requested | answered
    · exact idle resting.idle
    · exact idle requested.idle
    · have low : machine.datapathInputs.start = false :=
        underway.start_eq.trans answered.startHigh
      have streaming := answered.streaming.deliver machine.arrayTick.2
      have quiet := answered.quiet.deliver machine.arrayTick.2
      refine ⟨quiet.tick streaming.toHandshake, ?_⟩
      rw [answered.quiet.forthcoming_eq low, ← answered.streaming.outcome_deliver]
      exact streaming.outcome_tick quiet fun _ started => by simp [low] at started
  rw [underway.datapathInputs_attended]
  obtain ⟨quiet, outcome⟩ := reached
  refine ⟨quiet, ?_⟩
  rw [← outcome]
  replace quiet : machine.attended.datapath.Quiet
    { machine.datapathInputs with start := false }.selectOut := quiet
  exact quiet.forthcoming_eq rfl

/-- A run that is still under way has not handed over its results. -/
theorem isSome_begun_of_attended (left : machine.attended.begun.isSome) :
    machine.begun.isSome ∧ machine.arrayTick.2 = none := by
  rw [begun_attended underway.arrayStart_attended] at left
  rw [results_arrayTick]
  cases begun : machine.begun with
  | none => simp [begun] at left
  | some run =>
    obtain ⟨ticks, results⟩ := run
    cases ticks with
    | zero => simp [begun, EchoArray.Run.next?] at left
    | succ ticks => exact ⟨rfl, rfl⟩

/-- Wherever the edges take the controller, the machine is in the course of the
run, if controller and engine agree on the request under way. -/
theorem underway_attended (stage : Stage) {activity : Activity} {done : Bool}
    (attend : machine.controller.attend machine.controlPins =
      { machine.controller.sample machine.controlPins with
        state.arrayDone := done
        state.stage := stage
        state.activity := activity })
    (started : activity ≠ .stopped) (staged : stage ≠ .idle)
    (executes : ∀ opcode, stage.opcode? = some opcode →
      machine.controller.state.instruction.operation? = some opcode)
    (awaits : activity = .waiting .array → stage = .waitReady ∧ done = false)
    (known : done = true →
      machine.controller.state.arrayDone = true ∨ machine.array.state.readyHigh = true)
    (situation : machine.attended.Resting ∨ machine.attended.Answered) :
    machine.attended.Underway := by
  have controller : machine.attended.controller = Controller.commit _ :=
    congrArg Controller.commit attend
  have outputs := underway.outputs_attended
  obtain ⟨ready, readyHigh⟩ := array_attended underway.ready
  have unknown (begun : machine.begun.isSome) : done = false := by
    obtain ⟨low, unseen⟩ := underway.busy begun
    refine Bool.eq_false_iff.2 fun seen => ?_
    rcases known seen with before | now
    · simp [unseen] at before
    · simp [low] at now
  constructor
  case run => rw [attended, ExternalPins.commit, underway.run]; rfl
  case reset => rw [attended, ExternalPins.commit, underway.reset]; rfl
  case sampledRun => rw [controller]; exact congrArg Wire.level underway.run
  case sampledReset => rw [controller]; exact congrArg Wire.level underway.reset
  case fault => rw [controller]; exact underway.fault
  case committed => rw [controller]; rfl
  case engineStart => rw [outputs, controller]; rfl
  case arrayStart => rw [outputs, controller]; rfl
  case pulsed => rw [controller]; exact Bool.noConfusion
  case finish => rw [outputs]; exact underway.finish
  case started => rw [controller]; exact started
  case staged => rw [controller]; exact staged
  case executes => rw [controller]; exact executes
  case awaits => rw [controller]; exact awaits
  case situation =>
    rcases situation with resting | answered
    · exact .inl resting
    · exact .inr (.inr answered)
  case ready => exact ready
  case busy =>
    intro left
    obtain ⟨begun, none⟩ := underway.isSome_begun_of_attended left
    rw [readyHigh, none, controller]
    exact ⟨rfl, unknown begun⟩
  case raised =>
    intro high
    have begun := isSome_begun_of_results (readyHigh ▸ high)
    rw [controller]
    refine ⟨?_, unknown begun⟩
    exact (congrArg Wire.level underway.ready).trans (underway.busy begun).1
  case holds => exact fun _ => underway.forthcoming_attended.1 .dataOut

theorem poised_attended (reached : machine.attended.Underway)
    (fallen : machine.controller.state.arrayStartHigh = true →
      machine.attended.controller.state.stage = .advance) : machine.attended.Poised where
  toUnderway := reached
  unasked := (machine.controller.attended_attend machine.controlPins).engineStartHigh
  unstarted := (machine.controller.attended_attend machine.controlPins).arrayStartHigh
  quiet := underway.forthcoming_attended.1
  fallen high := by
    apply fallen
    rw [← high]
    exact (congrArg Wire.level underway.arrayStart).symm.trans
      (EchoArray.previousStart_tick ..).symm

/-! ## The request under way -/

theorem resting_attended (idle : machine.datapath.Idle)
    (startHigh : machine.controller.state.engineStartHigh = false)
    (free : (machine.controller.attend machine.controlPins).Free) : machine.attended.Resting where
  free := free.move rfl free.stage
  idle := (idle.deliver machine.arrayTick.2).tick (underway.start_eq.trans startHigh)
  startHigh := (machine.controller.attended_attend machine.controlPins).engineStartHigh
  unready := by
    have sampled := (machine.controller.attended_attend machine.controlPins).sampled
    exact (congrArg ControlPins.engineReady sampled).trans idle.readyWire_low

theorem ticksLeft_of_requested (requested : machine.Requested) :
    machine.attended.datapath.ticksLeft + 1 =
      machine.datapathInputs.request.answerTicks machine.datapath.engine.features := by
  have idle := requested.idle.deliver machine.arrayTick.2
  have phase := idle.phase_start (underway.start_eq.trans requested.startHigh)
  have long := machine.datapathInputs.request.three_le_answerTicks machine.datapath.engine.features
  have left : machine.attended.datapath.ticksLeft =
      machine.datapathInputs.request.answerTicks machine.datapath.engine.features - 1 := by
    change (machine.delivered.tick machine.datapathInputs).ticksLeft = _
    rw [delivered, Datapath.ticksLeft, phase, Datapath.features_tick, Datapath.engine_deliver]
  rw [left]
  exact Nat.sub_add_cancel (Nat.le_of_succ_le (Nat.le_of_succ_le long))

theorem answered_of_requested (requested : machine.Requested)
    (waiting : machine.attended.controller.state.activity = .waiting .engine)
    (stage : machine.attended.controller.state.stage = .awaitEngine) :
    machine.attended.Answered where
  waiting
  stage
  streaming := by
    rw [underway.datapathInputs_attended]
    exact (requested.idle.deliver machine.arrayTick.2).streaming_tick
  quiet := underway.forthcoming_attended.1
  startHigh := (machine.controller.attended_attend machine.controlPins).engineStartHigh
  ready := by
    have sampled := (machine.controller.attended_attend machine.controlPins).sampled
    have idle := requested.idle
    have left := underway.ticksLeft_of_requested requested
    have long := machine.datapathInputs.request.three_le_answerTicks
      machine.datapath.engine.features
    rw [decide_eq_false (by omega)]
    exact (congrArg ControlPins.engineReady sampled).trans idle.readyWire_low

theorem ticksLeft_of_answered (answered : machine.Answered) :
    machine.attended.datapath.ticksLeft = machine.datapath.ticksLeft - 1 := by
  have streaming := answered.streaming.deliver machine.arrayTick.2
  have left := streaming.ticksLeft_tick (underway.start_eq.trans answered.startHigh)
  rwa [Datapath.ticksLeft_deliver] at left

theorem answered_of_answered (answered : machine.Answered)
    (left : machine.datapath.ticksLeft ≠ 0)
    (waiting : machine.attended.controller.state.activity = .waiting .engine)
    (stage : machine.attended.controller.state.stage = .awaitEngine) :
    machine.attended.Answered where
  waiting
  stage
  streaming := by
    rw [underway.datapathInputs_attended]
    exact (answered.streaming.deliver machine.arrayTick.2).tick (answered.quiet.deliver _)
  quiet := underway.forthcoming_attended.1
  startHigh := (machine.controller.attended_attend machine.controlPins).engineStartHigh
  ready := by
    have sampled := (machine.controller.attended_attend machine.controlPins).sampled
    have streaming := answered.streaming
    have ready : machine.controlPins.engineReady = decide (machine.datapath.ticksLeft = 1) :=
      streaming.readyWire.trans streaming.ready_eq
    rw [underway.ticksLeft_of_answered answered]
    refine (congrArg ControlPins.engineReady sampled).trans (ready.trans ?_)
    exact decide_eq_decide.2 (by omega)

/-! ## The program -/

theorem programState_attended :
    machine.attended.programState =
      { contents := machine.programState.contents.deliver machine.datapath.engine.features
          (machine.begun.bind EchoArray.Run.due?)
        results := (machine.begun.bind EchoArray.Run.next?).map (·.results) } := by
  have contents := underway.forthcoming_attended.2
  rw [results_arrayTick] at contents
  rw [programState, contents, begun_attended underway.arrayStart_attended]
  rfl

theorem arrayTicks_attended :
    machine.attended.arrayTicks + min 1 machine.arrayTicks = machine.arrayTicks := by
  have high := (array_attended underway.ready).2
  rw [results_arrayTick] at high
  rw [arrayTicks, arrayTicks, begun_attended underway.arrayStart_attended, high]
  cases machine.begun with
  | none =>
    cases machine.array.state.readyHigh <;> rfl
  | some run =>
    obtain ⟨ticks, results⟩ := run
    cases ticks with
    | zero => rfl
    | succ ticks =>
      dsimp only [Option.bind, EchoArray.Run.next?]
      omega

/-- A controller that keeps a ready of the array in mind is owed what it was owed
before. -/
theorem owed_attended
    (done : machine.attended.controller.state.arrayDone =
      (machine.controller.state.arrayDone || machine.array.state.readyHigh)) :
    machine.attended.owed = machine.owed := by
  have high := (array_attended underway.ready).2
  rw [results_arrayTick] at high
  rw [owed, owed, begun_attended underway.arrayStart_attended, high, done]
  cases machine.begun with
  | none => simp [Bool.or_comm]
  | some run =>
    obtain ⟨ticks, results⟩ := run
    cases ticks <;> rfl

/-- If no instruction takes effect, only time passes. -/
theorem continues_attended
    (sequenced : Sequenced machine.owed machine.controller.remaining)
    (poised : machine.attended.Poised)
    (done : machine.attended.controller.state.arrayDone =
      (machine.controller.state.arrayDone || machine.array.state.readyHigh))
    (remaining : machine.attended.controller.remaining = machine.controller.remaining)
    {ticks : Nat} (taken : machine.attended.stageTicks + ticks = machine.stageTicks) :
    machine.Continues machine.attended (min 1 machine.arrayTicks + ticks) where
  underway := poised.toUnderway
  features := machine.features_attended
  sequenced := by
    rw [underway.owed_attended done, remaining]
    exact sequenced
  run := by
    rw [remaining, underway.programState_attended]
    refine ProgramState.run_arrayTick sequenced (fun begun => ?_) _
    rw [owed, begun]
    rfl
  ticks := by
    have array := underway.arrayTicks_attended
    rw [ticksLeft, ticksLeft]
    omega

/-- At one and the same stage only the engine has come nearer to its end. -/
theorem stageTicks_attended
    (stage : machine.attended.controller.state.stage = machine.controller.state.stage)
    (remaining : machine.attended.controller.remaining = machine.controller.remaining)
    (behind : machine.attended.controller.behind = machine.controller.behind)
    (engine : machine.controller.state.stage = .awaitEngine →
      machine.Requested ∨ machine.Answered ∧ machine.datapath.ticksLeft ≠ 0) :
    machine.attended.stageTicks +
        (if machine.controller.state.stage = .awaitEngine ∧
          machine.controller.state.engineStartHigh = false then 1 else 0) =
      machine.stageTicks := by
  have startHigh : machine.attended.controller.state.engineStartHigh = false :=
    (machine.controller.attended_attend machine.controlPins).engineStartHigh
  have latency : machine.attended.array.latency = machine.array.latency :=
    EchoArray.latency_tick ..
  rw [stageTicks, stageTicks, stage, remaining, behind, latency, features_attended, startHigh]
  cases now : machine.controller.state.stage with
  | awaitEngine =>
    rcases engine now with requested | ⟨answered, left⟩
    · have taken := underway.ticksLeft_of_requested requested
      simp only [requested.startHigh]
      grind
    · have taken := underway.ticksLeft_of_answered answered
      simp only [answered.startHigh]
      grind
  | _ => simp

theorem attend_of_kept (sequenced : Sequenced machine.owed machine.controller.remaining)
    (activity : Activity)
    (attend : machine.controller.attend machine.controlPins =
      { machine.controller.sample machine.controlPins with
        state.arrayDone := machine.controller.state.arrayDone ||
          machine.controller.arrayRises machine.controlPins
        state.activity := activity })
    (started : activity ≠ .stopped)
    (awaits : activity = .waiting .array → machine.controller.state.activity = .waiting .array)
    (unready : machine.controller.state.activity = .waiting .array →
      machine.array.state.readyHigh = false)
    (situation : machine.attended.Resting ∨ machine.attended.Answered)
    (engine : machine.controller.state.stage = .awaitEngine →
      machine.Requested ∨ machine.Answered ∧ machine.datapath.ticksLeft ≠ 0) :
    machine.attended.Poised ∧ machine.Continues machine.attended machine.attendedTicks := by
  rw [underway.arrayRises_eq] at attend
  have controller : machine.attended.controller = Controller.commit _ :=
    congrArg Controller.commit attend
  have stage : machine.attended.controller.state.stage = machine.controller.state.stage := by
    rw [controller]
    rfl
  have poised : machine.attended.Poised := by
    refine underway.poised_attended (underway.underway_attended machine.controller.state.stage
      attend started underway.staged underway.executes (fun awaited => ?_) (fun known => ?_)
      situation) fun pulse => stage.trans (underway.pulsed pulse)
    · obtain ⟨stage, undone⟩ := underway.awaits (awaits awaited)
      exact ⟨stage, by rw [undone, unready (awaits awaited)]; rfl⟩
    · simpa using known
  have remaining : machine.attended.controller.remaining = machine.controller.remaining := by
    rw [controller]
    rfl
  have behind : machine.attended.controller.behind = machine.controller.behind := by
    rw [controller]
    rfl
  have done : machine.attended.controller.state.arrayDone =
      (machine.controller.state.arrayDone || machine.array.state.readyHigh) := by
    rw [controller]
    rfl
  have patient : ¬(machine.controller.state.activity = .waiting .array ∧
      machine.array.state.readyHigh = true) := fun ⟨awaited, high⟩ => by simp [unready awaited] at high
  refine ⟨poised, ?_⟩
  rw [attendedTicks, if_neg patient, Nat.add_zero]
  exact underway.continues_attended sequenced poised done remaining
    (underway.stageTicks_attended stage remaining behind engine)

section Awaited

variable (awaited : machine.controller.state.activity = .waiting .array)
  (high : machine.array.state.readyHigh = true)
  (attend : machine.controller.attend machine.controlPins =
    { machine.controller.sample machine.controlPins with
      state.arrayDone := false
      state.stage := .advance
      state.activity :=
        Activity.running.follow machine.controller.state.sampled machine.controlPins })

include attend

theorem poised_of_awaited (reached : machine.attended.Resting) : machine.attended.Poised := by
  have controller : machine.attended.controller = Controller.commit _ :=
    congrArg Controller.commit attend
  have active := Activity.follow_running_or_paused (.inl rfl) machine.controller.state.sampled
    machine.controlPins
  refine underway.poised_attended (underway.underway_attended .advance attend ?_ nofun nofun ?_
    nofun (.inl reached)) fun _ => by rw [controller]; rfl
  · rcases active with running | paused <;> simp [*]
  · rcases active with running | paused <;> simp [*]

include awaited high

/-- The stage of the wait, its instruction and the tick in which ready was raised are done. -/
theorem ticksLeft_of_awaited :
    machine.attended.ticksLeft + machine.attendedTicks = machine.ticksLeft := by
  have controller : machine.attended.controller = Controller.commit _ :=
    congrArg Controller.commit attend
  have stage := (underway.awaits awaited).1
  have code : machine.controller.state.instruction.operation? = some .waitReady :=
    underway.executes _ (by rw [stage]; rfl)
  have unfinished : machine.controller.state.instruction.operation? ≠ some .finish := by
    rw [code]
    nofun
  have before : machine.controller.remaining =
      machine.controller.state.instruction :: machine.controller.behind := by
    rw [Controller.remaining, stage]
  have behind : machine.attended.controller.behind = machine.controller.behind := by
    rw [controller]
    rfl
  have advance : machine.attended.controller.state.stage = .advance := by
    rw [controller]
    rfl
  have array := underway.arrayTicks_attended
  have latency : machine.attended.array.latency = machine.array.latency :=
    EchoArray.latency_tick ..
  rw [attendedTicks, if_neg (by simp [stage]), if_pos ⟨awaited, high⟩, ticksLeft, ticksLeft,
    stageTicks, stageTicks, advance, stage, behind, before, latency, features_attended,
    executionTicks_cons _ _ unfinished, Instruction.executionTicks, code]
  dsimp only
  omega

/-- The wait for the array ends when the results are there. -/
theorem attend_of_awaited (sequenced : Sequenced machine.owed machine.controller.remaining)
    (reached : machine.attended.Resting) :
    machine.attended.Poised ∧ machine.Continues machine.attended machine.attendedTicks := by
  have controller : machine.attended.controller = Controller.commit _ :=
    congrArg Controller.commit attend
  have stage := (underway.awaits awaited).1
  have idle := underway.begun_eq_none (.inl high)
  have poised := underway.poised_of_awaited attend reached
  have code : machine.controller.state.instruction.operation? = some .waitReady :=
    underway.executes _ (by rw [stage]; rfl)
  have before : machine.controller.remaining =
      machine.controller.state.instruction :: machine.controller.behind := by
    rw [Controller.remaining, stage]
  have after : machine.attended.controller.remaining = machine.controller.behind := by
    rw [controller]
    rfl
  have done : machine.attended.controller.state.arrayDone = false := by
    rw [controller]
    rfl
  have readyHigh := (array_attended underway.ready).2
  have begun := begun_attended underway.arrayStart_attended
  rw [results_arrayTick] at readyHigh
  rw [idle] at readyHigh begun
  rw [before] at sequenced
  refine ⟨poised, ?_⟩
  exact {
    underway := poised.toUnderway
    features := machine.features_attended
    sequenced := by
      rw [owed, begun, readyHigh, done, after]
      exact ((Sequenced.waitReady_iff code).1 sequenced).2
    run := by
      rw [after, before, ProgramState.run_cons _ (by simp [code]), ProgramState.execute, code,
        underway.programState_attended, programState, idle]
      rfl
    ticks := underway.ticksLeft_of_awaited awaited high attend }

end Awaited

/-- The wait for the engine ends when the request is done. -/
theorem attend_of_answered (sequenced : Sequenced machine.owed machine.controller.remaining)
    (reached : machine.attended.Resting) (answered : machine.Answered)
    (ended : machine.datapath.ticksLeft = 0)
    (attend : machine.controller.attend machine.controlPins =
      { machine.controller.sample machine.controlPins with
        state.arrayDone := machine.controller.state.arrayDone ||
          machine.controller.arrayRises machine.controlPins
        state.stage := .engineDone
        state.activity :=
          Activity.running.follow machine.controller.state.sampled machine.controlPins }) :
    machine.attended.Poised ∧ machine.Continues machine.attended machine.attendedTicks := by
  rw [underway.arrayRises_eq] at attend
  have controller : machine.attended.controller = Controller.commit _ :=
    congrArg Controller.commit attend
  have active := Activity.follow_running_or_paused (.inl rfl) machine.controller.state.sampled
    machine.controlPins
  have poised : machine.attended.Poised := by
    refine underway.poised_attended (underway.underway_attended .engineDone attend ?_ nofun nofun ?_
      (fun known => ?_) (.inl reached)) fun pulse => ?_
    · rcases active with running | paused <;> simp [*]
    · rcases active with running | paused <;> simp [*]
    · simpa using known
    · have advance := underway.pulsed pulse
      simp [answered.stage] at advance
  have remaining : machine.attended.controller.remaining = machine.controller.remaining := by
    rw [controller, Controller.remaining, Controller.remaining, answered.stage]
    rfl
  have done : machine.attended.controller.state.arrayDone =
      (machine.controller.state.arrayDone || machine.array.state.readyHigh) := by
    rw [controller]
    rfl
  have patient : ¬(machine.controller.state.activity = .waiting .array ∧
      machine.array.state.readyHigh = true) := by simp [answered.waiting]
  have latency : machine.attended.array.latency = machine.array.latency :=
    EchoArray.latency_tick ..
  have stage : machine.attended.controller.state.stage = .engineDone := by
    rw [controller]
    rfl
  have behind : machine.attended.controller.behind = machine.controller.behind := by
    rw [controller]
    rfl
  refine ⟨poised, ?_⟩
  rw [attendedTicks, if_neg patient, if_pos ⟨answered.stage, answered.startHigh⟩]
  refine underway.continues_attended sequenced poised done remaining ?_
  rw [stageTicks, stageTicks, stage, answered.stage, behind, latency, features_attended,
    answered.startHigh, ended]
  rfl

theorem unchanged :
    ¬(machine.controller.state.sampled.run = false ∧ machine.controlPins.run = true) ∧
      ¬(machine.controller.state.sampled.reset = true ∧ machine.controlPins.reset = false) := by
  simp [underway.sampledRun, underway.sampledReset]

variable (sequenced : Sequenced machine.owed machine.controller.remaining)

include sequenced

theorem attend_of_resting (resting : machine.Resting) :
    machine.attended.Poised ∧ machine.Continues machine.attended machine.attendedTicks := by
  obtain ⟨unstarted, unreset⟩ := underway.unchanged
  have same : machine.controlPins.engineReady = machine.controller.state.sampled.engineReady :=
    engineReady_of_idle resting.idle resting.unready
  have reached : machine.attended.Resting := underway.resting_attended resting.idle
    resting.startHigh (resting.free.attend same)
  have unasked (stage : machine.controller.state.stage = .awaitEngine) :
      machine.Requested ∨ machine.Answered ∧ machine.datapath.ticksLeft ≠ 0 :=
    absurd stage resting.free.stage
  by_cases awaited : machine.controller.state.activity = .waiting .array
  · cases high : machine.array.state.readyHigh with
    | true =>
      exact underway.attend_of_awaited awaited high
        (Controller.attend_of_awaited unstarted unreset awaited same
          (underway.arrayRises_eq.trans high)) sequenced reached
    | false =>
      have unready := underway.arrayRises_eq.trans high
      have waits := Controller.attend_of_unready unstarted unreset awaited same unready
      refine underway.attend_of_kept sequenced (.waiting .array) ?_ nofun (fun _ => awaited)
        (fun _ => high) (.inl reached) unasked
      rw [waits, unready, Bool.or_false, ← awaited]
      rfl
  · have active : machine.controller.state.activity = .running ∨
        machine.controller.state.activity = .paused := by
      have working := resting.free.working
      have unasked := resting.free.unasked
      have started := underway.started
      cases activity : machine.controller.state.activity with
      | running => exact .inl rfl
      | paused => exact .inr rfl
      | stopped => exact absurd activity started
      | failed => exact absurd activity working
      | waiting what => cases what <;> contradiction
    have follows := Activity.follow_running_or_paused active machine.controller.state.sampled
      machine.controlPins
    refine underway.attend_of_kept sequenced _
      (Controller.attend_of_unawaited unstarted unreset awaited (.inl same)) ?_ ?_
      (fun waits => absurd waits awaited) (.inl reached) unasked
    · rcases follows with running | paused <;> simp [*]
    · rcases follows with running | paused <;> simp [*]

theorem attend_of_requested (requested : machine.Requested) :
    machine.attended.Poised ∧ machine.Continues machine.attended machine.attendedTicks := by
  obtain ⟨unstarted, unreset⟩ := underway.unchanged
  have same : machine.controlPins.engineReady = machine.controller.state.sampled.engineReady :=
    engineReady_of_idle requested.idle requested.unready
  have attend := Controller.attend_of_unawaited unstarted unreset
    (by rw [requested.waiting]; nofun) (.inl same)
  rw [requested.waiting, Activity.follow_waiting] at attend
  have controller : machine.attended.controller = Controller.commit _ :=
    congrArg Controller.commit attend
  have answered : machine.attended.Answered := underway.answered_of_requested requested
    (by rw [controller]; rfl) (by rw [controller]; exact requested.stage)
  exact underway.attend_of_kept sequenced _ attend nofun nofun (by simp [requested.waiting])
    (.inr answered) fun _ => .inl requested

theorem attend_of_unanswered (answered : machine.Answered)
    (left : machine.datapath.ticksLeft ≠ 0) :
    machine.attended.Poised ∧ machine.Continues machine.attended machine.attendedTicks := by
  obtain ⟨unstarted, unreset⟩ := underway.unchanged
  have unawaited : machine.controller.state.activity ≠ .waiting .array := by
    rw [answered.waiting]
    nofun
  have before : machine.controller.state.sampled.engineReady = false := by
    rw [answered.ready]
    exact decide_eq_false left
  have attend := Controller.attend_of_unawaited unstarted unreset unawaited
    (.inr ⟨answered.waiting, by simp [before]⟩)
  rw [answered.waiting, Activity.follow_waiting] at attend
  have controller : machine.attended.controller = Controller.commit _ :=
    congrArg Controller.commit attend
  have next : machine.attended.Answered := underway.answered_of_answered answered left
    (by rw [controller]; rfl) (by rw [controller]; exact answered.stage)
  exact underway.attend_of_kept sequenced _ attend nofun nofun (fun waits => absurd waits unawaited)
    (.inr next) fun _ => .inr ⟨answered, left⟩

/-- In the first half of a tick no instruction takes effect: what has been asked
for is carried out. -/
theorem attend :
    machine.attended.Poised ∧ machine.Continues machine.attended machine.attendedTicks := by
  rcases underway.situation with resting | requested | answered
  · exact underway.attend_of_resting sequenced resting
  · exact underway.attend_of_requested sequenced requested
  · by_cases ended : machine.datapath.ticksLeft = 0
    · obtain ⟨unstarted, unreset⟩ := underway.unchanged
      have past : machine.controller.state.sampled.engineReady = true := by
        rw [answered.ready, ended]
        rfl
      have now : machine.controlPins.engineReady = false := by
        have ready : machine.controlPins.engineReady = decide (machine.datapath.ticksLeft = 1) :=
          answered.streaming.readyWire.trans answered.streaming.ready_eq
        rw [ready, ended]
        rfl
      exact underway.attend_of_answered sequenced
        (underway.resting_attended (answered.streaming.idle ended) answered.startHigh
          (Controller.attend_of_ended answered.waiting past now)) answered ended
        (Controller.attend_of_answered unstarted unreset answered.waiting past now)
    · exact underway.attend_of_unanswered sequenced answered ended

end Underway

end Machine

end AccessController
