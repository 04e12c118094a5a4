import AccessController.Proofs.Machine.Attended
import AccessController.Proofs.Machine.Build
import AccessController.Proofs.Machine.Dormant
import AccessController.Proofs.Machine.Executed

/-!
# Runs refine the interpreter

Two halves of a tick lead from one middle of a tick to the next, and at least one
of the ticks that are left goes by (`Poised.continues`).  So a run with enough
time ends, and it ends where the interpreter does.
-/

namespace AccessController

namespace Machine

variable {machine : Machine}

theorem Continues.refl (underway : machine.Underway)
    (sequenced : Sequenced machine.owed machine.controller.remaining) :
    machine.Continues machine 0 where
  underway
  features := rfl
  sequenced
  run := rfl
  ticks := rfl

theorem Continues.trans {before middle after : Machine} {first second : Nat}
    (left : before.Continues middle first) (right : middle.Continues after second) :
    before.Continues after (first + second) where
  underway := right.underway
  features := right.features.trans left.features
  sequenced := right.sequenced
  run := by
    have run := right.run
    rw [left.features] at run
    exact run.trans left.run
  ticks := by
    have first := left.ticks
    have second := right.ticks
    omega

theorem Underway.tick_eq (underway : machine.Underway) :
    machine.tick = machine.attended.acted := by
  rcases underway.situation with resting | requested | answered
  · exact tick_eq_acted _ resting.free.working
      (.inl (engineReady_of_idle resting.idle resting.unready))
  · exact tick_eq_acted _ (by simp [requested.waiting]) (.inr requested.waiting)
  · exact tick_eq_acted _ (by simp [answered.waiting]) (.inr answered.waiting)

namespace Poised

variable (poised : machine.Poised)

include poised

/-- From one middle of a tick to the next the program goes on. -/
theorem continues (unfinished : ¬machine.Finishing)
    (sequenced : Sequenced machine.owed machine.controller.remaining) :
    machine.acted.attended.Poised ∧
      machine.Continues machine.acted.attended
        (machine.actedTicks + machine.acted.attendedTicks) := by
  have first := poised.act unfinished sequenced
  obtain ⟨next, second⟩ := first.underway.attend first.sequenced
  exact ⟨next, first.trans second⟩

/-- A controller at a wait with no ready to be seen waits for an array that is on
its way. -/
theorem arrayTicks_pos (stage : machine.controller.state.stage = .waitReady)
    (undone : machine.controller.state.arrayDone = false)
    (sequenced : Sequenced machine.owed machine.controller.remaining) :
    0 < machine.arrayTicks := by
  have executing : machine.controller.state.stage.opcode? = some .waitReady := by
    rw [stage]
    rfl
  obtain ⟨code, -, before, -⟩ := poised.executing executing
  rw [before] at sequenced
  have owed := ((Sequenced.waitReady_iff code).1 sequenced).1
  rw [Machine.owed, undone, Bool.or_false] at owed
  rw [arrayTicks]
  cases begun : machine.begun with
  | some run => exact Nat.zero_lt_succ _
  | none =>
    rw [begun] at owed
    dsimp only
    rw [if_pos (by simpa using owed)]
    exact Nat.zero_lt_one

/-- A controller that waits for the engine goes on waiting, and its request has been
taken in. -/
theorem awaits_acted (waiting : machine.controller.state.activity = .waiting .engine) :
    machine.acted.controller.state.stage = .awaitEngine ∧
      machine.acted.controller.state.engineStartHigh = false := by
  rw [poised.controller_acted, Controller.act, waiting]
  refine ⟨?_, poised.unasked⟩
  rcases poised.situation with resting | requested | answered
  · exact absurd waiting resting.free.unasked
  · exact requested.stage
  · exact answered.stage

theorem ticks_pos (unpaused : machine.controller.state.activity ≠ .paused)
    (sequenced : Sequenced machine.owed machine.controller.remaining) :
    0 < machine.actedTicks + machine.acted.attendedTicks := by
  have array (outputs : (machine.controller.act true).outputs = machine.controller.outputs)
      (stage : machine.controller.state.stage = .waitReady)
      (undone : machine.controller.state.arrayDone = false) :
      0 < machine.acted.attendedTicks := by
    have ticks := poised.arrayTicks_pos stage undone sequenced
    have same : machine.acted.arrayTicks = machine.arrayTicks :=
      arrayTicks_acted (by rw [poised.outputs_acted outputs])
    rw [attendedTicks, same]
    omega
  cases activity : machine.controller.state.activity with
  | running =>
    by_cases passes : machine.controller.state.stage = .waitReady →
        machine.controller.state.arrayDone = true
    · rw [actedTicks, if_pos ⟨activity, passes⟩]
      exact Nat.lt_add_right _ Nat.zero_lt_one
    · obtain ⟨stage, undone⟩ := Classical.not_imp.1 passes
      refine Nat.lt_add_left _ (array ?_ stage (Bool.eq_false_iff.2 undone))
      rw [Controller.act_of_running activity, Controller.step, stage]
      dsimp only
      rw [Controller.waitReady, if_neg undone]
      rfl
  | waiting awaited =>
    cases awaited with
    | array =>
      obtain ⟨stage, undone⟩ := poised.awaits activity
      refine Nat.lt_add_left _ (array ?_ stage undone)
      rw [Controller.act, activity]
    | engine =>
      rw [attendedTicks, if_pos (poised.awaits_acted activity)]
      omega
  | paused => exact absurd activity unpaused
  | stopped => exact absurd activity poised.started
  | failed => exact absurd activity poised.working

/-- The step of a controller at the end of the program raises the finish line. -/
theorem finishLevel_acted (finishing : machine.Finishing) : machine.acted.finishLevel = true := by
  obtain ⟨running, stage⟩ := finishing
  rw [finishLevel, poised.controller_acted, Controller.act_of_running running, Controller.step,
    stage]
  rfl

end Poised

/-! ## The way to the finish line -/

theorem awaitFinish_of_finishLevel (level : machine.finishLevel = true) (timeout budget : Nat) :
    machine.awaitFinish timeout budget = (machine, none) := by
  cases budget with
  | zero => rw [awaitFinish, if_pos level]
  | succ budget => rw [awaitFinish, if_pos level]

theorem haltError?_acted (faultless : machine.controller.state.fault = none) :
    machine.acted.haltError? = none := by
  have same : machine.acted.controller.state.fault = machine.controller.state.fault :=
    Controller.fault_act _
  rw [haltError?, same, faultless]
  rfl

/-- With the pause pin low the controller is not paused from one middle of a tick
to the next. -/
theorem unpaused_attended_acted (pause : machine.pins.pause = .rest false)
    (unpaused : machine.controller.state.activity ≠ .paused) :
    machine.acted.attended.controller.state.activity ≠ .paused :=
  Controller.unpaused_attend (Controller.unpaused_act unpaused _) (congrArg Wire.level pause)

/-- The machine comes to the end of the program in the ticks that are left. -/
theorem Poised.awaitFinish (poised : machine.Poised)
    (sequenced : Sequenced machine.owed machine.controller.remaining)
    (pause : machine.pins.pause = .rest false)
    (unpaused : machine.controller.state.activity ≠ .paused) (timeout : Nat) {budget : Nat}
    (enough : machine.ticksLeft ≤ budget) :
    ∃ (last : Machine) (ticks : Nat),
      machine.acted.awaitFinish timeout budget = (last.acted, none) ∧ last.Poised ∧
        last.Finishing ∧ machine.Continues last ticks ∧ last.pins.pause = .rest false := by
  induction budget generalizing machine with
  | zero =>
    by_cases finishing : machine.Finishing
    · exact ⟨machine, 0, awaitFinish_of_finishLevel (poised.finishLevel_acted finishing) ..,
        poised, finishing, .refl poised.toUnderway sequenced, pause⟩
    · have positive := poised.ticks_pos unpaused sequenced
      have taken := (poised.continues finishing sequenced).2.ticks
      omega
  | succ budget ih =>
    by_cases finishing : machine.Finishing
    · exact ⟨machine, 0, awaitFinish_of_finishLevel (poised.finishLevel_acted finishing) ..,
        poised, finishing, .refl poised.toUnderway sequenced, pause⟩
    · obtain ⟨next, continues⟩ := poised.continues finishing sequenced
      have underway := (poised.act finishing sequenced).underway
      have positive := poised.ticks_pos unpaused sequenced
      have taken := continues.ticks
      have level : machine.acted.finishLevel = false := congrArg Wire.level underway.finish
      have low : machine.acted.attended.pins.pause = .rest false := by
        rw [attended, ExternalPins.commit]
        exact congrArg Wire.commit pause
      obtain ⟨last, ticks, reached, final, finishing, rest, pause⟩ := ih next continues.sequenced low
        (unpaused_attended_acted pause unpaused) (by omega)
      refine ⟨last, _, ?_, final, finishing, continues.trans rest, pause⟩
      rw [Machine.awaitFinish, level, underway.tick_eq]
      dsimp only
      rw [haltError?_acted next.fault]
      exact reached

/-! ## Behind the finish line -/

section

variable (resting : machine.Resting) (finishing : machine.Finishing)
  (sampledRun : machine.controller.state.sampled.run = true)
  (sampledReset : machine.controller.state.sampled.reset = false)
  (run : machine.pins.run = .rest false) (pause : machine.pins.pause = .rest false)

include resting finishing sampledRun sampledReset run pause

/-- A controller at the end of the program lowers the finish line when run falls. -/
theorem controller_rewinds :
    machine.tick.controller =
      (Controller.finish
        { machine.controller.sample machine.controlPins with
          state.arrayDone := machine.controller.state.arrayDone ||
            machine.controller.arrayRises machine.controlPins
          state.activity := .running } false).commit := by
  obtain ⟨running, stage⟩ := finishing
  have same := engineReady_of_idle resting.idle resting.unready
  have unstarted : ¬(machine.controller.state.sampled.run = false ∧
      machine.controlPins.run = true) := by simp [sampledRun]
  have unreset : ¬(machine.controller.state.sampled.reset = true ∧
      machine.controlPins.reset = false) := by simp [sampledReset]
  have attend := Controller.attend_of_unawaited unstarted unreset
    (by simp [running]) (.inl same)
  have low : machine.controlPins.pause = false := congrArg Wire.level pause
  have stopped : machine.controlPins.run = false := congrArg Wire.level run
  rw [running, Activity.follow, low, if_neg Bool.false_ne_true] at attend
  have stays : (machine.controller.attend machine.controlPins).state.stage = .finish := by
    rw [attend]
    exact stage
  rw [controller_tick, Controller.tick_eq_act _ _ resting.free.working (.inl same), stopped,
    Controller.act_of_running (by rw [attend]), Controller.step, stays, attend]

theorem rewinds :
    machine.tick.controller.state.stage = .idle ∧ machine.tick.controller.state.pointer = 0 ∧
      machine.tick.controller.state.fault = machine.controller.state.fault := by
  rw [controller_rewinds resting finishing sampledRun sampledReset run pause]
  exact ⟨rfl, rfl, rfl⟩

end

/-- The step at the end of the program drives the finish line only. -/
theorem Poised.controller_finished (poised : machine.Poised) (finishing : machine.Finishing) :
    machine.acted.controller =
      { machine.controller with
        outputs := { machine.controller.outputs with finish := .rest true } } := by
  obtain ⟨running, stage⟩ := finishing
  rw [poised.controller_acted, Controller.act_of_running running, Controller.step, stage]
  have outputs : (machine.controller.finish true).commit.outputs =
      { machine.controller.outputs.commit with finish := .rest true } := rfl
  rw [poised.committed] at outputs
  rw [← outputs]
  rfl

section

variable (poised : machine.Poised) (finishing : machine.Finishing)

include poised finishing

/-- When run falls, the controller is still at the end of the program. -/
theorem Poised.lowered :
    (machine.acted.setRun false).Resting ∧ (machine.acted.setRun false).Finishing := by
  have resting := poised.resting (by simp [finishing.1])
  have controller : (machine.acted.setRun false).controller = _ :=
    poised.controller_finished finishing
  constructor
  · refine resting.move rfl ?_ ?_ ?_ <;> rw [controller]
    exact resting.free.move rfl resting.free.stage
  · rw [Finishing, controller]
    exact finishing

/-- One tick later it has rewound. -/
theorem Poised.drain (pause : machine.pins.pause = .rest false) :
    (machine.acted.setRun false).drain drainTicks = ((machine.acted.setRun false).tick, none) ∧
      (machine.acted.setRun false).tick.controller.state.stage = .idle ∧
      (machine.acted.setRun false).tick.controller.state.pointer = 0 := by
  obtain ⟨rested, finished⟩ := poised.lowered finishing
  have controller : (machine.acted.setRun false).controller = _ :=
    poised.controller_finished finishing
  obtain ⟨stage, pointer, fault⟩ := rewinds rested finished
    (by rw [controller]; exact poised.sampledRun) (by rw [controller]; exact poised.sampledReset)
    rfl pause
  refine ⟨?_, stage, pointer⟩
  have halt : (machine.acted.setRun false).tick.haltError? = none := by
    rw [haltError?, fault, controller, poised.fault]
    rfl
  rw [drainTicks, Machine.drain, halt]
  dsimp only
  rw [if_pos stage]

theorem Poised.begun_lowered (settled : machine.owed = false) :
    (machine.acted.setRun false).begun = none := by
  have controller : (machine.acted.setRun false).controller = _ :=
    poised.controller_finished finishing
  rw [← (rests_of_settled settled).1, begun, controller]
  rfl

theorem Poised.datapath_drained (settled : machine.owed = false) :
    (machine.acted.setRun false).tick.datapath = machine.datapath.tick machine.datapathInputs := by
  have controller : (machine.acted.setRun false).controller = _ :=
    poised.controller_finished finishing
  have inputs : (machine.acted.setRun false).datapathInputs = machine.datapathInputs := by
    rw [datapathInputs_eq, controller]
    rfl
  have delivered : (machine.acted.setRun false).delivered = machine.datapath := by
    rw [delivered, results_arrayTick, poised.begun_lowered finishing settled]
    rfl
  rw [datapath_tick, delivered, inputs]

theorem Poised.contents_drained (settled : machine.owed = false) :
    (machine.acted.setRun false).tick.datapath.contents = machine.programState.contents := by
  have resting := poised.resting (by simp [finishing.1])
  have tick : (machine.datapath.tick machine.datapathInputs).contents = _ :=
    resting.idle.contents_tick
  have settles := poised.quiet.settle_outcome machine.datapathInputs.selectIn
  rw [resting.idle.outcome_eq] at settles
  rw [poised.datapath_drained finishing settled, tick, settles,
    poised.contents_programState resting]

end

/-! ## Whole runs -/

section

variable (parked : machine.Parked)

include parked

theorem Parked.unpaused :
    (machine.setRun true).attended.pins.pause = .rest false ∧
      (machine.setRun true).attended.controller.state.activity ≠ .paused := by
  constructor
  · change machine.pins.pause.commit = _
    rw [parked.pins]
    rfl
  · rw [parked.controller_attended]
    nofun

/-- A run that comes to the end of the program ends with a report. -/
theorem Parked.run_of_awaited {last : Machine} {budget : Nat}
    (reached : (machine.setRun true).attended.acted.awaitFinish (budget + 1) budget =
      (last.acted, none))
    (poised : last.Poised) (finishing : last.Finishing) (pause : last.pins.pause = .rest false) :
    let finished := (last.acted.setRun false).tick
    machine.run (budget + 1) = (finished, .ok finished.report) ∧
      finished.report.finished = true := by
  intro finished
  obtain ⟨drained, stage, pointer⟩ := poised.drain finishing pause
  have faultless : (machine.setRun true).attended.controller.state.fault = none := by
    rw [parked.controller_attended]
    exact parked.fault
  have tick : (machine.setRun true).tick = (machine.setRun true).attended.acted :=
    tick_eq_acted _ parked.resting.free.working
      (.inl (engineReady_of_idle parked.resting.idle parked.resting.unready))
  have level : (machine.setRun true).finishLevel = false := congrArg Wire.level parked.finish
  have awaited : (machine.setRun true).awaitFinish (budget + 1) (budget + 1) =
      (last.acted, none) := by
    rw [Machine.awaitFinish, level, tick]
    dsimp only
    rw [haltError?_acted faultless]
    exact reached
  constructor
  · rw [Machine.run, awaited]
    dsimp only
    rw [drained]
  · exact decide_eq_true ⟨stage, pointer⟩

end

/-- A dormant machine with time enough runs its program to the end, and ends where
the interpreter does. -/
theorem Dormant.run (dormant : machine.Dormant)
    (sequenced : Sequenced false machine.controller.program.instructions) {timeout : Nat}
    (enough : executionTicks machine.datapath.engine.features machine.array.latency
      machine.controller.program.instructions < timeout) :
    ∃ finished report, machine.run timeout = (finished, .ok report) ∧ report.finished = true ∧
      finished.datapath.contents =
        (ProgramState.run machine.datapath.engine.features machine.controller.program.instructions
          ⟨machine.datapath.contents, none⟩).contents := by
  obtain ⟨poised, remaining, state, settled, ticks⟩ := dormant.attended
  obtain ⟨pause, unpaused⟩ := dormant.unpaused
  have begins : Sequenced (machine.setRun true).attended.owed
      (machine.setRun true).attended.controller.remaining := by
    rw [settled, remaining]
    exact sequenced
  cases timeout with
  | zero => exact absurd enough (Nat.not_lt_zero _)
  | succ budget =>
    have within : (machine.setRun true).attended.ticksLeft ≤ budget := by omega
    obtain ⟨last, taken, reached, final, finishing, continues, low⟩ :=
      poised.awaitFinish begins pause unpaused (budget + 1) within
    have none : last.controller.remaining = [] := by
      rw [Controller.remaining, finishing.2]
    have ended : last.owed = false := by
      have sequenced := continues.sequenced
      rw [none] at sequenced
      exact sequenced
    obtain ⟨run, complete⟩ := dormant.run_of_awaited reached final finishing low
    refine ⟨_, _, run, complete, ?_⟩
    have contents := continues.run
    rw [none, remaining, state, features_attended] at contents
    rw [final.contents_drained finishing ended]
    exact congrArg ProgramState.contents contents

/-- A machine that has been built runs a sequenced program to its end, whatever is in
its memory, and leaves the memory, the lines and the output lines that the
interpreter computes.  Only a report that cannot be written is an error. -/
theorem simulate_eq_interpreter {settings : Settings} {program : Program}
    (built : build? settings program = .ok machine) (memory : Memory)
    (sequenced : Sequenced false program.instructions)
    (enough : executionTicks machine.datapath.engine.features settings.array.latency
      program.instructions < settings.run.timeout) :
    ∃ finished report,
      (∀ {m : Type → Type} [Monad m] (files : FileAccess m),
        simulate files settings.run (machine.withMemory memory) =
          match settings.run.report with
          | none => pure (finished, .ok report)
          | some path => do
            let written ← files.write path (textBytes report.render)
            return (finished, (written.mapError (.report path)).map fun _ => report)) ∧
      report.finished = true ∧
      finished.datapath.contents =
        (ProgramState.run machine.datapath.engine.features program.instructions
          ⟨(machine.withMemory memory).datapath.contents, none⟩).contents := by
  obtain ⟨features, old, rfl⟩ := eq_new_of_build? built
  have dormant := (dormant_new program features old settings.array.latency).withMemory memory
  obtain ⟨finished, report, ends, complete, contents⟩ := dormant.run sequenced enough
  exact ⟨finished, report, fun files => simulate_of_run files settings.run ends, complete,
    contents⟩

/-- A line goes from memory through the array and back into memory. -/
theorem simulate_eq_interpreter_echo :
    let memory : Memory := ⟨(List.range 16 ++ List.replicate 16 0).toArray.map UInt8.ofNat⟩
    ∃ machine finished report, build? { engine := { memorySize := 32 } } .echo = .ok machine ∧
      (∀ {m : Type → Type} [Monad m] (files : FileAccess m),
        simulate files {} (machine.withMemory memory) = pure (finished, .ok report)) ∧
      report.finished = true ∧
      finished.datapath.contents.memory =
        ⟨(List.range 16 ++ List.range 16).toArray.map UInt8.ofNat⟩ := by
  intro memory
  obtain ⟨machine, built, enough, echoed⟩ :
      ∃ machine, build? { engine := { memorySize := 32 } } .echo = .ok machine ∧
        executionTicks machine.datapath.engine.features 8 Program.echo.instructions < 100000 ∧
        (ProgramState.run machine.datapath.engine.features Program.echo.instructions
          ⟨(machine.withMemory memory).datapath.contents, none⟩).contents.memory =
            ⟨(List.range 16 ++ List.range 16).toArray.map UInt8.ofNat⟩ :=
    ⟨_, rfl, by decide +kernel, by decide +kernel⟩
  obtain ⟨finished, report, ends, complete, contents⟩ :=
    simulate_eq_interpreter built memory (by decide +kernel) enough
  exact ⟨machine, finished, report, built, ends, complete,
    (congrArg Contents.memory contents).trans echoed⟩

end Machine

end AccessController
