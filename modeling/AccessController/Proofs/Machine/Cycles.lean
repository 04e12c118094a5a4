import AccessController.Proofs.Machine.Account
import AccessController.Proofs.Machine.Idle
import AccessController.Proofs.Machine.Refinement
import AccessController.Proofs.Program.Cycles

/-!
# The exact cost of a run

Without pauses, and with a program that leaves the array alone, a run is never held up:
every tick takes exactly one off the ticks that are left (`Undelayed.next`).  So the cost
of a simulation can be read off the program, and since the machine is idle again at its
end, the next simulation costs the same (`simulate_cycles`).
-/

namespace AccessController

namespace Machine

variable {machine : Machine}

/-- A machine in the middle of a tick of a run that nothing holds up. -/
structure Undelayed (machine : Machine) : Prop where
  poised : machine.Poised
  leaves : LeavesArray machine.controller.remaining
  settled : machine.owed = false
  pause : machine.pins.pause = .rest false
  unpaused : machine.controller.state.activity ≠ .paused

theorem arrayTicks_of_settled (settled : machine.owed = false) : machine.arrayTicks = 0 := by
  obtain ⟨begun, low, -⟩ := rests_of_settled settled
  rw [arrayTicks, begun, low]
  rfl

namespace Undelayed

variable (undelayed : machine.Undelayed)

include undelayed

theorem sequenced : Sequenced machine.owed machine.controller.remaining :=
  undelayed.leaves.sequenced_iff.2 undelayed.settled

theorem unwaiting : machine.controller.state.stage ≠ .waitReady := by
  intro stage
  have executing : machine.controller.state.stage.opcode? = some .waitReady := by
    rw [stage]
    rfl
  obtain ⟨code, -, before, -⟩ := undelayed.poised.executing executing
  have leaves := undelayed.leaves
  rw [before] at leaves
  exact leaves.ne_waitReady code

/-- A step that leads to the wait for the engine is a request. -/
theorem startHigh_acted (running : machine.controller.state.activity = .running)
    (awaits : machine.acted.controller.state.stage = .awaitEngine) :
    machine.acted.controller.state.engineStartHigh = true := by
  have free := (undelayed.poised.resting (by simp [running])).free
  rw [undelayed.poised.controller_acted] at awaits ⊢
  by_cases requests : machine.controller.Requests
  · obtain ⟨-, operation, stage⟩ := requests
    rw [Controller.act_of_running running, Controller.step, stage]
    rfl
  · exact absurd awaits (free.act true requests).free.stage

section

variable (unfinished : ¬machine.Finishing)

include unfinished

/-- Either the controller takes a step, or the engine does that it waits for. -/
theorem ticks_eq_one : machine.actedTicks + machine.acted.attendedTicks = 1 := by
  have acts := undelayed.poised.act unfinished undelayed.sequenced
  have balances := undelayed.poised.balances_acted
  have settled : machine.acted.owed = false :=
    (undelayed.leaves.of_suffix balances.remaining).sequenced_iff.1 acts.sequenced
  have low : machine.acted.array.state.readyHigh = false := (rests_of_settled settled).2.1
  have unready : ¬(machine.acted.controller.state.activity = .waiting .array ∧
      machine.acted.array.state.readyHigh = true) :=
    fun ⟨_, high⟩ => Bool.noConfusion (low.symm.trans high)
  rw [attendedTicks, arrayTicks_of_settled settled, if_neg unready]
  cases activity : machine.controller.state.activity with
  | running =>
    have requested : ¬(machine.acted.controller.state.stage = .awaitEngine ∧
        machine.acted.controller.state.engineStartHigh = false) := by
      rintro ⟨awaits, low⟩
      exact Bool.noConfusion (low.symm.trans (undelayed.startHigh_acted activity awaits))
    rw [actedTicks, if_pos ⟨activity, fun stage => absurd stage undelayed.unwaiting⟩,
      if_neg requested]
    rfl
  | waiting awaited =>
    rw [actedTicks, if_neg (by simp [activity])]
    cases awaited with
    | array => exact absurd (undelayed.poised.awaits activity).1 undelayed.unwaiting
    | engine =>
      rw [if_pos (undelayed.poised.awaits_acted activity)]
      rfl
  | paused => exact absurd activity undelayed.unpaused
  | stopped => exact absurd activity undelayed.poised.started
  | failed => exact absurd activity undelayed.poised.working

/-- From one middle of a tick to the next nothing holds the run up. -/
theorem next :
    machine.acted.attended.Undelayed ∧
      machine.acted.attended.ticksLeft + 1 = machine.ticksLeft ∧
      machine.controller.Balances machine.acted.attended.controller := by
  obtain ⟨poised, continues⟩ := undelayed.poised.continues unfinished undelayed.sequenced
  have underway := (undelayed.poised.act unfinished undelayed.sequenced).underway
  have balances := undelayed.poised.balances_acted.trans underway.balances_attended
  have leaves := undelayed.leaves.of_suffix balances.remaining
  have pause : machine.acted.attended.pins.pause = .rest false :=
    congrArg Wire.commit undelayed.pause
  refine ⟨?_, ?_, balances⟩
  · exact {
      poised
      leaves
      settled := leaves.sequenced_iff.1 continues.sequenced
      pause
      unpaused := unpaused_attended_acted undelayed.pause undelayed.unpaused }
  · have taken := continues.ticks
    rwa [undelayed.ticks_eq_one unfinished] at taken

end

/-- The last tick of a run is the one that raises the finish line. -/
theorem ticksLeft_of_finishing (finishing : machine.Finishing) : machine.ticksLeft = 1 := by
  rw [ticksLeft, stageTicks, finishing.2, arrayTicks_of_settled undelayed.settled]

theorem ticksLeft_pos : 0 < machine.ticksLeft := by
  by_cases finishing : machine.Finishing
  · rw [undelayed.ticksLeft_of_finishing finishing]
    exact Nat.zero_lt_one
  · rw [← (undelayed.next finishing).2.1]
    exact Nat.succ_pos _

end Undelayed

/-- The finish line is high after exactly the ticks that are left. -/
theorem Undelayed.awaitFinish (undelayed : machine.Undelayed) (timeout : Nat) {budget : Nat}
    (enough : machine.ticksLeft ≤ budget + 1) :
    ∃ last : Machine, machine.acted.awaitFinish timeout budget = (last.acted, none) ∧
      last.Undelayed ∧ last.Finishing ∧ machine.controller.Balances last.controller ∧
      last.cycle + 1 = machine.cycle + machine.ticksLeft := by
  induction budget generalizing machine with
  | zero =>
    by_cases finishing : machine.Finishing
    · refine ⟨machine, ?_, undelayed, finishing, .refl _, ?_⟩
      · exact awaitFinish_of_finishLevel (undelayed.poised.finishLevel_acted finishing) ..
      · rw [undelayed.ticksLeft_of_finishing finishing]
    · obtain ⟨next, taken, -⟩ := undelayed.next finishing
      have left := next.ticksLeft_pos
      omega
  | succ budget ih =>
    by_cases finishing : machine.Finishing
    · refine ⟨machine, ?_, undelayed, finishing, .refl _, ?_⟩
      · exact awaitFinish_of_finishLevel (undelayed.poised.finishLevel_acted finishing) ..
      · rw [undelayed.ticksLeft_of_finishing finishing]
    · obtain ⟨next, taken, balances⟩ := undelayed.next finishing
      have underway := (undelayed.poised.act finishing undelayed.sequenced).underway
      have low : machine.acted.finishLevel = false := congrArg Wire.level underway.finish
      obtain ⟨last, reached, final, finished, rest, cycle⟩ := ih next (by omega)
      refine ⟨last, ?_, final, finished, balances.trans rest, ?_⟩
      · rw [Machine.awaitFinish, low, underway.tick_eq]
        dsimp only
        rw [haltError?_acted next.poised.fault]
        exact reached
      · have attended : machine.acted.attended.cycle = machine.cycle + 1 := rfl
        omega

section

variable (undelayed : machine.Undelayed) (finishing : machine.Finishing)

include undelayed finishing

theorem Undelayed.pins_lowered :
    (machine.acted.setRun false).pins = {} ∧ (machine.acted.setRun false).controlPins = {} := by
  have pins : (machine.acted.setRun false).pins = {} := by
    change (⟨.rest false, machine.pins.pause, machine.pins.reset⟩ : ExternalPins) = {}
    rw [undelayed.pause, undelayed.poised.reset]
  have engine : (machine.acted.setRun false).datapath.engine.outputs.ready.level = false :=
    (undelayed.poised.lowered finishing).1.idle.readyWire_low
  have array : (machine.acted.setRun false).array.ready.level = false :=
    (congrArg Wire.level undelayed.poised.ready).trans (rests_of_settled undelayed.settled).2.1
  refine ⟨pins, ?_⟩
  rw [controlPins, pins, engine, array]
  rfl

theorem Undelayed.controller_drained :
    (machine.acted.setRun false).tick.controller =
      (Controller.finish
        { machine.acted.controller.sample {} with
          state.arrayDone := false
          state.activity := .running } false).commit := by
  obtain ⟨rested, finished⟩ := undelayed.poised.lowered finishing
  obtain ⟨pins, controlPins⟩ := undelayed.pins_lowered finishing
  have before : (machine.acted.setRun false).controller = _ :=
    undelayed.poised.controller_finished finishing
  have controller := controller_rewinds rested finished
    (by rw [before]; exact undelayed.poised.sampledRun)
    (by rw [before]; exact undelayed.poised.sampledReset)
    (congrArg ExternalPins.run pins) (congrArg ExternalPins.pause pins)
  have undone : (machine.acted.setRun false).controller.state.arrayDone = false := by
    rw [before]
    exact (rests_of_settled undelayed.settled).2.2
  rw [controlPins, undone] at controller
  exact controller

theorem Undelayed.idle_drained : (machine.acted.setRun false).tick.Idle := by
  have poised := undelayed.poised
  have controller := undelayed.controller_drained finishing
  have begun := poised.begun_lowered finishing undelayed.settled
  have start : machine.datapathInputs.start = false :=
    (congrArg Wire.level poised.engineStart).trans poised.unasked
  have datapath : (machine.acted.setRun false).tick.datapath.Idle := by
    rw [poised.datapath_drained finishing undelayed.settled]
    exact (poised.resting (by simp [finishing.1])).idle.tick start
  have array : (machine.acted.setRun false).tick.array =
    (machine.acted.setRun false).arrayTick.1.commit := by rw [tick_eq]
  constructor
  case pins =>
    rw [tick_eq]
    change (machine.acted.setRun false).pins.commit = _
    rw [(undelayed.pins_lowered finishing).1]
    rfl
  case sampled => rw [controller]; rfl
  case stage => rw [controller]; rfl
  case pointer => rw [controller]; rfl
  case working => rw [controller]; exact Activity.noConfusion
  case fault => rw [controller, poised.controller_finished finishing]; exact poised.fault
  case finishLevel => rw [finishLevel, controller]; rfl
  case phase => exact datapath.phase
  case engineReady => exact datapath.ready_low
  case countdown =>
    have underway : (machine.acted.setRun false).arrayTick.1.underway = none :=
      (EchoArray.underway_tick ..).trans (by rw [← Machine.begun, begun]; rfl)
    rw [array]
    exact Option.map_eq_none_iff.1 underway
  case arrayReady =>
    have before : (machine.acted.setRun false).array.ready =
      .rest (machine.acted.setRun false).array.state.readyHigh := poised.ready
    have readyHigh := (array_attended before).2
    rw [results_arrayTick, begun] at readyHigh
    rw [array]
    exact readyHigh
  case arrayDone => rw [controller]; rfl

theorem Undelayed.instructions_drained :
    (machine.acted.setRun false).tick.controller.state.stats.instructions =
      machine.controller.state.stats.instructions := by
  rw [undelayed.controller_drained finishing, undelayed.poised.controller_finished finishing]
  rfl

end

/-- A machine that waits for run runs a program that leaves the array alone in exactly
its cycles, and is idle afterwards. -/
theorem Parked.run_cycles (parked : machine.Parked)
    (leaves : LeavesArray machine.controller.program.instructions) {timeout : Nat}
    (enough : executionCycles machine.datapath.engine.features
      machine.controller.program.instructions ≤ timeout + 1) :
    ∃ finished, machine.run timeout = (finished, .ok finished.report) ∧
      finished.report.finished = true ∧
      finished.report.control.instructions =
        machine.controller.state.stats.instructions +
          (executed machine.controller.program.instructions).length ∧
      finished.report.cycles =
        machine.cycle + executionCycles machine.datapath.engine.features
          machine.controller.program.instructions ∧
      finished.Idle := by
  obtain ⟨poised, -, remaining, settled, ticks⟩ := parked.begins false
  obtain ⟨pause, unpaused⟩ := parked.unpaused
  rw [parked.raised_false] at poised remaining settled ticks
  have undelayed : (machine.setRun true).attended.Undelayed :=
    ⟨poised, remaining ▸ leaves, settled, pause, unpaused⟩
  have cost : executionTicks machine.datapath.engine.features machine.array.latency
        machine.controller.program.instructions + 1 =
      executionCycles machine.datapath.engine.features machine.controller.program.instructions :=
    executionTicks_add_one leaves machine.array.latency
  have long := two_le_executionTicks machine.datapath.engine.features machine.array.latency
    machine.controller.program.instructions
  obtain ⟨budget, rfl⟩ : ∃ budget, timeout = budget + 1 := ⟨timeout - 1, by omega⟩
  obtain ⟨last, reached, final, finishing, balances, cycle⟩ :=
    undelayed.awaitFinish (budget + 1) (show _ ≤ budget + 1 by omega)
  obtain ⟨run, complete⟩ :=
    parked.run_of_awaited reached final.poised finishing final.pause
  have attended : (machine.setRun true).attended.cycle = machine.cycle + 1 := rfl
  have drained : (last.acted.setRun false).tick.cycle = last.cycle + 1 := by rw [tick_eq]; rfl
  refine ⟨_, run, complete, ?_, ?_, final.idle_drained finishing⟩
  · have ended : last.controller.remaining = [] := by rw [Controller.remaining, finishing.2]
    have balance := balances.retiring
    rw [Controller.retiring, Controller.retiring, ended, remaining, finishing.2,
      parked.controller_attended] at balance
    rw [report, final.instructions_drained finishing]
    simpa [executed, Stage.uncounted] using balance
  · change (last.acted.setRun false).tick.cycle = _
    omega

/-! ## After any history -/

/-- A machine is idle after it has been built.  Whatever has happened to it since, and
whatever its memory and its lines hold: if it is idle, a simulation with enough time
retires the instructions in front of the first FINISH, takes exactly the cycles of the
program, and leaves a machine that is idle again.  Only a report that cannot be written is
an error. -/
theorem simulate_cycles {settings : Settings} {program : Program} {fresh : Machine}
    (built : build? settings program = .ok fresh) (leaves : LeavesArray program.instructions)
    (enough : executionCycles fresh.datapath.engine.features program.instructions ≤
      settings.run.timeout + 1) :
    fresh.Idle ∧
      ∀ (history : List Operation) (machine : Machine),
        machine.withoutData = (history.foldl perform fresh).withoutData → machine.Idle →
        ∃ finished,
          (∀ {m : Type → Type} [Monad m] (files : FileAccess m),
            simulate files settings.run machine =
              match settings.run.report with
              | none => pure (finished, .ok finished.report)
              | some path => do
                let written ← files.write path (textBytes finished.report.render)
                return (finished,
                  (written.mapError (.report path)).map fun _ => finished.report)) ∧
          finished.report.finished = true ∧
          finished.report.control.instructions =
            machine.report.control.instructions + (executed program.instructions).length ∧
          finished.report.cycles =
            machine.report.cycles +
              executionCycles fresh.datapath.engine.features program.instructions ∧
          finished.Idle ∧
          finished.withoutData =
            ((history ++ [Operation.simulate settings.run.timeout]).foldl perform
              fresh).withoutData := by
  obtain ⟨features, memory, rfl⟩ := eq_new_of_build? built
  refine ⟨idle_new program features memory settings.array.latency, ?_⟩
  intro history machine alike idle
  -- The invariants are known of the machine with the history; `machine` shares its run up to data.
  obtain ⟨events, played⟩ := exists_play_of_operations
    (new { program } { features, memory } { latency := settings.array.latency }) history
  have made := (made_new program features memory settings.array.latency).play events
  have consistent := (consistent_new program features memory settings.array.latency).play events
  rw [← played] at made consistent
  have parked := (idle.congr alike.symm).parked consistent made.handshake
  have costs := parked.run_cycles (by rw [made.program]; exact leaves)
    (by rw [made.program, made.features]; exact enough)
  rw [made.program, made.features] at costs
  obtain ⟨finished, run, complete, instructions, cycles, rested⟩ := costs
  obtain ⟨ended, outcome⟩ := run_congr alike settings.run.timeout
  rw [run] at ended outcome
  have begun : machine.report = _ := eq_of_blind alike report fun _ => rfl
  have same : (machine.run settings.run.timeout).1.report = finished.report :=
    eq_of_blind ended report fun _ => rfl
  refine ⟨(machine.run settings.run.timeout).1, fun files => ?_, ?_, ?_, ?_, rested.congr ended, ?_⟩
  · refine simulate_of_run files settings.run ?_
    rw [same]
    exact Prod.ext rfl outcome
  · rw [same, complete]
  · rw [same, begun, instructions]
    rfl
  · rw [same, begun, cycles]
    rfl
  · rw [List.foldl_append]
    exact withoutData_perform_congr alike (.simulate settings.run.timeout)

/-- Nothing, a code without an instruction, a selection, two loads of one element of which
the second names no place, and the load of a line cost the same twice. -/
theorem simulate_cycles_twice :
    let program : Program := ⟨[Instruction.ofFields 0 0 0 0, .ofFields 20 0 0 0, .ofFields 10 0 0 0,
      .ofFields 1 1 0 0, .ofFields 1 1 126 0, .ofFields 2 1 0 16, .ofFields 9 0 0 0,
      .ofFields 0 0 0 0].map Instruction.toWord⟩
    ∃ fresh first second, build? { engine := { memorySize := 64 } } program = .ok fresh ∧
      LeavesArray program.instructions ∧
      (∀ {m : Type → Type} [Monad m] (files : FileAccess m),
        simulate files {} fresh = pure (first, .ok first.report)) ∧
      (∀ {m : Type → Type} [Monad m] (files : FileAccess m),
        simulate files {} first = pure (second, .ok second.report)) ∧
      first.report.cycles = 69 ∧ second.report.cycles = 69 + 69 ∧
      first.report.control.instructions = 6 ∧ second.report.control.instructions = 6 + 6 := by
  intro program
  obtain ⟨fresh, built, cost, unused⟩ :
      ∃ fresh, build? { engine := { memorySize := 64 } } program = .ok fresh ∧
        executionCycles fresh.datapath.engine.features program.instructions = 69 ∧
        fresh.report.cycles = 0 ∧ fresh.report.control.instructions = 0 :=
    ⟨_, rfl, by decide +kernel, rfl, rfl⟩
  have leaves : LeavesArray program.instructions := by decide +kernel
  have executes : (executed program.instructions).length = 6 := by decide +kernel
  obtain ⟨idle, costs⟩ := simulate_cycles built leaves (by rw [cost]; decide)
  obtain ⟨first, run, -, instructions, cycles, rested, ended⟩ := costs [] fresh rfl idle
  obtain ⟨second, again, -, more, later, -, -⟩ := costs _ first ended rested
  rw [cost, unused.1] at cycles
  rw [executes, unused.2] at instructions
  rw [cost, cycles] at later
  rw [executes, instructions] at more
  exact ⟨fresh, first, second, built, leaves, run, again, cycles, later, instructions, more⟩

end Machine

end AccessController
