import AccessController.Proofs.Machine.Refinement
import AccessController.Proofs.Machine.Wakeful

/-!
# Programs come to their end

A machine after power-up whose program has a start for each of its waits raises the
finish line sooner or later, and rewinds.  How many ticks that takes depends on the
transfers and the latency of the array, but there are never infinitely many.
-/

namespace AccessController

namespace Machine

variable {machine : Machine}

theorem paced_new (latency : Nat) : EchoArray.Paced { latency } where
  ready := rfl
  ended := nofun
  instant _ := rfl
  pulsed := nofun

/-- When run rises on a dormant machine nothing has been missed yet. -/
theorem Dormant.wakeful_tick (dormant : machine.Dormant) (paced : machine.array.Paced)
    (orderly : machine.Orderly) (awoken : Awoken false machine.controller.program.instructions) :
    (machine.setRun true).tick.Wakeful := by
  obtain ⟨rest, -, undone⟩ := rests_of_settled dormant.settled
  have attended := dormant.controller_attended
  have stage : (machine.setRun true).attended.controller.state.stage = .fetch := by
    rw [attended]
  have runs : (machine.setRun true).attended.controller.Runs := by
    rw [attended]
    exact {
      active := ⟨Stage.noConfusion, Stage.noConfusion⟩
      fault := dormant.fault
      executes := by rintro _ ⟨⟩
      arrayStart := dormant.arrayStart
      pulsed := Bool.noConfusion
      finish := dormant.finish }
  have sampled : (machine.setRun true).attended.controller.state.sampled.run = true := by
    rw [attended]
    rfl
  have advances := runs.act (by rw [attended]) (by rw [attended]) (by simp [stage])
  have tick : (machine.setRun true).tick = (machine.setRun true).attended.acted :=
    tick_eq_acted _ dormant.resting.free.working
      (.inl (engineReady_of_idle dormant.resting.idle dormant.resting.unready))
  have controller : (machine.setRun true).tick.controller =
      ((machine.setRun true).attended.controller.act true).commit := by
    rw [tick, acted, sampled]
  rw [← controller] at advances
  have pins : (machine.setRun true).pins = { run := .rest true } := by
    rw [setRun, dormant.pins]
    rfl
  refine wakeful_of_advances pins paced
    ((orderly.apply (.run true) Event.noConfusion).tick fun waiting => ?_) advances ?_ ?_
  · exact absurd waiting dormant.resting.free.unasked
  · simp [stage]
  · have begun : (machine.setRun true).begun = none := rest
    rw [begun, Controller.remaining, stage, attended]
    dsimp only
    rw [dormant.pointer, undone]
    exact awoken

namespace Wakeful

variable (wakeful : machine.Wakeful)

include wakeful

theorem haltError? : machine.haltError? = none := by
  rw [Machine.haltError?, wakeful.runs.fault]
  rfl

/-- At the end of the program a tick raises the finish line and leaves everything else
where it is. -/
theorem tick_of_finishing (finishing : machine.Finishing) :
    machine.tick.finishLevel = true ∧ machine.tick.Finishing ∧
      machine.tick.controller.state.fault = none := by
  obtain ⟨running, stage⟩ := finishing
  have rest := wakeful.atRest (by simp [running])
  have same := engineReady_of_idle rest.idle rest.unready
  have attend := Controller.attend_of_unawaited (by simp [wakeful.sampledRun])
    (by simp [wakeful.sampledReset]) (by simp [running]) (.inl same)
  rw [running, Activity.follow, wakeful.unpaused, if_neg Bool.false_ne_true] at attend
  have stays : (machine.controller.attend machine.controlPins).state.stage = .finish := by
    rw [attend]
    exact stage
  have controller : machine.tick.controller =
      ((machine.controller.attend machine.controlPins).finish true).commit := by
    rw [controller_tick, Controller.tick_eq_act _ _ (by simp [running]) (.inl same), wakeful.run,
      Controller.act_of_running (by rw [attend]), Controller.step, stays]
  rw [finishLevel, Finishing, controller, attend]
  exact ⟨rfl, ⟨rfl, stage⟩, wakeful.runs.fault⟩

theorem awaitFinish_succ (faultless : machine.tick.haltError? = none) (timeout budget : Nat) :
    machine.awaitFinish timeout (budget + 1) = machine.tick.awaitFinish timeout budget := by
  have low : machine.finishLevel = false := congrArg Wire.level wakeful.runs.finish
  rw [Machine.awaitFinish, low, if_neg Bool.false_ne_true]
  dsimp only
  rw [faultless]

theorem drain (finishing : machine.Finishing) :
    ∃ drained, (machine.tick.setRun false).drain drainTicks = (drained, none) ∧
      drained.report.finished = true := by
  obtain ⟨-, finished, faultless⟩ := wakeful.tick_of_finishing finishing
  have held := held_tick wakeful.pins wakeful.paced
  have resting : (machine.tick.setRun false).Resting := by
    have orderly := wakeful.orderly.tick fun _ => wakeful.uninterrupted
    rcases orderly.synchronized.situation with rest | asked | served
    · exact ⟨rest.free, rest.idle, rest.startHigh, rest.unready⟩
    · exact absurd (finished.1.symm.trans asked.waiting) nofun
    · exact absurd (finished.1.symm.trans served.waiting) nofun
  have pause : (machine.tick.setRun false).pins.pause = .rest false := by
    rw [setRun, held.pins]
  obtain ⟨stage, pointer, fault⟩ :=
    rewinds resting finished held.sampledRun held.sampledReset rfl pause
  refine ⟨(machine.tick.setRun false).tick, ?_, decide_eq_true ⟨stage, pointer⟩⟩
  have halt : (machine.tick.setRun false).tick.haltError? = none := by
    rw [Machine.haltError?, fault]
    exact congrArg _ faultless
  rw [drainTicks, Machine.drain, halt]
  dsimp only
  rw [if_pos stage]

end Wakeful

/-- The machine comes to the end of its program, however much time it is given beyond
what it takes. -/
theorem Wakeful.awaitFinish {machine : Machine} (wakeful : machine.Wakeful) :
    ∃ (last : Machine) (enough : Nat), last.Wakeful ∧ last.Finishing ∧
      ∀ timeout budget, enough ≤ budget →
        machine.awaitFinish timeout budget = (last.tick, none) := by
  by_cases finishing : machine.Finishing
  · obtain ⟨level, -, fault⟩ := wakeful.tick_of_finishing finishing
    refine ⟨machine, 1, wakeful, finishing, fun timeout budget within => ?_⟩
    obtain ⟨left, rfl⟩ := Nat.exists_eq_add_of_le' within
    rw [wakeful.awaitFinish_succ (by rw [Machine.haltError?, fault]; rfl),
      awaitFinish_of_finishLevel level]
  · obtain ⟨next, nearer⟩ := wakeful.tick finishing
    obtain ⟨last, enough, awake, finished, ends⟩ := next.awaitFinish
    refine ⟨last, enough + 1, awake, finished, fun timeout budget within => ?_⟩
    obtain ⟨left, rfl⟩ := Nat.exists_eq_add_of_le' within
    rw [← Nat.add_assoc, wakeful.awaitFinish_succ next.haltError?,
      ends _ _ (Nat.le_add_left enough left)]
termination_by (machine.controller.rank, machine.waitTicks)
decreasing_by
  rcases nearer with rank | ⟨rank, wait⟩
  · exact .left _ _ rank
  · rw [rank]
    exact .right _ wait

/-- A run of a machine that is woken from its waits ends. -/
theorem Dormant.run_of_awoken (dormant : machine.Dormant) (paced : machine.array.Paced)
    (orderly : machine.Orderly) (awoken : Awoken false machine.controller.program.instructions) :
    ∃ enough finished report, report.finished = true ∧
      ∀ timeout, enough ≤ timeout → machine.run timeout = (finished, .ok report) := by
  have wakeful := dormant.wakeful_tick paced orderly awoken
  obtain ⟨last, enough, awake, finishing, ends⟩ := wakeful.awaitFinish
  obtain ⟨drained, drains, finished⟩ := awake.drain finishing
  have low : (machine.setRun true).finishLevel = false := congrArg Wire.level dormant.finish
  refine ⟨enough + 1, drained, drained.report, finished, fun timeout within => ?_⟩
  obtain ⟨left, rfl⟩ := Nat.exists_eq_add_of_le' within
  have reached : (machine.setRun true).awaitFinish (left + enough + 1) (left + enough + 1) =
      (last.tick, none) := by
    rw [awaitFinish, low, if_neg Bool.false_ne_true]
    dsimp only
    rw [wakeful.haltError?]
    exact ends _ _ (Nat.le_add_left enough left)
  rw [Machine.run, ← Nat.add_assoc, reached]
  dsimp only
  rw [drains]

/-- A program of which every wait has a start between it and the wait before always
finishes: there is a number of ticks with which its run succeeds, and so it does with any
more. It may start an array that is busy, or one that has just become ready. -/
theorem simulate_of_awoken {settings : Settings} {program : Program}
    (built : build? settings program = .ok machine) (memory : Memory)
    (awoken : Awoken false program.instructions) :
    ∃ enough finished report, report.finished = true ∧
      ∀ timeout, enough ≤ timeout → ∀ {m : Type → Type} [Monad m] (files : FileAccess m),
        simulate files { settings.run with timeout } (machine.withMemory memory) =
          match settings.run.report with
          | none => pure (finished, .ok report)
          | some path => do
            let written ← files.write path (textBytes report.render)
            return (finished, (written.mapError (.report path)).map fun _ => report) := by
  obtain ⟨features, old, rfl⟩ := eq_new_of_build? built
  have dormant := (dormant_new program features old settings.array.latency).withMemory memory
  obtain ⟨enough, finished, report, complete, ends⟩ :=
    dormant.run_of_awoken (paced_new settings.array.latency)
      ((orderly_new program features old _).apply (.write memory) nofun) awoken
  refine ⟨enough, finished, report, complete, fun timeout within _ _ files => ?_⟩
  exact simulate_of_run files { settings.run with timeout } (ends timeout within)

/-- The second start finds the array busy, and the third one forgets that the array has
become ready. -/
theorem simulate_of_awoken_droppedStart :
    let program : Program := ⟨[Instruction.ofFields 7 0 0 0, .ofFields 7 0 0 0, .ofFields 0 0 0 0,
      .ofFields 0 0 0 0, .ofFields 0 0 0 0, .ofFields 7 0 0 0, .ofFields 8 0 0 0,
      .ofFields 9 0 0 0].map Instruction.toWord⟩
    ∃ machine enough finished report,
      build? { engine := { memorySize := 64 } } program = .ok machine ∧ report.finished = true ∧
        ∀ timeout, enough ≤ timeout → ∀ {m : Type → Type} [Monad m] (files : FileAccess m),
          simulate files { timeout } (machine.withMemory (.zeros 64)) =
            pure (finished, .ok report) := by
  intro program
  obtain ⟨machine, built⟩ :
      ∃ machine, build? { engine := { memorySize := 64 } } program = .ok machine := ⟨_, rfl⟩
  obtain ⟨enough, finished, report, complete, ends⟩ :=
    simulate_of_awoken built (.zeros 64) (by decide +kernel)
  exact ⟨machine, enough, finished, report, built, complete, ends⟩

end Machine

end AccessController
