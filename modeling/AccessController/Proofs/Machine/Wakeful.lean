import AccessController.Proofs.Array.Pacing
import AccessController.Proofs.Machine.Replying

/-!
# No wake-up is lost

A start of the array forgets that the array was ready before, and has no effect on an
array that is busy.  Even so there is something to come behind it: a run, old or new,
and then a ready pulse that the controller does not miss (`Wakeful`).  So a program
whose waits have their starts is never stuck, and each tick takes it nearer to its end
(`Wakeful.tick`).
-/

namespace AccessController

namespace Machine

variable {machine : Machine}

/-- Run is held, the other pins are low, and the ready pulses of the array are told
apart. -/
structure Held (machine : Machine) : Prop where
  pins : machine.pins = { run := .rest true }
  sampledRun : machine.controller.state.sampled.run = true
  sampledReset : machine.controller.state.sampled.reset = false
  paced : machine.array.Paced
  apart : machine.array.state.readyHigh = true →
    machine.controller.state.sampled.arrayReady = false

theorem Held.run (held : machine.Held) : machine.controlPins.run = true := by
  rw [controlPins, held.pins]
  rfl

theorem Held.unpaused (held : machine.Held) : machine.controlPins.pause = false := by
  rw [controlPins, held.pins]
  rfl

/-- A machine in the course of a run without pauses, with a program whose waits have
their starts: a run of the array, its ready or what the controller has kept of it counts
as the one before the first. -/
structure Wakeful (machine : Machine) : Prop extends Held machine where
  orderly : machine.Orderly
  runs : machine.controller.Runs
  served : machine.controller.state.activity = .waiting .engine →
    machine.controller.state.engineStartHigh = false →
    machine.datapath.Streaming machine.datapathInputs.selectIn ∧
      machine.controller.state.sampled.engineReady = decide (machine.datapath.ticksLeft = 0)
  awoken : Awoken machine.owed machine.controller.remaining

/-- The ticks until the engine or the array ends a wait for it at the latest. -/
def waitTicks (machine : Machine) : Nat :=
  match machine.controller.state.activity with
  | .waiting .engine => machine.datapath.ticksLeft
  | .waiting .array => machine.arrayTicks
  | _ => 0

theorem array_tick : machine.tick.array = machine.arrayTick.1.commit := by
  rw [tick_eq]

theorem held_tick (pins : machine.pins = { run := .rest true }) (paced : machine.array.Paced) :
    machine.tick.Held where
  pins := by
    rw [tick_eq]
    change machine.pins.commit = _
    rw [pins]
    rfl
  sampledRun := by
    rw [sampled_tick, controlPins, pins]
    rfl
  sampledReset := by
    rw [sampled_tick, controlPins, pins]
    rfl
  paced := by
    rw [array_tick]
    exact paced.tick _ _
  apart raised := by
    rw [sampled_tick]
    change machine.array.ready.level = false
    rw [paced.ready]
    cases high : machine.array.state.readyHigh with
    | false => rfl
    | true =>
      have none : machine.arrayTick.2 = none := paced.results_eq_none _ _ high
      have due : machine.arrayTick.1.state.readyHigh = machine.arrayTick.2.isSome :=
        paced.readyHigh_tick _ _
      rw [array_tick] at raised
      rw [none] at due
      exact Bool.noConfusion (due.symm.trans raised)

/-- Behind a run there is the rest of it or its ready. -/
theorem pending_tick (paced : machine.array.Paced) (busy : machine.begun.isSome) :
    (machine.tick.begun.isSome || machine.tick.array.state.readyHigh) = true := by
  rw [Bool.or_eq_true]
  rcases paced.pending_tick _ _ busy with goesOn | raised
  · refine .inl (EchoArray.isSome_begun_of_underway _ _ ?_)
    rw [array_tick]
    exact goesOn
  · refine .inr ?_
    rw [array_tick]
    exact raised

theorem begun_tick_of_start (low : machine.controller.outputs.arrayStart = .rest false)
    (high : machine.tick.controller.outputs.arrayStart = .rest true) :
    machine.tick.begun.isSome := by
  have fallen : machine.tick.array.state.previousStart = false := by
    rw [array_tick]
    exact (EchoArray.previousStart_tick ..).trans (congrArg Wire.level low)
  rw [begun, high]
  exact EchoArray.isSome_begun_of_rising _ fallen

theorem arrayTicks_tick (low : machine.tick.controller.outputs.arrayStart = .rest false)
    (busy : machine.begun.isSome) : machine.tick.arrayTicks < machine.arrayTicks := by
  have next : machine.tick.begun = machine.begun.bind EchoArray.Run.next? := by
    rw [begun, low, Wire.level_rest, EchoArray.begun_of_low, array_tick]
    exact EchoArray.underway_tick ..
  obtain ⟨⟨_ | ticks, results⟩, begun⟩ := Option.isSome_iff_exists.1 busy
  · rw [begun] at next
    change machine.tick.begun = none at next
    rw [arrayTicks, arrayTicks, next, begun]
    dsimp only
    split <;> omega
  · rw [begun] at next
    change machine.tick.begun = some ⟨ticks, results⟩ at next
    rw [arrayTicks, arrayTicks, next, begun]
    exact Nat.lt_succ_self _

/-- A machine whose controller advances in a tick has still its starts for its
waits. -/
theorem wakeful_of_advances {before : Controller} {rises : Bool}
    (pins : machine.pins = { run := .rest true }) (paced : machine.array.Paced)
    (orderly : machine.tick.Orderly) (advances : before.Advances rises machine.tick.controller)
    (low : before.state.stage = .start → machine.controller.outputs.arrayStart = .rest false)
    (awoken : Awoken (machine.begun.isSome || rises || before.state.arrayDone) before.remaining) :
    machine.tick.Wakeful where
  toHeld := held_tick pins paced
  orderly
  runs := advances.runs
  served waiting asked := absurd (asked.symm.trans (advances.asks waiting)) nofun
  awoken := by
    refine advances.awoken (pending_tick paced) (fun started => ?_) awoken
    have high : machine.tick.controller.outputs.arrayStart = .rest true := by
      rw [advances.runs.arrayStart, started]
    rw [begun_tick_of_start (low (advances.starts started)) high, Bool.true_or]

namespace Wakeful

variable (wakeful : machine.Wakeful)

include wakeful

theorem uninterrupted : ¬machine.Interrupts := by
  rintro (⟨low, -⟩ | ⟨high, -⟩)
  · exact absurd (low.symm.trans wakeful.sampledRun) nofun
  · exact absurd (high.symm.trans wakeful.sampledReset) nofun

/-- The controller sees each ready pulse rise. -/
theorem arrayRises_eq :
    machine.controller.arrayRises machine.controlPins = machine.array.state.readyHigh := by
  rw [Controller.arrayRises, controlPins, wakeful.paced.ready]
  cases high : machine.array.state.readyHigh with
  | false => rfl
  | true =>
    rw [wakeful.apart high]
    rfl

/-- A tick in which the controller advances takes the machine nearer to the end. -/
theorem of_advances
    (advances : machine.controller.Advances (machine.controller.arrayRises machine.controlPins)
      (machine.controller.tick machine.controlPins).commit) :
    machine.tick.Wakeful ∧ machine.tick.controller.rank < machine.controller.rank := by
  rw [← controller_tick] at advances
  refine ⟨?_, advances.rank⟩
  refine wakeful_of_advances wakeful.pins wakeful.paced
    (wakeful.orderly.tick fun _ => wakeful.uninterrupted) advances (fun stage => ?_) ?_
  · rw [wakeful.runs.arrayStart]
    cases high : machine.controller.state.arrayStartHigh with
    | false => rfl
    | true => exact absurd (stage.symm.trans (wakeful.runs.pulsed high)) nofun
  · rw [wakeful.arrayRises_eq]
    exact wakeful.awoken

theorem atRest (free : machine.controller.state.activity ≠ .waiting .engine) : machine.AtRest := by
  rcases wakeful.orderly.synchronized.situation with rest | asked | served
  · exact rest
  · exact absurd asked.waiting free
  · exact absurd served.waiting free

theorem tick_of_running (running : machine.controller.state.activity = .running)
    (unfinished : machine.controller.state.stage ≠ .finish) :
    machine.tick.Wakeful ∧ machine.tick.controller.rank < machine.controller.rank := by
  have rest := wakeful.atRest (by simp [running])
  exact wakeful.of_advances (wakeful.runs.tick_of_running wakeful.run wakeful.sampledRun
    wakeful.sampledReset wakeful.unpaused running unfinished
    (engineReady_of_idle rest.idle rest.unready))

/-- A tick in which the controller only waits changes what it knows of the array, at
most. -/
theorem of_wait {done : Bool} {stats : ControlStats}
    (tick : machine.controller.tick machine.controlPins =
      { machine.controller.sample machine.controlPins with
        state.arrayDone := done
        state.stats := stats })
    (noted : done = (machine.controller.state.arrayDone || machine.array.state.readyHigh))
    (active : (machine.controller.tick machine.controlPins).Active)
    (served : machine.controller.state.activity = .waiting .engine →
      machine.tick.datapath.Streaming machine.tick.datapathInputs.selectIn ∧
        machine.controlPins.engineReady = decide (machine.tick.datapath.ticksLeft = 0)) :
    machine.tick.Wakeful where
  toHeld := held_tick wakeful.pins wakeful.paced
  orderly := wakeful.orderly.tick fun _ => wakeful.uninterrupted
  runs := by
    rw [controller_tick]
    exact wakeful.runs.of_sample tick active wakeful.runs.executes
  served waiting _ := by
    rw [sampled_tick]
    refine served ?_
    rw [controller_tick, tick] at waiting
    exact waiting
  awoken := by
    have controller := machine.controller_tick
    rw [tick] at controller
    have remaining : machine.tick.controller.remaining = machine.controller.remaining := by
      rw [controller]
      rfl
    have done : machine.tick.controller.state.arrayDone =
        (machine.controller.state.arrayDone || machine.array.state.readyHigh) := by
      rw [controller]
      exact noted
    have awoken := wakeful.awoken
    rw [owed, Bool.or_assoc, Bool.or_comm machine.array.state.readyHigh] at awoken
    rw [remaining, owed, done]
    exact awoken.mono (Controller.or_eq_true_mono (pending_tick wakeful.paced))

theorem selectIn_of_unended (waiting : machine.controller.state.activity = .waiting .engine)
    (unended : ¬(machine.controller.state.sampled.engineReady = true ∧
      machine.controlPins.engineReady = false)) :
    machine.tick.datapathInputs.selectIn = machine.datapathInputs.selectIn := by
  obtain ⟨waits, -⟩ := controller_tick_of_waiting waiting unended wakeful.uninterrupted
  rw [wakeful.orderly.inputs_of_waits waiting wakeful.uninterrupted waits]

/-- A wait for the engine that goes on is one for a request that is being served. -/
theorem of_unended (waiting : machine.controller.state.activity = .waiting .engine)
    (unended : ¬(machine.controller.state.sampled.engineReady = true ∧
      machine.controlPins.engineReady = false))
    (replying : machine.tick.Replying) :
    machine.tick.Wakeful ∧ machine.tick.controller.state.activity = .waiting .engine ∧
      machine.controller.rank = machine.tick.controller.rank +
        if machine.controller.state.engineStartHigh then 1 else 0 := by
  have stage := wakeful.runs.stage_of_engine waiting
  have tick := Controller.tick_of_unended waiting (by simp [wakeful.sampledRun])
    (by simp [wakeful.sampledReset]) unended
  have controller := machine.controller_tick
  rw [tick] at controller
  have waits : machine.tick.controller.state.activity = .waiting .engine := by
    rw [controller]
    exact waiting
  refine ⟨?_, waits, ?_⟩
  · refine wakeful.of_wait tick (by rw [wakeful.arrayRises_eq]) ?_ fun _ =>
      ⟨replying.streaming, sampled_tick ▸ replying.ready⟩
    rw [tick, Controller.Active]
    simp only [Controller.sample, Controller.dropPulses, waiting]
    exact stage
  · have later : machine.tick.controller.state.stage = .awaitEngine := by
      rw [controller]
      exact stage
    have low : machine.tick.controller.state.engineStartHigh = false := by
      rw [controller]
      rfl
    have behind : machine.tick.controller.behind = machine.controller.behind := by
      rw [controller]
      rfl
    rw [Controller.rank, Controller.rank, stage, later]
    dsimp only
    rw [low, behind]
    cases machine.controller.state.engineStartHigh <;> rfl

theorem tick_of_asked (asked : machine.Asked) :
    machine.tick.Wakeful ∧ machine.tick.controller.rank < machine.controller.rank := by
  have unended : ¬(machine.controller.state.sampled.engineReady = true ∧
      machine.controlPins.engineReady = false) := by simp [asked.unready]
  obtain ⟨next, -, rank⟩ := wakeful.of_unended asked.waiting unended
    (asked.replying_tick (wakeful.selectIn_of_unended asked.waiting unended))
  rw [asked.startHigh, if_pos rfl] at rank
  exact ⟨next, rank ▸ Nat.lt_succ_self _⟩

/-- A request that is being served is answered, or nearer to its answer. -/
theorem tick_of_served (served : machine.Served) :
    machine.tick.Wakeful ∧
      (machine.tick.controller.rank < machine.controller.rank ∨
        machine.tick.controller.rank = machine.controller.rank ∧
          machine.tick.waitTicks < machine.waitTicks) := by
  have waiting := served.waiting
  by_cases ended : machine.controller.state.sampled.engineReady = true ∧
      machine.controlPins.engineReady = false
  · obtain ⟨past, now⟩ := ended
    obtain ⟨next, rank⟩ := wakeful.of_advances (wakeful.runs.tick_of_answered wakeful.run
      wakeful.sampledRun wakeful.sampledReset wakeful.unpaused waiting past now)
    exact ⟨next, .inl rank⟩
  · obtain ⟨streaming, ready⟩ := wakeful.served waiting served.startHigh
    obtain ⟨replying, nearer⟩ := Replying.tick ⟨streaming, ready⟩ (wakeful.orderly.quiet waiting)
      (congrArg Wire.level served.start) ended (wakeful.selectIn_of_unended waiting ended)
    obtain ⟨next, waits, rank⟩ := wakeful.of_unended waiting ended replying
    rw [served.startHigh] at rank
    refine ⟨next, .inr ⟨rank.symm, ?_⟩⟩
    rw [waitTicks, waits, waitTicks, waiting]
    exact nearer

/-- A controller that waits for the array while its ready is low waits for a run. -/
theorem isSome_begun (awaited : machine.controller.state.activity = .waiting .array)
    (low : machine.array.state.readyHigh = false) : machine.begun.isSome := by
  obtain ⟨stage, undone, code⟩ := wakeful.runs.stage_of_array awaited
  have awoken := wakeful.awoken
  rw [Controller.remaining, stage] at awoken
  obtain ⟨owed, -⟩ := (Awoken.waitReady_iff code).1 awoken
  rwa [Machine.owed, low, undone, Bool.or_false, Bool.or_false] at owed

/-- A wait for the array ends, or the array is nearer to its ready. -/
theorem tick_of_awaited (awaited : machine.controller.state.activity = .waiting .array) :
    machine.tick.Wakeful ∧
      (machine.tick.controller.rank < machine.controller.rank ∨
        machine.tick.controller.rank = machine.controller.rank ∧
          machine.tick.waitTicks < machine.waitTicks) := by
  have rest := wakeful.atRest (by simp [awaited])
  have same := engineReady_of_idle rest.idle rest.unready
  obtain ⟨stage, -⟩ := wakeful.runs.stage_of_array awaited
  cases high : machine.array.state.readyHigh with
  | true =>
    obtain ⟨next, rank⟩ := wakeful.of_advances (wakeful.runs.tick_of_awaited wakeful.run
      wakeful.sampledRun wakeful.sampledReset wakeful.unpaused awaited same
      (wakeful.arrayRises_eq.trans high))
    exact ⟨next, .inl rank⟩
  | false =>
    have tick := Controller.tick_of_unready awaited (by simp [wakeful.sampledRun])
      (by simp [wakeful.sampledReset]) same (wakeful.arrayRises_eq.trans high)
    have controller := machine.controller_tick
    rw [tick] at controller
    refine ⟨wakeful.of_wait tick ?_ ?_ ?_, .inr ⟨?_, ?_⟩⟩
    · rw [high, Bool.or_false]
      rfl
    · rw [tick]
      exact wakeful.runs.active
    · exact fun waiting => absurd (awaited.symm.trans waiting) nofun
    · have later : machine.tick.controller.state.stage = .waitReady := by
        rw [controller]
        exact stage
      rw [Controller.rank, Controller.rank, later, stage, controller]
      rfl
    · have waits : machine.tick.controller.state.activity = .waiting .array := by
        rw [controller]
        exact awaited
      have next := wakeful.runs.of_sample tick (by rw [tick]; exact wakeful.runs.active)
        wakeful.runs.executes
      rw [← controller_tick] at next
      rw [waitTicks, waits, waitTicks, awaited]
      refine arrayTicks_tick ?_ (wakeful.isSome_begun awaited high)
      rw [next.arrayStart, controller]
      rfl

/-- A machine whose program is not at its end gets nearer to it in every tick. -/
theorem tick (unfinished : ¬machine.Finishing) :
    machine.tick.Wakeful ∧
      (machine.tick.controller.rank < machine.controller.rank ∨
        machine.tick.controller.rank = machine.controller.rank ∧
          machine.tick.waitTicks < machine.waitTicks) := by
  rcases wakeful.orderly.synchronized.situation with rest | asked | served
  · cases activity : machine.controller.state.activity with
    | running =>
      obtain ⟨next, rank⟩ := wakeful.tick_of_running activity fun stage =>
        unfinished ⟨activity, stage⟩
      exact ⟨next, .inl rank⟩
    | waiting awaited =>
      cases awaited with
      | engine => exact absurd activity rest.free.unasked
      | array => exact wakeful.tick_of_awaited activity
    | _ =>
      have active := wakeful.runs.active
      rw [Controller.Active, activity] at active
      exact active.elim
  · obtain ⟨next, rank⟩ := wakeful.tick_of_asked asked
    exact ⟨next, .inl rank⟩
  · exact wakeful.tick_of_served served

end Wakeful

end Machine

end AccessController
