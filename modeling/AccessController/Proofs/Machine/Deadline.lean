import AccessController.Proofs.Machine.Orphans
import AccessController.Proofs.Machine.Refinement

/-!
# Deadlines

The ticks that a run may take only limit it.  A run that comes to its end or fails before
its deadline does the same under every later one, a run that is out of time has ticked and
done nothing else, so it is resumed by another run, and a finish line that goes up in the
very last tick is in time (`Limited`).
-/

namespace AccessController

/-- The error tells of a deadline that has passed. -/
def RunError.OutOfTime : RunError → Prop
  | .timeout .. => True
  | .halted .. => False

/-- The error as a run with another deadline tells it. -/
def RunError.within (timeout : Nat) : RunError → RunError
  | .timeout _ activity stage pointer phase => .timeout timeout activity stage pointer phase
  | .halted cycle fault => .halted cycle fault

namespace Machine

/-- The machine some ticks later. -/
def ticked (machine : Machine) (count : Nat) : Machine := machine.play (.replicate count .tick)

/-- A run does not come to its end before its deadline. -/
def TimesOut (machine : Machine) (timeout : Nat) : Prop :=
  ∃ error, (machine.run timeout).2 = .error error ∧ error.OutOfTime

/-- The rest of a run that no longer waits for the finish line. -/
def conclude : Machine × Option RunError → Machine × Except RunError Report
  | (failed, some error) => (failed, .error error)
  | (finished, none) =>
    match drain drainTicks (finished.setRun false) with
    | (failed, some error) => (failed, .error error)
    | (drained, none) => (drained, .ok drained.report)

variable {machine : Machine}

theorem run_eq_conclude (machine : Machine) (timeout : Nat) :
    machine.run timeout = conclude (awaitFinish timeout timeout (machine.setRun true)) := rfl

theorem ticked_succ (machine : Machine) (count : Nat) :
    machine.ticked (count + 1) = (machine.ticked count).tick := by
  rw [ticked, List.replicate_succ', play_append]
  rfl

/-! ## Errors -/

theorem halted_of_haltError? {error : RunError} (halts : machine.haltError? = some error) :
    ∃ cycle fault, error = .halted cycle fault := by
  obtain ⟨fault, -, same⟩ := Option.map_eq_some_iff.1 halts
  exact ⟨_, fault, same.symm⟩

theorem halted_of_drain {budget : Nat} {error : RunError}
    (fails : (machine.drain budget).2 = some error) :
    ∃ cycle fault, error = .halted cycle fault := by
  induction budget generalizing machine with
  | zero => cases fails
  | succ budget ih =>
    rw [drain] at fails
    split at fails
    next halts =>
      cases fails
      exact halted_of_haltError? halts
    next =>
      split at fails
      · cases fails
      · exact ih fails

/-- A run that is out of time has not seen the finish line go up. -/
theorem timesOut_iff {timeout : Nat} :
    machine.TimesOut timeout ↔
      ∃ error, (awaitFinish timeout timeout (machine.setRun true)).2 = some error ∧
        error.OutOfTime := by
  rw [TimesOut, run_eq_conclude]
  rcases awaitFinish timeout timeout (machine.setRun true) with ⟨reached, _ | error⟩
  · refine iff_of_false (fun ⟨error, fails, late⟩ => ?_) (by simp)
    rw [conclude] at fails
    cases drained : drain drainTicks (reached.setRun false) with
    | mk drained error? =>
      rw [drained] at fails
      cases error? with
      | none => cases fails
      | some error =>
        cases fails
        obtain ⟨cycle, fault, rfl⟩ := halted_of_drain (congrArg Prod.snd drained)
        exact late
  · simp [conclude]

/-- The deadline is only told of, and only by an error. -/
theorem conclude_within (reached : Machine) (error? : Option RunError) (timeout : Nat) :
    conclude (reached, error?.map (.within timeout)) =
      ((conclude (reached, error?)).1,
        (conclude (reached, error?)).2.mapError (.within timeout)) := by
  cases error? with
  | some error => rfl
  | none =>
    rw [Option.map_none, conclude]
    cases drained : drain drainTicks (reached.setRun false) with
    | mk drained error? =>
      cases error? with
      | none => rfl
      | some error =>
        obtain ⟨cycle, fault, rfl⟩ := halted_of_drain (congrArg Prod.snd drained)
        rfl

/-! ## Waiting for the finish line -/

theorem awaitFinish_within (timeout other budget : Nat) (machine : Machine) :
    awaitFinish timeout budget machine =
      ((awaitFinish other budget machine).1,
        (awaitFinish other budget machine).2.map (.within timeout)) := by
  induction budget generalizing machine with
  | zero =>
    rw [awaitFinish, awaitFinish]
    split <;> rfl
  | succ budget ih =>
    rw [awaitFinish, awaitFinish]
    split
    · rfl
    · dsimp only
      split
      next error halts =>
        obtain ⟨cycle, fault, rfl⟩ := halted_of_haltError? halts
        rfl
      next => exact ih machine.tick

/-- A wait that has come to an end does so with more time, too. -/
theorem awaitFinish_of_ended {timeout budget : Nat}
    (ended : ¬∃ error, (awaitFinish timeout budget machine).2 = some error ∧ error.OutOfTime)
    (other more : Nat) :
    awaitFinish other (budget + more) machine = awaitFinish timeout budget machine := by
  induction budget generalizing machine with
  | zero =>
    cases level : machine.finishLevel with
    | true =>
      rw [awaitFinish_of_finishLevel level, awaitFinish_of_finishLevel level]
    | false =>
      refine absurd ⟨machine.timeoutError timeout, ?_, trivial⟩ ended
      rw [awaitFinish, level]
      rfl
  | succ budget ih =>
    rw [awaitFinish] at ended
    rw [Nat.add_right_comm, awaitFinish, awaitFinish]
    split
    · rfl
    next low =>
      rw [if_neg low] at ended
      dsimp only at ended ⊢
      cases halts : machine.tick.haltError? with
      | some error => rfl
      | none =>
        rw [halts] at ended
        exact ih ended

/-- A wait that is out of time has only ticked, and goes on where it has stopped. -/
theorem awaitFinish_of_outOfTime {timeout budget : Nat}
    (late : ∃ error, (awaitFinish timeout budget machine).2 = some error ∧ error.OutOfTime) :
    (awaitFinish timeout budget machine).1 = machine.ticked budget ∧
      ∀ other more, awaitFinish other (budget + more) machine =
        awaitFinish other more (machine.ticked budget) := by
  induction budget generalizing machine with
  | zero => exact ⟨rfl, fun other more => by rw [Nat.zero_add]; rfl⟩
  | succ budget ih =>
    rw [awaitFinish] at late ⊢
    obtain ⟨error, fails, outOfTime⟩ := late
    split at fails
    · cases fails
    next low =>
      rw [if_neg low]
      dsimp only at fails ⊢
      cases halts : machine.tick.haltError? with
      | some error =>
        rw [halts] at fails
        cases fails
        obtain ⟨cycle, fault, rfl⟩ := halted_of_haltError? halts
        exact outOfTime.elim
      | none =>
        rw [halts] at fails
        obtain ⟨stopped, resumes⟩ := ih ⟨error, fails, outOfTime⟩
        refine ⟨stopped, fun other more => ?_⟩
        rw [Nat.add_right_comm, awaitFinish, if_neg low]
        dsimp only
        rw [halts]
        exact resumes other more

/-! ## The line in the last tick -/

section

variable (linked : machine.Linked)

include linked

theorem haltError?_of_working (working : machine.controller.state.activity ≠ .failed) :
    machine.haltError? = none := by
  have faultless := mt linked.clear.fault.1 working
  rw [ne_eq, Classical.not_not] at faultless
  rw [haltError?, faultless]
  rfl

theorem Linked.ticked (count : Nat) : (machine.ticked count).Linked := linked.play _

theorem finishLevel_tick_of_failed
    (failed : machine.tick.controller.state.activity = .failed) :
    machine.tick.finishLevel = machine.finishLevel := by
  have line : (machine.controller.tick machine.controlPins).outputs.finish =
      machine.controller.outputs.finish := by
    rw [controller_tick] at failed
    rcases machine.controller.tick_outcome machine.controlPins with
      ⟨-, only⟩ | ⟨-, -, only⟩ | ⟨working, -⟩
    · rw [only]
      rfl
    · rw [only, Controller.heard, (Controller.attended_engineEdge ..).outputs]
      rfl
    · exact absurd (Controller.failed_tick_iff.1 failed) working
  have committed := congrArg ControlOutputs.finish linked.committed
  rw [finishLevel, controller_tick]
  change (Controller.outputs _).finish.commit.level = _
  rw [line]
  exact congrArg Wire.level committed

theorem finishLevel_ticked_of_failed (failed : machine.controller.state.activity = .failed)
    (count : Nat) : (machine.ticked count).finishLevel = machine.finishLevel := by
  induction count generalizing machine with
  | zero => rfl
  | succ count ih =>
    have fails : machine.tick.controller.state.activity = .failed := by
      rw [controller_tick]
      exact Controller.failed_tick failed
    exact (ih linked.tick fails).trans (finishLevel_tick_of_failed linked fails)

theorem working_of_rising {count : Nat} (low : machine.finishLevel = false)
    (high : (machine.ticked (count + 1)).finishLevel = true) :
    machine.tick.controller.state.activity ≠ .failed := by
  intro failed
  have stays : (machine.ticked (count + 1)).finishLevel = machine.tick.finishLevel :=
    finishLevel_ticked_of_failed linked.tick failed count
  rw [high, finishLevel_tick_of_failed linked failed, low] at stays
  cases stays

/-- A wait sees the line go up, be it with its last tick. -/
theorem awaitFinish_of_rising (timeout : Nat) {budget : Nat}
    (low : ∀ earlier < budget, (machine.ticked earlier).finishLevel = false)
    (high : (machine.ticked budget).finishLevel = true) :
    awaitFinish timeout budget machine = (machine.ticked budget, none) := by
  induction budget generalizing machine with
  | zero => exact awaitFinish_of_finishLevel high timeout 0
  | succ budget ih =>
    have first : machine.finishLevel = false := low 0 (Nat.zero_lt_succ _)
    have working := working_of_rising linked first high
    have faultless := haltError?_of_working linked.tick working
    rw [awaitFinish, first]
    dsimp only
    rw [faultless]
    exact ih linked.tick (fun earlier inside => low (earlier + 1) (Nat.succ_lt_succ inside)) high

theorem finishing_of_rising (low : machine.finishLevel = false)
    (high : machine.tick.finishLevel = true) :
    machine.tick.controller.state.stage = .finish ∧
      machine.tick.controller.state.activity ≠ .failed := by
  have working : machine.tick.controller.state.activity ≠ .failed :=
    working_of_rising linked low (show (machine.ticked (0 + 1)).finishLevel = true from high)
  have settled : machine.controller.Settled :=
    ⟨linked.placed, congrArg (·.finish.level) linked.committed⟩
  have truthful : machine.tick.controller.Truthful := by
    rw [controller_tick]
    exact settled.truthful_of_low low
  exact ⟨truthful high working, working⟩

end

/-! ## Behind the finish line -/

section

variable (linked : machine.Linked) (finishing : machine.controller.state.stage = .finish)
  (working : machine.controller.state.activity ≠ .failed) (run : machine.pins.run = .rest false)

include linked finishing working run

/-- With run low a controller in a finish comes to rest, unless it is paused. -/
theorem rests_or_stays :
    machine.tick.controller.state.activity ≠ .failed ∧
      (machine.tick.controller.state.stage = .finish ∨
        machine.tick.controller.state.stage = .idle) := by
  obtain ⟨idle, unready, -⟩ := linked.disengaged_of_finish finishing working
  have same := engineReady_of_idle idle unready
  have active := linked.placed.activity_of_finish finishing working
  have low : machine.controlPins.run = false := congrArg Wire.level run
  have heard : machine.controller.heard machine.controlPins =
      machine.controller.sample machine.controlPins := by
    rw [Controller.heard, Controller.engineEdge, if_pos same]
  have attended : (machine.controller.attend machine.controlPins).state.stage = .finish ∨
      (machine.controller.attend machine.controlPins).state.stage = .idle := by
    have unawaited : machine.controller.awoken machine.controlPins = false := by
      rcases active with running | paused
      · simp [Controller.awoken, running]
      · simp [Controller.awoken, paused]
    have steady : machine.controller.runRises machine.controlPins = false := by
      rw [Controller.runRises, low]
      rfl
    rw [Controller.state_attend, unawaited, steady, heard]
    dsimp only
    split
    next rises => cases rises
    next =>
      split
      · exact .inr rfl
      · exact .inl finishing
  rw [controller_tick]
  constructor
  · refine mt Controller.failed_tick_iff.1 ?_
    rw [heard]
    exact working
  · rw [Controller.state_commit, Controller.tick_of_quiet active same, low, Controller.act]
    split
    · rw [Controller.stage_step]
      rcases attended with finish | idle
      · rw [finish]
        exact .inr rfl
      · rw [idle]
        exact .inr rfl
    all_goals exact attended

theorem drain_of_finishing (budget : Nat) : (machine.drain budget).2 = none := by
  induction budget generalizing machine with
  | zero => rfl
  | succ budget ih =>
    obtain ⟨works, stage⟩ := rests_or_stays linked finishing working run
    have faultless : machine.tick.haltError? = none := haltError?_of_working linked.tick works
    rw [drain, faultless]
    dsimp only
    split
    · rfl
    next busy =>
      refine ih linked.tick (stage.resolve_right busy) works ?_
      rw [tick_eq]
      exact congrArg Wire.commit run

end

theorem ok_of_reached (timeout : Nat) {reached : Machine} (linked : reached.Linked)
    (finishing : reached.controller.state.stage = .finish)
    (working : reached.controller.state.activity ≠ .failed)
    (awaited : awaitFinish timeout timeout (machine.setRun true) = (reached, none)) :
    ∃ report, (machine.run timeout).2 = .ok report := by
  have lowered : (reached.setRun false).Linked := linked.apply (.run false)
  have rewinds := drain_of_finishing lowered finishing working rfl drainTicks
  rw [run_eq_conclude, awaited, conclude]
  cases drained : drain drainTicks (reached.setRun false) with
  | mk last error? =>
    rw [drained] at rewinds
    cases rewinds
    exact ⟨_, rfl⟩

/-! ## Runs -/

theorem run_ticked (run : machine.pins.run = .rest true) (count : Nat) :
    (machine.ticked count).pins.run = .rest true := by
  induction count with
  | zero => exact run
  | succ count ih =>
    rw [ticked_succ, tick_eq]
    exact congrArg Wire.commit ih

theorem cycle_ticked (machine : Machine) (count : Nat) :
    (machine.ticked count).cycle = machine.cycle + count := by
  induction count with
  | zero => rfl
  | succ count ih =>
    rw [ticked_succ, tick_eq]
    exact congrArg (· + 1) ih

/-- A run that is out of time has raised the run pin and ticked. -/
theorem stopped_of_timesOut {timeout : Nat} (late : machine.TimesOut timeout) :
    (machine.run timeout).1 = (machine.setRun true).ticked timeout := by
  rw [timesOut_iff] at late
  obtain ⟨stopped, -⟩ := awaitFinish_of_outOfTime late
  obtain ⟨error, fails, -⟩ := late
  rw [run_eq_conclude, ← stopped]
  cases awaited : awaitFinish timeout timeout (machine.setRun true) with
  | mk reached error? =>
    rw [awaited] at fails
    cases fails
    rfl

theorem run_of_timesOut {timeout : Nat} (late : machine.TimesOut timeout) :
    (machine.run timeout).1.run timeout =
      ((machine.run (2 * timeout)).1,
        (machine.run (2 * timeout)).2.mapError (.within timeout)) := by
  have held : ((machine.setRun true).ticked timeout).pins.run = .rest true := run_ticked rfl timeout
  rw [stopped_of_timesOut late]
  rw [timesOut_iff] at late
  obtain ⟨-, resumes⟩ := awaitFinish_of_outOfTime late
  generalize (machine.setRun true).ticked timeout = stopped at held resumes ⊢
  have raised : stopped.setRun true = stopped := by
    rw [setRun, Wire.force, ← held]
  rw [run_eq_conclude, raised, awaitFinish_within timeout (2 * timeout),
    ← resumes (2 * timeout) timeout, ← Nat.two_mul, conclude_within]
  rfl

/-- Finishing in the last tick is in time. -/
theorem Linked.ok_of_rising (linked : machine.Linked) {timeout : Nat}
    (low : ∀ earlier < timeout, ((machine.setRun true).ticked earlier).finishLevel = false)
    (high : ((machine.setRun true).ticked timeout).finishLevel = true)
    (signalled : timeout = 0 →
      machine.controller.state.stage = .finish ∧ machine.controller.state.fault = none) :
    ∃ report, (machine.run timeout).2 = .ok report := by
  have raised : (machine.setRun true).Linked := linked.apply (.run true)
  have awaited := awaitFinish_of_rising raised timeout low high
  have reached := raised.ticked timeout
  cases timeout with
  | zero =>
    obtain ⟨finishing, faultless⟩ := signalled rfl
    have working : machine.controller.state.activity ≠ .failed :=
      fun failed => linked.clear.fault.2 failed faultless
    exact ok_of_reached 0 reached finishing working awaited
  | succ timeout =>
    rw [ticked_succ] at high awaited reached
    obtain ⟨finishing, working⟩ :=
      finishing_of_rising (raised.ticked timeout) (low timeout (Nat.lt_succ_self _)) high
    exact ok_of_reached (timeout + 1) reached finishing working awaited

/-- What a deadline does to a run, and what it does not. -/
structure Limited (machine : Machine) : Prop where
  /-- To simulate without a file for the report is to run. -/
  simulates {m : Type → Type} [Monad m] (files : FileAccess m) (settings : RunSettings) :
    settings.report = none →
      simulate files settings machine =
        pure ((machine.run settings.timeout).1,
          (machine.run settings.timeout).2.mapError .run)
  extended {timeout later : Nat} : timeout ≤ later → ¬machine.TimesOut timeout →
    machine.run later = machine.run timeout
  ticks {timeout : Nat} : machine.TimesOut timeout →
    (machine.run timeout).1 = (machine.setRun true).ticked timeout
  cycle {timeout : Nat} : machine.TimesOut timeout →
    (machine.run timeout).1.cycle = machine.cycle + timeout
  resumed {timeout : Nat} : machine.TimesOut timeout →
    (machine.run timeout).1.run timeout =
      ((machine.run (2 * timeout)).1, (machine.run (2 * timeout)).2.mapError (.within timeout))
  /-- The line may go up in the last tick.  Where it is up before the first one it has to be
  that of a finish. -/
  punctual {timeout : Nat} :
    (∀ earlier < timeout, ((machine.setRun true).ticked earlier).finishLevel = false) →
      ((machine.setRun true).ticked timeout).finishLevel = true →
      (timeout = 0 → machine.controller.state.stage = .finish ∧
        machine.controller.state.fault = none) →
      ∃ report, (machine.run timeout).2 = .ok report

theorem Linked.limited (linked : machine.Linked) : machine.Limited where
  simulates files settings unreported := by
    rw [simulate, unreported]
    rcases machine.run settings.timeout with ⟨ended, error | report⟩ <;> rfl
  extended {timeout later} le ended := by
    rw [timesOut_iff] at ended
    obtain ⟨more, rfl⟩ := Nat.exists_eq_add_of_le le
    rw [run_eq_conclude, run_eq_conclude, awaitFinish_of_ended ended]
  ticks late := stopped_of_timesOut late
  cycle late := by
    rw [stopped_of_timesOut late, cycle_ticked]
    rfl
  resumed late := run_of_timesOut late
  punctual low high signalled := linked.ok_of_rising low high signalled

/-- Whatever has been done to a machine that has been built, its runs are limited by their
deadlines and not changed. -/
theorem limited_of_operations {settings : Settings} {program : Program}
    (built : build? settings program = .ok machine) (history : List Operation) :
    (history.foldl perform machine).Limited := by
  obtain ⟨features, memory, rfl⟩ := eq_new_of_build? built
  obtain ⟨events, played⟩ := exists_play_of_operations _ history
  rw [played]
  exact ((linked_new program features memory settings.array.latency).play events).limited

/-- A run that is stopped behind the second tick of a program that takes three is resumed, and
its third tick is in time. -/
theorem limited_of_stoppedFinish :
    ∃ machine,
      build? { engine := { memorySize := 32 } } Controller.finishOnly = .ok machine ∧
        let stopped := [Operation.simulate 2].foldl perform machine
        machine.TimesOut 2 ∧ stopped.Limited ∧ ∃ report, (stopped.run 1).2 = .ok report := by
  obtain ⟨machine, built, late, low, high⟩ :
      ∃ machine,
        build? { engine := { memorySize := 32 } } Controller.finishOnly = .ok machine ∧
          (machine.run 2).2 = .error (.timeout 2 .running .finish 0 .await) ∧
          (machine.run 2).1.finishLevel = false ∧
          (((machine.run 2).1.setRun true).ticked 1).finishLevel = true :=
    ⟨_, rfl, by decide +kernel⟩
  have limited := limited_of_operations built [.simulate 2]
  refine ⟨machine, built, ⟨_, late, trivial⟩, limited, limited.punctual (fun earlier inside => ?_)
    high Nat.noConfusion⟩
  rw [Nat.lt_one_iff.1 inside]
  exact low

end Machine

end AccessController
