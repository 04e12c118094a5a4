import AccessController.Proofs.Controller.Transitions
import AccessController.Proofs.Machine.Underway
import AccessController.Proofs.Program.Wakeups

/-!
# Progress of the controller

In a run without pauses the controller executes its program from one end to the other
and halts for nothing but the engine and the array.  `rank` bounds what it has still
to do, and every step of a running controller lowers it (`Runs.act`).  Along the way a
program that is woken from all its waits stays one, given that the array has something
to show for a start (`Advances`).
-/

namespace AccessController

namespace Controller

/-- What a controller does in a run without pauses, and at which stages it does it. -/
def Active (controller : Controller) : Prop :=
  match controller.state.activity with
  | .running => controller.state.stage ≠ .idle ∧ controller.state.stage ≠ .awaitEngine
  | .waiting .engine => controller.state.stage = .awaitEngine
  | .waiting .array =>
    controller.state.stage = .waitReady ∧ controller.state.arrayDone = false
  | .paused | .stopped | .failed => False

/-- A controller in the course of a run without pauses. -/
structure Runs (controller : Controller) : Prop where
  active : controller.Active
  fault : controller.state.fault = none
  executes : ∀ opcode, controller.state.stage.opcode? = some opcode →
    controller.state.instruction.operation? = some opcode
  arrayStart : controller.outputs.arrayStart = .rest controller.state.arrayStartHigh
  pulsed : controller.state.arrayStartHigh = true → controller.state.stage = .advance
  finish : controller.outputs.finish = .rest false

/-- The steps to the end of the program, of which no instruction takes more than
eight. A wait counts as one step, and so does the tick in which the engine samples
its start. -/
def rank (controller : Controller) : Nat :=
  let behind := 8 * controller.behind.length
  match controller.state.stage with
  | .idle | .finish => 0
  | .fetch => 8 * controller.remaining.length + 1
  | .decode => behind + 8
  | .transfer _ | .select _ | .start => behind + 7
  | .waitReady => behind + if controller.state.activity = .running then 7 else 6
  | .awaitEngine => behind + if controller.state.engineStartHigh then 5 else 4
  | .engineDone => behind + 3
  | .advance => behind + 2

/-- One controller is nearer to the end of the program than the one before. If the
waits of the program have their starts, counting a run of the array or the rising ready
as one, they have them afterwards, as long as the array has something pending behind a
run or a start. -/
structure Advances (rises : Bool) (before after : Controller) : Prop where
  runs : after.Runs
  rank : after.rank < before.rank
  asks : after.state.activity = .waiting .engine → after.state.engineStartHigh = true
  starts : after.state.arrayStartHigh = true → before.state.stage = .start
  awoken : ∀ {begun pending : Bool}, (begun = true → pending = true) →
    (after.state.arrayStartHigh = true → pending = true) →
    Awoken (begun || rises || before.state.arrayDone) before.remaining →
    Awoken (pending || after.state.arrayDone) after.remaining

theorem or_eq_true_mono {before after other : Bool} (goesOn : before = true → after = true)
    (either : (before || other) = true) : (after || other) = true := by
  simp only [Bool.or_eq_true] at either ⊢
  exact either.imp_left goesOn

variable {controller : Controller}

theorem Runs.stage_of_engine (runs : controller.Runs)
    (waiting : controller.state.activity = .waiting .engine) :
    controller.state.stage = .awaitEngine := by
  have active := runs.active
  rwa [Active, waiting] at active

theorem Runs.stage_of_array (runs : controller.Runs)
    (awaited : controller.state.activity = .waiting .array) :
    controller.state.stage = .waitReady ∧ controller.state.arrayDone = false ∧
      controller.state.instruction.operation? = some .waitReady := by
  have active := runs.active
  rw [Active, awaited] at active
  exact ⟨active.1, active.2, runs.executes _ (by rw [active.1]; rfl)⟩

/-! ## Steps -/

section

variable (runs : controller.Runs) (running : controller.state.activity = .running)
  (unstarted : controller.state.arrayStartHigh = false)

include runs running

theorem Runs.staged : controller.state.stage ≠ .idle ∧ controller.state.stage ≠ .awaitEngine := by
  have active := runs.active
  rw [Active, running] at active
  exact active

include unstarted

/-- A step to another stage that leaves the engine and the array alone. -/
theorem Runs.advances_of_enter {stage : Stage} {pointer : Nat} {instruction : Instruction}
    {done : Bool} {stats : ControlStats} {selectOut : PerCache (Wire UInt8)}
    (act : controller.act true =
      { controller with
        state.stage := stage
        state.pointer := pointer
        state.instruction := instruction
        state.arrayDone := done
        state.stats := stats
        outputs.selectOut := selectOut })
    (staged : stage ≠ .idle ∧ stage ≠ .awaitEngine)
    (executes : ∀ opcode, stage.opcode? = some opcode → instruction.operation? = some opcode)
    (rank : (controller.act true).rank < controller.rank)
    (awoken : ∀ {owed : Bool}, Awoken (owed || controller.state.arrayDone) controller.remaining →
      Awoken (owed || done) (controller.act true).remaining) :
    Advances false controller (controller.act true).commit := by
  refine ⟨?_, rank, ?_, ?_, ?_⟩
  · rw [act]
    exact {
      active := by
        rw [Active, state_commit, running]
        exact staged
      fault := runs.fault
      executes
      arrayStart := congrArg Wire.commit runs.arrayStart
      pulsed := fun high => Bool.noConfusion (high.symm.trans unstarted)
      finish := congrArg Wire.commit runs.finish }
  · rw [act]
    exact fun waiting => Activity.noConfusion (running.symm.trans waiting)
  · rw [act]
    exact fun high => Bool.noConfusion (high.symm.trans unstarted)
  · intro begun pending goesOn _ before
    rw [Bool.or_false] at before
    have kept : (controller.act true).commit.state.arrayDone = done := by
      rw [act]
      rfl
    rw [kept]
    exact (awoken before).mono (or_eq_true_mono goesOn)

theorem Runs.fetch (stage : controller.state.stage = .fetch) :
    Advances false controller (controller.act true).commit := by
  have act : controller.act true = controller.fetch := by
    rw [act_of_running running, step, stage]
  have before : controller.remaining =
      controller.program.instructions.drop controller.state.pointer := by
    rw [remaining, stage]
  have rank : controller.rank = 8 * controller.remaining.length + 1 := by
    rw [Controller.rank, stage]
  rw [Controller.fetch] at act
  cases fetched : controller.program.word? controller.state.pointer with
  | none =>
    rw [fetched] at act
    have after : (controller.act true).remaining = [] := by
      rw [act]
      rfl
    refine runs.advances_of_enter running unstarted act
      ⟨Stage.noConfusion, Stage.noConfusion⟩ (by rintro _ ⟨⟩) ?_ fun _ => ?_
    · rw [rank, act]
      exact Nat.zero_lt_succ _
    · rw [after]
      trivial
  | some word =>
    rw [fetched] at act
    have after : (controller.act true).remaining = controller.remaining := by
      rw [act, before, Program.drop_instructions fetched]
      rfl
    have behind : controller.remaining.length = controller.behind.length + 1 := by
      rw [before, Program.drop_instructions fetched]
      rfl
    refine runs.advances_of_enter running unstarted act
      ⟨Stage.noConfusion, Stage.noConfusion⟩ (by rintro _ ⟨⟩) ?_ fun awoken => ?_
    · rw [rank, behind, act]
      change 8 * controller.behind.length + 8 < _
      omega
    · rw [after]
      exact awoken

/-- An instruction is decoded: it is skipped, ends the program, or is going to be
executed. -/
theorem Runs.dispatch (stage : controller.state.stage = .decode) :
    Advances false controller (controller.act true).commit := by
  have act : controller.act true = controller.dispatch := by
    rw [act_of_running running, step, stage]
  have before : controller.remaining = controller.state.instruction :: controller.behind := by
    rw [remaining, stage]
  have rank : controller.rank = 8 * controller.behind.length + 8 := by
    rw [Controller.rank, stage]
  rw [Controller.dispatch] at act
  have skip (code : controller.state.instruction.operation? = some .noop ∨
      controller.state.instruction.operation? = none) {stats : ControlStats}
      (act : controller.act true =
        { controller with state.stage := .advance, state.stats := stats }) :
      Advances false controller (controller.act true).commit := by
    refine runs.advances_of_enter running unstarted act
      ⟨Stage.noConfusion, Stage.noConfusion⟩ (by rintro _ ⟨⟩) ?_ fun awoken => ?_
    · rw [rank, act]
      change 8 * controller.behind.length + 2 < _
      omega
    · rw [before] at awoken
      have other (opcode : Opcode) (does : opcode ≠ .noop) :
          controller.state.instruction.operation? ≠ some opcode := by
        rcases code with code | code <;> simp [code, does.symm]
      rw [act]
      exact (Awoken.other_iff (other _ (by simp)) (other _ (by simp)) (other _ (by simp))).1 awoken
  cases code : controller.state.instruction.operation? with
  | none =>
    rw [code] at act
    exact skip (.inr code) act
  | some opcode =>
    rw [code] at act
    cases opcode with
    | noop => exact skip (.inl code) act
    | finish =>
      refine runs.advances_of_enter running unstarted act
        ⟨Stage.noConfusion, Stage.noConfusion⟩ (by rintro _ ⟨⟩) ?_ fun _ => ?_
      · rw [rank, act]
        exact Nat.zero_lt_succ _
      · rw [act]
        trivial
    | _ =>
      refine runs.advances_of_enter running unstarted act
        ⟨Stage.noConfusion, Stage.noConfusion⟩ ?_ ?_ fun awoken => ?_
      · rintro _ ⟨⟩
        exact code
      · have after : (controller.act true).rank = 8 * controller.behind.length + 7 := by
          rw [act]
          simp [Controller.rank, enter, Stage.ofOpcode, running, behind]
        rw [rank, after]
        exact Nat.lt_succ_self _
      · rw [act]
        rw [before] at awoken
        exact awoken

theorem Runs.select {kind : CacheKind} (stage : controller.state.stage = .select kind) :
    Advances false controller (controller.act true).commit := by
  have act : controller.act true = controller.select kind := by
    rw [act_of_running running, step, stage]
  have before : controller.remaining = controller.state.instruction :: controller.behind := by
    rw [remaining, stage]
  have code : controller.state.instruction.operation? = some (.select kind) :=
    runs.executes _ (by rw [stage]; rfl)
  refine runs.advances_of_enter running unstarted act
    ⟨Stage.noConfusion, Stage.noConfusion⟩ (by rintro _ ⟨⟩) ?_ fun awoken => ?_
  · rw [rank, rank, stage, act]
    change 8 * controller.behind.length + 2 < 8 * controller.behind.length + 7
    omega
  · rw [before] at awoken
    rw [act]
    exact (Awoken.other_iff (by simp [code]) (by simp [code]) (by simp [code])).1 awoken

theorem Runs.engineDone (stage : controller.state.stage = .engineDone) :
    Advances false controller (controller.act true).commit := by
  have act : controller.act true = controller.enter .advance := by
    rw [act_of_running running, step, stage]
  have before : controller.remaining = controller.behind := by
    rw [remaining, stage]
  refine runs.advances_of_enter running unstarted act
    ⟨Stage.noConfusion, Stage.noConfusion⟩ (by rintro _ ⟨⟩) ?_ fun awoken => ?_
  · rw [rank, rank, stage, act]
    exact Nat.lt_succ_self _
  · rw [before] at awoken
    rw [act]
    exact awoken

theorem Runs.advance (stage : controller.state.stage = .advance) :
    Advances false controller (controller.act true).commit := by
  have act : controller.act true = controller.advance := by
    rw [act_of_running running, step, stage]
  have before : controller.remaining = controller.behind := by
    rw [remaining, stage]
  refine runs.advances_of_enter running unstarted act
    ⟨Stage.noConfusion, Stage.noConfusion⟩ (by rintro _ ⟨⟩) ?_ fun awoken => ?_
  · rw [rank, rank, stage, act]
    exact Nat.lt_succ_self _
  · rw [before] at awoken
    rw [act]
    exact awoken

theorem Runs.request {operation : TransferOp}
    (stage : controller.state.stage = .transfer operation) :
    Advances false controller (controller.act true).commit := by
  have act : controller.act true = controller.request operation := by
    rw [act_of_running running, step, stage]
  have before : controller.remaining = controller.state.instruction :: controller.behind := by
    rw [remaining, stage]
  have code : controller.state.instruction.operation? = some (.transfer operation) :=
    runs.executes _ (by rw [stage]; rfl)
  rw [act]
  refine ⟨?_, ?_, fun _ => rfl, fun high => Bool.noConfusion (high.symm.trans unstarted), ?_⟩
  · exact {
      active := rfl
      fault := runs.fault
      executes := by rintro _ ⟨⟩
      arrayStart := congrArg Wire.commit runs.arrayStart
      pulsed := fun high => Bool.noConfusion (high.symm.trans unstarted)
      finish := congrArg Wire.commit runs.finish }
  · rw [rank, rank, stage]
    change 8 * controller.behind.length + 5 < 8 * controller.behind.length + 7
    omega
  · intro begun pending goesOn _ awoken
    rw [Bool.or_false, before] at awoken
    have awoken := (Awoken.other_iff (by simp [code]) (by simp [code]) (by simp [code])).1 awoken
    exact awoken.mono (or_eq_true_mono goesOn)

omit unstarted in
/-- The array is started. Whatever it was doing, it has something pending now. -/
theorem Runs.startArray (stage : controller.state.stage = .start) :
    Advances false controller (controller.act true).commit := by
  have act : controller.act true = controller.startArray := by
    rw [act_of_running running, step, stage]
  have before : controller.remaining = controller.state.instruction :: controller.behind := by
    rw [remaining, stage]
  have code : controller.state.instruction.operation? = some .start :=
    runs.executes _ (by rw [stage]; rfl)
  rw [act]
  refine ⟨?_, ?_, fun waiting => Activity.noConfusion (running.symm.trans waiting),
    fun _ => stage, ?_⟩
  · exact {
      active := by
        rw [Active, state_commit, Controller.startArray]
        simp [enter, running]
      fault := runs.fault
      executes := by rintro _ ⟨⟩
      arrayStart := rfl
      pulsed := fun _ => rfl
      finish := congrArg Wire.commit runs.finish }
  · rw [rank, rank, stage]
    change 8 * controller.behind.length + 2 < 8 * controller.behind.length + 7
    omega
  · intro begun pending _ started awoken
    rw [before] at awoken
    rw [started rfl, Bool.true_or]
    exact (Awoken.start_iff code).1 awoken

/-- A wait is over at once or begins. -/
theorem Runs.waitReady (stage : controller.state.stage = .waitReady) :
    Advances false controller (controller.act true).commit := by
  have act : controller.act true = controller.waitReady := by
    rw [act_of_running running, step, stage]
  have before : controller.remaining = controller.state.instruction :: controller.behind := by
    rw [remaining, stage]
  have code : controller.state.instruction.operation? = some .waitReady :=
    runs.executes _ (by rw [stage]; rfl)
  have rank : controller.rank = 8 * controller.behind.length + 7 := by
    rw [Controller.rank, stage]
    dsimp only
    rw [if_pos running]
  rw [Controller.waitReady] at act
  cases done : controller.state.arrayDone with
  | true =>
    rw [done, if_pos rfl] at act
    refine runs.advances_of_enter running unstarted act
      ⟨Stage.noConfusion, Stage.noConfusion⟩ (by rintro _ ⟨⟩) ?_ fun awoken => ?_
    · rw [rank, act]
      change 8 * controller.behind.length + 2 < _
      omega
    · rw [before] at awoken
      rw [act]
      obtain ⟨-, awoken⟩ := (Awoken.waitReady_iff code).1 awoken
      exact awoken.mono (by simp)
  | false =>
    rw [done, if_neg Bool.false_ne_true] at act
    have after : (controller.act true).remaining = controller.remaining := by
      rw [act]
      rfl
    refine ⟨?_, ?_, ?_, ?_, ?_⟩
    · rw [act]
      exact {
        active := ⟨stage, done⟩
        fault := runs.fault
        executes := runs.executes
        arrayStart := congrArg Wire.commit runs.arrayStart
        pulsed := runs.pulsed
        finish := congrArg Wire.commit runs.finish }
    · have waits : (controller.act true).rank = 8 * controller.behind.length + 6 := by
        rw [act]
        simp [Controller.rank, become, stage, behind]
      exact rank ▸ waits ▸ Nat.lt_succ_self _
    · rw [act]
      rintro ⟨⟩
    · rw [act]
      exact fun high => Bool.noConfusion (high.symm.trans unstarted)
    · intro begun pending goesOn _ awoken
      rw [Bool.or_false] at awoken
      rw [act] at after ⊢
      exact after ▸ awoken.mono (or_eq_true_mono goesOn)

/-- A step that does not end the program takes it further. -/
theorem Runs.act (unfinished : controller.state.stage ≠ .finish) :
    Advances false controller (controller.act true).commit := by
  obtain ⟨moving, unasked⟩ := runs.staged running
  cases stage : controller.state.stage with
  | idle => exact absurd stage moving
  | fetch => exact runs.fetch running unstarted stage
  | decode => exact runs.dispatch running unstarted stage
  | transfer operation => exact runs.request running unstarted stage
  | awaitEngine => exact absurd stage unasked
  | engineDone => exact runs.engineDone running unstarted stage
  | select kind => exact runs.select running unstarted stage
  | start => exact runs.startArray running stage
  | waitReady => exact runs.waitReady running unstarted stage
  | finish => exact absurd stage unfinished
  | advance => exact runs.advance running unstarted stage

end

/-! ## Ticks -/

variable {pins : ControlPins}

/-- A controller that has sampled its pins is still in its run, and its pulses are
over. -/
theorem Runs.of_sample (runs : controller.Runs) {after : Controller} {stage : Stage}
    {activity : Activity} {done : Bool} {stats : ControlStats}
    (moved : after =
      { controller.sample pins with
        state.arrayDone := done
        state.stage := stage
        state.activity := activity
        state.stats := stats })
    (active : after.Active)
    (executes : ∀ opcode, stage.opcode? = some opcode →
      controller.state.instruction.operation? = some opcode) :
    after.commit.Runs where
  active := active
  fault := by
    rw [moved]
    exact runs.fault
  executes := by
    rw [moved]
    exact executes
  arrayStart := by
    rw [moved]
    change (controller.outputs.arrayStart.driveIf controller.state.arrayStartHigh false).commit = _
    rw [runs.arrayStart]
    cases controller.state.arrayStartHigh <;> rfl
  pulsed := by
    rw [moved]
    rintro ⟨⟩
  finish := by
    rw [moved]
    exact congrArg Wire.commit runs.finish

section

variable (runs : controller.Runs) (run : pins.run = true)

include runs run

/-- A controller that is running in the middle of a tick gets on in it, if nothing is
lost in the first half. -/
theorem Runs.tick_of_attend {stage : Stage} {done rises : Bool}
    (attend : controller.attend pins =
      { controller.sample pins with
        state.arrayDone := done
        state.stage := stage
        state.activity := .running })
    (acts : controller.tick pins = (controller.attend pins).act pins.run)
    (staged : stage ≠ .idle ∧ stage ≠ .awaitEngine) (unfinished : stage ≠ .finish)
    (executes : ∀ opcode, stage.opcode? = some opcode →
      controller.state.instruction.operation? = some opcode)
    (rank : (controller.attend pins).rank ≤ controller.rank)
    (starts : stage = .start → controller.state.stage = .start)
    (awoken : ∀ {begun : Bool},
      Awoken (begun || rises || controller.state.arrayDone) controller.remaining →
      Awoken (begun || done) (controller.attend pins).remaining) :
    Advances rises controller (controller.tick pins).commit := by
  have middle : (controller.attend pins).commit.Runs := by
    refine runs.of_sample attend ?_ executes
    rw [attend]
    exact staged
  have advances := middle.act (by rw [attend]; rfl) (by rw [attend]; rfl)
    (by rw [attend]; exact unfinished)
  rw [run] at acts
  rw [commit_act_commit, ← acts] at advances
  exact {
    runs := advances.runs
    rank := Nat.lt_of_lt_of_le advances.rank rank
    asks := advances.asks
    starts := fun high => by
      have at_ := advances.starts high
      rw [state_commit, attend] at at_
      exact starts at_
    awoken := by
      intro begun pending goesOn started before
      refine advances.awoken goesOn started ?_
      have noted : (controller.attend pins).commit.state.arrayDone = done := by
        rw [attend]
        rfl
      rw [Bool.or_false, noted]
      exact awoken before }

variable (sampledRun : controller.state.sampled.run = true)
  (sampledReset : controller.state.sampled.reset = false) (unpaused : pins.pause = false)

include sampledRun sampledReset unpaused

theorem Runs.tick_of_running (running : controller.state.activity = .running)
    (unfinished : controller.state.stage ≠ .finish)
    (same : pins.engineReady = controller.state.sampled.engineReady) :
    Advances (controller.arrayRises pins) controller (controller.tick pins).commit := by
  have staged := runs.staged running
  have attend := attend_of_unawaited (by simp [sampledRun]) (by simp [sampledReset])
    (by simp [running]) (.inl same)
  rw [running, Activity.follow, unpaused, if_neg Bool.false_ne_true] at attend
  have acts := tick_eq_act controller pins (by simp [running]) (.inl same)
  refine runs.tick_of_attend run attend acts staged unfinished runs.executes ?_ id fun awoken => ?_
  · rw [attend, rank, rank]
    cases stage : controller.state.stage with
    | awaitEngine => exact absurd stage staged.2
    | waitReady => simp [running, stage, sample, dropPulses, behind]
    | _ => simp [stage, sample, dropPulses, behind, remaining]
  · rw [attend]
    rw [Bool.or_assoc, Bool.or_comm (controller.arrayRises pins)] at awoken
    exact awoken

/-- When ready falls the controller gets on behind its request. -/
theorem Runs.tick_of_answered (waiting : controller.state.activity = .waiting .engine)
    (past : controller.state.sampled.engineReady = true) (now : pins.engineReady = false) :
    Advances (controller.arrayRises pins) controller (controller.tick pins).commit := by
  have stage := runs.stage_of_engine waiting
  have attend := attend_of_answered (by simp [sampledRun]) (by simp [sampledReset]) waiting past now
  rw [Activity.follow, unpaused, if_neg Bool.false_ne_true] at attend
  have acts := tick_eq_act controller pins (by simp [waiting]) (.inr waiting)
  refine runs.tick_of_attend run attend acts (by simp) (by simp) (by rintro _ ⟨⟩) ?_ (by simp)
    fun awoken => ?_
  · rw [attend, rank, rank, stage]
    change 8 * controller.behind.length + 3 ≤ 8 * controller.behind.length + ite _ _ _
    split <;> omega
  · rw [attend]
    rw [Bool.or_assoc, Bool.or_comm (controller.arrayRises pins), remaining, stage] at awoken
    exact awoken

/-- When ready rises the controller gets on behind its wait for the array. -/
theorem Runs.tick_of_awaited (awaited : controller.state.activity = .waiting .array)
    (same : pins.engineReady = controller.state.sampled.engineReady)
    (rises : controller.arrayRises pins = true) :
    Advances (controller.arrayRises pins) controller (controller.tick pins).commit := by
  obtain ⟨stage, -, code⟩ := runs.stage_of_array awaited
  have attend :=
    attend_of_awaited (by simp [sampledRun]) (by simp [sampledReset]) awaited same rises
  rw [Activity.follow, unpaused, if_neg Bool.false_ne_true] at attend
  have acts := tick_eq_act controller pins (by simp [awaited]) (.inl same)
  refine runs.tick_of_attend run attend acts (by simp) (by simp) (by rintro _ ⟨⟩) ?_ (by simp)
    fun awoken => ?_
  · rw [attend, rank, rank, stage]
    change 8 * controller.behind.length + 2 ≤ 8 * controller.behind.length + ite _ _ _
    split <;> omega
  · rw [remaining, stage] at awoken
    obtain ⟨-, awoken⟩ := (Awoken.waitReady_iff code).1 awoken
    rw [attend]
    exact awoken.mono (by simp)

end

theorem tick_of_unready (awaited : controller.state.activity = .waiting .array)
    (unstarted : ¬(controller.state.sampled.run = false ∧ pins.run = true))
    (unreset : ¬(controller.state.sampled.reset = true ∧ pins.reset = false))
    (same : pins.engineReady = controller.state.sampled.engineReady)
    (unready : controller.arrayRises pins = false) :
    controller.tick pins =
      { controller.sample pins with
        state.stats.waitCycles := controller.state.stats.waitCycles + 1 } := by
  have sampled : (controller.sample pins).state.activity = .waiting .array := awaited
  rw [tick_eq_act _ _ (by simp [awaited]) (.inl same),
    attend_of_unready unstarted unreset awaited same unready, Controller.act, sampled]
  rfl

end Controller

end AccessController
