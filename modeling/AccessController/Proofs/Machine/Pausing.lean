import Mathlib.Data.Nat.Find
import AccessController.Proofs.Controller.Progress
import AccessController.Proofs.Machine.Account
import AccessController.Proofs.Machine.Refinement

/-!
# Pauses

A pause takes time and nothing else.  While run is held, the pause pin may be put up and
down in any way: the program goes on from where it was, and a tick that finds the pin
low is followed by one that takes some of the time that is left.  With a pin that is low
again and again the run comes to its end, and it ends where the run without a pause does
(`finishes_alike`).
-/

namespace AccessController

namespace Machine

variable {machine : Machine}

/-! ## The pin -/

theorem Underway.setPause (underway : machine.Underway) (level : Bool) :
    (machine.setPause level).Underway := by
  have situation : (machine.setPause level).Resting ∨ (machine.setPause level).Requested ∨
      (machine.setPause level).Answered := by
    rcases underway.situation with resting | requested | answered
    · exact .inl { resting with free := resting.free }
    · exact .inr (.inl { requested with waiting := requested.waiting })
    · exact .inr (.inr { answered with waiting := answered.waiting })
  exact { underway with run := underway.run, situation }

theorem Continues.setPause {before after : Machine} {ticks : Nat}
    (continues : before.Continues after ticks) (level : Bool) :
    before.Continues (after.setPause level) ticks where
  underway := continues.underway.setPause level
  features := continues.features
  sequenced := continues.sequenced
  run := continues.run
  ticks := continues.ticks

/-- A controller is paused only behind a tick that found the pin high. -/
def Heedful (machine : Machine) : Prop :=
  machine.controller.state.activity = .paused → machine.controller.state.sampled.pause = true

theorem Heedful.acted (heedful : machine.Heedful) : machine.acted.Heedful := by
  intro paused
  have before : machine.controller.state.activity = .paused := by
    apply Classical.byContradiction
    intro unpaused
    exact Controller.unpaused_act unpaused machine.controller.state.sampled.run paused
  have sampled : machine.acted.controller.state.sampled = machine.controller.state.sampled :=
    Controller.sampled_act ..
  rw [sampled]
  exact heedful before

/-- A tick that finds the pin low ends a pause, unless the pin was low before, and then
there was none. -/
theorem Underway.heedful_attended (underway : machine.Underway) (heedful : machine.Heedful) :
    machine.attended.Heedful := by
  intro paused
  have sampled : machine.attended.controller.state.sampled = machine.controlPins :=
    (machine.controller.attended_attend machine.controlPins).sampled
  rw [sampled]
  apply Classical.byContradiction
  intro high
  have low : machine.controlPins.pause = false := Bool.eq_false_iff.2 high
  by_cases before : machine.controller.state.activity = .paused
  · have resting : machine.Resting := underway.resting (by simp [before])
    have attend := Controller.attend_of_unawaited (by simp [underway.sampledRun])
      (by simp [underway.sampledReset]) (by simp [before])
      (.inl (engineReady_of_idle resting.idle resting.unready))
    have activity : machine.attended.controller.state.activity = .running := by
      change (machine.controller.attend machine.controlPins).state.activity = _
      rw [attend, before]
      simp [Activity.follow, heedful before, low]
    exact Activity.noConfusion (paused.symm.trans activity)
  · exact Controller.unpaused_attend before low paused

/-! ## One tick -/

/-- The middle of the next tick, which finds the pause pin at a level. -/
def following (machine : Machine) (paused : Bool) : Machine :=
  (machine.acted.setPause paused).attended

section

variable (poised : machine.Poised) (unfinished : ¬machine.Finishing)
  (sequenced : Sequenced machine.owed machine.controller.remaining) (paused : Bool)

include poised unfinished sequenced

theorem Poised.tick_following :
    (machine.acted.setPause paused).tick = (machine.following paused).acted :=
  ((poised.act unfinished sequenced).underway.setPause paused).tick_eq

theorem Poised.finishLevel_low : machine.acted.finishLevel = false :=
  congrArg Wire.level (poised.act unfinished sequenced).underway.finish

/-- From one middle of a tick to the next the program goes on, wherever the pause pin is. -/
theorem Poised.continues_following :
    (machine.following paused).Poised ∧
      machine.Continues (machine.following paused)
        (machine.actedTicks + machine.acted.attendedTicks) := by
  have first := (poised.act unfinished sequenced).setPause paused
  obtain ⟨next, second⟩ := first.underway.attend first.sequenced
  exact ⟨next, first.trans second⟩

theorem Poised.balances_following :
    machine.controller.Balances (machine.following paused).controller := by
  have underway := (poised.act unfinished sequenced).underway.setPause paused
  exact poised.balances_acted.trans underway.balances_attended

theorem Poised.heedful_following (heedful : machine.Heedful) :
    (machine.following paused).Heedful := by
  have underway := (poised.act unfinished sequenced).underway.setPause paused
  exact underway.heedful_attended heedful.acted

/-- No tick adds to the ticks that are left, and one outside a pause takes some of them. -/
theorem Poised.ticksLeft_following :
    (machine.following paused).ticksLeft ≤ machine.ticksLeft ∧
      (machine.controller.state.activity ≠ .paused →
        (machine.following paused).ticksLeft < machine.ticksLeft) := by
  have taken := (poised.continues_following unfinished sequenced paused).2.ticks
  constructor
  · omega
  · intro unpaused
    have positive := poised.ticks_pos unpaused sequenced
    omega

end

/-! ## A whole run -/

/-- A machine some ticks after run has risen, with the pause pin at each tick where a
schedule puts it. -/
def paced (pausing : Nat → Bool) (machine : Machine) : Nat → Machine
  | 0 => machine.setRun true
  | tick + 1 => ((paced pausing machine tick).setPause (pausing tick)).tick

/-- The middle of each tick of such a run. -/
def midway (pausing : Nat → Bool) (machine : Machine) : Nat → Machine
  | 0 => (machine.raised (pausing 0)).attended
  | tick + 1 => (midway pausing machine tick).following (pausing (tick + 1))

/-- The finish line goes high with a tick. -/
def FinishesAt (pausing : Nat → Bool) (machine : Machine) (tick : Nat) : Prop :=
  (machine.paced pausing tick).finishLevel = true ∧
    ∀ earlier < tick, (machine.paced pausing earlier).finishLevel = false

/-- What holds in the middle of a tick that the run has come to. -/
structure Reached (pausing : Nat → Bool) (machine : Machine) (tick : Nat) : Prop where
  poised : (machine.midway pausing tick).Poised
  heedful : (machine.midway pausing tick).Heedful
  continues : ∃ ticks,
    (machine.midway pausing 0).Continues (machine.midway pausing tick) ticks
  balances : (machine.midway pausing 0).controller.Balances
    (machine.midway pausing tick).controller
  paced : machine.paced pausing (tick + 1) = (machine.midway pausing tick).acted
  sampled : (machine.midway pausing tick).controller.state.sampled.pause = pausing tick

variable {pausing : Nat → Bool}

theorem Reached.sequenced {tick : Nat} (reached : Reached pausing machine tick) :
    Sequenced (machine.midway pausing tick).owed
      (machine.midway pausing tick).controller.remaining := by
  obtain ⟨ticks, continues⟩ := reached.continues
  exact continues.sequenced

theorem Reached.succ {tick : Nat} (reached : Reached pausing machine tick)
    (unfinished : ¬(machine.midway pausing tick).Finishing) :
    Reached pausing machine (tick + 1) where
  poised := (reached.poised.continues_following unfinished reached.sequenced _).1
  heedful := reached.poised.heedful_following unfinished reached.sequenced _ reached.heedful
  continues := by
    obtain ⟨ticks, continues⟩ := reached.continues
    have next := (reached.poised.continues_following unfinished reached.sequenced
      (pausing (tick + 1))).2
    exact ⟨_, continues.trans next⟩
  balances := reached.balances.trans
    (reached.poised.balances_following unfinished reached.sequenced _)
  paced := by
    rw [Machine.paced, reached.paced]
    exact reached.poised.tick_following unfinished reached.sequenced _
  sampled := by
    have sampled : (machine.midway pausing (tick + 1)).controller.state.sampled =
        ((machine.midway pausing tick).acted.setPause (pausing (tick + 1))).controlPins :=
      (Controller.attended_attend ..).sampled
    rw [sampled]
    rfl

section

variable (dormant : machine.Dormant)
  (sequenced : Sequenced false machine.controller.program.instructions)

include dormant sequenced

theorem Dormant.reached_zero : Reached pausing machine 0 := by
  obtain ⟨poised, remaining, state, settled, ticks⟩ := dormant.begins (pausing 0)
  have controller := dormant.controller_begins (pausing 0)
  constructor
  case poised => exact poised
  case heedful =>
    intro paused
    change (machine.raised (pausing 0)).attended.controller.state.activity = _ at paused
    change (machine.raised (pausing 0)).attended.controller.state.sampled.pause = _
    rw [controller] at paused ⊢
    change pausing 0 = true
    cases level : pausing 0 with
    | true => rfl
    | false =>
      rw [level] at paused
      cases paused
  case continues =>
    refine ⟨0, .refl poised.toUnderway ?_⟩
    change Sequenced (machine.raised (pausing 0)).attended.owed
      (machine.raised (pausing 0)).attended.controller.remaining
    rw [settled, remaining]
    exact sequenced
  case balances => exact .refl _
  case paced =>
    exact tick_eq_acted _ dormant.resting.free.working
      (.inl (engineReady_of_idle dormant.resting.idle dormant.resting.unready))
  case sampled =>
    change (machine.raised (pausing 0)).attended.controller.state.sampled.pause = _
    rw [controller]
    rfl

theorem Dormant.reached {tick : Nat}
    (unfinished : ∀ earlier < tick, ¬(machine.midway pausing earlier).Finishing) :
    Reached pausing machine tick := by
  induction tick with
  | zero => exact dormant.reached_zero sequenced
  | succ tick ih =>
    have before := ih fun earlier inside => unfinished earlier (Nat.lt_succ_of_lt inside)
    exact before.succ (unfinished tick (Nat.lt_succ_self tick))

/-- A pin that is low again and again lets the run come to its end: each time that it is
low some of the ticks that are left go by. -/
theorem Dormant.exists_finishing (low : ∀ tick, ∃ later, tick ≤ later ∧ pausing later = false) :
    ∃ tick, (machine.midway pausing tick).Finishing := by
  apply Classical.byContradiction
  intro never
  have unfinished (tick : Nat) : ¬(machine.midway pausing tick).Finishing :=
    fun finishing => never ⟨tick, finishing⟩
  have reached (tick : Nat) : Reached pausing machine tick :=
    dormant.reached sequenced fun earlier _ => unfinished earlier
  have antitone {tick later : Nat} (le : tick ≤ later) :
      (machine.midway pausing later).ticksLeft ≤ (machine.midway pausing tick).ticksLeft := by
    induction le with
    | refl => exact Nat.le_refl _
    | step _ ih =>
      refine Nat.le_trans ?_ ih
      exact ((reached _).poised.ticksLeft_following (unfinished _) (reached _).sequenced _).1
  have descends (tick : Nat) : ∃ later,
      (machine.midway pausing later).ticksLeft < (machine.midway pausing tick).ticksLeft := by
    obtain ⟨later, after, level⟩ := low tick
    have unpaused : (machine.midway pausing later).controller.state.activity ≠ .paused := by
      intro paused
      have high := (reached later).heedful paused
      rw [(reached later).sampled, level] at high
      cases high
    have falls := ((reached later).poised.ticksLeft_following (unfinished later)
      (reached later).sequenced (pausing (later + 1))).2 unpaused
    exact ⟨later + 1, Nat.lt_of_lt_of_le falls (antitone after)⟩
  have endless (left : Nat) : ∀ tick, (machine.midway pausing tick).ticksLeft ≠ left := by
    induction left using Nat.strongRecOn with
    | ind left ih =>
      intro tick same
      obtain ⟨later, less⟩ := descends tick
      exact ih _ (same ▸ less) later rfl
  exact endless _ 0 rfl

theorem Dormant.exists_last (low : ∀ tick, ∃ later, tick ≤ later ∧ pausing later = false) :
    ∃ tick, Reached pausing machine tick ∧ (machine.midway pausing tick).Finishing ∧
      FinishesAt pausing machine (tick + 1) := by
  classical
  have ends := dormant.exists_finishing sequenced low
  have unfinished : ∀ earlier < Nat.find ends, ¬(machine.midway pausing earlier).Finishing :=
    fun earlier before => Nat.find_min ends before
  have reached := dormant.reached sequenced unfinished
  have finishing := Nat.find_spec ends
  refine ⟨Nat.find ends, reached, finishing, ?_, ?_⟩
  · rw [reached.paced]
    exact reached.poised.finishLevel_acted finishing
  · intro earlier before
    cases earlier with
    | zero => exact congrArg Wire.level dormant.finish
    | succ earlier =>
      have inside : earlier < Nat.find ends := Nat.lt_of_succ_lt_succ before
      have going := dormant.reached sequenced fun further less =>
        unfinished further (Nat.lt_trans less inside)
      rw [going.paced]
      exact going.poised.finishLevel_low (unfinished earlier inside) going.sequenced

/-- Where the finish line goes high, the contents and the counts are those of the
program. -/
theorem Dormant.finishes (low : ∀ tick, ∃ later, tick ≤ later ∧ pausing later = false) :
    ∃ tick, FinishesAt pausing machine tick ∧
      (machine.paced pausing tick).datapath.contents =
        (ProgramState.run machine.datapath.engine.features machine.controller.program.instructions
          ⟨machine.datapath.contents, none⟩).contents ∧
      (machine.paced pausing tick).controller.state.stats.instructions =
        machine.controller.state.stats.instructions +
          (executed machine.controller.program.instructions).length ∧
      (machine.paced pausing tick).controller.state.stats.engineRequests =
        machine.controller.state.stats.engineRequests +
          (executed machine.controller.program.instructions).countP Instruction.transfers := by
  obtain ⟨tick, reached, finishing, finishes⟩ := dormant.exists_last sequenced low
  obtain ⟨_, remaining, state, -, -⟩ := dormant.begins (pausing 0)
  have controller := dormant.controller_begins (pausing 0)
  have poised := reached.poised
  have ended : (machine.midway pausing tick).controller.remaining = [] := by
    rw [Controller.remaining, finishing.2]
  have resting : (machine.midway pausing tick).Resting := poised.resting (by simp [finishing.1])
  have stats : (machine.midway pausing tick).acted.controller.state.stats =
      (machine.midway pausing tick).controller.state.stats := by
    rw [poised.controller_finished finishing]
  have begins : (machine.midway pausing 0).controller.remaining =
      machine.controller.program.instructions := remaining
  have fetches : (machine.midway pausing 0).controller.state.stage = .fetch := by
    change (machine.raised (pausing 0)).attended.controller.state.stage = .fetch
    rw [controller]
  have counted : (machine.midway pausing 0).controller.state.stats =
      machine.controller.state.stats := by
    change (machine.raised (pausing 0)).attended.controller.state.stats = _
    rw [controller]
  refine ⟨tick + 1, finishes, ?_, ?_, ?_⟩
  · obtain ⟨ticks, continues⟩ := reached.continues
    have run := continues.run
    have features : (machine.midway pausing 0).datapath.engine.features =
        machine.datapath.engine.features := features_attended _
    have start : (machine.midway pausing 0).programState = ⟨machine.datapath.contents, none⟩ :=
      state
    rw [ended, begins, features, start] at run
    rw [reached.paced, datapath_acted, ← poised.contents_programState resting]
    exact congrArg ProgramState.contents run
  · have balance := reached.balances.retiring
    rw [Controller.retiring, Controller.retiring, ended, begins, finishing.2, fetches,
      counted] at balance
    rw [reached.paced, stats]
    simpa [executed, Stage.uncounted] using balance
  · have balance := reached.balances.requesting
    rw [Controller.requesting, Controller.requesting, ended, begins, counted] at balance
    rw [reached.paced, stats]
    exact balance

end

/-- Pausing is invisible in the result.  A sequenced program whose pause pin is low again
and again comes to its end, and at the tick at which the finish line goes high memory,
lines, output lines and the counts of instructions and requests are those of the run
without a pause. -/
theorem finishes_alike {settings : Settings} {program : Program}
    (built : build? settings program = .ok machine) (memory : Memory)
    (sequenced : Sequenced false program.instructions) (pausing : Nat → Bool)
    (low : ∀ tick, ∃ later, tick ≤ later ∧ pausing later = false) :
    ∃ paused straight, FinishesAt pausing (machine.withMemory memory) paused ∧
      FinishesAt (fun _ => false) (machine.withMemory memory) straight ∧
      let ours := (machine.withMemory memory).paced pausing paused
      let theirs := (machine.withMemory memory).paced (fun _ => false) straight
      ours.datapath.contents = theirs.datapath.contents ∧
        ours.controller.state.stats.instructions = theirs.controller.state.stats.instructions ∧
        ours.controller.state.stats.engineRequests =
          theirs.controller.state.stats.engineRequests := by
  obtain ⟨features, old, rfl⟩ := eq_new_of_build? built
  have dormant := (dormant_new program features old settings.array.latency).withMemory memory
  obtain ⟨paused, finishes, contents, instructions, requests⟩ := dormant.finishes sequenced low
  have never (tick : Nat) : ∃ later, tick ≤ later ∧ (fun _ => false : Nat → Bool) later = false :=
    ⟨tick, Nat.le_refl _, rfl⟩
  obtain ⟨straight, ends, same, counted, asked⟩ := dormant.finishes sequenced never
  exact ⟨paused, straight, finishes, ends, contents.trans same.symm,
    instructions.trans counted.symm, requests.trans asked.symm⟩

/-- A load, a run of the array and a store under a pause pin that is low in every third
tick only. -/
theorem finishes_alike_echo :
    let pausing (tick : Nat) : Bool := tick % 3 != 0
    ∃ machine paused straight, build? { engine := { memorySize := 32 } } .echo = .ok machine ∧
      Sequenced false Program.echo.instructions ∧
      (∀ tick, ∃ later, tick ≤ later ∧ pausing later = false) ∧
      FinishesAt pausing (machine.withMemory (.zeros 32)) paused ∧
      FinishesAt (fun _ => false) (machine.withMemory (.zeros 32)) straight ∧
      ((machine.withMemory (.zeros 32)).paced pausing paused).datapath.contents =
        ((machine.withMemory (.zeros 32)).paced (fun _ => false) straight).datapath.contents := by
  intro pausing
  obtain ⟨machine, built⟩ : ∃ machine, build? { engine := { memorySize := 32 } } .echo =
    .ok machine := ⟨_, rfl⟩
  have sequenced : Sequenced false Program.echo.instructions := by decide +kernel
  have low (tick : Nat) : ∃ later, tick ≤ later ∧ pausing later = false := by
    refine ⟨3 * tick, by omega, ?_⟩
    simp [pausing]
  obtain ⟨paused, straight, finishes, ends, contents, -⟩ :=
    finishes_alike built (.zeros 32) sequenced pausing low
  exact ⟨machine, paused, straight, built, sequenced, low, finishes, ends, contents⟩

end Machine

end AccessController
