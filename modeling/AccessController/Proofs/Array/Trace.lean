import Mathlib.Data.Nat.Count
import AccessController.Proofs.Array.Tick

/-!
# The array under any trace of starts

Start may rise while a run is under way, and such a start is dropped.  Which ones are accepted
depends on the levels of start and the latency alone (`Accepted`), so it can be said without
the array.  The main result (`echoes_after`) ties everything that the array shows to the
accepted starts, and says that the others might as well not have been there.
-/

namespace AccessController.EchoArray

/-! ## Accepted starts -/

/-- Start is high in a step and was not in the step before. -/
def Rises (levels : Nat → Bool) : Nat → Prop
  | 0 => levels 0 = true
  | step + 1 => levels step = false ∧ levels (step + 1) = true

/-- A start that rises is accepted unless it comes within the latency of an accepted one. -/
def Accepted (latency : Nat) (levels : Nat → Bool) (step : Nat) : Prop :=
  Rises levels step ∧
    ∀ earlier < step, Accepted latency levels earlier → earlier + latency < step

theorem accepted_iff {latency : Nat} {levels : Nat → Bool} {step : Nat} :
    Accepted latency levels step ↔
      Rises levels step ∧
        ∀ earlier < step, Accepted latency levels earlier → earlier + latency < step := by
  rw [Accepted]

/-! ## What a tick makes of a start -/

section

variable (array : EchoArray) (start : Bool) (inputs : ArrayInputs)

/-- A level of start begins a run. -/
def accepts : Bool := start && !array.state.previousStart && array.state.countdown.isNone

/-- The array with another level to compare the next start with. -/
def seeing (level : Bool) : EchoArray := { array with state.previousStart := level }

/-- A tick with the clock edge behind it. -/
def cycled : EchoArray := (array.tick start inputs).1.commit

@[simp] theorem accepts_of_low : array.accepts false = false := rfl

theorem begun_eq :
    array.begun start inputs =
      if array.accepts start then some ⟨array.latency, inputs.elements⟩ else array.underway := rfl

theorem accepts_eq_true_iff :
    array.accepts start = true ↔
      start = true ∧ array.state.previousStart = false ∧ array.underway = none := by
  simp [accepts, underway, and_assoc]

theorem lowerReady_seeing (level : Bool) :
    (array.seeing level).lowerReady = array.lowerReady.seeing level := by
  cases high : array.state.readyHigh <;> simp [lowerReady, seeing, high]

theorem accepts_lowerReady : array.lowerReady.accepts start = array.accepts start := by
  rw [lowerReady]
  split <;> rfl

theorem sampleStart_eq :
    array.sampleStart start inputs =
      if array.accepts start then
        { array with
          state.previousStart := start
          state.captured := inputs.elements
          state.lastConfig := inputs.configurations?
          state.countdown := some array.latency }
      else array.seeing start := rfl

theorem countDown_seeing (level : Bool) :
    (array.seeing level).countDown =
      (array.countDown.1.seeing level, array.countDown.2) := by
  simp only [countDown, seeing]
  cases countdown : array.state.countdown with
  | none => simp [countdown]
  | some ticks => cases ticks <;> rfl

variable {array start inputs}

theorem sampleStart_seeing {level other : Bool} {others : ArrayInputs}
    (agree : (array.seeing level).accepts other = array.accepts start)
    (lines : array.accepts start = true → others = inputs) :
    (array.seeing level).sampleStart other others =
      (array.sampleStart start inputs).seeing other := by
  rw [sampleStart_eq, sampleStart_eq, agree]
  split
  next begins =>
    rw [lines begins]
    rfl
  next => rfl

/-- Two ticks that agree on whether a run begins, and on its lines if one does, differ in
nothing but the level that they sample. -/
theorem tick_seeing {level other : Bool} {others : ArrayInputs}
    (agree : (array.seeing level).accepts other = array.accepts start)
    (lines : array.accepts start = true → others = inputs) :
    (array.seeing level).tick other others =
      ((array.tick start inputs).1.seeing other, (array.tick start inputs).2) := by
  have lowered : ({ array.seeing level with cycle := array.cycle + 1 } : EchoArray).lowerReady =
      ({ array with cycle := array.cycle + 1 } : EchoArray).lowerReady.seeing level :=
    lowerReady_seeing { array with cycle := array.cycle + 1 } level
  rw [tick, tick, ← countDown_seeing, ← sampleStart_seeing _ _, ← lowered]
  · rfl
  · rw [← lowered, accepts_lowerReady, accepts_lowerReady]
    exact agree
  · rw [accepts_lowerReady]
    exact lines

/-- A start that is not accepted might as well not have been there. -/
theorem tick_of_dropped (dropped : array.accepts start = false) (others : ArrayInputs) :
    array.tick start inputs =
      ((array.tick false others).1.seeing start, (array.tick false others).2) := by
  have agree : (array.seeing array.state.previousStart).accepts start = array.accepts false := by
    rw [accepts_of_low]
    exact dropped
  exact tick_seeing agree (by simp)

variable (array start inputs)

/-- Runs are counted as they hand over their results. -/
theorem runs_tick :
    (array.tick start inputs).1.state.runs =
      array.state.runs + if (array.tick start inputs).2.isSome then 1 else 0 := by
  have counted (other : EchoArray) :
      other.countDown.1.state.runs =
        other.state.runs + if other.countDown.2.isSome then 1 else 0 := by
    rw [countDown]
    split <;> rfl
  rw [tick, counted]
  congr 1
  simp only [sampleStart, lowerReady]
  split <;> split <;> rfl

theorem lastConfig_tick :
    (array.tick start inputs).1.state.lastConfig =
      if array.accepts start then inputs.configurations? else array.state.lastConfig := by
  have counted (other : EchoArray) :
      other.countDown.1.state.lastConfig = other.state.lastConfig := by
    rw [countDown]
    split <;> rfl
  have sampled (other : EchoArray) :
      (other.sampleStart start inputs).state.lastConfig =
        if other.accepts start then inputs.configurations? else other.state.lastConfig := by
    rw [sampleStart_eq]
    split <;> rfl
  have lowered (other : EchoArray) :
      other.lowerReady.state.lastConfig = other.state.lastConfig := by
    rw [lowerReady]
    split <;> rfl
  rw [tick, counted, sampled, accepts_lowerReady, lowered]
  rfl

end

/-! ## What the array remembers of a trace -/

theorem Run.next?_eq_some_iff {run left : Run} :
    run.next? = some left ↔ run = ⟨left.ticks + 1, left.results⟩ := by
  obtain ⟨_ | ticks, results⟩ := run
  · simp [Run.next?]
  · obtain ⟨_, _⟩ := left
    simp [Run.next?]

theorem Run.due?_eq_some_iff {run : Run} {results : List UInt64} :
    run.due? = some results ↔ run = ⟨0, results⟩ := by
  obtain ⟨_ | ticks, others⟩ := run <;> simp [Run.due?]

section

variable (latency : Nat) (levels : Nat → Bool) (inputs : Nat → ArrayInputs)

/-- The array behind some steps of a trace of starts and lines. -/
def after (array : EchoArray) : (steps : Nat) → EchoArray
  | 0 => array
  | step + 1 => (after array step).cycled (levels step) (inputs step)

/-- The results of a step of a trace. -/
def resultsAt (array : EchoArray) (step : Nat) : Option (List UInt64) :=
  ((array.after levels inputs step).tick (levels step) (inputs step)).2

/-- A run is that of an accepted start, at some step behind it. -/
def Begets (accepted step : Nat) (run : Run) : Prop :=
  Accepted latency levels accepted ∧ accepted + latency = step + run.ticks ∧
    run.results = (inputs accepted).elements

/-- What an array remembers of the steps behind it. -/
structure Tracks (step : Nat) (array : EchoArray) : Prop where
  latency_eq : array.latency = latency
  previousStart : Rises levels step ↔ levels step = true ∧ array.state.previousStart = false
  underway : ∀ run, array.underway = some run ↔
    ∃ accepted < step, Begets latency levels inputs accepted step run
  steady : array.Steady

variable {latency levels inputs} {array : EchoArray} {step : Nat}

namespace Tracks

variable (tracks : Tracks latency levels inputs step array)

include tracks

theorem underway_eq_none_iff :
    array.underway = none ↔
      ∀ earlier < step, Accepted latency levels earlier → earlier + latency < step := by
  rw [Option.eq_none_iff_forall_ne_some]
  constructor
  · intro idle earlier past accepted
    refine Nat.lt_of_not_le fun within => ?_
    obtain ⟨left, ticks⟩ := Nat.exists_eq_add_of_le within
    exact idle ⟨left, _⟩ ((tracks.underway _).2 ⟨earlier, past, accepted, ticks, rfl⟩)
  · intro ended run busy
    obtain ⟨earlier, past, accepted, ticks, -⟩ := (tracks.underway run).1 busy
    have elapsed := ended earlier past accepted
    omega

theorem accepts_iff : array.accepts (levels step) = true ↔ Accepted latency levels step := by
  rw [accepts_eq_true_iff, accepted_iff, tracks.previousStart, tracks.underway_eq_none_iff,
    and_assoc]

theorem begun_iff (run : Run) :
    array.begun (levels step) (inputs step) = some run ↔
      ∃ accepted ≤ step, Begets latency levels inputs accepted step run := by
  rw [begun_eq]
  split
  next begins =>
    have accepted := tracks.accepts_iff.1 begins
    constructor
    · intro same
      obtain rfl := Option.some.inj same
      exact ⟨step, Nat.le_refl step, accepted, congrArg _ tracks.latency_eq.symm, rfl⟩
    · rintro ⟨earlier, past, begets⟩
      obtain ⟨one, ticks, results⟩ := begets
      rcases Nat.lt_or_eq_of_le past with before | rfl
      · have elapsed := (accepted_iff.1 accepted).2 earlier before one
        omega
      · obtain ⟨left, values⟩ := run
        have whole : array.latency = left := tracks.latency_eq.trans (Nat.add_left_cancel ticks)
        rw [whole, ← results]
  next continues =>
    rw [tracks.underway]
    constructor
    · rintro ⟨accepted, before, begets⟩
      exact ⟨accepted, Nat.le_of_lt before, begets⟩
    · rintro ⟨accepted, past, begets⟩
      rcases Nat.lt_or_eq_of_le past with before | rfl
      · exact ⟨accepted, before, begets⟩
      · exact absurd (tracks.accepts_iff.2 begets.1) continues

theorem results_iff (results : List UInt64) :
    (array.tick (levels step) (inputs step)).2 = some results ↔
      ∃ accepted, Accepted latency levels accepted ∧ step = accepted + latency ∧
        results = (inputs accepted).elements := by
  rw [results_tick, Option.bind_eq_some_iff]
  simp only [Run.due?_eq_some_iff, exists_eq_right, tracks.begun_iff, Begets]
  constructor
  · rintro ⟨accepted, -, one, ticks, values⟩
    exact ⟨accepted, one, ticks.symm, values⟩
  · rintro ⟨accepted, one, ticks, values⟩
    exact ⟨accepted, Nat.le.intro ticks.symm, one, ticks.symm, values⟩

theorem cycled :
    Tracks latency levels inputs (step + 1) (array.cycled (levels step) (inputs step)) where
  latency_eq := (latency_tick array _ _).trans tracks.latency_eq
  previousStart := by
    have sampled : (array.cycled (levels step) (inputs step)).state.previousStart = levels step :=
      previousStart_tick array _ _
    rw [sampled, Rises, and_comm]
  underway run := by
    have next : (array.cycled (levels step) (inputs step)).underway =
        (array.begun (levels step) (inputs step)).bind Run.next? := underway_tick array _ _
    rw [next, Option.bind_eq_some_iff]
    simp only [Run.next?_eq_some_iff, exists_eq_right, tracks.begun_iff, Begets, Nat.lt_succ_iff]
    simp only [Nat.add_right_comm, Nat.add_assoc]
  steady := (tracks.steady.tick _ _).1

end Tracks

variable (latency levels inputs)

theorem tracks_after (step : Nat) :
    Tracks latency levels inputs step (after levels inputs { latency } step) := by
  induction step with
  | zero =>
    constructor
    case latency_eq => rfl
    case previousStart => simp [Rises, after]
    case underway => simp [after, EchoArray.underway]
    case steady => rfl
  | succ step ih => exact ih.cycled

end

/-! ## What the array shows -/

section

variable (array : EchoArray) (levels : Nat → Bool) (inputs : Nat → ArrayInputs)

/-- What an array does over a trace is a matter of the accepted starts. -/
structure Echoes : Prop where
  /-- Results come the latency behind an accepted start, and are the values given with it. -/
  results : ∀ step results, array.resultsAt levels inputs step = some results ↔
    ∃ accepted, Accepted array.latency levels accepted ∧ step = accepted + array.latency ∧
      results = (inputs accepted).elements
  ready : ∀ step, (array.after levels inputs (step + 1)).ready.level =
    (array.resultsAt levels inputs step).isSome
  runs : ∀ steps, (array.after levels inputs steps).state.runs =
    Nat.count (fun step => (array.resultsAt levels inputs step).isSome = true) steps
  /-- The configurations are those given with the latest accepted start. -/
  lastConfig : ∀ steps, ∀ accepted < steps, Accepted array.latency levels accepted →
    (∀ later, accepted < later → later < steps → ¬Accepted array.latency levels later) →
      (array.after levels inputs steps).state.lastConfig = (inputs accepted).configurations?
  unconfigured : ∀ steps, (∀ step < steps, ¬Accepted array.latency levels step) →
    (array.after levels inputs steps).state.lastConfig = none
  /-- A step without an accepted start differs from one with start low in the level that is
  remembered and in nothing else, whatever the lines are. -/
  dropped : ∀ step, ¬Accepted array.latency levels step → ∀ others,
    (array.after levels inputs step).tick (levels step) (inputs step) =
      let quiet := (array.after levels inputs step).tick false others
      (quiet.1.seeing (levels step), quiet.2)
  /-- Traces with the same accepted starts and the same lines there are told apart by the
  remembered level at most. -/
  same : ∀ (others : Nat → Bool) (lines : Nat → ArrayInputs),
    (∀ step, Accepted array.latency others step ↔ Accepted array.latency levels step) →
    (∀ step, Accepted array.latency levels step → lines step = inputs step) →
    ∀ step, array.resultsAt others lines step = array.resultsAt levels inputs step ∧
      ∃ level, array.after others lines step = (array.after levels inputs step).seeing level

end

section

variable {latency : Nat} {levels : Nat → Bool} {inputs : Nat → ArrayInputs}

theorem runs_after (steps : Nat) :
    (after levels inputs { latency } steps).state.runs =
      Nat.count (fun step => (resultsAt levels inputs { latency } step).isSome = true) steps := by
  induction steps with
  | zero => rfl
  | succ step ih =>
    have counted : (after levels inputs { latency } (step + 1)).state.runs = _ :=
      runs_tick (after levels inputs { latency } step) (levels step) (inputs step)
    rw [counted, ih, Nat.count_succ]
    rfl

theorem lastConfig_after {first steps : Nat} (past : first ≤ steps)
    (none : ∀ step, first ≤ step → step < steps → ¬Accepted latency levels step) :
    (after levels inputs { latency } steps).state.lastConfig =
      (after levels inputs { latency } first).state.lastConfig := by
  induction past with
  | refl => rfl
  | @step steps past ih =>
    have unaccepted := none steps past (Nat.lt_succ_self steps)
    have next : (after levels inputs { latency } (steps + 1)).state.lastConfig = _ :=
      lastConfig_tick (after levels inputs { latency } steps) (levels steps) (inputs steps)
    rw [next, if_neg (mt (tracks_after latency levels inputs steps).accepts_iff.1 unaccepted)]
    exact ih fun step behind before => none step behind (Nat.lt_succ_of_lt before)

theorem lastConfig_after_accepted {accepted : Nat} (one : Accepted latency levels accepted) :
    (after levels inputs { latency } (accepted + 1)).state.lastConfig =
      (inputs accepted).configurations? := by
  have next : (after levels inputs { latency } (accepted + 1)).state.lastConfig = _ :=
    lastConfig_tick (after levels inputs { latency } accepted) (levels accepted) (inputs accepted)
  rw [next, if_pos ((tracks_after latency levels inputs accepted).accepts_iff.2 one)]

section

variable {others : Nat → Bool} {lines : Nat → ArrayInputs}
  (starts : ∀ step, Accepted latency others step ↔ Accepted latency levels step)
  (given : ∀ step, Accepted latency levels step → lines step = inputs step)

include starts given

/-- One step keeps two such traces together. -/
theorem tick_same {step : Nat} {level : Bool}
    (apart : after others lines { latency } step =
      (after levels inputs { latency } step).seeing level) :
    (after others lines { latency } step).tick (others step) (lines step) =
      let ticked := (after levels inputs { latency } step).tick (levels step) (inputs step)
      (ticked.1.seeing (others step), ticked.2) := by
  have one := (tracks_after latency levels inputs step).accepts_iff
  have other := (tracks_after latency others lines step).accepts_iff
  rw [apart] at other ⊢
  exact tick_seeing (Bool.eq_iff_iff.2 (other.trans ((starts step).trans one.symm)))
    fun accepts => given step (one.1 accepts)

theorem exists_seeing_after (step : Nat) :
    ∃ level, after others lines { latency } step =
      (after levels inputs { latency } step).seeing level := by
  induction step with
  | zero => exact ⟨false, rfl⟩
  | succ step ih =>
    obtain ⟨level, apart⟩ := ih
    refine ⟨others step, ?_⟩
    rw [after, cycled, tick_same starts given apart]
    rfl

end

/-- Whatever the latency is and whatever comes on the wires from power-up on, the array echoes
the values of the accepted starts, and no other start has an effect. -/
theorem echoes_after (latency : Nat) (levels : Nat → Bool) (inputs : Nat → ArrayInputs) :
    Echoes { latency } levels inputs := by
  have tracks := tracks_after latency levels inputs
  constructor
  case results => exact fun step results => (tracks step).results_iff results
  case ready =>
    intro step
    obtain ⟨steady, high⟩ := (tracks step).steady.tick (levels step) (inputs step)
    exact steady.trans high
  case runs => exact runs_after
  case lastConfig =>
    intro steps accepted before one latest
    rw [lastConfig_after before latest, lastConfig_after_accepted one]
  case unconfigured =>
    intro steps none
    exact lastConfig_after (Nat.zero_le steps) fun step _ before => none step before
  case dropped =>
    intro step unaccepted others
    exact tick_of_dropped (Bool.eq_false_iff.2 (mt (tracks step).accepts_iff.1 unaccepted)) others
  case same =>
    intro others lines starts given step
    obtain ⟨level, apart⟩ := exists_seeing_after starts given step
    refine ⟨?_, level, apart⟩
    rw [resultsAt, tick_same starts given apart]
    rfl

end

end AccessController.EchoArray
