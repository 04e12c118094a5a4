import AccessController.EchoArray

/-!
# What a tick of the array does

The array has one run under way at most.  A tick samples start, which may begin a
run, and then takes one tick off the run or hands over its results.
-/

namespace AccessController.EchoArray

/-- A run of the array: the ticks until its results are due, and the results. -/
structure Run where
  ticks : Nat
  results : List UInt64

namespace Run

/-- What a tick leaves of a run. -/
def next? : Run → Option Run
  | ⟨0, _⟩ => none
  | ⟨ticks + 1, results⟩ => some ⟨ticks, results⟩

/-- The results that a run hands over in a tick. -/
def due? : Run → Option (List UInt64)
  | ⟨0, results⟩ => some results
  | ⟨_ + 1, _⟩ => none

end Run

variable (array : EchoArray) (start : Bool) (inputs : ArrayInputs)

/-- The run under way. -/
def underway : Option Run := array.state.countdown.map (⟨·, array.state.captured⟩)

/-- The run under way once start has been sampled. -/
def begun : Option Run :=
  if start && !array.state.previousStart && array.state.countdown.isNone then
    some ⟨array.latency, inputs.elements⟩
  else array.underway

@[simp] theorem begun_of_low : array.begun false inputs = array.underway := rfl

/-- A start that rises on an idle array begins a run. -/
theorem begun_of_rising (fallen : array.state.previousStart = false)
    (idle : array.underway = none) :
    array.begun true inputs = some ⟨array.latency, inputs.elements⟩ := by
  have unstarted : array.state.countdown = none := by simpa [underway] using idle
  rw [begun, fallen, unstarted]
  rfl

theorem begun_lowerReady : array.lowerReady.begun start inputs = array.begun start inputs := by
  rw [lowerReady]
  split <;> rfl

theorem underway_sampleStart :
    (array.sampleStart start inputs).underway = array.begun start inputs := by
  simp only [sampleStart, begun]
  split <;> rfl

theorem underway_countDown : array.countDown.1.underway = array.underway.bind Run.next? := by
  simp only [countDown, underway]
  cases countdown : array.state.countdown with
  | none => simp [countdown]
  | some ticks => cases ticks <;> rfl

theorem results_countDown : array.countDown.2 = array.underway.bind Run.due? := by
  simp only [countDown, underway]
  cases array.state.countdown with
  | none => rfl
  | some ticks => cases ticks <;> rfl

theorem underway_tick :
    (array.tick start inputs).1.underway = (array.begun start inputs).bind Run.next? := by
  rw [tick, underway_countDown, underway_sampleStart, begun_lowerReady]
  rfl

theorem results_tick :
    (array.tick start inputs).2 = (array.begun start inputs).bind Run.due? := by
  rw [tick, results_countDown, underway_sampleStart, begun_lowerReady]
  rfl

theorem previousStart_tick : (array.tick start inputs).1.state.previousStart = start := by
  have counted (other : EchoArray) :
      other.countDown.1.state.previousStart = other.state.previousStart := by
    rw [countDown]
    split <;> rfl
  rw [tick, counted]
  simp only [sampleStart]
  split <;> rfl

@[simp] theorem latency_tick : (array.tick start inputs).1.latency = array.latency := by
  have counted (other : EchoArray) : other.countDown.1.latency = other.latency := by
    rw [countDown]
    split <;> rfl
  rw [tick, counted]
  simp only [sampleStart, lowerReady]
  split <;> split <;> rfl

/-- The ready wire agrees with what the array remembers of it. -/
def Steady : Prop := array.ready.next = array.state.readyHigh

variable {array}

theorem Steady.lowerReady (steady : array.Steady) :
    array.lowerReady.Steady ∧ array.lowerReady.state.readyHigh = false := by
  rw [EchoArray.lowerReady]
  split
  · exact ⟨rfl, rfl⟩
  next low => exact ⟨steady, Bool.eq_false_iff.2 low⟩

theorem Steady.sampleStart (steady : array.Steady) : (array.sampleStart start inputs).Steady := by
  simp only [EchoArray.sampleStart]
  split <;> exact steady

theorem readyHigh_sampleStart :
    (array.sampleStart start inputs).state.readyHigh = array.state.readyHigh := by
  simp only [EchoArray.sampleStart]
  split <;> rfl

/-- Ready is raised together with the results. -/
theorem Steady.countDown (steady : array.Steady) (low : array.state.readyHigh = false) :
    array.countDown.1.Steady ∧ array.countDown.1.state.readyHigh = array.countDown.2.isSome := by
  rw [EchoArray.countDown]
  split
  · exact ⟨steady, low⟩
  · exact ⟨steady, low⟩
  · exact ⟨rfl, rfl⟩

/-- Ready is high for one tick when there are results, and low otherwise. -/
theorem Steady.tick (steady : array.Steady) :
    (array.tick start inputs).1.Steady ∧
      (array.tick start inputs).1.state.readyHigh = (array.tick start inputs).2.isSome := by
  obtain ⟨lowered, low⟩ := (show Steady { array with cycle := array.cycle + 1 } from
    steady).lowerReady
  exact (lowered.sampleStart start inputs).countDown
    ((readyHigh_sampleStart start inputs).trans low)

end AccessController.EchoArray
