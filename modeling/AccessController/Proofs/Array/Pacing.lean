import AccessController.Proofs.Array.Tick

/-!
# Ready pulses keep apart

The array lowers ready before it raises it, so a controller that compares ready with
the tick before would miss a pulse that follows another one at once.  There is no such
pulse (`Paced.results_eq_none`): a run of some ticks cannot end in the tick it begins,
and without latency each run takes a rising start of its own.
-/

namespace AccessController.EchoArray

/-- Ready is high only right behind a run, and without latency only right behind a
start. -/
structure Paced (array : EchoArray) : Prop where
  ready : array.ready = .rest array.state.readyHigh
  ended : array.state.readyHigh = true → array.underway = none
  instant : array.latency = 0 → array.underway = none
  pulsed : array.latency = 0 → array.state.readyHigh = true → array.state.previousStart = true

variable {array : EchoArray} (start : Bool) (inputs : ArrayInputs)

theorem begun_of_rest (rest : array.underway = none) {run : Run}
    (begun : array.begun start inputs = some run) :
    run.ticks = array.latency ∧ start = true ∧ array.state.previousStart = false := by
  rw [EchoArray.begun, rest] at begun
  split at begun
  next rises =>
    obtain rfl := Option.some.inj begun
    simp only [Bool.and_eq_true, Bool.not_eq_true'] at rises
    exact ⟨rfl, rises.1.1, rises.1.2⟩
  next => cases begun

theorem due?_eq_some {run : Run} {results : List UInt64} (due : run.due? = some results) :
    run.ticks = 0 := by
  obtain ⟨_ | _, _⟩ := run
  · rfl
  · cases due

theorem next?_of_ended {run : Run} (ended : run.ticks = 0) : run.next? = none := by
  obtain ⟨_, _⟩ := run
  obtain rfl := ended
  rfl

theorem isSome_begun_of_underway (busy : array.underway.isSome) :
    (array.begun start inputs).isSome := by
  rw [EchoArray.begun]
  split
  · rfl
  · exact busy

/-- Behind a rising start there is a run, be it a new one or not. -/
theorem isSome_begun_of_rising (fallen : array.state.previousStart = false) :
    (array.begun true inputs).isSome := by
  rw [EchoArray.begun, fallen]
  cases countdown : array.state.countdown with
  | none => rfl
  | some ticks => simp [underway, countdown]

namespace Paced

variable (paced : array.Paced)

include paced

theorem results_eq_none (high : array.state.readyHigh = true) :
    (array.tick start inputs).2 = none := by
  rw [results_tick]
  cases begun : array.begun start inputs with
  | none => rfl
  | some run =>
    obtain ⟨ticks, -, fallen⟩ := begun_of_rest start inputs (paced.ended high) begun
    rw [Option.bind_some, Option.eq_none_iff_forall_not_mem]
    intro results due
    have instant : array.latency = 0 := ticks.symm.trans (due?_eq_some due)
    exact absurd ((paced.pulsed instant high).symm.trans fallen) nofun

theorem steady : array.Steady := by
  rw [Steady, paced.ready]
  rfl

theorem readyHigh_tick :
    (array.tick start inputs).1.state.readyHigh = (array.tick start inputs).2.isSome :=
  (paced.steady.tick start inputs).2

/-- A run goes on or raises ready. -/
theorem pending_tick (busy : (array.begun start inputs).isSome) :
    (array.tick start inputs).1.underway.isSome ∨
      (array.tick start inputs).1.state.readyHigh = true := by
  rw [paced.readyHigh_tick, underway_tick, results_tick]
  obtain ⟨⟨_ | ticks, results⟩, begun⟩ := Option.isSome_iff_exists.1 busy
  · rw [begun]
    exact .inr rfl
  · rw [begun]
    exact .inl rfl

/-- A tick and the clock edge behind it keep the pulses apart. -/
theorem tick : (array.tick start inputs).1.commit.Paced := by
  obtain ⟨next, high⟩ := paced.steady.tick start inputs
  -- ready is raised by a run that is at its end
  have due (raised : (array.tick start inputs).1.state.readyHigh = true) :
      ∃ run, array.begun start inputs = some run ∧ run.ticks = 0 := by
    rw [high, results_tick] at raised
    cases begun : array.begun start inputs with
    | none => simp [begun] at raised
    | some run =>
      rw [begun, Option.bind_some] at raised
      obtain ⟨results, due⟩ := Option.isSome_iff_exists.1 raised
      exact ⟨run, rfl, due?_eq_some due⟩
  have latency : (array.tick start inputs).1.commit.latency = array.latency := latency_tick ..
  have underway : (array.tick start inputs).1.commit.underway =
      (array.begun start inputs).bind Run.next? := underway_tick ..
  constructor
  case ready => exact congrArg Wire.rest next
  case ended =>
    intro raised
    obtain ⟨run, begun, ended⟩ := due raised
    rw [underway, begun, Option.bind_some, next?_of_ended ended]
  case instant =>
    intro instant
    rw [latency] at instant
    rw [underway]
    cases begun : array.begun start inputs with
    | none => rfl
    | some run =>
      obtain ⟨ticks, -⟩ := begun_of_rest start inputs (paced.instant instant) begun
      exact next?_of_ended (ticks.trans instant)
  case pulsed =>
    intro instant raised
    rw [latency] at instant
    obtain ⟨run, begun, -⟩ := due raised
    obtain ⟨-, rfl, -⟩ := begun_of_rest start inputs (paced.instant instant) begun
    exact previousStart_tick ..

end Paced

end AccessController.EchoArray
