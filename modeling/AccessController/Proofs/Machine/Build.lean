import AccessController.Machine.Build

/-!
# Building a machine

A machine that can be built is one after power-up, with the program and the
latency that it was built for.  Running it on files is a run of its own, and the
files only get to see the report.
-/

namespace AccessController

namespace Program

/-- A load of one element of data into the first line. -/
def singleLoad (place address : Nat) : Program :=
  ⟨[(Instruction.ofFields 1 0 place address).toWord]⟩

/-- A line of data is loaded, put through the array and stored behind where it came from. -/
def echo : Program :=
  ⟨[Instruction.ofFields 2 0 0 0, .ofFields 10 0 0 0, .ofFields 7 0 0 0, .ofFields 8 0 0 0,
    .ofFields 11 0 0 0, .ofFields 4 1 0 16, .ofFields 9 0 0 0].map Instruction.toWord⟩

end Program

namespace Machine

variable {machine : Machine}

/-- Building succeeds with a machine after power-up that holds the program. -/
theorem eq_new_of_build? {settings : Settings} {program : Program}
    (built : build? settings program = .ok machine) :
    ∃ features memory,
      machine = new { program } { features, memory } { latency := settings.array.latency } := by
  obtain ⟨run, ⟨memorySize, granularity, features⟩, ⟨capacity⟩, ⟨latency⟩⟩ := settings
  simp only [build?, Engine.build?, Controller.build?] at built
  cases table : FeatureTable.ofList? features granularity with
  | error fault =>
    rw [table] at built
    cases built
  | ok features =>
    cases size : Memory.ofSize? memorySize with
    | error fault =>
      simp only [*] at built
      cases built
    | ok _ =>
      simp only [*] at built
      split at built
      · cases built
        exact ⟨_, _, rfl⟩
      · cases built

/-- A run that ends is a success, unless the settings ask for a report and it cannot
be written. -/
theorem simulate_of_run {m : Type → Type} [Monad m] (files : FileAccess m)
    (settings : RunSettings) {finished : Machine} {report : Report}
    (ends : machine.run settings.timeout = (finished, .ok report)) :
    simulate files settings machine =
      match settings.report with
      | none => pure (finished, .ok report)
      | some path => do
        let written ← files.write path (textBytes report.render)
        return (finished, (written.mapError (.report path)).map fun _ => report) := by
  rw [simulate, ends]
  cases settings.report with
  | none => rfl
  | some path =>
    dsimp only
    congr 1
    funext written
    cases written <;> rfl

end Machine

end AccessController
