import AccessController.Proofs.Controller.Waiting
import AccessController.Proofs.Datapath.Accounting
import AccessController.Proofs.Machine.Synchronized

/-!
# The accounts of a machine

The controller asks the engine for nothing but its caches (`Names.tick`), so no
request is ever aborted.  With that the accounts of the datapath balance whatever the
program is and whatever happens to the pins (`Accounted.play`): a controller that is
restarted in the middle of a transfer meets a busy engine and moves the line selectors
under it, and every unit is still counted once on each side (`settled_of_await`).
-/

namespace AccessController

namespace Controller

variable (controller : Controller)

/-- The selector of a request names one of the caches. -/
def Names (controller : Controller) : Prop :=
  ∃ kind : CacheKind, controller.outputs.selector.next = kind.selector

variable {controller}

theorem Names.act (names : controller.Names) (run : Bool) : (controller.act run).Names := by
  rw [Controller.act]
  split <;> try exact names
  rw [Controller.step]
  split <;> try exact names
  next => rw [Controller.fetch]; split <;> exact names
  next => rw [Controller.dispatch]; split <;> exact names
  next operation _ => exact ⟨operation.kind, rfl⟩
  next => rw [Controller.waitReady]; split <;> exact names
  next => rw [Controller.finish]; split <;> exact names

theorem Names.of_outputs {other : Controller} (names : controller.Names)
    (same : other.outputs = controller.outputs) : other.Names := by
  rwa [Names, same]

theorem Names.tick (names : controller.Names) (pins : ControlPins) :
    (controller.tick pins).Names := by
  have sampled : (controller.sample pins).Names := names
  rcases controller.tick_cases pins with only | failed | acts
  · rwa [only]
  · rw [failed]
    exact sampled.of_outputs (attended_engineEdge ..).outputs
  · rw [acts]
    exact (sampled.of_outputs (controller.attended_attend pins).outputs).act pins.run

end Controller

namespace Machine

/-- The accounts of the datapath balance, and the next request is for one of its
caches. -/
structure Accounted (machine : Machine) : Prop where
  datapath : machine.datapath.Accounted
  names : machine.controller.Names
  selector : machine.controller.outputs.selector.level =
    machine.controller.outputs.selector.next

variable {machine : Machine}

theorem accounted_new (program : Program) (features : FeatureTable) (memory : Memory)
    (array : EchoArray) : (new { program } { features, memory } array).Accounted where
  datapath := Datapath.accounted_new features memory
  names := ⟨.dataIn, rfl⟩
  selector := rfl

theorem Accounted.tick (accounted : machine.Accounted) : machine.tick.Accounted where
  datapath := by
    obtain ⟨kind, named⟩ := accounted.names
    rw [datapath_tick, delivered]
    apply (accounted.datapath.deliver _).tick
    rw [datapathInputs, accounted.selector, named, CacheKind.ofSelector?_selector]
    exact Option.some_ne_none kind
  names := by
    rw [controller_tick]
    exact accounted.names.tick machine.controlPins
  selector := by
    rw [controller_tick]
    rfl

theorem Accounted.apply (accounted : machine.Accounted) {event : Event}
    (counts : event ≠ .reset) : (machine.apply event).Accounted := by
  cases event with
  | tick => exact accounted.tick
  | reset => exact absurd rfl counts
  | run level => exact ⟨accounted.datapath, accounted.names, accounted.selector⟩
  | pause level => exact ⟨accounted.datapath, accounted.names, accounted.selector⟩
  | resetPin level => exact ⟨accounted.datapath, accounted.names, accounted.selector⟩
  | write memory =>
    exact ⟨accounted.datapath.withMemory memory, accounted.names, accounted.selector⟩

theorem Accounted.play (accounted : machine.Accounted) {events : List Event}
    (counts : Event.reset ∉ events) : (machine.play events).Accounted := by
  induction events generalizing machine with
  | nil => exact accounted
  | cons event rest ih =>
    rw [List.mem_cons, not_or] at counts
    exact ih (accounted.apply (Ne.symm counts.1)) counts.2

/-- Whatever the program is and whatever happens to a machine after power-up, short of a
reset of all its counters: whenever the engine waits for a start, its counters and those
of the caches agree. -/
theorem settled_of_await {settings : Settings} {program : Program}
    (built : build? settings program = .ok machine) {events : List Event}
    (counts : Event.reset ∉ events)
    (await : (machine.play events).datapath.engine.state.phase = .await) :
    (machine.play events).datapath.Settled := by
  obtain ⟨features, memory, rfl⟩ := eq_new_of_build? built
  exact ((accounted_new program features memory _).play counts).datapath.settled await

/-- A reset pulse and a new start cut into a load of a whole line: the engine serves its
four units for one of the two requests. -/
theorem settled_of_restartedLoad :
    let load := (Instruction.ofFields 2 0 0 0).toWord
    let events : List Event :=
      .run true :: List.replicate 10 .tick ++
        [.resetPin true, .tick, .resetPin false, .run false, .tick, .run true] ++
        List.replicate 20 .tick
    ∃ machine, build? { engine := { memorySize := 64 } } ⟨[load]⟩ = .ok machine ∧
      Event.reset ∉ events ∧
      (machine.play events).datapath.engine.state.phase = .await ∧
      (machine.play events).datapath.engine.state.stats.transfers = 4 ∧
      (machine.play events).datapath.Settled := by
  intro load events
  obtain ⟨machine, built, counts, await, transfers⟩ :
      ∃ machine, build? { engine := { memorySize := 64 } } ⟨[load]⟩ = .ok machine ∧
        Event.reset ∉ events ∧
        (machine.play events).datapath.engine.state.phase = .await ∧
        (machine.play events).datapath.engine.state.stats.transfers = 4 :=
    ⟨_, rfl, by decide, by decide +kernel, by decide +kernel⟩
  exact ⟨machine, built, counts, await, transfers, settled_of_await built counts await⟩

end Machine

end AccessController
