import AccessController.Proofs.Controller.Running
import AccessController.Proofs.Machine.Build
import AccessController.Proofs.Machine.Tick

/-!
# Controller and engine stay synchronized

Between two requests the engine is idle, and both sides have counted the same
requests.  A request is first on the wires (`Asked`) and then under way
(`Served`), until the controller sees ready fall; no other edge of ready ever
reaches it.  `Synchronized` says that a machine is in one of these situations, and
every event keeps it there, as long as nothing interferes with a wait for the
engine (`Synchronized.apply`).
-/

namespace AccessController

namespace Machine

/-- What can happen to a machine: ticks, levels of its pins, resets and writes of
the host to shared memory. -/
inductive Event where
  | tick
  | run (level : Bool)
  | pause (level : Bool)
  | resetPin (level : Bool)
  | reset
  | write (memory : Memory)
  deriving DecidableEq

def apply (machine : Machine) : Event → Machine
  | .tick => machine.tick
  | .run level => machine.setRun level
  | .pause level => machine.setPause level
  | .resetPin level => machine.setReset level
  | .reset => machine.reset
  | .write memory => machine.withMemory memory

/-- The machine after some events. -/
def play (machine : Machine) (events : List Event) : Machine := events.foldl apply machine

/-- The next tick samples a rising run or a falling reset. -/
def Interrupts (machine : Machine) : Prop :=
  let before := machine.controller.state.sampled
  before.run = false ∧ machine.pins.run.level = true ∨
    before.reset = true ∧ machine.pins.reset.level = false

instance : DecidablePred Interrupts := fun _ => inferInstanceAs (Decidable (_ ∨ _))

/-- No tick that begins with the controller waiting for the engine interrupts
it. -/
def Undisturbed : Machine → List Event → Prop
  | _, [] => True
  | machine, event :: rest =>
    (event = .tick → machine.controller.state.activity = .waiting .engine →
      ¬machine.Interrupts) ∧
      (machine.apply event).Undisturbed rest

instance decidableUndisturbed :
    (machine : Machine) → (events : List Event) → Decidable (machine.Undisturbed events)
  | _, [] => .isTrue trivial
  | machine, event :: rest =>
    let := decidableUndisturbed (machine.apply event) rest
    inferInstanceAs (Decidable (_ ∧ _))

/-- No request is under way. -/
structure AtRest (machine : Machine) : Prop where
  free : machine.controller.Free
  idle : machine.datapath.Idle
  start : machine.controller.outputs.engineStart = .rest false
  startHigh : machine.controller.state.engineStartHigh = false
  unready : machine.controller.state.sampled.engineReady = false
  requests : machine.datapath.engine.state.stats.requests =
    machine.controller.state.stats.engineRequests

/-- A request is on the wires and the engine has not taken it in. -/
structure Asked (machine : Machine) : Prop where
  waiting : machine.controller.state.activity = .waiting .engine
  idle : machine.datapath.Idle
  start : machine.controller.outputs.engineStart = .rest true
  startHigh : machine.controller.state.engineStartHigh = true
  unready : machine.controller.state.sampled.engineReady = false
  requests : machine.datapath.engine.state.stats.requests + 1 =
    machine.controller.state.stats.engineRequests

/-- The engine serves a request. Once the controller has sampled its ready, the
request is over. -/
structure Served (machine : Machine) : Prop where
  waiting : machine.controller.state.activity = .waiting .engine
  handshake : machine.datapath.Handshake
  start : machine.controller.outputs.engineStart = .rest false
  startHigh : machine.controller.state.engineStartHigh = false
  ended : machine.controller.state.sampled.engineReady = true → machine.datapath.Idle
  requests : machine.datapath.engine.state.stats.requests =
    machine.controller.state.stats.engineRequests

/-- Controller and engine agree on the request under way. -/
structure Synchronized (machine : Machine) : Prop where
  ignoredEdges : machine.controller.state.stats.ignoredEdges = 0
  situation : machine.AtRest ∨ machine.Asked ∨ machine.Served

variable {machine : Machine}

theorem Synchronized.handshake (synchronized : machine.Synchronized) :
    machine.datapath.Handshake := by
  rcases synchronized.situation with rest | asked | served
  · exact rest.idle.toHandshake
  · exact asked.idle.toHandshake
  · exact served.handshake

theorem Synchronized.reset (synchronized : machine.Synchronized) : machine.reset.Synchronized := by
  refine ⟨rfl, .inl ?_⟩
  exact {
    free := ⟨nofun, nofun, nofun⟩
    idle := synchronized.handshake.reset
    start := rfl
    startHigh := rfl
    unready := rfl
    requests := rfl }

theorem idle_tick_of_low (idle : machine.datapath.Idle)
    (start : machine.controller.outputs.engineStart = .rest false) : machine.tick.datapath.Idle := by
  rw [datapath_tick]
  exact (idle.deliver machine.arrayTick.2).tick (congrArg Wire.level start)

theorem requests_tick_of_low (start : machine.controller.outputs.engineStart = .rest false)
    (requests : machine.datapath.engine.state.stats.requests =
      machine.controller.state.stats.engineRequests) :
    machine.tick.datapath.engine.state.stats.requests =
      (machine.controller.attend machine.controlPins).state.stats.engineRequests := by
  rw [datapath_tick, Datapath.requests_tick_of_low (congrArg Wire.level start), engine_delivered,
    (machine.controller.attended_attend machine.controlPins).engineRequests]
  exact requests

section Acting

variable (idle : machine.datapath.Idle)
  (acts : machine.controller.tick machine.controlPins =
    (machine.controller.attend machine.controlPins).act machine.controlPins.run)
  (start : machine.controller.outputs.engineStart = .rest false)
  (requests : machine.datapath.engine.state.stats.requests =
    machine.controller.state.stats.engineRequests)

include idle acts start requests

/-- A controller that asks for something when it acts waits for it from then on. -/
theorem asked_of_requests (asks : (machine.controller.attend machine.controlPins).Requests) :
    machine.tick.Asked := by
  have attended := machine.controller.attended_attend machine.controlPins
  have counted := requests_tick_of_low start requests
  have controller := machine.controller_tick
  obtain ⟨running, operation, stage⟩ := asks
  rw [acts, Controller.act, running] at controller
  dsimp only at controller
  rw [Controller.step, stage] at controller
  exact {
    waiting := by rw [controller]; rfl
    idle := idle_tick_of_low idle start
    start := by rw [controller]; rfl
    startHigh := by rw [controller]; rfl
    unready := by
      rw [controller]
      exact (congrArg ControlPins.engineReady attended.sampled).trans idle.readyWire_low
    requests := by rw [controller, counted]; rfl }

/-- One that does not has no request under way. -/
theorem atRest_of_unasked (free : (machine.controller.attend machine.controlPins).Free)
    (startHigh : machine.controller.state.engineStartHigh = false)
    (unasked : ¬(machine.controller.attend machine.controlPins).Requests) :
    machine.tick.AtRest := by
  have attended := machine.controller.attended_attend machine.controlPins
  have counted := requests_tick_of_low start requests
  have controller := machine.controller_tick
  rw [acts] at controller
  have alone := free.act machine.controlPins.run unasked
  exact {
    free := by
      rw [controller]
      exact alone.free.move rfl alone.free.stage
    idle := idle_tick_of_low idle start
    start := by
      rw [controller]
      change Wire.commit (ControlOutputs.engineStart (Controller.outputs _)) = _
      rw [alone.engineStart, attended.outputs]
      simp [Controller.sample, Controller.dropPulses, start, startHigh, Wire.driveIf, Wire.commit]
    startHigh := by
      rw [controller]
      exact alone.engineStartHigh.trans attended.engineStartHigh
    unready := by
      rw [controller]
      exact (congrArg ControlPins.engineReady (alone.sampled.trans attended.sampled)).trans
        idle.readyWire_low
    requests := by
      rw [controller, counted]
      exact alone.engineRequests.symm }

/-- A controller that has no request under way when it acts either issues one or
has none afterwards. -/
theorem rest_or_asked (free : (machine.controller.attend machine.controlPins).Free)
    (startHigh : machine.controller.state.engineStartHigh = false) :
    machine.tick.AtRest ∨ machine.tick.Asked := by
  by_cases asks : (machine.controller.attend machine.controlPins).Requests
  · exact .inr (asked_of_requests idle acts start requests asks)
  · exact .inl (atRest_of_unasked idle acts start requests free startHigh asks)

end Acting

theorem AtRest.tick (rest : machine.AtRest) : machine.tick.AtRest ∨ machine.tick.Asked := by
  have same := engineReady_of_idle rest.idle rest.unready
  exact rest_or_asked rest.idle (Controller.tick_eq_act _ _ rest.free.working (.inl same))
    rest.start rest.requests (rest.free.attend same) rest.startHigh

/-- A controller that goes on waiting keeps its state, apart from what it knows of
the array. -/
theorem controller_tick_of_waiting (waiting : machine.controller.state.activity = .waiting .engine)
    (unended : ¬(machine.controller.state.sampled.engineReady = true ∧
      machine.controlPins.engineReady = false))
    (uninterrupted : ¬machine.Interrupts) :
    machine.tick.controller.state.activity = .waiting .engine ∧
      machine.tick.controller.outputs.engineStart =
        ((machine.controller.outputs.engineStart).driveIf
          machine.controller.state.engineStartHigh false).commit ∧
      machine.tick.controller.state.engineStartHigh = false ∧
      machine.tick.controller.state.sampled.engineReady = machine.controlPins.engineReady ∧
      machine.tick.controller.state.stats.engineRequests =
        machine.controller.state.stats.engineRequests := by
  have attended := machine.controller.attended_attend machine.controlPins
  have waits : (machine.controller.attend machine.controlPins).state.activity =
      .waiting .engine := by
    have attend := Controller.attend_of_unawaited (fun rises => uninterrupted (.inl rises))
      (fun falls => uninterrupted (.inr falls)) (by simp [waiting]) (.inr ⟨waiting, unended⟩)
    rw [attend, waiting, Activity.follow_waiting]
  have controller := machine.controller_tick
  rw [Controller.tick_eq_act _ _ (by simp [waiting]) (.inr waiting), Controller.act, waits]
    at controller
  rw [controller]
  refine ⟨waits, ?_, attended.engineStartHigh, ?_, attended.engineRequests⟩
  · exact congrArg (fun outputs => Wire.commit (ControlOutputs.engineStart outputs))
      attended.outputs
  · exact congrArg ControlPins.engineReady attended.sampled

theorem Asked.tick (asked : machine.Asked) (uninterrupted : ¬machine.Interrupts) :
    machine.tick.Served := by
  have ready : machine.controlPins.engineReady = false := asked.idle.readyWire_low
  have high : machine.datapathInputs.start = true := congrArg Wire.level asked.start
  obtain ⟨waiting, start, startHigh, sampled, requests⟩ :=
    controller_tick_of_waiting asked.waiting (by simp [asked.unready]) uninterrupted
  exact {
    waiting
    handshake := by
      rw [datapath_tick]
      exact (asked.idle.toHandshake.deliver _).tick _
    start := by
      rw [start, asked.start, asked.startHigh]
      rfl
    startHigh
    ended := fun seen => by simp [sampled, ready] at seen
    requests := by
      have counted := (asked.idle.deliver machine.arrayTick.2).requests_tick high
      rw [datapath_tick, requests, ← asked.requests, ← engine_delivered]
      exact counted }

theorem Served.tick_of_ended (served : machine.Served)
    (ended : machine.controller.state.sampled.engineReady = true ∧
      machine.controlPins.engineReady = false) : machine.tick.AtRest ∨ machine.tick.Asked :=
  rest_or_asked (served.ended ended.1)
    (Controller.tick_eq_act _ _ (by simp [served.waiting]) (.inr served.waiting)) served.start
    served.requests (Controller.attend_of_ended served.waiting ended.1 ended.2) served.startHigh

theorem Served.tick (served : machine.Served) (uninterrupted : ¬machine.Interrupts) :
    machine.tick.AtRest ∨ machine.tick.Asked ∨ machine.tick.Served := by
  have low : machine.datapathInputs.start = false := congrArg Wire.level served.start
  by_cases ended : machine.controller.state.sampled.engineReady = true ∧
      machine.controlPins.engineReady = false
  · rw [← or_assoc]
    exact .inl (served.tick_of_ended ended)
  · obtain ⟨waiting, start, startHigh, sampled, requests⟩ :=
      controller_tick_of_waiting served.waiting ended uninterrupted
    have handshake := served.handshake.deliver machine.arrayTick.2
    refine .inr (.inr ?_)
    exact {
      waiting
      handshake := by
        rw [datapath_tick]
        exact handshake.tick _
      start := by
        rw [start, served.start, served.startHigh]
        rfl
      startHigh
      ended := fun seen => by
        rw [sampled] at seen
        rw [datapath_tick]
        refine handshake.idle_tick low ?_
        rw [Datapath.engine_deliver, ← served.handshake.readyWire]
        exact seen
      requests := by
        rw [datapath_tick, Datapath.requests_tick_of_low low, engine_delivered, requests]
        exact served.requests }

/-- No edge of ready reaches a controller that does not wait for it. -/
theorem Synchronized.heeded (synchronized : machine.Synchronized) :
    machine.controller.state.activity ≠ .failed ∧
      (machine.controlPins.engineReady = machine.controller.state.sampled.engineReady ∨
        machine.controller.state.activity = .waiting .engine) := by
  rcases synchronized.situation with rest | asked | served
  · exact ⟨rest.free.working, .inl (engineReady_of_idle rest.idle rest.unready)⟩
  · exact ⟨by simp [asked.waiting], .inr asked.waiting⟩
  · exact ⟨by simp [served.waiting], .inr served.waiting⟩

/-- A tick keeps controller and engine synchronized unless it interrupts a
wait. -/
theorem Synchronized.tick (synchronized : machine.Synchronized)
    (uninterrupted : machine.controller.state.activity = .waiting .engine →
      ¬machine.Interrupts) :
    machine.tick.Synchronized := by
  have heeded := synchronized.heeded
  obtain ⟨ignoredEdges, situation⟩ := synchronized
  constructor
  · rw [controller_tick, Controller.tick_eq_act _ _ heeded.1 heeded.2, Controller.state_commit,
      Controller.ignoredEdges_act, Controller.ignoredEdges_attend heeded.2, ignoredEdges]
  · rcases situation with rest | asked | served
    · rw [← or_assoc]
      exact .inl rest.tick
    · exact .inr (.inr (asked.tick (uninterrupted asked.waiting)))
    · exact served.tick (uninterrupted served.waiting)

theorem Synchronized.outside (synchronized : machine.Synchronized) {other : Machine}
    (controller : other.controller = machine.controller)
    (datapath : ∃ memory, other.datapath = machine.datapath.withMemory memory) :
    other.Synchronized := by
  obtain ⟨memory, datapath⟩ := datapath
  obtain ⟨ignoredEdges, situation⟩ := synchronized
  refine ⟨by rw [controller, ignoredEdges], ?_⟩
  rcases situation with rest | asked | served
  · refine .inl ?_
    constructor <;> simp only [controller, datapath]
    · exact rest.free
    · exact rest.idle.withMemory memory
    · exact rest.start
    · exact rest.startHigh
    · exact rest.unready
    · exact rest.requests
  · refine .inr (.inl ?_)
    constructor <;> simp only [controller, datapath]
    · exact asked.waiting
    · exact asked.idle.withMemory memory
    · exact asked.start
    · exact asked.startHigh
    · exact asked.unready
    · exact asked.requests
  · refine .inr (.inr ?_)
    constructor <;> simp only [controller, datapath]
    · exact served.waiting
    · exact served.handshake.withMemory memory
    · exact served.start
    · exact served.startHigh
    · exact fun seen => (served.ended seen).withMemory memory
    · exact served.requests

theorem Synchronized.apply (synchronized : machine.Synchronized) (event : Event)
    (uninterrupted : event = .tick → machine.controller.state.activity = .waiting .engine →
      ¬machine.Interrupts) :
    (machine.apply event).Synchronized := by
  cases event with
  | tick => exact synchronized.tick (uninterrupted rfl)
  | reset => exact synchronized.reset
  | run level => exact synchronized.outside rfl ⟨machine.memory, rfl⟩
  | pause level => exact synchronized.outside rfl ⟨machine.memory, rfl⟩
  | resetPin level => exact synchronized.outside rfl ⟨machine.memory, rfl⟩
  | write memory => exact synchronized.outside rfl ⟨memory, rfl⟩

theorem Synchronized.play (synchronized : machine.Synchronized) {events : List Event}
    (undisturbed : machine.Undisturbed events) : (machine.play events).Synchronized := by
  induction events generalizing machine with
  | nil => exact synchronized
  | cons event rest ih =>
    exact ih (synchronized.apply event undisturbed.1) undisturbed.2

theorem synchronized_new (program : Program) (features : FeatureTable) (memory : Memory)
    (array : EchoArray) : (new { program } { features, memory } array).Synchronized where
  ignoredEdges := rfl
  situation := .inl {
    free := ⟨nofun, nofun, nofun⟩
    idle := Datapath.idle_new features memory
    start := rfl
    startHigh := rfl
    unready := rfl
    requests := rfl }

/-- Whatever happens to a machine after power-up, as long as run does not rise and
reset does not fall in a wait for the engine, the controller never fails and
ignores no edge. Whenever it does not wait for the engine, the engine is idle, all
wires between the two are low, and every request was taken in and answered. -/
theorem synchronized_of_undisturbed {settings : Settings} {program : Program}
    (built : build? settings program = .ok machine) (memory : Memory) {events : List Event}
    (undisturbed : (machine.withMemory memory).Undisturbed events) :
    let reached := (machine.withMemory memory).play events
    reached.controller.state.activity ≠ .failed ∧
      reached.controller.state.stats.ignoredEdges = 0 ∧
      (reached.controller.state.activity ≠ .waiting .engine →
        reached.datapath.engine.state.phase = .await ∧
          reached.datapath.engine.state.ready = false ∧
          reached.datapath.engine.outputs.ready.level = false ∧
          reached.controller.outputs.engineStart.level = false ∧
          (∀ kind, (reached.datapath.engine.outputs.writeEnable.get kind).level = false ∧
            (reached.datapath.caches.get kind).outputs.ack.level = false) ∧
          reached.datapath.engine.state.stats.requests =
            reached.controller.state.stats.engineRequests) := by
  intro reached
  obtain ⟨features, old, rfl⟩ := eq_new_of_build? built
  have synchronized : reached.Synchronized :=
    ((synchronized_new program features old _).apply (.write memory) nofun).play undisturbed
  obtain ⟨ignoredEdges, situation⟩ := synchronized
  rcases situation with rest | asked | served
  · refine ⟨rest.free.working, ignoredEdges, fun _ => ?_⟩
    have idle := rest.idle
    refine ⟨idle.phase, idle.ready_low, idle.readyWire_low,
      congrArg Wire.level rest.start, fun kind => ?_, rest.requests⟩
    have enable := idle.writeEnable kind
    have ack := idle.ack kind
    rw [idle.phase] at enable ack
    exact ⟨congrArg Wire.level enable, (idle.ackWire kind).trans ack⟩
  · exact ⟨by simp [asked.waiting], ignoredEdges, fun free => absurd asked.waiting free⟩
  · exact ⟨by simp [served.waiting], ignoredEdges, fun free => absurd served.waiting free⟩

/-- A pause and a reset in the middle of a load disturb nothing. -/
theorem synchronized_of_pausedLoad :
    let events : List Event :=
      .run true :: List.replicate 5 .tick ++ [.pause true, .tick, .tick, .reset, .tick]
    ∃ machine, build? { engine := { memorySize := 64 } } (.singleLoad 2 5) = .ok machine ∧
      (machine.withMemory (.zeros 16)).Undisturbed events ∧
      ((machine.withMemory (.zeros 16)).play events).controller.state.activity ≠ .failed ∧
      ((machine.withMemory (.zeros 16)).play events).controller.state.stats.ignoredEdges = 0 := by
  intro events
  obtain ⟨machine, built, undisturbed⟩ :
      ∃ machine, build? { engine := { memorySize := 64 } } (.singleLoad 2 5) = .ok machine ∧
        (machine.withMemory (.zeros 16)).Undisturbed events :=
    ⟨_, rfl, by decide +kernel⟩
  obtain ⟨working, ignoredEdges, -⟩ := synchronized_of_undisturbed built (.zeros 16) undisturbed
  exact ⟨machine, built, undisturbed, working, ignoredEdges⟩

end Machine

end AccessController
