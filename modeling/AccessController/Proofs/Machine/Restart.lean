import AccessController.Proofs.Controller.Agreement
import AccessController.Proofs.Machine.History

/-!
# A reset is a fresh start

A reset leaves the request, the place and the units of a transfer on their wires,
and a fresh machine has zeros there.  Nothing reads these wires before they are
driven again, so the two machines agree (`Machine.Agrees`) on what they do and on
what can be observed of them, whatever happens to both (`observe_reset`).
-/

namespace AccessController

theorem EchoArray.tick_withCycle (array : EchoArray) (cycle : Nat) (start : Bool)
    (inputs : ArrayInputs) :
    ({ array with cycle }.tick start inputs) =
      ({ (array.tick start inputs).1 with cycle := cycle + 1 }, (array.tick start inputs).2) := by
  have lowers (other : EchoArray) (cycle : Nat) :
      { other with cycle }.lowerReady = { other.lowerReady with cycle } := by
    rw [lowerReady, lowerReady]
    split <;> rfl
  have samples (other : EchoArray) (cycle : Nat) :
      { other with cycle }.sampleStart start inputs =
        { other.sampleStart start inputs with cycle } := by
    rw [sampleStart, sampleStart]
    split <;> rfl
  have counts (other : EchoArray) (cycle : Nat) :
      { other with cycle }.countDown = ({ other.countDown.1 with cycle }, other.countDown.2) := by
    rw [countDown, countDown]
    dsimp only
    cases other.state.countdown with
    | none => rfl
    | some ticks => cases ticks <;> rfl
  have counted := counts ({ array with cycle := array.cycle + 1 }.lowerReady.sampleStart start
    inputs) (cycle + 1)
  rw [← samples, ← lowers] at counted
  exact counted

namespace Machine

/-- What is observed of a machine: the state of all its parts and the levels of the
wires between them, apart from counters and from the wires of requests and units. -/
structure Observation where
  control : ControlState
  finish : Bool
  engineStart : Bool
  arrayStart : Bool
  engine : Engine.State
  engineReady : Bool
  writeEnable : PerCache Bool
  acks : PerCache Bool
  contents : Contents
  array : EchoArray.State
  arrayReady : Bool

def observe (machine : Machine) : Observation where
  control := machine.controller.state
  finish := machine.finishLevel
  engineStart := machine.controller.outputs.engineStart.level
  arrayStart := machine.controller.outputs.arrayStart.level
  engine := machine.datapath.engine.state
  engineReady := machine.datapath.engine.outputs.ready.level
  writeEnable := machine.datapath.engine.outputs.writeEnable.map (·.level)
  acks := machine.datapath.caches.map (·.outputs.ack.level)
  contents := machine.datapath.contents
  array := machine.array.state
  arrayReady := machine.array.ready.level

/-- The parts of two machines agree, and no wire is between two levels. -/
structure Agrees (left right : Machine) : Prop where
  controller : left.controller.Agrees left.datapath.engine.state.phase.cache? right.controller
  leftCommitted : left.controller.outputs.commit = left.controller.outputs
  rightCommitted : right.controller.outputs.commit = right.controller.outputs
  datapath : left.datapath.Agrees right.datapath
  array : ∃ cycle, right.array = { left.array with cycle }
  pins : left.pins = right.pins

namespace Agrees

variable {left right : Machine} (agrees : left.Agrees right)

include agrees

theorem inputs :
    left.datapathInputs.Agrees left.datapath.engine.state.phase.cache? right.datapathInputs := by
  have inputs := agrees.controller.inputs
  rw [Controller.forthcomingInputs, Controller.forthcomingInputs, agrees.leftCommitted,
    agrees.rightCommitted] at inputs
  exact inputs

theorem controlPins : left.controlPins = right.controlPins := by
  obtain ⟨cycle, array⟩ := agrees.array
  rw [Machine.controlPins, Machine.controlPins, agrees.datapath.leftHandshake.readyWire,
    agrees.datapath.rightHandshake.readyWire, agrees.datapath.engine.state, agrees.pins, array]

theorem arrayInputs : left.arrayInputs = right.arrayInputs := by
  have line (kind : CacheKind) :
      (left.cache kind).currentLine = (right.cache kind).currentLine := by
    rw [Cache.currentLine, Cache.currentLine, cache, cache, agrees.datapath.line,
      agrees.datapath.outputLine]
  rw [Machine.arrayInputs, Machine.arrayInputs, line, line, line]

theorem arrayTick :
    right.arrayTick.2 = left.arrayTick.2 ∧
      ∃ cycle, right.arrayTick.1.commit = { left.arrayTick.1.commit with cycle } := by
  obtain ⟨cycle, array⟩ := agrees.array
  have tick : right.arrayTick =
      ({ left.arrayTick.1 with cycle := cycle + 1 }, left.arrayTick.2) := by
    rw [Machine.arrayTick, array, EchoArray.tick_withCycle, ← agrees.controller.arrayStart,
      ← agrees.arrayInputs]
    rfl
  rw [tick]
  exact ⟨rfl, cycle + 1, rfl⟩

theorem tick : left.tick.Agrees right.tick := by
  obtain ⟨results, array⟩ := agrees.arrayTick
  have inputs : left.datapathInputs.Agrees left.delivered.engine.state.phase.cache?
      right.datapathInputs := by
    rw [engine_delivered]
    exact agrees.inputs
  rw [tick_eq, tick_eq, delivered, delivered, results, ← agrees.controlPins]
  exact {
    controller := by
      have served : left.controller.Agrees
          (left.delivered.tick left.datapathInputs).engine.state.phase.cache?
          right.controller := by
        apply agrees.controller.serve
        intro kind next
        have named := Engine.cache?_tick next
        rw [engine_delivered] at named
        rw [Controller.forthcomingInputs, agrees.leftCommitted]
        exact named
      exact (served.tick left.controlPins).commit
    leftCommitted := rfl
    rightCommitted := rfl
    datapath := by
      have delivered := agrees.datapath.deliver left.arrayTick.2
      exact delivered.tick inputs
    array := array
    pins := congrArg ExternalPins.commit agrees.pins }

theorem observe : left.observe = right.observe := by
  obtain ⟨cycle, array⟩ := agrees.array
  have datapath := agrees.datapath
  have writeEnable : left.datapath.engine.outputs.writeEnable =
      right.datapath.engine.outputs.writeEnable := by
    apply PerCache.ext_get
    intro kind
    rw [datapath.leftHandshake.writeEnable, datapath.rightHandshake.writeEnable, datapath.phase]
  have acks : left.datapath.caches.map (·.outputs.ack.level) =
      right.datapath.caches.map (·.outputs.ack.level) := by
    apply PerCache.ext_get
    intro kind
    rw [PerCache.get_map, PerCache.get_map, datapath.leftHandshake.ackWire,
      datapath.rightHandshake.ackWire, datapath.ack]
  have start : left.controller.outputs.engineStart.level =
      right.controller.outputs.engineStart.level := agrees.inputs.start
  rw [Machine.observe, Machine.observe, finishLevel, finishLevel, writeEnable, acks, start, array,
    agrees.controller.state, agrees.controller.finish, agrees.controller.arrayStart,
    datapath.engine.state, datapath.contents, datapath.leftHandshake.readyWire,
    datapath.rightHandshake.readyWire, datapath.engine.state]

end Agrees

variable {program : Program} {features : FeatureTable} {latency : Nat}

theorem get_caches_reset (machine : Machine) (kind : CacheKind) :
    machine.reset.datapath.caches.get kind = ((machine.datapath.caches.get kind).reset).commit := by
  cases kind <;> rfl

section

variable {machine : Machine} (made : Made program features latency machine) (kind : CacheKind)

include made

theorem Made.lines_reset :
    (machine.reset.datapath.caches.get kind).lines = .blank (features.get kind) := by
  have shaped := made.shaped kind
  rw [made.features] at shaped
  rw [get_caches_reset]
  exact shaped.clear_eq

theorem Made.outputLine_reset :
    (machine.reset.datapath.caches.get kind).outputLine =
      (features.get kind).bootOutputLine := by
  rw [get_caches_reset, ← made.features, ← made.handshake.geometry]
  rfl

theorem Made.selectOut_reset :
    machine.reset.controller.outputs.selectOut.get kind =
      .rest (UInt8.ofNat (features.get kind).bootOutputLine) := by
  rw [← made.outputLine_reset kind]
  exact PerCache.get_map ..

end

theorem committed_reset (machine : Machine) :
    machine.reset.controller.outputs.commit = machine.reset.controller.outputs := rfl

/-- Resets of two machines that were made with the same agree, if memory and pins
do. -/
theorem Made.reset_agrees {left right : Machine} (ours : Made program features latency left)
    (theirs : Made program features latency right) (memory : left.memory = right.memory)
    (pins : left.pins = right.pins) : left.reset.Agrees right.reset where
  controller := by
    have selectOut : left.reset.controller.outputs.selectOut =
        right.reset.controller.outputs.selectOut := by
      apply PerCache.ext_get
      intro kind
      rw [ours.selectOut_reset, theirs.selectOut_reset]
    exact {
      program := ours.program.trans theirs.program.symm
      state := rfl
      arrayStart := rfl
      finish := rfl
      inputs := {
        start := rfl
        selectOut := congrArg (fun wires => (wires.map Wire.commit).map (·.level)) selectOut
        request := nofun
        line := nofun } }
  leftCommitted := left.committed_reset
  rightCommitted := right.committed_reset
  datapath := {
    leftHandshake := ours.handshake.reset.toHandshake
    rightHandshake := theirs.handshake.reset.toHandshake
    engine := {
      features := ours.features.trans theirs.features.symm
      memory := memory
      state := rfl
      place := nofun
      outbound := nofun }
    contents := by
      ext1
      · exact memory
      · apply PerCache.ext_get
        intro kind
        rw [Datapath.get_lines_contents, Datapath.get_lines_contents, ours.lines_reset,
          theirs.lines_reset]
      · apply PerCache.ext_get
        intro kind
        rw [Datapath.get_outputLine_contents, Datapath.get_outputLine_contents,
          ours.outputLine_reset, theirs.outputLine_reset]
    ack := by
      intro kind
      rw [get_caches_reset, get_caches_reset]
      rfl
    result := nofun }
  array := by
    have latency := theirs.latency.trans ours.latency.symm
    exact ⟨right.array.cycle,
      congrArg (fun latency => EchoArray.mk latency {} right.array.cycle (.rest false)) latency⟩
  pins := congrArg ExternalPins.commit pins

theorem Agrees.apply {left right : Machine} (agrees : left.Agrees right)
    (ours : Made program features latency left) (theirs : Made program features latency right)
    (event : Event) : (left.apply event).Agrees (right.apply event) := by
  cases event with
  | tick => exact agrees.tick
  | reset =>
    exact ours.reset_agrees theirs agrees.datapath.engine.memory agrees.pins
  | run level =>
    exact { agrees with
      pins := congrArg (fun pins => { pins with run := .rest level }) agrees.pins }
  | pause level =>
    exact { agrees with
      pins := congrArg (fun pins => { pins with pause := .rest level }) agrees.pins }
  | resetPin level =>
    exact { agrees with
      pins := congrArg (fun pins => { pins with reset := .rest level }) agrees.pins }
  | write memory => exact { agrees with datapath := agrees.datapath.withMemory memory }

/-- Whatever happens to two machines that agree, they agree again. -/
theorem Agrees.play {left right : Machine} (agrees : left.Agrees right)
    (ours : Made program features latency left) (theirs : Made program features latency right)
    (events : List Event) : (left.play events).Agrees (right.play events) := by
  induction events generalizing left right with
  | nil => exact agrees
  | cons event rest ih =>
    exact ih (agrees.apply ours theirs event) (ours.apply event) (theirs.apply event)

theorem reset_new_cache (geometry : Geometry) :
    ((Cache.new geometry).reset).commit = Cache.new geometry := by
  have lines : (Lines.blank geometry).clear = .blank geometry :=
    (Lines.shaped_blank geometry).clear_eq
  exact congrArg (fun lines => { Cache.new geometry with lines }) lines

/-- A machine after power-up is one that has just been reset. -/
theorem reset_new (program : Program) (features : FeatureTable) (memory : Memory) (latency : Nat)
    (pins : ExternalPins) (committed : pins.commit = pins) :
    reset { new { program } { features, memory } { latency } with pins } =
      { new { program } { features, memory } { latency } with pins } := by
  have caches : ((Datapath.new { features, memory }).caches.map Cache.reset).map Cache.commit =
      (Datapath.new { features, memory }).caches := by
    apply PerCache.ext_get
    intro kind
    rw [PerCache.get_map, PerCache.get_map, Datapath.new, PerCache.get_map, reset_new_cache]
  unfold reset commit alignSelectors new
  simp only [Datapath.reset, Datapath.commit, caches, committed]
  rfl

/-- After a reset a machine is, to all observation, one after power-up that has the
same memory and the same levels on its pins, whatever has been done to the one and
whatever happens to both. -/
theorem observe_reset {settings : Settings} {program : Program} {fresh : Machine}
    (built : build? settings program = .ok fresh) (history : List Operation) (later : List Event) :
    let reached := history.foldl perform fresh
    let restarted := fresh.play
      [.write reached.memory, .run reached.pins.run.level, .pause reached.pins.pause.level,
        .resetPin reached.pins.reset.level]
    (reached.reset.play later).observe = (restarted.play later).observe := by
  intro reached restarted
  obtain ⟨features, old, rfl⟩ := eq_new_of_build? built
  obtain ⟨events, played⟩ := exists_play_of_operations _ history
  have ours : Made program features settings.array.latency reached := by
    have made := (made_new program features old settings.array.latency).play events
    rwa [← played] at made
  have theirs : Made program features settings.array.latency restarted :=
    (made_new program features old settings.array.latency).play _
  have pins : reached.pins = restarted.pins := by
    change reached.pins =
      ⟨.rest reached.pins.run.level, .rest reached.pins.pause.level, .rest reached.pins.reset.level⟩
    rw [← ours.pins]
    rfl
  have same : restarted.reset = restarted :=
    reset_new program features reached.memory settings.array.latency restarted.pins theirs.pins
  have agrees : reached.reset.Agrees restarted.reset := ours.reset_agrees theirs rfl pins
  rw [same] at agrees
  exact (agrees.play ours.reset theirs later).observe

/-- A load that ran out of time leaves its unit on the wire, and a restarted machine
does the same with and without it. -/
theorem observe_reset_cutLoad :
    let history : List Operation := [.event (.write ⟨Array.replicate 16 7⟩), .simulate 10]
    let later : List Event := List.replicate 20 .tick
    ∃ fresh, build? { engine := { memorySize := 64 } } (.singleLoad 2 5) = .ok fresh ∧
      let reached := history.foldl perform fresh
      let restarted := fresh.play
        [.write reached.memory, .run reached.pins.run.level, .pause reached.pins.pause.level,
          .resetPin reached.pins.reset.level]
      reached.reset.datapath.engine.outputs.outbound.level = [7, 7, 7, 7] ∧
        restarted.datapath.engine.outputs.outbound.level = [] ∧
        (reached.reset.play later).observe = (restarted.play later).observe := by
  intro history later
  obtain ⟨fresh, built, stale, blank⟩ :
      ∃ fresh, build? { engine := { memorySize := 64 } } (.singleLoad 2 5) = .ok fresh ∧
        (history.foldl perform fresh).reset.datapath.engine.outputs.outbound.level =
          [7, 7, 7, 7] ∧
        fresh.datapath.engine.outputs.outbound.level = [] :=
    ⟨_, rfl, by decide +kernel, rfl⟩
  exact ⟨fresh, built, stale, blank, observe_reset built history later⟩

end Machine

end AccessController
