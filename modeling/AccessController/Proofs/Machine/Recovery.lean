import AccessController.Proofs.Machine.Replying

/-!
# Recovery by the reset pin

When the reset pin is released the controller stops at the first instruction,
wherever it is.  The engine does not see the pin, so a request that it has taken in
goes on, and the edges of its ready reach a controller that has forgotten about it:
the first of them is fatal.  The main result says that this is the only thing that
can go wrong: the controller fails later on exactly if the reset cuts a wait for the
engine short (`CutShort`).
-/

namespace AccessController

namespace Machine

/-- The next tick cuts a wait for the engine short that it would not end. -/
def CutShort (machine : Machine) : Prop :=
  machine.controller.state.activity = .waiting .engine ∧
    ¬(machine.controller.state.sampled.engineReady = true ∧
      machine.controlPins.engineReady = false)

instance : DecidablePred CutShort := fun _ => inferInstanceAs (Decidable (_ ∧ _))

variable {machine : Machine}

theorem pins_tick : machine.tick.pins = machine.pins.commit := by
  rw [tick_eq]

/-- A controller that waits for the engine has heard of it what there is to hear. -/
structure Attentive (machine : Machine) : Prop extends Orderly machine where
  replying : machine.controller.state.activity = .waiting .engine →
    machine.controller.state.engineStartHigh = false → machine.Replying

namespace Attentive

theorem setPins (attentive : machine.Attentive) (pins : ExternalPins) :
    { machine with pins }.Attentive where
  toOrderly := attentive.toOrderly.outside rfl ⟨machine.memory, rfl⟩
  replying waiting low := by
    obtain ⟨streaming, ready⟩ := attentive.replying waiting low
    exact ⟨streaming, ready⟩

/-- In a wait that ready does not end the engine goes on with its reply, whatever else
happens to the controller. -/
theorem replying_tick (attentive : machine.Attentive)
    (waiting : machine.controller.state.activity = .waiting .engine)
    (unended : ¬(machine.controller.state.sampled.engineReady = true ∧
      machine.controlPins.engineReady = false))
    (selectIn : machine.tick.datapathInputs.selectIn = machine.datapathInputs.selectIn) :
    machine.tick.Replying := by
  rcases attentive.synchronized.situation with rest | asked | served
  · exact absurd waiting rest.free.unasked
  · exact asked.replying_tick selectIn
  · exact ((attentive.replying waiting served.startHigh).tick (attentive.quiet waiting)
      (congrArg Wire.level served.start) unended selectIn).1

theorem tick (attentive : machine.Attentive)
    (uninterrupted : machine.controller.state.activity = .waiting .engine →
      ¬machine.Interrupts) :
    machine.tick.Attentive where
  toOrderly := attentive.toOrderly.tick uninterrupted
  replying waits low := by
    by_cases waiting : machine.controller.state.activity = .waiting .engine
    · have selectIn : machine.tick.datapathInputs.selectIn = machine.datapathInputs.selectIn := by
        rw [attentive.inputs_of_waits waiting (uninterrupted waiting) waits]
      obtain ⟨unended, -⟩ := controller_of_waits waiting (uninterrupted waiting) waits
      exact attentive.replying_tick waiting unended selectIn
    · obtain ⟨asked, -⟩ := attentive.issues waiting waits
      exact Bool.noConfusion (low.symm.trans asked.startHigh)

end Attentive

/-- Run is held from power-up on, and the reset pin has not fallen. -/
structure Driven (machine : Machine) : Prop extends Attentive machine where
  pins : machine.pins.commit = machine.pins
  run : machine.pins.run.level = true
  started : machine.controller.state.sampled.run = true ∨
    machine.controller.state.activity = .stopped
  reset : machine.pins.reset.level = false → machine.controller.state.sampled.reset = false

namespace Driven

theorem uninterrupted (driven : machine.Driven)
    (waiting : machine.controller.state.activity = .waiting .engine) : ¬machine.Interrupts := by
  rintro (⟨low, -⟩ | ⟨high, falls⟩)
  · rcases driven.started with run | stopped
    · exact Bool.noConfusion (low.symm.trans run)
    · exact Activity.noConfusion (stopped.symm.trans waiting)
  · exact Bool.noConfusion ((driven.reset falls).symm.trans high)

theorem tick (driven : machine.Driven) : machine.tick.Driven ∧ machine.tick.pins = machine.pins := by
  have pins : machine.tick.pins = machine.pins := pins_tick.trans driven.pins
  refine ⟨?_, pins⟩
  exact {
    toAttentive := driven.toAttentive.tick driven.uninterrupted
    pins := by rw [pins, driven.pins]
    run := by rw [pins, driven.run]
    started := .inl <| by
      rw [sampled_tick]
      exact driven.run
    reset := by
      rw [pins, sampled_tick]
      exact id }

theorem play (driven : machine.Driven) (count : Nat) :
    (machine.play (.replicate count .tick)).Driven ∧
      (machine.play (.replicate count .tick)).pins = machine.pins := by
  induction count generalizing machine with
  | zero => exact ⟨driven, rfl⟩
  | succ count ih =>
    obtain ⟨next, pins⟩ := driven.tick
    obtain ⟨later, stays⟩ := ih next
    exact ⟨later, stays.trans pins⟩

theorem press (driven : machine.Driven) : (machine.setReset true).Driven where
  toAttentive := driven.toAttentive.setPins _
  pins := congrArg (fun pins => { pins with reset := .rest true }) driven.pins
  run := driven.run
  started := driven.started
  reset := Bool.noConfusion

end Driven

/-! ## The release -/

/-- The reset pin has been high, and it is low now like run. -/
structure Releasing (machine : Machine) : Prop extends Attentive machine where
  run : machine.pins.run = .rest false
  reset : machine.pins.reset = .rest false
  pressed : machine.controller.state.sampled.reset = true

theorem Driven.release (driven : machine.Driven)
    (pressed : machine.controller.state.sampled.reset = true) :
    ((machine.setReset false).setRun false).Releasing where
  toAttentive := (driven.toAttentive.setPins _).setPins _
  run := rfl
  reset := rfl
  pressed := pressed

/-- The controller stands still at the first instruction. -/
structure Rewound (machine : Machine) : Prop where
  activity : machine.controller.state.activity = .stopped
  stage : machine.controller.state.stage = .idle
  pointer : machine.controller.state.pointer = 0

/-- The controller stands still, run and the reset pin are low, and the latter has been
seen to fall. -/
structure Lowered (machine : Machine) : Prop where
  stopped : machine.controller.state.activity = .stopped
  run : machine.pins.run = .rest false
  reset : machine.pins.reset = .rest false
  sampled : machine.controller.state.sampled.reset = false

theorem Lowered.unstarted (lowered : machine.Lowered) :
    ¬(machine.controller.state.sampled.run = false ∧ machine.controlPins.run = true) := by
  rintro ⟨-, high⟩
  rw [controlPins, lowered.run] at high
  exact Bool.noConfusion high

theorem Lowered.unreset (lowered : machine.Lowered) :
    ¬(machine.controller.state.sampled.reset = true ∧ machine.controlPins.reset = false) := by
  simp [lowered.sampled]

theorem lowered_of_stopped (run : machine.pins.run = .rest false)
    (reset : machine.pins.reset = .rest false)
    (stopped : machine.tick.controller.state.activity = .stopped) : machine.tick.Lowered where
  stopped
  run := by
    rw [pins_tick]
    exact congrArg Wire.commit run
  reset := by
    rw [pins_tick]
    exact congrArg Wire.commit reset
  sampled := by
    rw [sampled_tick]
    exact congrArg Wire.level reset

/-- As long as the engine is silent the controller stands still. -/
theorem Lowered.tick (lowered : machine.Lowered)
    (same : machine.controlPins.engineReady = machine.controller.state.sampled.engineReady) :
    machine.tick.Lowered ∧
      (machine.controller.tick machine.controlPins).outputs =
        (machine.controller.sample machine.controlPins).outputs := by
  have tick := Controller.tick_of_stopped lowered.stopped same lowered.unstarted lowered.unreset
  refine ⟨lowered_of_stopped lowered.run lowered.reset ?_, ?_⟩
  · rw [controller_tick, tick]
    exact lowered.stopped
  · rw [tick]

/-! ## Machines that recover -/

/-- Nothing is under way that a controller at a standstill might hear of. -/
structure Recovered (machine : Machine) : Prop extends Lowered machine where
  rest : machine.AtRest

theorem Recovered.tick (recovered : machine.Recovered) : machine.tick.Recovered := by
  have rest := recovered.rest
  obtain ⟨lowered, -⟩ := recovered.toLowered.tick (engineReady_of_idle rest.idle rest.unready)
  refine ⟨lowered, ?_⟩
  rcases rest.tick with rest | asked
  · exact rest
  · exact absurd (lowered.stopped.symm.trans asked.waiting) Activity.noConfusion

theorem Recovered.play (recovered : machine.Recovered) (count : Nat) :
    (machine.play (.replicate count .tick)).Recovered := by
  induction count generalizing machine with
  | zero => exact recovered
  | succ count ih => exact ih recovered.tick

/-! ## Machines that do not -/

/-- The engine is still on its way to an answer that no one waits for. -/
structure Stranded (machine : Machine) : Prop extends Lowered machine where
  committed : machine.controller.outputs.commit = machine.controller.outputs
  start : machine.datapathInputs.start = false
  quiet : machine.datapath.Quiet machine.datapathInputs.selectOut
  replying : machine.Replying

/-- The first edge of ready is fatal, and every tick brings it nearer. -/
theorem Stranded.tick (stranded : machine.Stranded) :
    machine.tick.controller.state.activity = .failed ∨
      machine.tick.Stranded ∧ machine.tick.datapath.ticksLeft < machine.datapath.ticksLeft := by
  by_cases same : machine.controlPins.engineReady = machine.controller.state.sampled.engineReady
  · right
    obtain ⟨lowered, outputs⟩ := stranded.toLowered.tick same
    have inputs := datapathInputs_of_sample stranded.committed outputs
    obtain ⟨replying, nearer⟩ := stranded.replying.tick stranded.quiet stranded.start
      (by simp [same]) (by rw [inputs])
    refine ⟨⟨lowered, committed_tick, ?_, ?_, replying⟩, nearer⟩
    · rw [inputs, stranded.start]
      rfl
    · rw [inputs, datapath_tick]
      exact (stranded.quiet.deliver machine.arrayTick.2).tick
        (stranded.replying.streaming.toHandshake.deliver machine.arrayTick.2)
  · left
    rw [controller_tick]
    exact Controller.failed_of_edge (by simp [stranded.stopped]) same

/-- So the controller fails, at the latest when the answer has no tick left. -/
theorem Stranded.fails {machine : Machine} (stranded : machine.Stranded) :
    ∃ count, (machine.play (.replicate count .tick)).controller.state.activity = .failed := by
  rcases stranded.tick with failed | ⟨next, nearer⟩
  · exact ⟨1, failed⟩
  · obtain ⟨count, failed⟩ := next.fails
    exact ⟨count + 1, failed⟩
termination_by machine.datapath.ticksLeft

namespace Releasing

variable (releasing : machine.Releasing)

include releasing

theorem controller_eq :
    machine.controller.tick machine.controlPins =
      { machine.controller.sample machine.controlPins with
        state.activity := .stopped
        state.stage := .idle
        state.arrayDone := false
        state.pointer := 0 } := by
  obtain ⟨working, heeded⟩ := releasing.synchronized.heeded
  have run : machine.controlPins.run = false := congrArg Wire.level releasing.run
  exact Controller.tick_of_released working heeded (by simp [run]) releasing.pressed
    (congrArg Wire.level releasing.reset)

theorem rewound_tick : machine.tick.Rewound := by
  constructor <;> rw [controller_tick, releasing.controller_eq] <;> rfl

theorem lowered_tick : machine.tick.Lowered :=
  lowered_of_stopped releasing.run releasing.reset releasing.rewound_tick.activity

/-- A reset that cuts no wait for the engine short leaves none of its edges behind. -/
theorem recovered_tick (whole : ¬machine.CutShort) : machine.tick.Recovered := by
  have lowered := releasing.lowered_tick
  refine ⟨lowered, ?_⟩
  have unasked : ¬machine.tick.Asked := fun asked =>
    absurd (lowered.stopped.symm.trans asked.waiting) Activity.noConfusion
  rcases releasing.synchronized.situation with rest | asked | served
  · exact rest.tick.resolve_right unasked
  · exact absurd ⟨asked.waiting, by simp [asked.unready]⟩ whole
  · -- an answer that ends in this very tick is heard before the release
    by_cases ended : machine.controller.state.sampled.engineReady = true ∧
        machine.controlPins.engineReady = false
    · exact (served.tick_of_ended ended).resolve_right unasked
    · exact absurd ⟨served.waiting, ended⟩ whole

/-- Behind a wait that is cut short the engine goes on. -/
theorem stranded_tick (cut : machine.CutShort) : machine.tick.Stranded := by
  obtain ⟨waiting, unended⟩ := cut
  have inputs := datapathInputs_of_sample releasing.committed (by rw [releasing.controller_eq])
  have selectIn : machine.tick.datapathInputs.selectIn = machine.datapathInputs.selectIn := by
    rw [inputs]
  have quiet : machine.tick.datapath.Quiet machine.tick.datapathInputs.selectOut := by
    rw [inputs, datapath_tick]
    exact ((releasing.quiet waiting).deliver machine.arrayTick.2).tick
      (releasing.synchronized.handshake.deliver machine.arrayTick.2)
  have start : machine.tick.datapathInputs.start = false := by
    rcases releasing.synchronized.situation with rest | asked | served
    · exact absurd waiting rest.free.unasked
    · rw [inputs, asked.startHigh]
      exact Bool.and_false _
    · rw [inputs, served.startHigh]
      exact congrArg (fun start : Wire Bool => start.level && true) served.start
  exact {
    toLowered := releasing.lowered_tick
    committed := committed_tick
    start
    quiet
    replying := releasing.toAttentive.replying_tick waiting unended selectIn }

/-- A controller that has been reset fails later on exactly if a wait for the engine was
cut short. -/
theorem working_iff :
    (∀ count, (machine.tick.play (.replicate count .tick)).controller.state.activity ≠ .failed) ↔
      ¬machine.CutShort := by
  constructor
  · intro working cut
    obtain ⟨count, failed⟩ := (releasing.stranded_tick cut).fails
    exact working count failed
  · intro whole count
    have recovered := (releasing.recovered_tick whole).play count
    exact recovered.rest.free.working

end Releasing

/-! ## Resets in the course of a run -/

theorem attentive_new (program : Program) (features : FeatureTable) (memory : Memory)
    (array : EchoArray) : (new { program } { features, memory } array).Attentive where
  toOrderly := orderly_new program features memory array
  replying := nofun

/-- Run goes up with power, the reset pin after some ticks. It is held for at least one
tick, and run goes down with it. -/
def pressing (lead held : Nat) : List Event :=
  .run true :: .replicate lead .tick ++
    .resetPin true :: .replicate (held + 1) .tick ++ [.resetPin false, .run false]

theorem releasing_new (program : Program) (features : FeatureTable) (memory : Memory)
    (array : EchoArray) (lead held : Nat) :
    ((new { program } { features, memory } array).play (pressing lead held)).Releasing := by
  have driven : ((new { program } { features, memory } array).setRun true).Driven := {
    toAttentive := (attentive_new program features memory array).setPins _
    pins := rfl
    run := rfl
    started := .inr rfl
    reset := fun _ => rfl }
  have pressed := (driven.play lead).1.press
  obtain ⟨before, pins⟩ := pressed.play held
  have played : (new { program } { features, memory } array).play (pressing lead held) =
      (((((((new { program } { features, memory } array).setRun true).play
        (.replicate lead .tick)).setReset true).play (.replicate held .tick)).tick.setReset
          false).setRun false) := by
    simp only [pressing, play, List.foldl_append, List.foldl_cons, List.foldl_nil,
      List.replicate_succ', apply]
  rw [played]
  refine before.tick.1.release ?_
  rw [sampled_tick, controlPins, pins]
  rfl

/-- Whenever the reset pin is pulsed in a run, the controller stops at the first
instruction. It fails in a later tick if and only if the release has cut a wait for the
engine short. -/
theorem recovers_iff {settings : Settings} {program : Program}
    (built : build? settings program = .ok machine) (memory : Memory) (lead held : Nat) :
    let released := (machine.withMemory memory).play (pressing lead held)
    released.tick.Rewound ∧
      ((∀ count, (released.play (.replicate (count + 1) .tick)).controller.state.activity ≠
          .failed) ↔
        ¬released.CutShort) := by
  intro released
  obtain ⟨features, old, rfl⟩ := eq_new_of_build? built
  have releasing : released.Releasing := releasing_new program features memory _ lead held
  exact ⟨releasing.rewound_tick, releasing.working_iff⟩

/-- A reset released in the tick in which ready falls does no harm, and one six ticks
before it does. -/
theorem recovers_of_endedLoad :
    ∃ machine, build? { engine := { memorySize := 64 } } (.singleLoad 0 0) = .ok machine ∧
      let released (lead : Nat) := (machine.withMemory (.zeros 64)).play (pressing lead 0)
      (released 11).controller.state.activity = .waiting .engine ∧ (released 11).tick.Rewound ∧
        (∀ count, ((released 11).play (.replicate (count + 1) .tick)).controller.state.activity ≠
          .failed) ∧
        ¬∀ count, ((released 5).play (.replicate (count + 1) .tick)).controller.state.activity ≠
          .failed := by
  obtain ⟨machine, built, waiting, whole, cut⟩ :
      ∃ machine, build? { engine := { memorySize := 64 } } (.singleLoad 0 0) = .ok machine ∧
        let released (lead : Nat) := (machine.withMemory (.zeros 64)).play (pressing lead 0)
        (released 11).controller.state.activity = .waiting .engine ∧ ¬(released 11).CutShort ∧
          (released 5).CutShort :=
    ⟨_, rfl, by decide +kernel⟩
  obtain ⟨rewound, harmless⟩ := recovers_iff built (.zeros 64) 11 0
  obtain ⟨-, harmful⟩ := recovers_iff built (.zeros 64) 5 0
  exact ⟨machine, built, waiting, rewound, harmless.2 whole, fun working => harmful.1 working cut⟩

/-- The ready that answers a request from before a reset is fatal to a controller at a
standstill, so not every reset recovers. -/
theorem not_recovers_of_cutLoad :
    ¬∀ (settings : Settings) (program : Program) (machine : Machine) (memory : Memory)
        (lead held : Nat), build? settings program = .ok machine →
      ∀ count, (((machine.withMemory memory).play (pressing lead held)).play
        (.replicate (count + 1) .tick)).controller.state.activity ≠ .failed := by
  intro recovers
  obtain ⟨machine, built, failed⟩ :
      ∃ machine, build? { engine := { memorySize := 64 } } (.singleLoad 0 0) = .ok machine ∧
        (((machine.withMemory (.zeros 64)).play (pressing 5 0)).play
          (.replicate 6 .tick)).controller.state.activity = .failed :=
    ⟨_, rfl, by decide +kernel⟩
  exact recovers _ _ _ _ 5 0 built 5 failed

end Machine

end AccessController
