import AccessController.Machine.Build
import AccessController.Proofs.Machine.Underway

/-!
# Machines at the start of a run

A machine after power-up, and one that has rewound after a run, waits for run to
rise with nothing under way.  When run rises, its program has everything still to
do (`Parked.begins`), from the contents that are there if no output line is still to
follow its selector (`Dormant.begins`).
-/

namespace AccessController

namespace Machine

/-- A machine that waits for run to rise at the first instruction. -/
structure Parked (machine : Machine) : Prop where
  resting : machine.Resting
  unawaited : machine.controller.state.activity ≠ .waiting .array
  pointer : machine.controller.state.pointer = 0
  fault : machine.controller.state.fault = none
  pins : machine.pins = {}
  sampledRun : machine.controller.state.sampled.run = false
  sampledReset : machine.controller.state.sampled.reset = false
  committed : machine.controller.outputs.commit = machine.controller.outputs
  engineStart : machine.controller.outputs.engineStart = .rest false
  arrayStart : machine.controller.outputs.arrayStart = .rest false
  arrayStartHigh : machine.controller.state.arrayStartHigh = false
  finish : machine.controller.outputs.finish = .rest false
  ready : machine.array.ready = .rest machine.array.state.readyHigh
  settled : machine.owed = false

/-- The output lines of such a machine are those that the selectors ask for. -/
structure Dormant (machine : Machine) : Prop extends Parked machine where
  quiet : machine.datapath.Quiet machine.datapathInputs.selectOut

variable {machine : Machine}

theorem Dormant.withMemory (dormant : machine.Dormant) (memory : Memory) :
    (machine.withMemory memory).Dormant where
  resting := {
    free := dormant.resting.free
    idle := dormant.resting.idle.withMemory memory
    startHigh := dormant.resting.startHigh
    unready := dormant.resting.unready }
  unawaited := dormant.unawaited
  pointer := dormant.pointer
  fault := dormant.fault
  pins := dormant.pins
  sampledRun := dormant.sampledRun
  sampledReset := dormant.sampledReset
  committed := dormant.committed
  engineStart := dormant.engineStart
  arrayStart := dormant.arrayStart
  arrayStartHigh := dormant.arrayStartHigh
  finish := dormant.finish
  quiet := dormant.quiet
  ready := dormant.ready
  settled := dormant.settled

theorem bootOutputLine_lt (geometry : Geometry) : geometry.bootOutputLine < 256 := by
  rw [Geometry.bootOutputLine]
  omega

theorem dormant_new (program : Program) (features : FeatureTable) (memory : Memory)
    (latency : Nat) : (new { program } { features, memory } { latency }).Dormant where
  resting := {
    free := ⟨nofun, nofun, nofun⟩
    idle := Datapath.idle_new features memory
    startHigh := rfl
    unready := rfl }
  unawaited := nofun
  pointer := rfl
  fault := rfl
  pins := rfl
  sampledRun := rfl
  sampledReset := rfl
  committed := rfl
  engineStart := rfl
  arrayStart := rfl
  arrayStartHigh := rfl
  finish := rfl
  quiet kind := by
    refine .inl ?_
    have bound := bootOutputLine_lt (features.geometry.get kind)
    simp [new, datapathInputs, Datapath.new, Cache.new, UInt8.toNat_ofNat', Nat.mod_eq_of_lt bound]
  ready := rfl
  settled := rfl

/-- The run pin goes up with the pause pin at a level. -/
def raised (machine : Machine) (paused : Bool) : Machine := (machine.setRun true).setPause paused

namespace Parked

variable (parked : machine.Parked)

include parked

theorem raised_false : machine.raised false = machine.setRun true := by
  rw [raised, setPause, setRun, parked.pins]
  rfl

/-- Nothing but the program begins when run rises. -/
theorem controller_begins (paused : Bool) :
    (machine.raised paused).attended.controller =
      { machine.controller with
        cycle := machine.controller.cycle + 1
        state.sampled := (machine.raised paused).controlPins
        state.engineStartHigh := false
        state.arrayStartHigh := false
        state.activity := if paused then .paused else .running
        state.stage := .fetch } := by
  have idle := parked.resting.idle
  have same : (machine.raised paused).controlPins.engineReady =
      machine.controller.state.sampled.engineReady :=
    engineReady_of_idle idle parked.resting.unready
  obtain ⟨-, low, -⟩ := rests_of_settled parked.settled
  have unready : machine.controller.arrayRises (machine.raised paused).controlPins = false := by
    have level : (machine.raised paused).controlPins.arrayReady = false :=
      (congrArg Wire.level parked.ready).trans low
    rw [Controller.arrayRises, level]
    rfl
  have attend := Controller.attend_of_raised same unready parked.sampledReset parked.sampledRun
    (show (machine.raised paused).controlPins.run = true from rfl)
  have outputs : (machine.controller.sample (machine.raised paused).controlPins).outputs.commit =
      machine.controller.outputs := by
    rw [← parked.committed]
    simp only [Controller.sample, Controller.dropPulses, parked.resting.startHigh,
      parked.arrayStartHigh]
    rfl
  have controller : (machine.raised paused).attended.controller = Controller.commit _ :=
    congrArg Controller.commit attend
  rw [controller]
  dsimp only [Controller.commit]
  rw [outputs]
  rfl

theorem delivered_eq (paused : Bool) : (machine.raised paused).delivered = machine.datapath := by
  have begun : (machine.raised paused).begun = none := (rests_of_settled parked.settled).1
  rw [delivered, results_arrayTick, begun]
  rfl

theorem datapath_begins (paused : Bool) :
    (machine.raised paused).attended.datapath = machine.datapath.tick machine.datapathInputs :=
  congrArg (fun datapath : Datapath => datapath.tick machine.datapathInputs)
    (parked.delivered_eq paused)

theorem datapathInputs_begins (paused : Bool) :
    (machine.raised paused).attended.datapathInputs = machine.datapathInputs := by
  rw [datapathInputs_eq, parked.controller_begins paused]
  rfl

theorem begun_begins (paused : Bool) : (machine.raised paused).attended.begun = none := by
  have before : (machine.raised paused).begun = none := (rests_of_settled parked.settled).1
  have low : (machine.raised paused).attended.controller.outputs.arrayStart = .rest false := by
    rw [parked.controller_begins paused]
    exact parked.arrayStart
  rw [begun_attended low, before]
  rfl

theorem readyHigh_begins (paused : Bool) :
    (machine.raised paused).attended.array.state.readyHigh = false := by
  have before : (machine.raised paused).begun = none := (rests_of_settled parked.settled).1
  have readyHigh : (machine.raised paused).attended.array.state.readyHigh =
      (machine.raised paused).arrayTick.2.isSome := (array_attended parked.ready).2
  rw [readyHigh, results_arrayTick, before]
  rfl

theorem owed_begins (paused : Bool) : (machine.raised paused).attended.owed = false := by
  rw [owed, parked.begun_begins paused, parked.readyHigh_begins paused,
    parked.controller_begins paused]
  exact (rests_of_settled parked.settled).2.2

theorem resting_begins (paused : Bool) : (machine.raised paused).attended.Resting := by
  have controller := parked.controller_begins paused
  have idle := parked.resting.idle
  have start : machine.datapathInputs.start = false := congrArg Wire.level parked.engineStart
  constructor
  case free =>
    rw [controller]
    cases paused <;> exact ⟨Activity.noConfusion, Activity.noConfusion, Stage.noConfusion⟩
  case idle => rw [parked.datapath_begins paused]; exact idle.tick start
  case startHigh => rw [controller]
  case unready => rw [controller]; exact idle.readyWire_low

theorem underway_begins (paused : Bool) : (machine.raised paused).attended.Underway := by
  have controller := parked.controller_begins paused
  constructor
  case run => rfl
  case reset => change machine.pins.reset.commit = _; rw [parked.pins]; rfl
  case sampledRun => rw [controller]; rfl
  case sampledReset => rw [controller]; change machine.pins.reset.level = _; rw [parked.pins]; rfl
  case fault => rw [controller]; exact parked.fault
  case committed => rw [controller]; exact parked.committed
  case engineStart => rw [controller]; exact parked.engineStart
  case arrayStart => rw [controller]; exact parked.arrayStart
  case pulsed => rw [controller]; exact Bool.noConfusion
  case finish => rw [controller]; exact parked.finish
  case started => rw [controller]; cases paused <;> exact Activity.noConfusion
  case staged => rw [controller]; exact Stage.noConfusion
  case executes => rw [controller]; rintro _ ⟨⟩
  case awaits => rw [controller]; cases paused <;> exact Activity.noConfusion
  case situation => exact .inl (parked.resting_begins paused)
  case ready =>
    have ready : (machine.raised paused).attended.array.ready =
      .rest (machine.raised paused).attended.array.state.readyHigh := (array_attended parked.ready).1
    exact ready
  case busy => simp [parked.begun_begins paused]
  case raised => simp [parked.readyHigh_begins paused]
  case holds => simp [parked.begun_begins paused]

theorem poised_begins (paused : Bool) : (machine.raised paused).attended.Poised := by
  have controller := parked.controller_begins paused
  have quiet : (machine.datapath.tick machine.datapathInputs).Quiet
    machine.datapathInputs.selectOut := parked.resting.idle.quiet_tick
  constructor
  case toUnderway => exact parked.underway_begins paused
  case unasked => rw [controller]
  case unstarted => rw [controller]
  case quiet =>
    rw [parked.datapath_begins paused, parked.datapathInputs_begins paused]
    exact quiet
  case fallen =>
    intro high
    have level : (machine.raised paused).attended.array.state.previousStart = false :=
      (EchoArray.previousStart_tick ..).trans (congrArg Wire.level parked.arrayStart)
    exact Bool.noConfusion (level.symm.trans high)

/-- When run rises, all of the program is left to be done. -/
theorem begins (paused : Bool) :
    (machine.raised paused).attended.Poised ∧ (machine.raised paused).attended.Resting ∧
      (machine.raised paused).attended.controller.remaining =
        machine.controller.program.instructions ∧
      (machine.raised paused).attended.owed = false ∧
      (machine.raised paused).attended.ticksLeft =
        executionTicks machine.datapath.engine.features machine.array.latency
          machine.controller.program.instructions := by
  have controller := parked.controller_begins paused
  have remaining : (machine.raised paused).attended.controller.remaining =
      machine.controller.program.instructions := by
    rw [controller, Controller.remaining]
    dsimp only
    rw [parked.pointer, List.drop_zero]
  refine ⟨parked.poised_begins paused, parked.resting_begins paused, remaining,
    parked.owed_begins paused, ?_⟩
  have latency : (machine.raised paused).attended.array.latency = machine.array.latency :=
    EchoArray.latency_tick ..
  have fetch : (machine.raised paused).attended.controller.state.stage = .fetch := by
    rw [controller]
  rw [ticksLeft, stageTicks, fetch, remaining, latency, parked.datapath_begins paused,
    Datapath.features_tick, arrayTicks, parked.begun_begins paused, parked.readyHigh_begins paused]
  rfl

theorem controller_attended :
    (machine.setRun true).attended.controller =
      { machine.controller with
        cycle := machine.controller.cycle + 1
        state.sampled := (machine.setRun true).controlPins
        state.engineStartHigh := false
        state.arrayStartHigh := false
        state.activity := .running
        state.stage := .fetch } := by
  have controller := parked.controller_begins false
  rw [parked.raised_false] at controller
  exact controller

end Parked

namespace Dormant

variable (dormant : machine.Dormant)

include dormant

/-- The program goes on from the contents that are there. -/
theorem begins (paused : Bool) :
    (machine.raised paused).attended.Poised ∧
      (machine.raised paused).attended.controller.remaining =
        machine.controller.program.instructions ∧
      (machine.raised paused).attended.programState = ⟨machine.datapath.contents, none⟩ ∧
      (machine.raised paused).attended.owed = false ∧
      (machine.raised paused).attended.ticksLeft =
        executionTicks machine.datapath.engine.features machine.array.latency
          machine.controller.program.instructions := by
  obtain ⟨poised, resting, remaining, settled, ticks⟩ := dormant.toParked.begins paused
  refine ⟨poised, remaining, ?_, settled, ticks⟩
  have idle := dormant.resting.idle
  have contents : (machine.datapath.tick machine.datapathInputs).contents =
      machine.datapath.contents := by
    have tick : (machine.datapath.tick machine.datapathInputs).contents = _ := idle.contents_tick
    have settles := dormant.quiet.settle_outcome machine.datapathInputs.selectIn
    rw [idle.outcome_eq] at settles
    rw [tick, settles]
  have begun : (machine.raised paused).attended.begun = none := (rests_of_settled settled).1
  have now := poised.contents_programState resting
  rw [dormant.datapath_begins paused, contents] at now
  rw [← now, programState, begun]
  rfl

theorem attended :
    (machine.setRun true).attended.Poised ∧
      (machine.setRun true).attended.controller.remaining =
        machine.controller.program.instructions ∧
      (machine.setRun true).attended.programState = ⟨machine.datapath.contents, none⟩ ∧
      (machine.setRun true).attended.owed = false ∧
      (machine.setRun true).attended.ticksLeft =
        executionTicks machine.datapath.engine.features machine.array.latency
          machine.controller.program.instructions := by
  have begins := dormant.begins false
  rw [dormant.raised_false] at begins
  exact begins

end Dormant

end Machine

end AccessController
