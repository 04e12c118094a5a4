import AccessController.Proofs.Controller.Passing
import AccessController.Proofs.Controller.Starts
import AccessController.Proofs.Engine.Rounds
import AccessController.Proofs.Machine.History
import AccessController.Proofs.Machine.Idle
import AccessController.Proofs.Machine.Replying

/-!
# Requests that nobody waits for

When the reset pin falls or run rises in a wait for the engine, the request goes on without
a controller that waits for it.  Such a controller is in front of the transfer again, so it
either asks a second time, and hears the rest of the answer while it waits, or it hears an
edge of ready out of turn and fails.  Hence whatever has been done to a machine, a
controller that comes to a finish has no request left behind (`Linked.disengaged_of_finish`).
-/

namespace AccessController

namespace Machine

/-- The engine is idle, and the controller has heard the end of its last answer. -/
structure Disengaged (machine : Machine) : Prop where
  idle : machine.datapath.Idle
  unready : machine.controller.state.sampled.engineReady = false
  unasked : machine.controller.state.stage ≠ .awaitEngine

/-- What controller and engine know of one another in any history, waits that have been cut
short included. -/
structure Linked (machine : Machine) : Prop extends Consistent machine where
  handshake : machine.datapath.Handshake
  clear : machine.controller.Clear
  /-- A ready that has been sampled belongs to a request that is over. -/
  served : machine.controller.state.sampled.engineReady = true →
    machine.datapath.engine.mode ≠ .serving
  /-- No request goes out behind a ready that has been sampled. -/
  unasked : machine.controller.state.activity ≠ .failed →
    machine.controller.state.sampled.engineReady = true →
      machine.controller.state.engineStartHigh = false ∧
        (machine.controlPins.engineReady = true →
          ∀ operation, machine.controller.state.stage ≠ .transfer operation)
  situation : machine.controller.state.activity = .failed ∨
    machine.controller.state.activity = .waiting .engine ∨ machine.Disengaged ∨
      ∃ target, machine.controller.Bound target

variable {machine : Machine}

theorem engine_tick_cycled :
    machine.tick.datapath.engine =
      machine.datapath.engine.cycled (machine.delivered.engineInputs machine.datapathInputs) := by
  rw [datapath_tick, Datapath.engine_tick, engine_delivered]
  rfl

namespace Linked

variable (linked : machine.Linked)

include linked

theorem shows : machine.datapath.engine.Shows :=
  ⟨linked.handshake.readyWire, linked.handshake.ready⟩

theorem start_eq : machine.datapathInputs.start = machine.controller.state.engineStartHigh := by
  have start := linked.pulsing.engineStart
  rw [← linked.committed] at start
  have level : machine.controller.outputs.commit.engineStart.level =
      machine.controller.state.engineStartHigh := start
  rwa [linked.committed] at level

theorem start_low (apart : machine.controller.state.stage ≠ .awaitEngine) :
    machine.datapathInputs.start = false := by
  rw [linked.start_eq]
  exact Bool.eq_false_iff.2 fun high => apart (linked.pulsing.asked high)

/-! ## A tick -/

/-- A ready that is high is that of an answer. -/
theorem served_tick (ready : machine.controlPins.engineReady = true) :
    machine.tick.datapath.engine.mode ≠ .serving := by
  have answering := linked.shows.level_ready.1 ready
  rw [engine_tick_cycled, linked.shows.mode_cycled, answering]
  dsimp only
  split <;> exact Engine.Mode.noConfusion

/-- A controller that ready is high for is at no transfer, unless it fails. -/
theorem apart_of_ready (working : machine.tick.controller.state.activity ≠ .failed)
    (ready : machine.controlPins.engineReady = true) (operation : TransferOp) :
    machine.controller.state.stage ≠ .transfer operation := by
  rw [controller_tick] at working
  have unfailed : machine.controller.state.activity ≠ .failed := fun failed =>
    working (Controller.failed_tick failed)
  intro stage
  cases sampled : machine.controller.state.sampled.engineReady with
  | true => exact (linked.unasked unfailed sampled).2 ready operation stage
  | false =>
    have edge : machine.controlPins.engineReady ≠ machine.controller.state.sampled.engineReady := by
      simp [ready, sampled]
    refine working (Controller.failed_of_edge (fun awaited waiting => ?_) edge)
    cases awaited with
    | engine => exact Stage.noConfusion (stage.symm.trans (linked.placed.engine waiting))
    | array => exact Stage.noConfusion (stage.symm.trans (linked.placed.array waiting))

theorem unasked_tick (working : machine.tick.controller.state.activity ≠ .failed)
    (ready : machine.controlPins.engineReady = true) :
    machine.tick.controller.state.engineStartHigh = false ∧
      (machine.tick.controlPins.engineReady = true →
        ∀ operation, machine.tick.controller.state.stage ≠ .transfer operation) := by
  have apart := linked.apart_of_ready working ready
  constructor
  · rw [controller_tick]
    refine Bool.eq_false_iff.2 fun high => ?_
    obtain ⟨operation, steps⟩ := Controller.engineStartHigh_tick.1 high
    exact Controller.stepped?_ne_of_unreached (apart operation) (by simp) steps
  · intro still operation
    have shows : machine.tick.datapath.engine.Shows := by
      rw [engine_tick_cycled]
      exact linked.shows.cycled _
    have answering := shows.level_ready.1 still
    rw [engine_tick_cycled, linked.shows.mode_cycled, linked.shows.level_ready.1 ready] at answering
    dsimp only at answering
    split at answering
    next start =>
      have asked : machine.controller.state.engineStartHigh = true := linked.start_eq ▸ start
      rw [controller_tick]
      exact Controller.stage_tick_of_asked (linked.pulsing.asked asked) operation
    next => cases answering

theorem disengaged_tick (idle : machine.datapath.Idle)
    (start : machine.datapathInputs.start = false)
    (free : machine.tick.controller.state.activity ≠ .waiting .engine) :
    machine.tick.Disengaged where
  idle := by
    rw [datapath_tick]
    exact (idle.deliver machine.arrayTick.2).tick start
  unready := by
    rw [sampled_tick]
    exact idle.readyWire_low
  unasked := by
    rw [controller_tick] at free ⊢
    exact mt (linked.clear.toCoherent.tick machine.controlPins).waiting_iff.2 free

/-- A wait that the end of an answer has come to leaves the engine idle. -/
theorem idle_of_answered (answered : machine.controller.answered machine.controlPins = true) :
    machine.datapath.Idle ∧ machine.datapathInputs.start = false := by
  obtain ⟨waiting, sampled, low⟩ := (Controller.answered_eq_true_iff ..).1 answered
  have ready : machine.datapath.engine.state.ready = false :=
    linked.handshake.readyWire.symm.trans low
  constructor
  · have served := linked.served sampled
    rw [ne_eq, Engine.mode_eq_serving_iff] at served
    exact {
      linked.handshake with
      phase := by simpa [ready] using served
      ready_low := ready }
  · rw [linked.start_eq]
    exact (linked.unasked (by simp [waiting]) sampled).1

theorem situation_tick (working : machine.tick.controller.state.activity ≠ .failed)
    (free : machine.tick.controller.state.activity ≠ .waiting .engine) :
    machine.tick.Disengaged ∨ ∃ target, machine.tick.controller.Bound target := by
  have bound {target : Nat}
      (tick : (machine.controller.tick machine.controlPins).state.activity = .waiting .engine ∨
        (machine.controller.tick machine.controlPins).Bound target) :
      ∃ target, machine.tick.controller.Bound target := by
    rw [controller_tick] at free ⊢
    obtain ⟨ahead, unfinished, transfer, stage⟩ := tick.resolve_left free
    exact ⟨target, ahead, unfinished, transfer, stage⟩
  have coherent := linked.clear.toCoherent
  rcases linked.situation with failed | waiting | disengaged | ⟨target, ahead⟩
  · rw [controller_tick] at working
    exact absurd (Controller.failed_tick failed) working
  · cases answered : machine.controller.answered machine.controlPins with
    | true =>
      obtain ⟨idle, start⟩ := linked.idle_of_answered answered
      exact .inl (linked.disengaged_tick idle start free)
    | false => exact .inr (bound (linked.clear.bound_of_cut waiting answered))
  · exact .inl (linked.disengaged_tick disengaged.idle (linked.start_low disengaged.unasked) free)
  · rw [controller_tick] at working
    exact .inr (bound (ahead.tick coherent working))

theorem tick : machine.tick.Linked where
  toConsistent := linked.toConsistent.tick
  handshake := by
    rw [datapath_tick]
    exact (linked.handshake.deliver _).tick _
  clear := by
    obtain ⟨⟨stage, activity, fault⟩, unfinished⟩ := linked.clear.tick machine.controlPins
    rw [controller_tick]
    exact ⟨⟨stage, activity, fault⟩, unfinished⟩
  served sampled := linked.served_tick (sampled_tick ▸ sampled)
  unasked working sampled := linked.unasked_tick working (sampled_tick ▸ sampled)
  situation := by
    by_cases working : machine.tick.controller.state.activity = .failed
    · exact .inl working
    · by_cases waits : machine.tick.controller.state.activity = .waiting .engine
      · exact .inr (.inl waits)
      · exact .inr (.inr (linked.situation_tick working waits))

/-! ## Histories -/

theorem reset : machine.reset.Linked where
  toConsistent := consistent_reset
  handshake := linked.handshake.reset.toHandshake
  clear := ⟨⟨rfl, rfl, iff_of_false (fun failed => failed rfl) Activity.noConfusion⟩, nofun⟩
  served := nofun
  unasked := nofun
  situation := .inr (.inr (.inl ⟨linked.handshake.reset, rfl, Stage.noConfusion⟩))

theorem outside (pins : ExternalPins) (memory : Memory) :
    { machine with pins, datapath := machine.datapath.withMemory memory }.Linked where
  toConsistent := ⟨linked.placed, linked.pulsing, linked.committed, linked.ready⟩
  handshake := linked.handshake.withMemory memory
  clear := linked.clear
  served := linked.served
  unasked := linked.unasked
  situation := linked.situation.imp_right <| Or.imp_right <| Or.imp_left fun disengaged =>
    ⟨disengaged.idle.withMemory memory, disengaged.unready, disengaged.unasked⟩

theorem apply (event : Event) : (machine.apply event).Linked := by
  cases event with
  | tick => exact linked.tick
  | reset => exact linked.reset
  | run level | pause level | resetPin level => exact linked.outside _ machine.memory
  | write memory => exact linked.outside machine.pins memory

theorem play (events : List Event) : (machine.play events).Linked := by
  induction events generalizing machine with
  | nil => exact linked
  | cons event rest ih => exact ih (linked.apply event)

/-- A controller in a finish has left no request behind. -/
theorem disengaged_of_finish (finishing : machine.controller.state.stage = .finish)
    (working : machine.controller.state.activity ≠ .failed) : machine.Disengaged := by
  rcases linked.situation with failed | waiting | disengaged | ⟨target, bound⟩
  · exact absurd failed working
  · exact absurd (finishing.symm.trans (linked.placed.engine waiting)) Stage.noConfusion
  · exact disengaged
  · exact absurd finishing fun finish => bound.stage (by simp [finish])

end Linked

theorem linked_new (program : Program) (features : FeatureTable) (memory : Memory)
    (latency : Nat) : (new { program } { features, memory } { latency }).Linked where
  toConsistent := consistent_new program features memory latency
  handshake := (Datapath.idle_new features memory).toHandshake
  clear := ⟨⟨rfl, rfl, iff_of_false (fun failed => failed rfl) Activity.noConfusion⟩, nofun⟩
  served := nofun
  unasked := nofun
  situation := .inr (.inr (.inl ⟨Datapath.idle_new features memory, rfl, Stage.noConfusion⟩))

end Machine

end AccessController
