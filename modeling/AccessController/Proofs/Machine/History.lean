import AccessController.Machine.Run
import AccessController.Proofs.Array.Tick
import AccessController.Proofs.Cache.Shape
import AccessController.Proofs.Controller.Transitions
import AccessController.Proofs.Machine.Synchronized

/-!
# Histories

A simulation raises the run pin, ticks and lowers the pin again, so all that is ever
done to a machine comes down to events (`exists_play_of_operations`).  Whatever they
are, the machine keeps what it was made with: its program, its features, the
latency of its array and the shape of its lines (`Made`).
-/

namespace AccessController

namespace Machine

/-- What the host can do with a machine: cause an event, or let it simulate for
at most some ticks. -/
inductive Operation where
  | event (event : Event)
  | simulate (timeout : Nat)
  deriving DecidableEq

def perform (machine : Machine) : Operation → Machine
  | .event event => machine.apply event
  | .simulate timeout => (machine.run timeout).1

theorem play_append (machine : Machine) (first second : List Event) :
    machine.play (first ++ second) = (machine.play first).play second :=
  List.foldl_append

/-! ## Operations as events -/

theorem exists_play_awaitFinish (timeout budget : Nat) (machine : Machine) :
    ∃ events, (awaitFinish timeout budget machine).1 = machine.play events := by
  induction budget generalizing machine with
  | zero => exact ⟨[], rfl⟩
  | succ budget ih =>
    rw [awaitFinish]
    split
    · exact ⟨[], rfl⟩
    · dsimp only
      split
      · exact ⟨[.tick], rfl⟩
      · obtain ⟨events, played⟩ := ih machine.tick
        exact ⟨.tick :: events, played⟩

theorem exists_play_drain (budget : Nat) (machine : Machine) :
    ∃ events, (drain budget machine).1 = machine.play events := by
  induction budget generalizing machine with
  | zero => exact ⟨[], rfl⟩
  | succ budget ih =>
    rw [drain]
    split
    · exact ⟨[.tick], rfl⟩
    · split
      · exact ⟨[.tick], rfl⟩
      · obtain ⟨events, played⟩ := ih machine.tick
        exact ⟨.tick :: events, played⟩

/-- A run raises the run pin, ticks, lowers the pin and ticks again, unless it fails
before. -/
theorem exists_play_run (timeout : Nat) (machine : Machine) :
    ∃ events, (machine.run timeout).1 = machine.play events := by
  obtain ⟨events, awaited⟩ := exists_play_awaitFinish timeout timeout (machine.setRun true)
  have raised : (awaitFinish timeout timeout (machine.setRun true)).1 =
      machine.play (.run true :: events) := awaited
  rw [run]
  split
  next failed error ended =>
    rw [ended] at raised
    exact ⟨_, raised⟩
  next finished ended =>
    rw [ended] at raised
    obtain ⟨others, drained⟩ := exists_play_drain drainTicks (finished.setRun false)
    have lowered : (drain drainTicks (finished.setRun false)).1 =
        machine.play ((.run true :: events) ++ .run false :: others) := by
      rw [drained, play_append, ← raised]
      rfl
    split
    next failed error stopped =>
      rw [stopped] at lowered
      exact ⟨_, lowered⟩
    next rewound stopped =>
      rw [stopped] at lowered
      exact ⟨_, lowered⟩

/-- All that is done to a machine comes down to events. -/
theorem exists_play_of_operations (machine : Machine) (operations : List Operation) :
    ∃ events, operations.foldl perform machine = machine.play events := by
  induction operations generalizing machine with
  | nil => exact ⟨[], rfl⟩
  | cons operation rest ih =>
    obtain ⟨events, played⟩ := ih (machine.perform operation)
    cases operation with
    | event event => exact ⟨event :: events, played⟩
    | simulate timeout =>
      obtain ⟨others, run⟩ := exists_play_run timeout machine
      refine ⟨others ++ events, played.trans ?_⟩
      rw [play_append, ← run]
      rfl

/-! ## What stays -/

/-- A machine that was made with a program, features and a latency. -/
structure Made (program : Program) (features : FeatureTable) (latency : Nat) (machine : Machine) :
    Prop where
  program : machine.controller.program = program
  features : machine.datapath.engine.features = features
  latency : machine.array.latency = latency
  handshake : machine.datapath.Handshake
  shaped : ∀ kind, (machine.datapath.caches.get kind).lines.Shaped
    (machine.datapath.engine.features.get kind)
  pins : machine.pins.commit = machine.pins

variable {program : Program} {features : FeatureTable} {latency : Nat} {machine : Machine}

theorem made_new (program : Program) (features : FeatureTable) (memory : Memory) (latency : Nat) :
    Made program features latency (new { program } { features, memory } { latency }) where
  program := rfl
  features := rfl
  latency := rfl
  handshake := (Datapath.idle_new features memory).toHandshake
  shaped kind := by
    have lines : ((Datapath.new { features, memory }).caches.get kind).lines =
        .blank (features.get kind) := by
      simp [Datapath.new, Cache.new, FeatureTable.get]
    exact lines ▸ Lines.shaped_blank _
  pins := rfl

namespace Made

variable (made : Made program features latency machine)

include made

theorem shaped_delivered (kind : CacheKind) :
    (machine.delivered.caches.get kind).lines.Shaped
      (machine.datapath.engine.features.get kind) := by
  have shaped := made.shaped kind
  rw [delivered, ← Datapath.get_lines_contents, made.handshake.contents_deliver,
    Contents.get_lines_deliver, Datapath.get_lines_contents, Datapath.get_lines_contents]
  split
  next same =>
    subst same
    cases machine.arrayTick.2 with
    | none => exact shaped
    | some values =>
      rw [Lines.receive]
      split
      next stored => exact shaped.fill stored
      next => exact shaped
  next => exact shaped

theorem tick : Made program features latency machine.tick where
  program := by
    rw [controller_tick, Controller.program_commit, Controller.program_tick, made.program]
  features := by
    rw [datapath_tick, Datapath.features_tick, engine_delivered, made.features]
  latency := by
    rw [tick_eq]
    exact (EchoArray.latency_tick ..).trans made.latency
  handshake := by
    rw [datapath_tick]
    exact (made.handshake.deliver _).tick _
  shaped kind := by
    rw [datapath_tick, Datapath.features_tick, engine_delivered, Datapath.get_caches_tick]
    exact Cache.shaped_tick (made.shaped_delivered kind) _
  pins := by
    rw [tick_eq]
    rfl

theorem reset : Made program features latency machine.reset where
  program := made.program
  features := made.features
  latency := made.latency
  handshake := made.handshake.reset.toHandshake
  shaped kind := by
    have lines : (machine.datapath.reset.commit.caches.get kind).lines =
        (machine.datapath.caches.get kind).lines.clear := by
      simp [Datapath.reset, Datapath.commit, Cache.reset, Cache.commit]
    change (machine.datapath.reset.commit.caches.get kind).lines.Shaped
      (machine.datapath.engine.features.get kind)
    rw [lines, (made.shaped kind).clear_eq]
    exact Lines.shaped_blank _
  pins := rfl

theorem apply (event : Event) : Made program features latency (machine.apply event) := by
  cases event with
  | tick => exact made.tick
  | reset => exact made.reset
  | run level =>
    exact { made with
      pins := congrArg (fun pins => { pins with run := .rest level }) made.pins }
  | pause level =>
    exact { made with
      pins := congrArg (fun pins => { pins with pause := .rest level }) made.pins }
  | resetPin level =>
    exact { made with
      pins := congrArg (fun pins => { pins with reset := .rest level }) made.pins }
  | write memory => exact { made with handshake := made.handshake.withMemory memory }

theorem play (events : List Event) : Made program features latency (machine.play events) := by
  induction events generalizing machine with
  | nil => exact made
  | cons event rest ih => exact ih (made.apply event)

end Made

end Machine

end AccessController
