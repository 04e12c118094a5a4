import AccessController.Datapath.Basic
import AccessController.Proofs.Cache.Tick
import AccessController.Proofs.Engine.Tick

/-!
# The handshake between engine and caches

Engine and caches tick from the levels before the tick, so each of them can be
taken on its own. In every phase the levels of all control wires of the datapath are
known: one write enable at most is high, a cache acknowledges only while it is
served, and ready is high only behind a refused or finished request. `Handshake`
states this, and a tick keeps it under all inputs (`Handshake.tick`).
-/

namespace AccessController

/-! ## What a tick does -/

namespace Datapath

variable (datapath : Datapath) (inputs : DatapathInputs)

@[simp] theorem cacheInputs_tickEngine (kind : CacheKind) :
    (datapath.tickEngine inputs).cacheInputs inputs kind = datapath.cacheInputs inputs kind := by
  simp [cacheInputs, tickEngine]

theorem engine_tick :
    (datapath.tick inputs).engine =
      (datapath.engine.tick (datapath.engineInputs inputs)).commit := rfl

theorem phase_tick :
    (datapath.tick inputs).engine.state.phase =
      (datapath.engine.tick (datapath.engineInputs inputs)).state.phase := rfl

theorem ready_tick :
    (datapath.tick inputs).engine.state.ready =
      (datapath.engine.tick (datapath.engineInputs inputs)).state.ready := rfl

@[simp] theorem features_tick : (datapath.tick inputs).engine.features = datapath.engine.features :=
  Engine.features_tick ..

theorem get_caches_tick (kind : CacheKind) :
    (datapath.tick inputs).caches.get kind =
      ((datapath.caches.get kind).tick (datapath.cacheInputs inputs kind)).commit := by
  rw [tick, commit, PerCache.get_map, tickAll, ← cacheInputs_tickEngine]
  cases kind <;> rfl

end Datapath

/-! ## Control wires -/

/-- Whether the write enable of a cache is high in a phase. -/
def Engine.Phase.asserts : Engine.Phase → CacheKind → Bool
  | .serve .waitAck job, kind | .serve .readData job, kind => decide (job.context.kind = kind)
  | _, _ => false

/-- Whether the acknowledgement of a cache may have a level in a phase. -/
def Engine.Phase.permitsAck : Engine.Phase → CacheKind → Bool → Prop
  | .serve .waitAck job, kind, ack | .serve .finish job, kind, ack =>
    ack → job.context.kind = kind
  | .serve .readData job, kind, ack | .serve .block job, kind, ack =>
    ack = decide (job.context.kind = kind)
  | _, _, ack => ack = false

/-- Whether ready may have a level in a phase. -/
def Engine.Phase.permitsReady : Engine.Phase → Bool → Prop
  | .await, _ => True
  | .serve .finish _, ready => ready = true
  | _, ready => ready = false

/-- A tick of the engine drives the write enables that belong to the phase behind it,
whenever the caches acknowledge. -/
theorem Engine.writeEnable_commit_tick {engine : Engine} {kind : CacheKind}
    (high : engine.outputs.writeEnable.get kind = .rest (engine.state.phase.asserts kind))
    (inputs : Engine.Inputs) :
    (engine.tick inputs).commit.outputs.writeEnable.get kind =
      .rest ((engine.tick inputs).commit.state.phase.asserts kind) := by
  simp only [commit, PerCache.get_map, phase_tick, writeEnable_tick, high]
  cases phase : engine.state.phase with
  | await => dsimp only; split <;> rfl
  | decode request => dsimp only; split <;> rfl
  | serve step job =>
    by_cases served : job.context.kind = kind
    · subst served
      cases step <;> dsimp only [Job.afterUnit] <;> repeat' split
      all_goals simp_all [Phase.asserts, Wire.commit, Wire.driveIf]
    · cases step <;> dsimp only [Job.afterUnit] <;> repeat' split
      all_goals simp_all [Phase.asserts, Wire.commit, Wire.driveIf]

/-- Ready is high behind a refusal and behind the last unit only. -/
theorem Engine.Phase.permitsReady.await_or_finish {phase : Engine.Phase}
    (permits : phase.permitsReady true) : phase = .await ∨ ∃ job, phase = .serve .finish job := by
  cases phase with
  | await => exact .inl rfl
  | decode request => cases permits
  | serve step job =>
    cases step with
    | finish => exact .inr ⟨job, rfl⟩
    | _ => cases permits

/-- A tick raises ready with the end of a request and lowers it on the way back. -/
theorem Engine.permitsReady_tick {engine : Engine}
    (permits : engine.state.phase.permitsReady engine.state.ready) (inputs : Engine.Inputs) :
    (engine.tick inputs).state.phase.permitsReady (engine.tick inputs).state.ready := by
  rw [phase_tick, ready_tick]
  cases phase : engine.state.phase with
  | await => dsimp only; split <;> simp_all [Phase.permitsReady]
  | decode request =>
    rw [phase] at permits
    dsimp only
    split <;> simp_all [Phase.permitsReady]
  | serve step job =>
    rw [phase] at permits
    cases step <;> dsimp only [Job.afterUnit] <;> repeat' split
    all_goals simp_all [Phase.permitsReady]

namespace Datapath

/-- The control wires of the datapath agree with the phase of the engine. -/
structure Handshake (datapath : Datapath) : Prop where
  geometry : ∀ kind, (datapath.caches.get kind).geometry = datapath.engine.features.get kind
  readyWire : datapath.engine.outputs.ready.level = datapath.engine.state.ready
  ready : datapath.engine.state.phase.permitsReady datapath.engine.state.ready
  writeEnable : ∀ kind,
    datapath.engine.outputs.writeEnable.get kind = .rest (datapath.engine.state.phase.asserts kind)
  ackWire : ∀ kind, (datapath.caches.get kind).outputs.ack.level = (datapath.caches.get kind).ack
  ack : ∀ kind, datapath.engine.state.phase.permitsAck kind (datapath.caches.get kind).ack

/-- The engine waits for a start and all control wires of the datapath are low. -/
structure Idle (datapath : Datapath) : Prop extends Handshake datapath where
  phase : datapath.engine.state.phase = .await
  ready_low : datapath.engine.state.ready = false

variable {datapath : Datapath}

theorem Idle.readyWire_low (idle : datapath.Idle) :
    datapath.engine.outputs.ready.level = false :=
  idle.readyWire.trans idle.ready_low

theorem Handshake.acks (handshake : datapath.Handshake) (inputs : DatapathInputs)
    (kind : CacheKind) :
    (datapath.engineInputs inputs).acks.get kind = (datapath.caches.get kind).ack := by
  rw [engineInputs, PerCache.get_map, handshake.ackWire]

/-- A cache acknowledges at the tick after it was asked. -/
theorem Handshake.ack_tick (handshake : datapath.Handshake) (inputs : DatapathInputs)
    (kind : CacheKind) :
    ((datapath.tick inputs).caches.get kind).ack = datapath.engine.state.phase.asserts kind := by
  simp [get_caches_tick, Cache.commit, cacheInputs, handshake.writeEnable]

theorem Handshake.tick (handshake : datapath.Handshake) (inputs : DatapathInputs) :
    (datapath.tick inputs).Handshake where
  geometry kind := by
    simpa [get_caches_tick, Cache.commit] using handshake.geometry kind
  readyWire := by simp [engine_tick, Engine.commit]
  ready := by
    rw [engine_tick]
    exact Engine.permitsReady_tick handshake.ready _
  writeEnable kind := by
    rw [engine_tick]
    exact Engine.writeEnable_commit_tick (handshake.writeEnable kind) _
  ackWire kind := by simp [get_caches_tick, Cache.commit]
  ack kind := by
    have ack := handshake.ack kind
    simp only [engine_tick, Engine.commit, get_caches_tick, Cache.commit, Cache.ack_tick,
      cacheInputs, handshake.writeEnable kind, Wire.level_rest, Engine.phase_tick, handshake.acks]
    cases phase : datapath.engine.state.phase with
    | await => dsimp only; split <;> rfl
    | decode request => dsimp only; split <;> rfl
    | serve step job =>
      cases step <;> dsimp only [Job.afterUnit] <;> repeat' split
      all_goals simp_all [Engine.Phase.asserts, Engine.Phase.permitsAck]

theorem idle_new (features : FeatureTable) (memory : Memory) :
    (new { features, memory }).Idle where
  geometry kind := by simp [new, Cache.new, FeatureTable.get]
  readyWire := rfl
  ready := trivial
  writeEnable kind := by simp [new, Engine.Phase.asserts]
  ackWire kind := by simp [new, Cache.new]
  ack kind := by simp [new, Cache.new, Engine.Phase.permitsAck]
  phase := rfl
  ready_low := rfl

theorem Handshake.withMemory (handshake : datapath.Handshake) (memory : Memory) :
    (datapath.withMemory memory).Handshake :=
  ⟨handshake.geometry, handshake.readyWire, handshake.ready, handshake.writeEnable,
    handshake.ackWire, handshake.ack⟩

theorem Idle.withMemory (idle : datapath.Idle) (memory : Memory) :
    (datapath.withMemory memory).Idle :=
  ⟨idle.toHandshake.withMemory memory, idle.phase, idle.ready_low⟩

/-- A reset makes the datapath idle in the middle of whatever it does. -/
theorem Handshake.reset (handshake : datapath.Handshake) : datapath.reset.commit.Idle where
  geometry kind := by
    simpa [Datapath.reset, commit, Cache.reset, Cache.commit, Engine.reset, Engine.commit] using
      handshake.geometry kind
  readyWire := rfl
  ready := trivial
  writeEnable kind := by
    simp [Datapath.reset, commit, Engine.reset, Engine.commit, Wire.commit, Engine.Phase.asserts]
  ackWire kind := by simp [Datapath.reset, commit, Cache.reset, Cache.commit]
  ack kind := by
    simp [Datapath.reset, commit, Cache.reset, Cache.commit, Engine.reset, Engine.commit,
      Engine.Phase.permitsAck]
  phase := rfl
  ready_low := rfl

theorem Idle.tick (idle : datapath.Idle) {inputs : DatapathInputs} (low : inputs.start = false) :
    (datapath.tick inputs).Idle where
  toHandshake := idle.toHandshake.tick inputs
  phase := by simp [phase_tick, Engine.phase_tick, idle.phase, engineInputs, low]
  ready_low := by simp [ready_tick, Engine.ready_tick, idle.phase, idle.ready_low]

theorem requests_tick_of_low {inputs : DatapathInputs} (low : inputs.start = false) :
    (datapath.tick inputs).engine.state.stats.requests =
      datapath.engine.state.stats.requests := by
  simp [engine_tick, Engine.commit, Engine.requests_tick, engineInputs, low]

/-- An idle datapath counts the request that comes with a start. -/
theorem Idle.requests_tick (idle : datapath.Idle) {inputs : DatapathInputs}
    (start : inputs.start = true) :
    (datapath.tick inputs).engine.state.stats.requests =
      datapath.engine.state.stats.requests + 1 := by
  simp [engine_tick, Engine.commit, Engine.requests_tick, engineInputs, start, idle.phase,
    idle.ready_low]

theorem Handshake.phase_of_ready (handshake : datapath.Handshake)
    (high : datapath.engine.state.ready = true) :
    datapath.engine.state.phase = .await ∨
      ∃ job, datapath.engine.state.phase = .serve .finish job :=
  (high ▸ handshake.ready).await_or_finish

/-- So the tick in which ready is high is the last one of an answer. -/
theorem Handshake.idle_tick (handshake : datapath.Handshake) {inputs : DatapathInputs}
    (low : inputs.start = false) (high : datapath.engine.state.ready = true) :
    (datapath.tick inputs).Idle where
  toHandshake := handshake.tick inputs
  phase := by
    rw [phase_tick, Engine.phase_tick]
    rcases handshake.phase_of_ready high with await | ⟨job, finish⟩
    · simp [await, engineInputs, low]
    · simp [finish, engineInputs, low]
  ready_low := by
    rw [ready_tick, Engine.ready_tick]
    rcases handshake.phase_of_ready high with await | ⟨job, finish⟩
    · simp [await, engineInputs, low]
    · simp [finish, engineInputs, low]

end Datapath

end AccessController
