import AccessController.Proofs.Datapath.Outcome

/-!
# The time of a request under way

`ticksLeft` counts the ticks until the engine is idle again and `acksLeft` the
acknowledgements that a cache has still to give.  With start low every tick
takes one off the first (`Streaming.ticksLeft_tick`) and every rising
acknowledgement one off the second (`Streaming.acksLeft_tick`); ready is high
when one tick is left.
-/

namespace AccessController

namespace TransferRequest

/-- Whether a request for one element names a place beyond the end of a data
line. -/
def beyond (request : TransferRequest) (geometry : Geometry) : Bool :=
  geometry.isData && !request.isWholeLine && decide (geometry.places ≤ request.place.toNat)

/-- The ticks from a start to the end of the answer, the tick of the start
included: a refused request takes 3 or 4, and a unit 6. -/
def answerTicks (request : TransferRequest) (features : FeatureTable) : Nat :=
  match CacheKind.ofSelector? request.selector with
  | none => 3
  | some kind =>
    if request.beyond (features.get kind) then 4
    else 6 * request.unitCount (features.get kind) + 3

theorem three_le_answerTicks (request : TransferRequest) (features : FeatureTable) :
    3 ≤ request.answerTicks features := by
  rw [answerTicks]
  split
  · exact Nat.le_refl 3
  · split <;> omega

/-- The acknowledgements of a cache for a request: one for each unit. -/
def answerAcks (request : TransferRequest) (features : FeatureTable) (kind : CacheKind) : Nat :=
  if CacheKind.ofSelector? request.selector = some kind ∧
      ¬request.beyond (features.get kind) then
    request.unitCount (features.get kind)
  else 0

end TransferRequest

namespace Job

variable (features : FeatureTable) (job : Job)

/-- The ticks until the engine is idle again, at a step of a job. -/
def ticksLeft (acked : Bool) : Engine.Step → Nat
  | .validate => if job.beyond features then 2 else 6 * job.context.remaining + 7
  | .process => 6 * job.context.remaining + 6
  | .writeData => 6 * job.context.remaining + 5
  | .writeEnable => 6 * job.context.remaining + if job.context.kind = .dataOut then 5 else 4
  | .waitAck =>
    6 * job.context.remaining + (if job.context.kind = .dataOut then 3 else 2) +
      if acked then 0 else 1
  | .readData => 6 * job.context.remaining + 2
  | .block => 6 * job.context.remaining + 1
  | .finish => 1

/-- The acknowledgements that its cache has still to give, at a step of a job. -/
def acksLeft (acked : Bool) : Engine.Step → Nat
  | .validate => if job.beyond features then 0 else job.context.remaining + 1
  | .process | .writeData | .writeEnable => job.context.remaining + 1
  | .waitAck => job.context.remaining + if acked then 0 else 1
  | .readData | .block => job.context.remaining
  | .finish => 0

end Job

/-- A decoded request is turned down exactly if it is for one element beyond the
end of a line: a data line has a first place. -/
theorem Job.beyond_contextOf (features : FeatureTable) (kind : CacheKind)
    (request : TransferRequest) (done : Nat) :
    Job.beyond features ⟨request, Engine.contextOf (features.get kind) kind request, done⟩ =
      request.beyond (features.get kind) := by
  have data : (features.get kind).isData = kind.isData := by simp [Geometry.isData]
  have first : kind.isData → 0 < (features.get kind).places := by
    intro isData
    have sound := features.sound_get kind
    rw [Geometry.places, if_pos (data.trans isData)]
    exact Nat.div_pos (sound.element_le (data.trans isData)) sound.widthBits_pos
  simp only [Job.beyond, TransferRequest.beyond, Engine.kind_contextOf, Engine.place_contextOf,
    TransferRequest.firstPlace, data]
  grind

namespace Datapath

/-- The ticks until the engine is idle again, if start is low. -/
def ticksLeft (datapath : Datapath) : Nat :=
  match datapath.engine.state.phase with
  | .await => if datapath.engine.state.ready then 1 else 0
  | .decode request => request.answerTicks datapath.engine.features - 1
  | .serve step job =>
    job.ticksLeft datapath.engine.features (datapath.caches.get job.context.kind).ack step

/-- The acknowledgements that a cache has still to give for the request under
way. -/
def acksLeft (datapath : Datapath) (kind : CacheKind) : Nat :=
  match datapath.engine.state.phase with
  | .await => 0
  | .decode request => request.answerAcks datapath.engine.features kind
  | .serve step job =>
    if job.context.kind = kind then
      job.acksLeft datapath.engine.features (datapath.caches.get kind).ack step
    else 0

variable {datapath : Datapath} {inputs : DatapathInputs}

theorem ticksLeft_afterUnit {job : Job} (sound : job.Sound datapath.engine.features)
    (after : datapath.engine.state.phase = job.afterUnit) :
    datapath.ticksLeft = 6 * job.context.remaining + 1 := by
  rw [ticksLeft, after, Job.afterUnit, sound.block]
  cases remaining : job.context.remaining with
  | zero => rfl
  | succ count => simp [Job.ticksLeft, remaining]

section Steps

variable (streaming : datapath.Streaming inputs.selectIn) {job : Job}

include streaming

theorem Streaming.ticksLeft_tick_decode {request : TransferRequest}
    (phase : datapath.engine.state.phase = .decode request) :
    (datapath.tick inputs).ticksLeft = datapath.ticksLeft - 1 := by
  have next := datapath.phase_tick inputs
  have ready := datapath.ready_tick inputs
  have permitted := streaming.ready
  simp only [Engine.phase_tick, Engine.ready_tick, phase, Engine.Phase.permitsReady]
    at next ready permitted
  split at next
  next unknown =>
    simp only [ticksLeft, phase, next, ready, TransferRequest.answerTicks, unknown, permitted]
    rfl
  next kind known =>
    have units := Engine.remaining_contextOf (datapath.engine.features.get kind) kind request
    simp only [ticksLeft, phase, next, features_tick, Job.ticksLeft, Job.beyond_contextOf,
      TransferRequest.answerTicks, known]
    split
    · rfl
    · omega

theorem Streaming.ticksLeft_tick_validate
    (phase : datapath.engine.state.phase = .serve .validate job) :
    (datapath.tick inputs).ticksLeft = datapath.ticksLeft - 1 := by
  have next := datapath.phase_tick inputs
  have ready := datapath.ready_tick inputs
  have permitted := streaming.ready
  simp only [Engine.phase_tick, Engine.ready_tick, phase, Engine.Phase.permitsReady]
    at next ready permitted
  rw [permitted, Bool.false_or] at ready
  split at next
  next beyond => simp [ticksLeft, phase, next, ready, beyond, Job.ticksLeft]
  next within => simp [ticksLeft, phase, next, within, Job.ticksLeft]

theorem Streaming.ticksLeft_tick_waitAck
    (phase : datapath.engine.state.phase = .serve .waitAck job) :
    (datapath.tick inputs).ticksLeft = datapath.ticksLeft - 1 := by
  have next := datapath.phase_tick inputs
  simp only [Engine.phase_tick, phase, streaming.acks] at next
  by_cases acked : (datapath.caches.get job.context.kind).ack = true
  · rw [if_pos acked] at next
    split at next
    next drains =>
      simp only [ticksLeft, phase, next, acked, if_pos drains, if_true, Job.ticksLeft]
      rfl
    next loads =>
      rw [ticksLeft_afterUnit (streaming.sound_tick phase) next]
      simp [ticksLeft, phase, acked, loads, Job.ticksLeft]
  · rw [if_neg acked] at next
    simp [ticksLeft, phase, next, acked, streaming.ack_tick, Engine.Phase.asserts, Job.ticksLeft]

/-- With start low every tick brings the engine one tick nearer to the end of
its answer. -/
theorem Streaming.ticksLeft_tick (low : inputs.start = false) :
    (datapath.tick inputs).ticksLeft = datapath.ticksLeft - 1 := by
  have next := datapath.phase_tick inputs
  have ready := datapath.ready_tick inputs
  have unstarted : (datapath.engineInputs inputs).start = false := low
  rw [Engine.phase_tick] at next
  rw [Engine.ready_tick] at ready
  cases phase : datapath.engine.state.phase with
  | await =>
    simp only [phase, unstarted, Bool.and_false, Bool.false_and, Bool.false_eq_true, if_false]
      at next ready
    simp only [ticksLeft, phase, next, ready, Bool.false_eq_true, if_false]
    split <;> rfl
  | decode request => exact streaming.ticksLeft_tick_decode phase
  | serve step job =>
    have carries := streaming.carries phase
    cases step with
    | validate => exact streaming.ticksLeft_tick_validate phase
    | process =>
      simp only [phase] at next
      split at next
      next drains => simp [ticksLeft, phase, next, drains, Job.ticksLeft]
      next => simp [ticksLeft, phase, next, Job.ticksLeft]
    | writeData =>
      simp only [phase] at next
      simp [ticksLeft, phase, next, carries.loads rfl, Job.ticksLeft]
    | writeEnable =>
      simp only [phase] at next
      simp only [ticksLeft, phase, next, Job.ticksLeft, streaming.ack_tick, Engine.Phase.asserts]
      grind
    | waitAck => exact streaming.ticksLeft_tick_waitAck phase
    | readData =>
      simp only [phase] at next
      rw [ticksLeft_afterUnit (streaming.sound_tick phase) next]
      simp [ticksLeft, phase, Job.ticksLeft]
    | block =>
      simp only [phase] at next
      have more := carries.more rfl
      simp only [ticksLeft, phase, next, Job.ticksLeft, Engine.nextUnit]
      omega
    | finish =>
      simp only [phase, unstarted, Bool.and_false, Bool.false_eq_true, if_false] at next ready
      simp [ticksLeft, phase, next, ready, Job.ticksLeft]

end Steps

theorem acksLeft_afterUnit {job : Job} (sound : job.Sound datapath.engine.features)
    (after : datapath.engine.state.phase = job.afterUnit) (kind : CacheKind) :
    datapath.acksLeft kind = if job.context.kind = kind then job.context.remaining else 0 := by
  rw [acksLeft, after, Job.afterUnit, sound.block]
  cases remaining : job.context.remaining with
  | zero => rfl
  | succ count => simp [Job.acksLeft, remaining]

/-- Whether the acknowledgement of a cache rises from one state to the next. -/
def rises (before after : Datapath) (kind : CacheKind) : Bool :=
  !(before.caches.get kind).outputs.ack.level && (after.caches.get kind).outputs.ack.level

/-- An acknowledgement rises at the first tick of a wait for it. -/
theorem Handshake.rises_tick (handshake : datapath.Handshake) (inputs : DatapathInputs)
    (kind : CacheKind) :
    datapath.rises (datapath.tick inputs) kind =
      (!(datapath.caches.get kind).ack && datapath.engine.state.phase.asserts kind) := by
  rw [rises, handshake.ackWire, (handshake.tick inputs).ackWire, handshake.ack_tick]

theorem acksLeft_tick_decode {request : TransferRequest}
    (phase : datapath.engine.state.phase = .decode request) (kind : CacheKind) :
    datapath.acksLeft kind = (datapath.tick inputs).acksLeft kind := by
  have next := datapath.phase_tick inputs
  simp only [Engine.phase_tick, phase] at next
  split at next
  next unknown => simp [acksLeft, phase, next, TransferRequest.answerAcks, unknown]
  next served known =>
    have units := Engine.remaining_contextOf (datapath.engine.features.get served) served request
    simp only [acksLeft, phase, next, features_tick, Job.acksLeft, Job.beyond_contextOf,
      TransferRequest.answerAcks, known, Engine.kind_contextOf, units]
    grind

section Steps

variable (streaming : datapath.Streaming inputs.selectIn) {job : Job}

include streaming

theorem Streaming.acksLeft_tick_waitAck
    (phase : datapath.engine.state.phase = .serve .waitAck job) (kind : CacheKind) :
    datapath.acksLeft kind =
      (datapath.tick inputs).acksLeft kind +
        (datapath.rises (datapath.tick inputs) kind).toNat := by
  have next := datapath.phase_tick inputs
  have permitted := streaming.ack kind
  rw [streaming.rises_tick]
  simp only [Engine.phase_tick, phase, streaming.acks] at next
  by_cases acked : (datapath.caches.get job.context.kind).ack = true
  · rw [if_pos acked] at next
    split at next
    next drains =>
      simp only [acksLeft, phase, next, Job.acksLeft, Engine.Phase.asserts]
      grind
    next loads =>
      rw [acksLeft_afterUnit (streaming.sound_tick phase) next]
      simp only [acksLeft, phase, Job.acksLeft, Engine.Phase.asserts]
      grind
  · rw [if_neg acked] at next
    simp only [acksLeft, phase, next, streaming.ack_tick, Engine.Phase.asserts, Job.acksLeft]
    grind

/-- Each rising acknowledgement is one of those that were still to come. -/
theorem Streaming.acksLeft_tick (low : inputs.start = false) (kind : CacheKind) :
    datapath.acksLeft kind =
      (datapath.tick inputs).acksLeft kind +
        (datapath.rises (datapath.tick inputs) kind).toNat := by
  have next := datapath.phase_tick inputs
  have unstarted : (datapath.engineInputs inputs).start = false := low
  have permitted := streaming.ack kind
  rw [Engine.phase_tick] at next
  rw [streaming.rises_tick]
  cases phase : datapath.engine.state.phase with
  | await =>
    simp only [phase, unstarted, Bool.false_and, Bool.false_eq_true, if_false] at next
    simp [acksLeft, phase, next, Engine.Phase.asserts]
  | decode request =>
    simpa [Engine.Phase.asserts] using acksLeft_tick_decode phase kind
  | serve step job =>
    cases step with
    | validate =>
      simp only [phase] at next
      split at next
      next beyond => simp [acksLeft, phase, next, beyond, Job.acksLeft, Engine.Phase.asserts]
      next within => simp [acksLeft, phase, next, within, Job.acksLeft, Engine.Phase.asserts]
    | process =>
      simp only [phase] at next
      split at next <;> simp [acksLeft, phase, next, Job.acksLeft, Engine.Phase.asserts]
    | writeData =>
      simp only [phase] at next
      simp [acksLeft, phase, next, Job.acksLeft, Engine.Phase.asserts]
    | writeEnable =>
      simp only [phase] at next
      simp [acksLeft, phase, next, Job.acksLeft, streaming.ack_tick, Engine.Phase.asserts]
    | waitAck =>
      rw [← phase, ← streaming.rises_tick]
      exact streaming.acksLeft_tick_waitAck phase kind
    | readData =>
      simp only [phase, Engine.Phase.permitsAck] at next permitted
      rw [acksLeft_afterUnit (streaming.sound_tick phase) next, permitted]
      simp [acksLeft, phase, Job.acksLeft, Engine.Phase.asserts]
    | block =>
      simp only [phase] at next
      have more := (streaming.carries phase).more rfl
      simp only [acksLeft, phase, next, Job.acksLeft, Engine.nextUnit, Engine.Phase.asserts]
      grind
    | finish =>
      simp only [phase, unstarted, Bool.false_eq_true, if_false] at next
      simp [acksLeft, phase, next, Job.acksLeft, Engine.Phase.asserts]

end Steps

theorem Streaming.ready_eq {selectIn : PerCache UInt8} (streaming : datapath.Streaming selectIn) :
    datapath.engine.state.ready = decide (datapath.ticksLeft = 1) := by
  have permitted := streaming.ready
  rw [ticksLeft]
  cases phase : datapath.engine.state.phase with
  | await => cases datapath.engine.state.ready <;> rfl
  | decode request =>
    simp only [phase, Engine.Phase.permitsReady] at permitted
    simp only [permitted, TransferRequest.answerTicks]
    grind
  | serve step job =>
    cases step with
    | finish =>
      simp only [phase, Engine.Phase.permitsReady] at permitted
      simp only [permitted, Job.ticksLeft, decide_true]
    | block =>
      have more := (streaming.carries phase).more rfl
      simp only [phase, Engine.Phase.permitsReady] at permitted
      simp only [permitted, Job.ticksLeft]
      grind
    | _ =>
      simp only [phase, Engine.Phase.permitsReady] at permitted
      simp only [permitted, Job.ticksLeft]
      grind

theorem Streaming.idle {selectIn : PerCache UInt8} (streaming : datapath.Streaming selectIn)
    (ended : datapath.ticksLeft = 0) : datapath.Idle where
  toHandshake := streaming.toHandshake
  ready_low := by simp [streaming.ready_eq, ended]
  phase := by
    rw [ticksLeft] at ended
    cases phase : datapath.engine.state.phase with
    | await => rfl
    | decode request =>
      simp only [phase, TransferRequest.answerTicks] at ended
      grind
    | serve step job =>
      simp only [phase] at ended
      cases step <;> simp only [Job.ticksLeft] at ended <;> grind

end Datapath

end AccessController
