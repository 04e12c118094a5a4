import AccessController.Proofs.Datapath.Delivery

/-!
# Datapaths that agree

A wire that holds a place or a unit is read in a few phases only, and in each of
them it has been driven since the request came in.  Two datapaths that agree on
everything but such wires, and on each of these as long as it is read, do the same
(`Datapath.Agrees.tick`), whatever is left on the others.
-/

namespace AccessController

/-! ## The engine -/

namespace Engine

/-- The cache that a phase serves. -/
def Phase.cache? : Phase → Option CacheKind
  | .await => none
  | .decode request => CacheKind.ofSelector? request.selector
  | .serve _ job => some job.context.kind

/-- Whether the place on the wire is that of the current unit. -/
def Phase.showsPlace : Phase → Bool
  | .serve .writeData _ | .serve .writeEnable _ | .serve .waitAck _ => true
  | _ => false

/-- Whether the outbound wire holds the current unit. -/
def Phase.showsUnit : Phase → Bool
  | .serve .writeEnable job | .serve .waitAck job => decide (job.context.kind ≠ .dataOut)
  | _ => false

/-- Whether the data wire of the cache for results holds the current unit, where
`acked` says whether that cache acknowledges. -/
def Phase.showsResult (acked : Bool) : Phase → Bool
  | .serve .waitAck job => decide (job.context.kind = .dataOut) && acked
  | .serve .readData _ => true
  | _ => false

/-- The levels that an engine reads in a phase are the same. -/
structure Inputs.Agrees (phase : Phase) (left right : Inputs) : Prop where
  start : left.start = right.start
  request : left.start = true →
    left.selector = right.selector ∧ left.address = right.address ∧ left.place = right.place
  acks : left.acks = right.acks
  inbound : ∀ job, phase = .serve .readData job → left.inbound = right.inbound

/-- Two engines are in the same state, and the wires that are being read are the
same. -/
structure Agrees (left right : Engine) : Prop where
  features : left.features = right.features
  memory : left.memory = right.memory
  state : left.state = right.state
  place : left.state.phase.showsPlace = true → left.outputs.place = right.outputs.place
  outbound : left.state.phase.showsUnit = true → left.outputs.outbound = right.outputs.outbound

variable {left right : Engine} {ours theirs : Inputs}

section

-- there is no table for the state as a whole, so the tick is opened here
attribute [local grind =] await decode validate process writeData waitAck readData finish unitDone
  driveWriteEnable continueWith refuse

/-- The state behind a tick depends on the levels that are read and on no wire of
the engine's own. -/
theorem Agrees.state_tick (agrees : left.Agrees right)
    (same : ours.Agrees left.state.phase theirs) :
    (left.tick ours).state = (right.tick theirs).state := by
  obtain ⟨features, memory, state, -, -⟩ := agrees
  obtain ⟨start, request, acks, inbound⟩ := same
  have phases : right.state.phase = left.state.phase := congrArg State.phase state.symm
  change (advance _ ours).state = (advance _ theirs).state
  simp only [advance, phases]
  cases phase : left.state.phase with
  | serve step job => cases step <;> dsimp only [serve] <;> grind
  | _ => grind

end

theorem Agrees.memory_tick (agrees : left.Agrees right)
    (same : ours.Agrees left.state.phase theirs) :
    (left.tick ours).memory = (right.tick theirs).memory := by
  rw [Engine.memory_tick, Engine.memory_tick, ← agrees.state, ← agrees.memory]
  split
  next job phase => rw [same.inbound job phase]
  next => rfl

theorem showsPlace_afterUnit (job : Job) : job.afterUnit.showsPlace = false := by
  rw [Job.afterUnit]
  split <;> rfl

theorem showsUnit_afterUnit (job : Job) : job.afterUnit.showsUnit = false := by
  rw [Job.afterUnit]
  split <;> rfl

theorem showsResult_afterUnit (acked : Bool) (job : Job) :
    job.afterUnit.showsResult acked = false := by
  rw [Job.afterUnit]
  split <;> rfl

theorem cache?_afterUnit (job : Job) : job.afterUnit.cache? = some job.context.kind := rfl

theorem showsPlace_of_tick (shows : (left.tick ours).state.phase.showsPlace = true) :
    (∃ job, left.state.phase = .serve .process job) ∨ left.state.phase.showsPlace = true := by
  rw [Engine.phase_tick] at shows
  cases phase : left.state.phase with
  | serve step job =>
    simp only [phase] at shows
    cases step <;> grind [Phase.showsPlace, showsPlace_afterUnit]
  | _ =>
    simp only [phase] at shows
    grind [Phase.showsPlace]

theorem Agrees.place_tick (agrees : left.Agrees right)
    (shows : (left.tick ours).state.phase.showsPlace = true) :
    (left.tick ours).outputs.place.commit = (right.tick theirs).outputs.place.commit := by
  rw [Engine.place_tick, Engine.place_tick, ← agrees.state]
  rcases showsPlace_of_tick shows with ⟨job, phase⟩ | before
  · rw [phase]
    rfl
  · rw [agrees.place before]

theorem showsUnit_of_tick (shows : (left.tick ours).state.phase.showsUnit = true) :
    (∃ job, left.state.phase = .serve .writeData job) ∨ left.state.phase.showsUnit = true := by
  rw [Engine.phase_tick] at shows
  cases phase : left.state.phase with
  | serve step job =>
    simp only [phase] at shows
    cases step with
    | process =>
      by_cases drains : job.context.kind = .dataOut <;> simp [Phase.showsUnit, drains] at shows
    | _ => grind [Phase.showsUnit, showsUnit_afterUnit]
  | _ =>
    simp only [phase] at shows
    grind [Phase.showsUnit]

theorem Agrees.outbound_tick (agrees : left.Agrees right)
    (shows : (left.tick ours).state.phase.showsUnit = true) :
    (left.tick ours).outputs.outbound.commit = (right.tick theirs).outputs.outbound.commit := by
  rw [Engine.outbound_tick, Engine.outbound_tick, ← agrees.state, ← agrees.memory]
  rcases showsUnit_of_tick shows with ⟨job, phase⟩ | before
  · rw [phase]
    rfl
  · rw [agrees.outbound before]

/-- A tick keeps engines in agreement that read the same levels. -/
theorem Agrees.tick (agrees : left.Agrees right) (same : ours.Agrees left.state.phase theirs) :
    (left.tick ours).commit.Agrees (right.tick theirs).commit where
  features := by
    change (left.tick ours).features = (right.tick theirs).features
    rw [features_tick, features_tick, agrees.features]
  memory := agrees.memory_tick same
  state := agrees.state_tick same
  place := agrees.place_tick
  outbound := agrees.outbound_tick

/-- The cache that a phase serves was served before, or a start has named it. -/
theorem cache?_tick {kind : CacheKind}
    (served : (left.tick ours).state.phase.cache? = some kind) :
    left.state.phase.cache? = some kind ∨
      ours.start = true ∧ CacheKind.ofSelector? ours.selector = some kind := by
  rw [Engine.phase_tick] at served
  cases phase : left.state.phase with
  | serve step job =>
    simp only [phase] at served
    cases step <;> grind [Phase.cache?, cache?_afterUnit, nextUnit]
  | _ =>
    simp only [phase] at served
    grind [Phase.cache?, kind_contextOf]

end Engine

/-! ## The datapath -/

/-- The levels that reach two datapaths are the same as far as they are read: a
request at a start, and the line of a cache as long as it is served. -/
structure DatapathInputs.Agrees (served : Option CacheKind) (left right : DatapathInputs) :
    Prop where
  start : left.start = right.start
  selectOut : left.selectOut = right.selectOut
  request : left.start = true → left.request = right.request
  line : ∀ kind,
    served = some kind ∨ left.start = true ∧ CacheKind.ofSelector? left.selector = some kind →
      left.selectIn.get kind = right.selectIn.get kind

namespace Datapath

/-- Two datapaths have the same contents and are in the same state, and the wires
that are being read are the same. -/
structure Agrees (left right : Datapath) : Prop where
  leftHandshake : left.Handshake
  rightHandshake : right.Handshake
  engine : left.engine.Agrees right.engine
  contents : left.contents = right.contents
  ack : ∀ kind, (left.caches.get kind).ack = (right.caches.get kind).ack
  result : left.engine.state.phase.showsResult (left.caches.get .dataOut).ack = true →
    (left.caches.get .dataOut).outputs.data = (right.caches.get .dataOut).outputs.data

variable {left right : Datapath} {ours theirs : DatapathInputs}

/-- The output line follows its selector, unless that names no line or the line
being written. -/
theorem Handshake.outputLine_tick (handshake : left.Handshake) (inputs : DatapathInputs)
    (kind : CacheKind) :
    ((left.tick inputs).caches.get kind).outputLine =
      if (inputs.selectOut.get kind).toNat < (left.engine.features.get kind).lineCount ∧
          ¬(left.engine.state.phase.asserts kind ∧
            (inputs.selectIn.get kind).toNat = (inputs.selectOut.get kind).toNat) then
        (inputs.selectOut.get kind).toNat
      else (left.caches.get kind).outputLine := by
  rw [get_caches_tick]
  change Cache.outputLine (Cache.tick _ _) = _
  rw [Cache.outputLine_tick, handshake.geometry]
  simp only [cacheInputs, Cache.writeTarget, handshake.writeEnable, Wire.level_rest]
  grind

/-- A cache that is asked and has not answered takes the place and the unit from
the wires that hold them. -/
theorem Handshake.shows_of_asserts (handshake : left.Handshake) {kind : CacheKind}
    (asserted : left.engine.state.phase.asserts kind = true)
    (unserved : (left.caches.get kind).ack = false) :
    left.engine.state.phase.showsPlace = true ∧
      (kind ≠ .dataOut → left.engine.state.phase.showsUnit = true) := by
  have permitted := handshake.ack kind
  rw [unserved] at permitted
  cases phase : left.engine.state.phase with
  | await => simp [phase, Engine.Phase.asserts] at asserted
  | decode request => simp [phase, Engine.Phase.asserts] at asserted
  | serve step job =>
    rw [phase] at asserted permitted
    cases step with
    | waitAck =>
      obtain rfl : job.context.kind = kind := of_decide_eq_true asserted
      exact ⟨rfl, decide_eq_true⟩
    | readData =>
      -- the engine reads only what has been acknowledged
      have apart : job.context.kind ≠ kind := of_decide_eq_false permitted.symm
      exact absurd (of_decide_eq_true asserted) apart
    | _ => cases asserted

theorem cache?_of_asserts {phase : Engine.Phase} {kind : CacheKind}
    (asserted : phase.asserts kind = true) : phase.cache? = some kind := by
  cases phase with
  | serve step job =>
    cases step with
    | waitAck | readData => exact congrArg some (of_decide_eq_true asserted)
    | _ => cases asserted
  | _ => cases asserted

/-- A result is shown behind a tick in which the cache for results was asked. -/
theorem Handshake.asserts_of_showsResult (handshake : left.Handshake)
    (shows : (left.tick ours).engine.state.phase.showsResult
      ((left.tick ours).caches.get .dataOut).ack = true) :
    left.engine.state.phase.asserts .dataOut = true := by
  rw [handshake.ack_tick, phase_tick, Engine.phase_tick] at shows
  cases phase : left.engine.state.phase with
  | serve step job =>
    simp only [phase] at shows
    cases step with
    | process =>
      by_cases drains : job.context.kind = .dataOut <;>
        simp [Engine.Phase.showsResult, drains] at shows
    | _ => grind [Engine.Phase.showsResult, Engine.Phase.asserts, Engine.showsResult_afterUnit]
  | _ =>
    simp only [phase] at shows
    grind [Engine.Phase.showsResult]

/-- A cache for results that has answered shows its result as long as it is asked. -/
theorem showsResult_of_asserts {phase : Engine.Phase} (asserted : phase.asserts .dataOut = true) :
    phase.showsResult true = true := by
  cases phase with
  | serve step job =>
    cases step with
    | waitAck => exact (Bool.and_true _).trans asserted
    | readData => rfl
    | _ => cases asserted
  | _ => cases asserted

namespace Agrees

variable (agrees : left.Agrees right)
  (same : ours.Agrees left.engine.state.phase.cache? theirs)

include agrees

theorem phase : right.engine.state.phase = left.engine.state.phase :=
  congrArg Engine.State.phase agrees.engine.state.symm

theorem line (kind : CacheKind) :
    (left.caches.get kind).lines = (right.caches.get kind).lines := by
  rw [← get_lines_contents, ← get_lines_contents, agrees.contents]

theorem outputLine (kind : CacheKind) :
    (left.caches.get kind).outputLine = (right.caches.get kind).outputLine := by
  rw [← get_outputLine_contents, ← get_outputLine_contents, agrees.contents]

include same

theorem engineInputs :
    (left.engineInputs ours).Agrees left.engine.state.phase (right.engineInputs theirs) where
  start := same.start
  request start := by
    have request := same.request start
    simp only [DatapathInputs.request, TransferRequest.mk.injEq] at request
    exact request
  acks := by
    apply PerCache.ext_get
    intro kind
    rw [agrees.leftHandshake.acks, agrees.rightHandshake.acks, agrees.ack]
  inbound job phase := by
    have result := agrees.result (by rw [phase]; rfl)
    exact congrArg Wire.level result

theorem lines_tick (kind : CacheKind) :
    ((left.tick ours).caches.get kind).lines = ((right.tick theirs).caches.get kind).lines := by
  rw [agrees.leftHandshake.lines_tick, agrees.rightHandshake.lines_tick, agrees.phase,
    ← agrees.engine.features, ← agrees.contents, ← agrees.ack, ← agrees.line]
  by_cases asked : left.engine.state.phase.asserts kind = true ∧
      (left.caches.get kind).ack = false ∧ kind ≠ .dataOut
  · obtain ⟨asserted, unserved, loads⟩ := asked
    obtain ⟨shown, held⟩ := agrees.leftHandshake.shows_of_asserts asserted unserved
    rw [agrees.engine.place shown, agrees.engine.outbound (held loads),
      same.line kind (.inl (cache?_of_asserts asserted))]
  · rw [if_neg fun taken => asked ⟨taken.1, taken.2.1, taken.2.2.1⟩,
      if_neg fun taken => asked ⟨taken.1, taken.2.1, taken.2.2.1⟩]

theorem outputLine_tick (kind : CacheKind) :
    ((left.tick ours).caches.get kind).outputLine =
      ((right.tick theirs).caches.get kind).outputLine := by
  rw [agrees.leftHandshake.outputLine_tick, agrees.rightHandshake.outputLine_tick, agrees.phase,
    ← agrees.engine.features, ← same.selectOut, ← agrees.outputLine]
  by_cases asserted : left.engine.state.phase.asserts kind = true
  · rw [same.line kind (.inl (cache?_of_asserts asserted))]
  · simp only [asserted, Bool.false_eq_true, false_and]

/-- A tick keeps datapaths in agreement that read the same levels. -/
theorem tick : (left.tick ours).Agrees (right.tick theirs) where
  leftHandshake := agrees.leftHandshake.tick ours
  rightHandshake := agrees.rightHandshake.tick theirs
  engine := agrees.engine.tick (agrees.engineInputs same)
  contents := by
    apply contents_tick_eq
    · exact agrees.engine.memory_tick (agrees.engineInputs same)
    · intro kind
      rw [get_lines_contents, agrees.lines_tick same]
    · intro kind
      rw [get_outputLine_contents, agrees.outputLine_tick same]
  ack kind := by
    rw [agrees.leftHandshake.ack_tick, agrees.rightHandshake.ack_tick, agrees.phase]
  result shows := by
    have asserted := agrees.leftHandshake.asserts_of_showsResult shows
    rw [agrees.leftHandshake.dataWire_tick, agrees.rightHandshake.dataWire_tick, agrees.phase,
      ← agrees.engine.features, ← agrees.contents, ← agrees.ack]
    cases acked : (left.caches.get .dataOut).ack with
    | false =>
      obtain ⟨shown, -⟩ := agrees.leftHandshake.shows_of_asserts asserted acked
      rw [if_pos ⟨asserted, rfl⟩, if_pos ⟨asserted, rfl⟩, agrees.engine.place shown,
        same.line .dataOut (.inl (cache?_of_asserts asserted))]
    | true =>
      have before := agrees.result (by rw [acked]; exact showsResult_of_asserts asserted)
      have answered {asked : Prop} : ¬(asked ∧ true = false) := fun both => nomatch both.2
      rw [if_neg answered, if_neg answered, before]

omit same in
theorem deliver (results : Option (List UInt64)) :
    (left.deliver results).Agrees (right.deliver results) where
  leftHandshake := agrees.leftHandshake.deliver results
  rightHandshake := agrees.rightHandshake.deliver results
  engine := by
    rw [engine_deliver, engine_deliver]
    exact agrees.engine
  contents := by
    rw [agrees.leftHandshake.contents_deliver, agrees.rightHandshake.contents_deliver,
      agrees.contents, agrees.engine.features]
  ack kind := by
    rw [ack_deliver, ack_deliver, agrees.ack]
  result shows := by
    rw [engine_deliver, ack_deliver] at shows
    rw [outputs_deliver, outputs_deliver, agrees.result shows]

omit same in
theorem withMemory (memory : Memory) :
    (left.withMemory memory).Agrees (right.withMemory memory) where
  leftHandshake := agrees.leftHandshake.withMemory memory
  rightHandshake := agrees.rightHandshake.withMemory memory
  engine := {
    features := agrees.engine.features
    memory := rfl
    state := agrees.engine.state
    place := agrees.engine.place
    outbound := agrees.engine.outbound }
  contents := congrArg (fun contents : Contents => { contents with memory }) agrees.contents
  ack := agrees.ack
  result := agrees.result

end Agrees

end Datapath

end AccessController
