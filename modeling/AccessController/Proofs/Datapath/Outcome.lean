import AccessController.Proofs.Datapath.Transfer

/-!
# The outcome of a request under way

`outcome` adds to the contents of a datapath what the engine has still to move
for the request it is serving, so it says in the middle of a transfer what the
transfer ends with.  A tick leaves it alone (`Streaming.outcome_tick`), whatever
the phase, and only a start adds a request to it (`Streaming.outcome_start`).
-/

namespace AccessController

namespace Contents

variable (contents : Contents) (features : FeatureTable) (selectIn : PerCache UInt8)

/-- Moves the current unit of a job and the ones after it. -/
def moveFrom (context : TransferContext) : Contents :=
  contents.moveUnits (features.get context.kind) context.kind (selectIn.get context.kind).toNat
    context.place context.address (context.remaining + 1)

/-- Moves the units of a job after the current one. -/
def moveBehind (context : TransferContext) : Contents :=
  contents.moveUnits (features.get context.kind) context.kind (selectIn.get context.kind).toNat
    (context.place + 1) (context.address + context.step) context.remaining

theorem moveFrom_eq {context : TransferContext}
    (step : context.step = (features.get context.kind).stepBytes) :
    contents.moveFrom features selectIn context =
      (contents.moveUnit (features.get context.kind) context.kind
        (selectIn.get context.kind).toNat context.place context.address).moveBehind
          features selectIn context := by
  rw [moveFrom, moveBehind, moveUnits, step]

theorem moveBehind_eq {context : TransferContext} (more : 0 < context.remaining) :
    contents.moveBehind features selectIn context =
      contents.moveFrom features selectIn (Engine.nextUnit context) := by
  have same : context.remaining - 1 + 1 = context.remaining := Nat.sub_add_cancel more
  rw [moveFrom, moveBehind, Engine.nextUnit, same]

theorem moveBehind_of_last {context : TransferContext} (last : context.remaining = 0) :
    contents.moveBehind features selectIn context = contents := by
  rw [moveBehind, last, moveUnits]

theorem moveUnits_of_beyond {geometry : Geometry} (data : geometry.isData) (kind : CacheKind)
    (line address : Nat) {place : Nat} (beyond : geometry.places ≤ place) (count : Nat) :
    contents.moveUnits geometry kind line place address count = contents := by
  induction count generalizing place address with
  | zero => rfl
  | succ count ih =>
    have refused : ¬contents.Grants geometry kind line place :=
      fun grants => absurd (grants.2.1 data) (Nat.not_lt.2 beyond)
    rw [moveUnits, contents.moveUnit_of_not_grants _ _ _ _ _ refused]
    exact ih (address + geometry.stepBytes) (Nat.le_succ_of_le beyond)

theorem moveFrom_contextOf {request : TransferRequest} {kind : CacheKind}
    (known : CacheKind.ofSelector? request.selector = some kind) :
    contents.moveFrom features selectIn
        (Engine.contextOf (features.get kind) kind request) =
      contents.transfer features selectIn request := by
  rw [moveFrom, Engine.remaining_contextOf, Engine.place_contextOf, Engine.address_contextOf,
    Engine.kind_contextOf, transfer_eq _ known]

end Contents

namespace Datapath

/-- The contents of a datapath once the request under way is done. -/
def outcome (datapath : Datapath) (selectIn : PerCache UInt8) : Contents :=
  let features := datapath.engine.features
  match datapath.engine.state.phase with
  | .await => datapath.contents
  | .decode request => datapath.contents.transfer features selectIn request
  | .serve .waitAck job =>
    if job.context.kind ≠ .dataOut ∧ (datapath.caches.get job.context.kind).ack then
      datapath.contents.moveBehind features selectIn job.context
    else datapath.contents.moveFrom features selectIn job.context
  | .serve .block job => datapath.contents.moveBehind features selectIn job.context
  | .serve .finish _ => datapath.contents
  | .serve _ job => datapath.contents.moveFrom features selectIn job.context

variable {datapath : Datapath} {inputs : DatapathInputs}

/-- A job that reaches beyond its line ends with the contents that it began
with. -/
theorem moveFrom_of_beyond (contents : Contents) {features : FeatureTable}
    (selectIn : PerCache UInt8) {job : Job} (beyond : job.beyond features) :
    contents.moveFrom features selectIn job.context = contents := by
  simp only [Job.beyond, Bool.and_eq_true, decide_eq_true_eq] at beyond
  have data : (features.get job.context.kind).isData := by
    simp [Geometry.isData, beyond.1]
  exact contents.moveUnits_of_beyond data _ _ _ beyond.2 _

/-- Behind a unit the units after it are still to be moved. -/
theorem outcome_afterUnit {job : Job} (selectIn : PerCache UInt8)
    (sound : job.Sound datapath.engine.features)
    (after : datapath.engine.state.phase = job.afterUnit) :
    datapath.outcome selectIn =
      datapath.contents.moveBehind datapath.engine.features selectIn job.context := by
  rw [outcome, after, Job.afterUnit, sound.block]
  cases remaining : job.context.remaining with
  | zero =>
    rw [Contents.moveBehind_of_last _ _ _ remaining]
    rfl
  | succ count => rfl

section Steps

variable (streaming : datapath.Streaming inputs.selectIn)
  (quiet : datapath.Quiet inputs.selectOut) {job : Job}

include streaming quiet

theorem Streaming.outcome_tick_decode {request : TransferRequest}
    (phase : datapath.engine.state.phase = .decode request) :
    (datapath.tick inputs).outcome inputs.selectIn = datapath.outcome inputs.selectIn := by
  have same := streaming.contents_tick_of_unasked quiet (by simp [phase, Engine.Phase.asserts])
  have next := datapath.phase_tick inputs
  simp only [Engine.phase_tick, phase] at next
  rw [outcome, outcome, phase, same, features_tick]
  split at next
  next unknown => simp only [next, Contents.transfer, unknown]
  next kind known =>
    rw [next]
    exact Contents.moveFrom_contextOf _ _ _ known

theorem Streaming.outcome_tick_validate (phase : datapath.engine.state.phase = .serve .validate job) :
    (datapath.tick inputs).outcome inputs.selectIn = datapath.outcome inputs.selectIn := by
  have same := streaming.contents_tick_of_unasked quiet (by simp [phase, Engine.Phase.asserts])
  have next := datapath.phase_tick inputs
  simp only [Engine.phase_tick, phase] at next
  rw [outcome, outcome, phase, same, features_tick]
  split at next
  next beyond =>
    rw [next]
    exact (moveFrom_of_beyond _ _ beyond).symm
  next => rw [next]

/-- While the cache for results is waited for, nothing is moved. -/
theorem Streaming.outcome_tick_drains (phase : datapath.engine.state.phase = .serve .waitAck job)
    (drains : job.context.kind = .dataOut) :
    (datapath.tick inputs).outcome inputs.selectIn = datapath.outcome inputs.selectIn := by
  have same : (datapath.tick inputs).contents = datapath.contents := by
    refine streaming.contents_tick_of_still quiet (by simp [phase]) fun kind served loads => ?_
    simp only [phase, Engine.Phase.asserts, drains, decide_eq_true_eq] at served
    exact absurd served.symm loads
  have next := datapath.phase_tick inputs
  simp only [Engine.phase_tick, phase] at next
  rw [outcome, outcome, phase, same, features_tick]
  split at next <;> simp only [next, drains, ne_eq, not_true_eq_false, false_and, if_false]

/-- A cache that is waited for takes the unit in with the first tick and is done with the
second. -/
theorem Streaming.outcome_tick_loads (phase : datapath.engine.state.phase = .serve .waitAck job)
    (loads : job.context.kind ≠ .dataOut) :
    (datapath.tick inputs).outcome inputs.selectIn = datapath.outcome inputs.selectIn := by
  have next := datapath.phase_tick inputs
  simp only [Engine.phase_tick, phase, streaming.acks] at next
  by_cases acked : (datapath.caches.get job.context.kind).ack = true
  · have same : (datapath.tick inputs).contents = datapath.contents := by
      refine streaming.contents_tick_of_still quiet (by simp [phase]) ?_
      simp only [phase, Engine.Phase.asserts, decide_eq_true_eq]
      rintro kind rfl -
      exact acked
    rw [if_pos acked, if_neg loads] at next
    rw [outcome_afterUnit inputs.selectIn (streaming.sound_tick phase) next, same, features_tick,
      outcome, phase]
    simp [loads, acked]
  · have moved := streaming.contents_tick_waitAck quiet phase loads (Bool.eq_false_iff.2 acked)
    rw [if_neg acked] at next
    rw [outcome, outcome, phase, moved, features_tick, next]
    simp only [streaming.ack_tick, phase, Engine.Phase.asserts, loads, acked, decide_true, and_self,
      ne_eq, not_false_eq_true, if_true]
    exact (Contents.moveFrom_eq _ _ _ (streaming.carries phase).sound.step).symm

theorem Streaming.outcome_tick_readData (phase : datapath.engine.state.phase = .serve .readData job) :
    (datapath.tick inputs).outcome inputs.selectIn = datapath.outcome inputs.selectIn := by
  have moved := streaming.contents_tick_readData quiet phase
  have next := datapath.phase_tick inputs
  simp only [Engine.phase_tick, phase] at next
  rw [outcome_afterUnit inputs.selectIn (streaming.sound_tick phase) next, moved, features_tick,
    outcome, phase]
  exact (Contents.moveFrom_eq _ _ _ (streaming.carries phase).sound.step).symm

/-- Between two units nothing is moved, and what is left to do is the same. -/
theorem Streaming.outcome_tick_between {step : Engine.Step}
    (phase : datapath.engine.state.phase = .serve step job)
    (between : step = .process ∨ step = .writeData ∨ step = .writeEnable ∨ step = .block ∨
      step = .finish) :
    (datapath.tick inputs).outcome inputs.selectIn = datapath.outcome inputs.selectIn := by
  have same : (datapath.tick inputs).contents = datapath.contents := by
    refine streaming.contents_tick_of_unasked quiet fun kind => ?_
    rcases between with rfl | rfl | rfl | rfl | rfl <;> rw [phase] <;> rfl
  have next := datapath.phase_tick inputs
  rw [Engine.phase_tick] at next
  rw [outcome, outcome, phase, same, features_tick]
  rcases between with rfl | rfl | rfl | rfl | rfl <;> simp only [phase] at next
  case inl => split at next <;> rw [next]
  case inr.inl => rw [next]
  case inr.inr.inl =>
    rw [next]
    simp only [streaming.ack_tick, phase, Engine.Phase.asserts, Bool.false_eq_true, and_false,
      if_false]
  case inr.inr.inr.inl =>
    rw [next]
    exact (Contents.moveBehind_eq _ _ _ ((streaming.carries phase).more rfl)).symm
  case inr.inr.inr.inr => split at next <;> rw [next]

end Steps

/-- A tick leaves the outcome of the request under way alone. -/
theorem Streaming.outcome_tick (streaming : datapath.Streaming inputs.selectIn)
    (quiet : datapath.Quiet inputs.selectOut)
    (unasked : datapath.engine.state.phase = .await → inputs.start = true →
      datapath.engine.state.ready = true) :
    (datapath.tick inputs).outcome inputs.selectIn = datapath.outcome inputs.selectIn := by
  cases phase : datapath.engine.state.phase with
  | await =>
    have next := datapath.phase_tick inputs
    simp only [Engine.phase_tick, phase] at next
    rw [if_neg (by grind [engineInputs])] at next
    rw [outcome, outcome, next, phase]
    exact streaming.contents_tick_of_unasked quiet (by simp [phase, Engine.Phase.asserts])
  | decode request => exact streaming.outcome_tick_decode quiet phase
  | serve step job =>
    cases step with
    | validate => exact streaming.outcome_tick_validate quiet phase
    | waitAck =>
      by_cases drains : job.context.kind = .dataOut
      · exact streaming.outcome_tick_drains quiet phase drains
      · exact streaming.outcome_tick_loads quiet phase drains
    | readData => exact streaming.outcome_tick_readData quiet phase
    | _ => exact streaming.outcome_tick_between quiet phase (by simp)

theorem Idle.phase_start (idle : datapath.Idle) (start : inputs.start = true) :
    (datapath.tick inputs).engine.state.phase = .decode inputs.request := by
  simp [phase_tick, Engine.phase_tick, idle.phase, idle.ready_low, engineInputs, start,
    DatapathInputs.request]

/-- A start adds the request that it is given. -/
theorem Idle.outcome_start (idle : datapath.Idle) (quiet : datapath.Quiet inputs.selectOut)
    (start : inputs.start = true) :
    (datapath.tick inputs).outcome inputs.selectIn =
      datapath.contents.transfer datapath.engine.features inputs.selectIn inputs.request := by
  have same := (idle.streaming inputs.selectIn).contents_tick_of_still quiet
    (by simp [idle.phase]) (by simp [idle.phase, Engine.Phase.asserts])
  rw [outcome, idle.phase_start start, same, features_tick]

end Datapath

end AccessController
