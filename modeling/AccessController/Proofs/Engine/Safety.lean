import AccessController.Proofs.Datapath.Transfer

/-!
# The engine under any levels

The engine alone, with acknowledgements and inbound units that may come at any time or
never.  What a phase says about its job (`Phase.Fits`) does not depend on them, and
neither does which write enable is high, so a tick keeps both.
-/

namespace AccessController

/-- A job is at a unit of its request. -/
structure Job.Fits (features : FeatureTable) (index : Nat) (job : Job) : Prop
    extends Job.Sound features job where
  known : CacheKind.ofSelector? job.request.selector = some job.context.kind
  located : job.context.Located (features.get job.context.kind) job.request index
  count : job.context.count =
    if job.request.isWholeLine then (features.get job.context.kind).blockTransferCount else 1

/-- What a phase says about its job: which unit it is at, that results are read and not
written, and that the step to a further unit has one to go to. -/
def Engine.Phase.Fits (features : FeatureTable) : Engine.Phase → Prop
  | .await | .decode _ => True
  | .serve .writeData job => job.Fits features job.done ∧ job.context.kind ≠ .dataOut
  | .serve .readData job => job.Fits features job.done ∧ job.context.kind = .dataOut
  | .serve .validate job => job.Fits features job.done ∧ job.done = 0
  | .serve .block job =>
    ∃ index, job.done = index + 1 ∧ job.Fits features index ∧ 0 < job.context.remaining
  | .serve .finish job =>
    ∃ index, job.done = index + 1 ∧ job.Fits features index ∧ job.context.remaining = 0
  | .serve _ job => job.Fits features job.done

namespace Job.Fits

variable {features : FeatureTable} {index : Nat} {job : Job}

theorem contextOf {request : TransferRequest} {kind : CacheKind}
    (known : CacheKind.ofSelector? request.selector = some kind) :
    Job.Fits features 0 ⟨request, Engine.contextOf (features.get kind) kind request, 0⟩ where
  toSound := Job.Sound.contextOf features kind request 0
  known := by rw [known, Engine.kind_contextOf]
  located := by
    rw [Engine.kind_contextOf]
    exact .contextOf ..
  count := by
    simp only [Engine.contextOf, TransferRequest.isWholeLine]
    grind

theorem nextUnit (fits : job.Fits features index) (more : 0 < job.context.remaining) :
    Job.Fits features (index + 1) { job with context := Engine.nextUnit job.context } where
  toSound := fits.toSound.nextUnit
  known := fits.known
  located := fits.located.nextUnit fits.step more
  count := fits.count

/-- Behind a unit there is a further one, or the request is done. -/
theorem afterUnit (fits : job.Fits features job.done) : job.afterUnit.Fits features := by
  have later : Job.Fits features job.done { job with done := job.done + 1 } :=
    ⟨⟨fits.step, fits.block⟩, fits.known, fits.located, fits.count⟩
  rw [Job.afterUnit, fits.block]
  cases rest : job.context.remaining with
  | zero => exact ⟨job.done, rfl, later, rest⟩
  | succ count => exact ⟨job.done, rfl, later, rest ▸ Nat.succ_pos count⟩

end Job.Fits

namespace Engine

/-- A tick with the clock edge behind it. -/
def cycled (engine : Engine) (inputs : Inputs) : Engine := (engine.tick inputs).commit

/-- The ticks of an engine under given levels. -/
def follow (engine : Engine) (levels : List Inputs) : Engine := levels.foldl cycled engine

variable {engine : Engine}

@[simp] theorem features_cycled (inputs : Inputs) :
    (engine.cycled inputs).features = engine.features := features_tick engine inputs

/-- No level of the inputs takes a job away from what its phase says about it. -/
theorem Phase.Fits.cycled (fits : engine.state.phase.Fits engine.features) (inputs : Inputs) :
    (engine.cycled inputs).state.phase.Fits engine.features := by
  change (engine.tick inputs).state.phase.Fits _
  rw [phase_tick]
  cases phase : engine.state.phase with
  | await =>
    dsimp only
    split <;> trivial
  | decode request =>
    dsimp only
    cases known : CacheKind.ofSelector? request.selector with
    | none => trivial
    | some kind => exact ⟨Job.Fits.contextOf known, rfl⟩
  | serve step job =>
    rw [phase] at fits
    cases step with
    | validate =>
      dsimp only
      split
      · trivial
      · exact fits.1
    | process =>
      dsimp only
      split
      · exact fits
      next loads => exact ⟨fits, loads⟩
    | writeData => exact fits.1
    | writeEnable => exact fits
    | waitAck =>
      dsimp only
      split
      · split
        next drains => exact ⟨fits, drains⟩
        next => exact Job.Fits.afterUnit fits
      · exact fits
    | readData => exact fits.1.afterUnit
    | block =>
      obtain ⟨index, done, fits, more⟩ := fits
      have next := fits.nextUnit more
      rwa [← done] at next
    | finish =>
      dsimp only
      split
      · exact fits
      · trivial

/-- What holds of the engine between any two ticks. -/
structure Safe (engine : Engine) : Prop where
  /-- There is a context in exactly the states that work with one. -/
  context : engine.state.phase.context?.isSome = true ↔
    engine.state.phase.label ∈ ["Validate", "Process", "WriteData", "WriteEn", "WaitAck",
      "ReadData", "Block", "Finish"]
  /-- Further units are announced exactly while some remain. -/
  block : ∀ context, engine.state.phase.context? = some context →
    (context.block = true ↔ 0 < context.remaining)
  /-- The units that remain can be counted down. -/
  more : ∀ job, engine.state.phase = .serve .block job → 0 < job.context.remaining
  reads : ∀ job, engine.state.phase = .serve .readData job → job.context.kind = .dataOut
  /-- A write enable is high while the engine waits for its cache or reads what that has put
  up. -/
  writeEnable : ∀ kind, (engine.outputs.writeEnable.get kind).level = true ↔
    ∃ job, (engine.state.phase = .serve .waitAck job ∨ engine.state.phase = .serve .readData job) ∧
      job.context.kind = kind
  single : ∀ left right, (engine.outputs.writeEnable.get left).level = true →
    (engine.outputs.writeEnable.get right).level = true → left = right

/-- The phase fits its job, and the write enables belong to the phase. -/
structure Driven (engine : Engine) : Prop where
  fits : engine.state.phase.Fits engine.features
  writeEnable : ∀ kind, engine.outputs.writeEnable.get kind = .rest (engine.state.phase.asserts kind)

theorem driven_new (features : FeatureTable) (memory : Memory) :
    Driven { features, memory } where
  fits := trivial
  writeEnable kind := PerCache.get_replicate (Wire.rest false) kind

theorem Driven.cycled (driven : engine.Driven) (inputs : Inputs) :
    (engine.cycled inputs).Driven where
  fits := by
    rw [features_cycled]
    exact driven.fits.cycled inputs
  writeEnable kind := writeEnable_commit_tick (driven.writeEnable kind) inputs

theorem Driven.follow (driven : engine.Driven) (levels : List Inputs) :
    (engine.follow levels).Driven := by
  induction levels generalizing engine with
  | nil => exact driven
  | cons inputs rest ih => exact ih (driven.cycled inputs)

theorem Phase.Fits.sound {features : FeatureTable} {step : Step} {job : Job}
    (fits : (Phase.serve step job).Fits features) : job.Sound features := by
  cases step with
  | block =>
    obtain ⟨_, _, fits, _⟩ := fits
    exact fits.toSound
  | finish =>
    obtain ⟨_, _, fits, _⟩ := fits
    exact fits.toSound
  | validate | writeData | readData => exact fits.1.toSound
  | process | writeEnable | waitAck => exact Job.Fits.toSound fits

/-- The write enable of a cache is asserted while a unit is handed over. -/
theorem Phase.asserts_iff {phase : Phase} {kind : CacheKind} :
    phase.asserts kind = true ↔
      ∃ job, (phase = .serve .waitAck job ∨ phase = .serve .readData job) ∧
        job.context.kind = kind := by
  cases phase with
  | serve step job => cases step <;> simp [asserts]
  | _ => simp [asserts]

theorem Driven.safe (driven : engine.Driven) : engine.Safe where
  context := by
    cases engine.state.phase with
    | serve step job => cases step <;> simp [Phase.context?, Phase.label]
    | _ => simp [Phase.context?, Phase.label]
  block context present := by
    have fits := driven.fits
    cases phase : engine.state.phase with
    | serve step job =>
      rw [phase] at fits present
      cases present
      rw [fits.sound.block, decide_eq_true_iff]
    | _ =>
      rw [phase] at present
      cases present
  more job phase := by
    have fits := driven.fits
    rw [phase] at fits
    obtain ⟨_, _, _, more⟩ := fits
    exact more
  reads job phase := by
    have fits := driven.fits
    rw [phase] at fits
    exact fits.2
  writeEnable kind := by
    rw [driven.writeEnable, Wire.level_rest]
    exact Phase.asserts_iff
  single left right high other := by
    rw [driven.writeEnable, Wire.level_rest, Phase.asserts_iff] at high other
    obtain ⟨job, served, rfl⟩ := high
    obtain ⟨same, phase, rfl⟩ := other
    rcases served with served | served <;> rw [served] at phase <;> simp_all

/-- From power-up on the engine is safe, whatever comes in at its ticks. -/
theorem safe_follow (features : FeatureTable) (memory : Memory) (levels : List Inputs) :
    (follow { features, memory } levels).Safe :=
  ((driven_new features memory).follow levels).safe

end Engine

end AccessController
