import AccessController.Proofs.Engine.Safety

/-!
# Where the units of a request go

A request is taken over from the levels of one tick (`Latch`), and the engine counts the
units that it moves from then on.  While a unit is under way its address, its place and
the number of units behind it are functions of the request and of that count alone, and
so is the record of a request that is served to its end.
-/

namespace AccessController

/-- The record of a request that is served to its end. -/
def TransferRequest.record (request : TransferRequest) (geometry : Geometry) (kind : CacheKind) :
    TransferRecord where
  kind
  startAddress := request.address.toNat
  finalAddress :=
    request.address.toNat + (request.unitCount geometry - 1) * geometry.stepBytes
  transferCount := if request.isWholeLine then geometry.blockTransferCount else 1
  transfers := request.unitCount geometry

/-- A job at the last unit of its request leaves the record of that request. -/
theorem Job.Fits.recordOf_eq {features : FeatureTable} {job : Job}
    (fits : job.Fits features job.done) (last : job.context.remaining = 0) :
    Engine.recordOf { job with done := job.done + 1 } =
      job.request.record (features.get job.context.kind) job.context.kind := by
  have units : job.request.unitCount (features.get job.context.kind) = job.done + 1 := by
    rw [← (TransferContext.Located.iff_unitCount.1 fits.located).2.2, last]
  rw [Engine.recordOf, TransferRequest.record, units, fits.located.address, fits.count]
  rfl

-- a line that is no whole number of units takes one unit more than cover it
example :
    TransferRequest.record ⟨1, 100, 127⟩
      { kind := some .dataIn, lineBytes := 5, lineCount := 1, widthBits := 8, granularityBits := 16 }
      .dataIn = ⟨.dataIn, 100, 106, 3, 4⟩ := by decide

namespace Engine

/-- A request as a tick takes it over, with the units that the engine had counted by
then. -/
structure Latch where
  request : TransferRequest
  counted : Nat

/-- The request that a tick takes over: the one on the wires when start is high and the
engine waits for it. -/
def latch? (engine : Engine) (inputs : Inputs) : Option Latch :=
  if engine.state.phase = .await ∧ engine.state.ready = false ∧ inputs.start = true then
    some ⟨⟨inputs.selector, inputs.address, inputs.place⟩, engine.state.stats.transfers⟩
  else none

/-- The last request that is taken over in some ticks, or an earlier one if there is none. -/
def lastLatch? (engine : Engine) (earlier : Option Latch) : List Inputs → Option Latch
  | [] => earlier
  | inputs :: later => (engine.cycled inputs).lastLatch? ((engine.latch? inputs).or earlier) later

/-- The request under way with the units that have been moved for it. -/
def Phase.served? : Phase → Option (TransferRequest × Nat)
  | .await => none
  | .decode request => some (request, 0)
  | .serve _ job => some (job.request, job.done)

variable {engine : Engine} {inputs : Inputs} {request : TransferRequest} {done : Nat}

/-- A job stays with its request, and a tick counts what it moves for it. -/
theorem served?_cycled_of_serve {step : Step} {job : Job}
    (phase : engine.state.phase = .serve step job)
    (served : (engine.cycled inputs).state.phase.served? = some (request, done)) :
    request = job.request ∧ done = job.done + engine.countedUnits inputs := by
  have next : (engine.cycled inputs).state.phase = _ := phase_tick engine inputs
  rw [next, phase] at served
  rw [countedUnits, phase]
  cases step with
  | waitAck =>
    dsimp only at served ⊢
    split at served
    next acked =>
      split at served
      next drains =>
        cases served
        exact ⟨rfl, by simp [drains]⟩
      next loads =>
        cases served
        exact ⟨rfl, by simp [acked, loads]⟩
    next waits =>
      cases served
      exact ⟨rfl, by simp [waits]⟩
  | readData =>
    cases served
    exact ⟨rfl, rfl⟩
  | validate | finish =>
    dsimp only at served
    split at served <;> cases served
    exact ⟨rfl, rfl⟩
  | process | writeData | writeEnable | block =>
    cases served
    exact ⟨rfl, rfl⟩

/-- What is under way behind a tick was taken over at that tick, or it was under way before
it with the units that the tick does not count. -/
theorem served?_cycled
    (served : (engine.cycled inputs).state.phase.served? = some (request, done)) :
    (engine.latch? inputs = some ⟨request, engine.state.stats.transfers⟩ ∧
        done + engine.state.stats.transfers = (engine.cycled inputs).state.stats.transfers) ∨
      (engine.latch? inputs = none ∧ ∃ before,
        engine.state.phase.served? = some (request, before) ∧
          done + engine.state.stats.transfers =
            before + (engine.cycled inputs).state.stats.transfers) := by
  have next : (engine.cycled inputs).state.phase = _ := phase_tick engine inputs
  have transfers : (engine.cycled inputs).state.stats.transfers = _ := transfers_tick engine inputs
  rw [transfers, latch?]
  cases phase : engine.state.phase with
  | await =>
    rw [next, phase] at served
    dsimp only at served
    split at served
    next starts =>
      cases served
      left
      have takes : engine.state.ready = false ∧ inputs.start = true := by simpa [and_comm] using starts
      simp [takes, countedUnits, phase]
    next => cases served
  | decode before =>
    rw [next, phase] at served
    dsimp only at served
    split at served
    · cases served
    · cases served
      exact .inr ⟨by simp, 0, rfl, by simp [countedUnits, phase]⟩
  | serve step job =>
    obtain ⟨rfl, units⟩ := served?_cycled_of_serve phase served
    exact .inr ⟨by simp, job.done, rfl, by omega⟩

/-- What is under way is the request that was taken over last, with the units that have
been counted since. -/
structure Tracks (latched : Option Latch) (engine : Engine) : Prop where
  fits : engine.state.phase.Fits engine.features
  served : ∀ request done, engine.state.phase.served? = some (request, done) →
    ∃ counted, latched = some ⟨request, counted⟩ ∧ done + counted = engine.state.stats.transfers

theorem tracks_new (features : FeatureTable) (memory : Memory) :
    Tracks none { features, memory } where
  fits := trivial
  served := by simp [Phase.served?]

variable {latched : Option Latch}

theorem Tracks.cycled (tracks : engine.Tracks latched) (inputs : Inputs) :
    (engine.cycled inputs).Tracks ((engine.latch? inputs).or latched) where
  fits := by
    rw [features_cycled]
    exact tracks.fits.cycled inputs
  served request done served := by
    rcases served?_cycled served with ⟨taken, units⟩ | ⟨none, before, underway, units⟩
    · exact ⟨_, by rw [taken, Option.some_or], units⟩
    · obtain ⟨counted, last, balance⟩ := tracks.served request before underway
      exact ⟨counted, by rw [none, Option.none_or, last], by omega⟩

theorem Tracks.follow (tracks : engine.Tracks latched) (levels : List Inputs) :
    (engine.follow levels).Tracks (engine.lastLatch? latched levels) := by
  induction levels generalizing engine latched with
  | nil => exact tracks
  | cons inputs later ih => exact ih (tracks.cycled inputs)

/-! ## Records -/

/-- Whether a request has been served to its end. -/
def Phase.isFinish : Phase → Bool
  | .serve .finish _ => true
  | _ => false

@[simp] theorem isFinish_afterUnit (job : Job) : job.afterUnit.isFinish = !job.context.block := by
  rw [Job.afterUnit]
  cases job.context.block <;> rfl

/-- A tick serves a request to its end. -/
def completes (engine : Engine) (inputs : Inputs) : Bool :=
  !engine.state.phase.isFinish && (engine.cycled inputs).state.phase.isFinish

/-- The record is written at the tick at which the last unit is done, and at no other. -/
theorem Phase.Fits.lastTransfer_cycled (fits : engine.state.phase.Fits engine.features)
    (inputs : Inputs) :
    (engine.completes inputs = true ∧ ∃ job : Job,
        engine.state.phase.served? = some (job.request, job.done) ∧
        job.Fits engine.features job.done ∧ job.context.block = false ∧
        (engine.cycled inputs).state.lastTransfer =
          some (recordOf { job with done := job.done + 1 })) ∨
      (engine.completes inputs = false ∧
        (engine.cycled inputs).state.lastTransfer = engine.state.lastTransfer) := by
  have next : (engine.cycled inputs).state.phase = _ := phase_tick engine inputs
  have record : (engine.cycled inputs).state.lastTransfer = _ := lastTransfer_tick engine inputs
  rw [completes, next, record]
  cases phase : engine.state.phase with
  | await =>
    refine .inr ⟨?_, rfl⟩
    dsimp only
    split <;> rfl
  | decode request =>
    refine .inr ⟨?_, rfl⟩
    dsimp only
    split <;> rfl
  | serve step job =>
    rw [phase] at fits
    cases step with
    | waitAck =>
      dsimp only
      by_cases last : inputs.acks.get job.context.kind = true ∧ job.context.kind ≠ .dataOut ∧
          ¬job.context.block = true
      · obtain ⟨acked, loads, final⟩ := last
        rw [Bool.not_eq_true] at final
        refine .inl ⟨?_, job, rfl, fits, final, ?_⟩
        · rw [if_pos acked, if_neg loads, isFinish_afterUnit, final]
          rfl
        · rw [if_pos ⟨acked, loads, by simp [final]⟩]
      · refine .inr ⟨?_, if_neg last⟩
        split
        · split
          · rfl
          next acked loads =>
            have more : job.context.block = true := by simpa [acked, loads] using last
            rw [isFinish_afterUnit, more]
            rfl
        · rfl
    | readData =>
      dsimp only
      rw [isFinish_afterUnit]
      cases final : job.context.block with
      | true => exact .inr ⟨rfl, if_pos rfl⟩
      | false => exact .inl ⟨rfl, job, rfl, fits.1, final, if_neg Bool.false_ne_true⟩
    | validate | process =>
      refine .inr ⟨?_, rfl⟩
      dsimp only
      split <;> rfl
    | writeData | writeEnable | block | finish => exact .inr ⟨rfl, rfl⟩

/-- The steps at which a unit is on its way. -/
def Step.onTheWay : List Step := [.process, .writeData, .writeEnable, .waitAck, .readData]

theorem Phase.Fits.fits_of_onTheWay {features : FeatureTable} {step : Step} {job : Job}
    (fits : (Phase.serve step job).Fits features) (member : step ∈ Step.onTheWay) :
    job.Fits features job.done := by
  cases step with
  | process | writeEnable | waitAck => exact fits
  | writeData | readData => exact fits.1
  | validate | block | finish => simp [Step.onTheWay] at member

/-- Units and records are where the request that was taken over last puts them. -/
structure Addressed (features : FeatureTable) (latched : Option Latch) (engine : Engine) : Prop where
  /-- The context of a unit on its way is a function of the request and of the units done,
  which are those counted since the request was taken over. -/
  unit : ∀ step ∈ Step.onTheWay, ∀ job, engine.state.phase = .serve step job →
    ∃ latch, latched = some latch ∧ latch.counted + job.done = engine.state.stats.transfers ∧
      CacheKind.ofSelector? latch.request.selector = some job.context.kind ∧
      job.context.Located (features.get job.context.kind) latch.request job.done
  /-- A request that is served to its end is recorded. -/
  recorded : ∀ inputs, engine.completes inputs = true →
    ∃ latch kind, latched = some latch ∧
      CacheKind.ofSelector? latch.request.selector = some kind ∧
      (engine.cycled inputs).state.lastTransfer =
        some (latch.request.record (features.get kind) kind)
  /-- Nothing else writes a record. -/
  kept : ∀ inputs, engine.completes inputs = false →
    (engine.cycled inputs).state.lastTransfer = engine.state.lastTransfer

theorem Tracks.addressed (tracks : engine.Tracks latched) :
    engine.Addressed engine.features latched where
  unit step member job phase := by
    have fits := tracks.fits
    rw [phase] at fits
    have fits := fits.fits_of_onTheWay member
    obtain ⟨counted, last, balance⟩ := tracks.served job.request job.done (by rw [phase]; rfl)
    exact ⟨_, last, by rw [← balance, Nat.add_comm], fits.known, fits.located⟩
  recorded inputs completes := by
    rcases tracks.fits.lastTransfer_cycled inputs with
      ⟨-, job, served, fits, final, record⟩ | ⟨incomplete, -⟩
    · obtain ⟨counted, last, -⟩ := tracks.served job.request job.done served
      have done : job.context.remaining = 0 := by simpa [fits.block] using final
      exact ⟨_, job.context.kind, last, fits.known, by rw [record, fits.recordOf_eq done]⟩
    · rw [completes] at incomplete
      cases incomplete
  kept inputs incomplete := by
    rcases tracks.fits.lastTransfer_cycled inputs with ⟨completes, -⟩ | ⟨-, unchanged⟩
    · rw [completes] at incomplete
      cases incomplete
    · exact unchanged

theorem features_follow (levels : List Inputs) :
    (engine.follow levels).features = engine.features := by
  induction levels generalizing engine with
  | nil => rfl
  | cons inputs later ih => exact ih.trans (features_cycled inputs)

/-- Addresses do not drift: from power-up on, whatever comes in, each unit is where its
request puts it, and so is the last one of a request that is served to its end. -/
theorem addressed_follow (features : FeatureTable) (memory : Memory) (levels : List Inputs) :
    (follow { features, memory } levels).Addressed features
      (lastLatch? { features, memory } none levels) := by
  have addressed := ((tracks_new features memory).follow levels).addressed
  rwa [features_follow] at addressed

end Engine

end AccessController
