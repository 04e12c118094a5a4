import Mathlib.Data.Nat.Count
import AccessController.Proofs.Engine.Addressing

/-!
# Rounds of start and ready

The engine listens until a start is high, serves the request that came with it, and answers
with ready until start is low again.  A tick goes on to the next part of the round or stays
where it is (`Shows.mode_cycled`), so requests, rising edges of ready and falling edges of
ready take turns: a start that is held, repeated or raised in the very tick in which ready
falls is never taken for a second request.
-/

namespace AccessController

namespace Engine

/-- The parts of a round. -/
inductive Mode where
  | listening
  | serving
  | answering
  deriving DecidableEq

/-- The part of the round that the engine is in. -/
def mode (engine : Engine) : Mode :=
  if engine.state.ready then .answering
  else if engine.state.phase = .await then .listening
  else .serving

/-- A tick ends the request under way. -/
def answers (engine : Engine) (inputs : Inputs) : Bool :=
  match engine.state.phase with
  | .decode request => (CacheKind.ofSelector? request.selector).isNone
  | .serve .validate job => job.beyond engine.features
  | .serve .waitAck job =>
    inputs.acks.get job.context.kind && decide (job.context.kind ≠ .dataOut) && !job.context.block
  | .serve .readData job => !job.context.block
  | _ => false

/-- Ready is on its wire, and it is high in those phases only that have it. -/
structure Shows (engine : Engine) : Prop where
  wire : engine.outputs.ready.level = engine.state.ready
  permits : engine.state.phase.permitsReady engine.state.ready

variable {engine : Engine}

theorem mode_eq_answering_iff : engine.mode = .answering ↔ engine.state.ready = true := by
  rw [mode]
  split
  next high => exact iff_of_true rfl high
  next low => split <;> simp [low]

theorem mode_eq_listening_iff :
    engine.mode = .listening ↔ engine.state.ready = false ∧ engine.state.phase = .await := by
  rw [mode]
  split
  next high => simp [high]
  next low => split <;> simp_all

theorem mode_eq_serving_iff :
    engine.mode = .serving ↔ engine.state.ready = false ∧ engine.state.phase ≠ .await := by
  rw [mode]
  split
  next high => simp [high]
  next low => split <;> simp_all

/-! ## A tick of a round -/

namespace Shows

variable (shows : engine.Shows)

include shows

theorem cycled (inputs : Inputs) : (engine.cycled inputs).Shows where
  wire := congrArg (·.commit.level) (readyWire_tick engine inputs)
  permits := permitsReady_tick shows.permits inputs

theorem level_ready : engine.outputs.ready.level = true ↔ engine.mode = .answering := by
  rw [shows.wire, mode_eq_answering_iff]

/-- Start is looked at before a request and behind it, and the request itself ends when the
engine says so. -/
theorem mode_cycled (inputs : Inputs) :
    (engine.cycled inputs).mode =
      match engine.mode with
      | .listening => if inputs.start then .serving else .listening
      | .serving => if engine.answers inputs then .answering else .serving
      | .answering => if inputs.start then .answering else .listening := by
  have next : (engine.cycled inputs).state.phase = _ := phase_tick engine inputs
  have ready : (engine.cycled inputs).state.ready = _ := ready_tick engine inputs
  cases mode : engine.mode with
  | listening =>
    obtain ⟨low, await⟩ := mode_eq_listening_iff.1 mode
    rw [await, low] at next ready
    cases start : inputs.start <;> simp_all [Engine.mode]
  | answering =>
    have high := mode_eq_answering_iff.1 mode
    rcases (high ▸ shows.permits).await_or_finish with await | ⟨job, finish⟩
    · rw [await, high] at next ready
      cases start : inputs.start <;> simp_all [Engine.mode]
    · rw [finish, high] at next ready
      cases start : inputs.start <;> simp_all [Engine.mode]
  | serving =>
    obtain ⟨low, busy⟩ := mode_eq_serving_iff.1 mode
    have permits := shows.permits
    dsimp only
    cases phase : engine.state.phase with
    | await => exact absurd phase busy
    | decode request =>
      rw [phase, low] at next ready
      cases known : CacheKind.ofSelector? request.selector <;> simp_all [Engine.mode, answers]
    | serve step job =>
      rw [phase, low] at next ready permits
      cases step with
      | finish => cases permits
      | waitAck | readData | validate => grind [Engine.mode, answers, Job.afterUnit]
      | _ => simp_all [Engine.mode, answers]

theorem serving_of_answers {inputs : Inputs} (answers : engine.answers inputs = true) :
    engine.mode = .serving := by
  have permits := shows.permits
  rw [mode_eq_serving_iff]
  cases phase : engine.state.phase with
  | await =>
    rw [Engine.answers, phase] at answers
    cases answers
  | decode request =>
    rw [phase] at permits
    exact ⟨permits, Phase.noConfusion⟩
  | serve step job =>
    rw [phase] at permits
    rw [Engine.answers, phase] at answers
    cases step with
    | finish => cases answers
    | _ => exact ⟨permits, Phase.noConfusion⟩

/-- While it serves a request the engine does not look at the wires that requests come on. -/
theorem tick_of_serving (serving : engine.mode = .serving) {inputs other : Inputs}
    (acks : other.acks = inputs.acks) (inbound : other.inbound = inputs.inbound) :
    engine.tick other = engine.tick inputs := by
  obtain ⟨low, busy⟩ := mode_eq_serving_iff.1 serving
  have permits := shows.permits
  simp only [tick, advance]
  cases phase : engine.state.phase with
  | await => exact absurd phase busy
  | decode request => rfl
  | serve step job =>
    rw [phase, low] at permits
    cases step with
    | finish => cases permits
    | waitAck => simp only [serve, waitAck, acks]
    | readData => simp only [serve, readData, inbound]
    | _ => rfl

/-- Behind a request a start holds ready, and it does nothing else. -/
theorem cycled_of_answering (answering : engine.mode = .answering) (inputs : Inputs) :
    (engine.cycled inputs).memory = engine.memory ∧
      (engine.cycled inputs).state.stats = engine.state.stats ∧
      (engine.cycled inputs).state.lastTransfer = engine.state.lastTransfer := by
  have high := mode_eq_answering_iff.1 answering
  have advances : engine.cycled inputs =
      (({ engine with cycle := engine.cycle + 1 }.advance inputs).driveReady).commit := rfl
  rw [advances, advance]
  rcases (high ▸ shows.permits).await_or_finish with phase | ⟨job, phase⟩
  · simp only [phase, await, high, if_true]
    split <;> exact ⟨rfl, rfl, rfl⟩
  · simp only [phase, serve, finish]
    split <;> exact ⟨rfl, rfl, rfl⟩

end Shows

theorem latch?_isSome_iff {inputs : Inputs} :
    (engine.latch? inputs).isSome = true ↔
      engine.mode = .listening ∧ inputs.start = true := by
  rw [latch?, mode_eq_listening_iff]
  split
  next takes => exact iff_of_true rfl ⟨⟨takes.2.1, takes.1⟩, takes.2.2⟩
  next waits =>
    refine iff_of_false Bool.false_ne_true ?_
    rintro ⟨⟨low, await⟩, start⟩
    exact waits ⟨await, low, start⟩

theorem requests_cycled (inputs : Inputs) :
    (engine.cycled inputs).state.stats.requests =
      engine.state.stats.requests + if (engine.latch? inputs).isSome then 1 else 0 := by
  have requests : (engine.cycled inputs).state.stats.requests = _ := requests_tick engine inputs
  rw [requests, latch?]
  grind

/-! ## Ends of requests -/

/-- A tick ends a request that was taken over before: for want of a cache, of a place, or
of a further unit. -/
inductive Latch.EndsIn (features : FeatureTable) (latch : Latch) (before after : Engine) : Prop
  | aborted (unknown : CacheKind.ofSelector? latch.request.selector = none)
      (counted : after.state.stats.abortedRequests = before.state.stats.abortedRequests + 1)
  | rejected {kind : CacheKind}
      (known : CacheKind.ofSelector? latch.request.selector = some kind) (data : kind.isData)
      (beyond : (features.get kind).places ≤ latch.request.firstPlace)
      (counted : after.state.stats.rejectedRequests = before.state.stats.rejectedRequests + 1)
  | completed {kind : CacheKind}
      (known : CacheKind.ofSelector? latch.request.selector = some kind)
      (unit : after.state.stats.transfers = before.state.stats.transfers + 1)
      (last : after.state.stats.transfers =
        latch.counted + latch.request.unitCount (features.get kind))

theorem answers_of_aborted {inputs : Inputs}
    (counted : (engine.cycled inputs).state.stats.abortedRequests =
      engine.state.stats.abortedRequests + 1) : engine.answers inputs = true := by
  have aborted : (engine.cycled inputs).state.stats.abortedRequests = _ :=
    abortedRequests_tick engine inputs
  rw [aborted] at counted
  rw [answers]
  cases phase : engine.state.phase with
  | decode request => simpa [phase] using counted
  | _ => simp [phase] at counted

theorem answers_of_rejected {inputs : Inputs}
    (counted : (engine.cycled inputs).state.stats.rejectedRequests =
      engine.state.stats.rejectedRequests + 1) : engine.answers inputs = true := by
  have rejected : (engine.cycled inputs).state.stats.rejectedRequests = _ :=
    rejectedRequests_tick engine inputs
  rw [rejected] at counted
  rw [answers]
  cases phase : engine.state.phase with
  | serve step job => cases step <;> simp_all
  | _ => simp [phase] at counted

variable {latched : Option Latch}

/-- A unit on its way is the last one of the request that was taken over last if the units
counted since make the request complete with it. -/
theorem Tracks.block_eq_false_iff (tracks : engine.Tracks latched) {step : Step} {job : Job}
    (phase : engine.state.phase = .serve step job) (member : step ∈ Step.onTheWay) :
    ∃ latch, latched = some latch ∧
      CacheKind.ofSelector? latch.request.selector = some job.context.kind ∧
      (job.context.block = false ↔
        engine.state.stats.transfers + 1 =
          latch.counted + latch.request.unitCount (engine.features.get job.context.kind)) := by
  obtain ⟨latch, taken, counted, known, located⟩ :=
    tracks.addressed.unit step member job phase
  obtain ⟨-, -, units⟩ := TransferContext.Located.iff_unitCount.1 located
  have fits := tracks.fits
  rw [phase] at fits
  refine ⟨latch, taken, known, ?_⟩
  rw [(fits.fits_of_onTheWay member).block, decide_eq_false_iff_not]
  omega

theorem Tracks.answers_of_last (tracks : engine.Tracks latched) {inputs : Inputs} {latch : Latch}
    {kind : CacheKind} (taken : latched = some latch)
    (known : CacheKind.ofSelector? latch.request.selector = some kind)
    (unit : (engine.cycled inputs).state.stats.transfers = engine.state.stats.transfers + 1)
    (last : (engine.cycled inputs).state.stats.transfers =
      latch.counted + latch.request.unitCount (engine.features.get kind)) :
    engine.answers inputs = true := by
  have transfers : (engine.cycled inputs).state.stats.transfers = _ :=
    transfers_tick engine inputs
  have counts : engine.countedUnits inputs = 1 := by omega
  rw [unit] at last
  have final : ∀ step job, engine.state.phase = .serve step job → step ∈ Step.onTheWay →
      job.context.block = false := by
    intro step job phase member
    obtain ⟨other, same, found, done⟩ := tracks.block_eq_false_iff phase member
    cases taken.symm.trans same
    cases known.symm.trans found
    exact done.2 last
  rw [countedUnits] at counts
  rw [answers]
  cases phase : engine.state.phase with
  | serve step job =>
    rw [phase] at counts
    cases step with
    | waitAck =>
      have more := final .waitAck job phase (by simp [Step.onTheWay])
      dsimp only at counts ⊢
      split at counts
      next acked => simp [acked, more]
      next => cases counts
    | readData =>
      have more := final .readData job phase (by simp [Step.onTheWay])
      simp [more]
    | _ => cases counts
  | _ =>
    rw [phase] at counts
    cases counts

theorem Tracks.endsIn_of_last (tracks : engine.Tracks latched) {inputs : Inputs} {step : Step}
    {job : Job} (phase : engine.state.phase = .serve step job) (member : step ∈ Step.onTheWay)
    (final : job.context.block = false) (unit : engine.countedUnits inputs = 1) :
    ∃ latch, latched = some latch ∧
      latch.EndsIn engine.features engine (engine.cycled inputs) := by
  obtain ⟨latch, taken, known, last⟩ := tracks.block_eq_false_iff phase member
  have transfers : (engine.cycled inputs).state.stats.transfers =
      engine.state.stats.transfers + 1 := unit ▸ transfers_tick engine inputs
  exact ⟨latch, taken, .completed known transfers (transfers.trans (last.1 final))⟩

theorem Tracks.exists_endsIn (tracks : engine.Tracks latched) {inputs : Inputs}
    (answers : engine.answers inputs = true) :
    ∃ latch, latched = some latch ∧
      latch.EndsIn engine.features engine (engine.cycled inputs) := by
  rw [Engine.answers] at answers
  cases phase : engine.state.phase with
  | await =>
    rw [phase] at answers
    cases answers
  | decode request =>
    rw [phase] at answers
    have unknown := Option.isNone_iff_eq_none.1 answers
    obtain ⟨counted, taken, -⟩ := tracks.served request 0 (by rw [phase]; rfl)
    refine ⟨_, taken, .aborted unknown ?_⟩
    have aborted : (engine.cycled inputs).state.stats.abortedRequests = _ :=
      abortedRequests_tick engine inputs
    rw [aborted, phase]
    exact congrArg _ (if_pos unknown)
  | serve step job =>
    rw [phase] at answers
    cases step with
    | validate =>
      dsimp only at answers
      have fits := tracks.fits
      rw [phase] at fits
      obtain ⟨fits, first⟩ := fits
      obtain ⟨counted, taken, -⟩ := tracks.served job.request job.done (by rw [phase]; rfl)
      obtain ⟨-, place, -⟩ := TransferContext.Located.iff_unitCount.1 fits.located
      rw [first, Nat.add_zero] at place
      have beyond := answers
      rw [Job.beyond, Bool.and_eq_true, decide_eq_true_iff, place] at beyond
      refine ⟨_, taken, .rejected fits.known beyond.1 beyond.2 ?_⟩
      have rejected : (engine.cycled inputs).state.stats.rejectedRequests = _ :=
        rejectedRequests_tick engine inputs
      rw [rejected, phase]
      exact congrArg _ (if_pos answers)
    | waitAck =>
      simp only [Bool.and_eq_true, decide_eq_true_iff, Bool.not_eq_true'] at answers
      obtain ⟨handedOver, final⟩ := answers
      have unit : engine.countedUnits inputs = 1 := by
        rw [countedUnits, phase]
        exact if_pos handedOver
      exact tracks.endsIn_of_last phase (by simp [Step.onTheWay]) final unit
    | readData =>
      simp only [Bool.not_eq_true'] at answers
      have unit : engine.countedUnits inputs = 1 := by rw [countedUnits, phase]
      exact tracks.endsIn_of_last phase (by simp [Step.onTheWay]) answers unit
    | _ => cases answers

/-- A tick ends a request in one of three ways. -/
theorem Tracks.answers_iff (tracks : engine.Tracks latched) (inputs : Inputs) :
    engine.answers inputs = true ↔
      ∃ latch, latched = some latch ∧
        latch.EndsIn engine.features engine (engine.cycled inputs) := by
  refine ⟨tracks.exists_endsIn, ?_⟩
  rintro ⟨latch, taken, ends⟩
  cases ends with
  | aborted unknown counted => exact answers_of_aborted counted
  | rejected known data beyond counted => exact answers_of_rejected counted
  | completed known unit last => exact tracks.answers_of_last taken known unit last

/-! ## Traces -/

/-- The engine behind some ticks of a trace of levels. -/
def after (engine : Engine) (levels : Nat → Inputs) (ticks : Nat) : Engine :=
  engine.follow ((List.range ticks).map levels)

/-- The request taken over last in some ticks of a trace. -/
def latchedBy? (engine : Engine) (levels : Nat → Inputs) (ticks : Nat) : Option Latch :=
  engine.lastLatch? none ((List.range ticks).map levels)

/-- A tick of a trace takes a request over. -/
def latchesAt (engine : Engine) (levels : Nat → Inputs) (tick : Nat) : Bool :=
  ((engine.after levels tick).latch? (levels tick)).isSome

/-- Ready goes from low to high in a tick of a trace. -/
def readyRisesAt (engine : Engine) (levels : Nat → Inputs) (tick : Nat) : Bool :=
  !(engine.after levels tick).outputs.ready.level &&
    (engine.after levels (tick + 1)).outputs.ready.level

/-- Ready goes from high to low in a tick of a trace. -/
def readyFallsAt (engine : Engine) (levels : Nat → Inputs) (tick : Nat) : Bool :=
  (engine.after levels tick).outputs.ready.level &&
    !(engine.after levels (tick + 1)).outputs.ready.level

variable {levels : Nat → Inputs}

theorem after_succ (engine : Engine) (levels : Nat → Inputs) (ticks : Nat) :
    engine.after levels (ticks + 1) = (engine.after levels ticks).cycled (levels ticks) := by
  simp only [after, follow, List.range_succ, List.map_append, List.map_cons, List.map_nil,
    List.foldl_append, List.foldl_cons, List.foldl_nil]

theorem Shows.after (shows : engine.Shows) (levels : Nat → Inputs) (ticks : Nat) :
    (engine.after levels ticks).Shows := by
  induction ticks with
  | zero => exact shows
  | succ ticks ih =>
    rw [after_succ]
    exact ih.cycled _

theorem lastLatch?_append_singleton (engine : Engine) (earlier : Option Latch)
    (past : List Inputs) (inputs : Inputs) :
    engine.lastLatch? earlier (past ++ [inputs]) =
      ((engine.follow past).latch? inputs).or (engine.lastLatch? earlier past) := by
  induction past generalizing engine earlier with
  | nil => rfl
  | cons first past ih => exact ih (engine.cycled first) _

theorem latchedBy?_succ (engine : Engine) (levels : Nat → Inputs) (ticks : Nat) :
    engine.latchedBy? levels (ticks + 1) =
      ((engine.after levels ticks).latch? (levels ticks)).or (engine.latchedBy? levels ticks) := by
  rw [latchedBy?, List.range_succ, List.map_append]
  exact lastLatch?_append_singleton ..

/-- The request taken over last is one that no other has been taken over behind. -/
theorem latchedBy?_eq_some_iff {ticks : Nat} {latch : Latch} :
    engine.latchedBy? levels ticks = some latch ↔
      ∃ taken < ticks, (engine.after levels taken).latch? (levels taken) = some latch ∧
        ∀ tick, taken < tick → tick < ticks → engine.latchesAt levels tick = false := by
  induction ticks with
  | zero => simp [latchedBy?, lastLatch?]
  | succ ticks ih =>
    rw [latchedBy?_succ]
    cases now : (engine.after levels ticks).latch? (levels ticks) with
    | some current =>
      have latches : engine.latchesAt levels ticks = true := by rw [latchesAt, now]; rfl
      rw [Option.some_or]
      constructor
      · intro same
        exact ⟨ticks, Nat.lt_succ_self ticks, now.trans same,
          fun tick behind before => absurd before (Nat.not_lt.2 behind)⟩
      · rintro ⟨taken, past, found, none⟩
        rcases Nat.lt_succ_iff_lt_or_eq.1 past with before | rfl
        · exact nomatch latches.symm.trans (none ticks before (Nat.lt_succ_self ticks))
        · exact now.symm.trans found
    | none =>
      have idle : engine.latchesAt levels ticks = false := by rw [latchesAt, now]; rfl
      rw [Option.none_or, ih]
      constructor
      · rintro ⟨taken, past, found, none⟩
        refine ⟨taken, Nat.lt_succ_of_lt past, found, fun tick behind before => ?_⟩
        rcases Nat.lt_succ_iff_lt_or_eq.1 before with before | rfl
        · exact none tick behind before
        · exact idle
      · rintro ⟨taken, past, found, none⟩
        rcases Nat.lt_succ_iff_lt_or_eq.1 past with before | rfl
        · exact ⟨taken, before, found,
            fun tick behind past => none tick behind (Nat.lt_succ_of_lt past)⟩
        · cases now.symm.trans found

/-- Where a part of the round begins that was over before, there is a tick that leads to it. -/
theorem exists_entry (mode : Mode) {early late : Nat}
    (ended : (engine.after levels early).mode ≠ mode)
    (begun : (engine.after levels late).mode = mode) (past : early ≤ late) :
    ∃ tick, early ≤ tick ∧ tick < late ∧ (engine.after levels tick).mode ≠ mode ∧
      (engine.after levels (tick + 1)).mode = mode := by
  induction past with
  | refl => exact absurd begun ended
  | @step late past ih =>
    by_cases earlier : (engine.after levels late).mode = mode
    · obtain ⟨tick, behind, before, entry⟩ := ih earlier
      exact ⟨tick, behind, Nat.lt_succ_of_lt before, entry⟩
    · exact ⟨late, past, Nat.lt_succ_self late, earlier, begun⟩

section

variable (shows : engine.Shows)

include shows

theorem latchesAt_iff {tick : Nat} :
    engine.latchesAt levels tick = true ↔
      (engine.after levels tick).mode ≠ .serving ∧
        (engine.after levels (tick + 1)).mode = .serving := by
  rw [latchesAt, latch?_isSome_iff, after_succ, (shows.after levels tick).mode_cycled]
  cases (engine.after levels tick).mode with
  | serving => simp
  | listening | answering => cases (levels tick).start <;> simp

theorem readyRisesAt_iff {tick : Nat} :
    engine.readyRisesAt levels tick = true ↔
      (engine.after levels tick).mode ≠ .answering ∧
        (engine.after levels (tick + 1)).mode = .answering := by
  rw [readyRisesAt, Bool.and_eq_true, Bool.not_eq_true', ← Bool.not_eq_true,
    (shows.after levels tick).level_ready, (shows.after levels (tick + 1)).level_ready]

theorem readyFallsAt_iff {tick : Nat} :
    engine.readyFallsAt levels tick = true ↔
      (engine.after levels tick).mode ≠ .listening ∧
        (engine.after levels (tick + 1)).mode = .listening := by
  rw [readyFallsAt, Bool.and_eq_true, Bool.not_eq_true', ← Bool.not_eq_true,
    (shows.after levels tick).level_ready, (shows.after levels (tick + 1)).level_ready,
    after_succ, (shows.after levels tick).mode_cycled]
  cases (engine.after levels tick).mode with
  | serving => cases (engine.after levels tick).answers (levels tick) <;> simp
  | listening | answering => cases (levels tick).start <;> simp

/-- Ready falls in the ticks that find it high and start low. -/
theorem readyFallsAt_iff_start {tick : Nat} :
    engine.readyFallsAt levels tick = true ↔
      (engine.after levels tick).outputs.ready.level = true ∧ (levels tick).start = false := by
  rw [readyFallsAt_iff shows, after_succ, (shows.after levels tick).mode_cycled,
    (shows.after levels tick).level_ready]
  cases (engine.after levels tick).mode with
  | serving => cases (engine.after levels tick).answers (levels tick) <;> simp
  | listening | answering => cases (levels tick).start <;> simp

/-- Ready rises in the ticks that end a request. -/
theorem readyRisesAt_iff_answers {tick : Nat} :
    engine.readyRisesAt levels tick = true ↔
      (engine.after levels tick).answers (levels tick) = true := by
  rw [readyRisesAt_iff shows, after_succ, (shows.after levels tick).mode_cycled]
  cases mode : (engine.after levels tick).mode with
  | serving => cases (engine.after levels tick).answers (levels tick) <;> simp
  | listening | answering =>
    have unanswered : (engine.after levels tick).answers (levels tick) ≠ true :=
      fun answers => nomatch mode.symm.trans ((shows.after levels tick).serving_of_answers answers)
    cases (levels tick).start <;> simp [unanswered]

/-- The engine listens again before it takes over another request. -/
theorem exists_readyFallsAt {first second : Nat} (earlier : first < second)
    (one : engine.latchesAt levels first = true) (other : engine.latchesAt levels second = true) :
    ∃ tick, first < tick ∧ tick < second ∧ engine.readyFallsAt levels tick = true := by
  have serving := ((latchesAt_iff shows).1 one).2
  have listening := (latch?_isSome_iff.1 other).1
  obtain ⟨tick, behind, before, entry⟩ :=
    exists_entry .listening (by simp [serving]) listening earlier
  exact ⟨tick, behind, before, (readyFallsAt_iff shows).2 entry⟩

/-- Between two requests with none in between ready rises once. -/
theorem existsUnique_readyRisesAt {first second : Nat} (earlier : first < second)
    (one : engine.latchesAt levels first = true) (other : engine.latchesAt levels second = true)
    (next : ∀ tick, first < tick → tick < second → engine.latchesAt levels tick = false) :
    ∃! tick, first < tick ∧ tick < second ∧ engine.readyRisesAt levels tick = true := by
  have serving := ((latchesAt_iff shows).1 one).2
  obtain ⟨fall, after, before, falls⟩ := exists_readyFallsAt shows earlier one other
  have answering := (shows.after levels fall).level_ready.1
    ((readyFallsAt_iff_start shows).1 falls).1
  obtain ⟨rise, behind, ahead, entry⟩ :=
    exists_entry .answering (by simp [serving]) answering after
  -- A second rise would need a request between the two.
  have apart : ∀ one other, first < one → other < second →
      engine.readyRisesAt levels one = true → engine.readyRisesAt levels other = true →
      ¬one < other := by
    intro one other behind ahead rises again less
    have answering := ((readyRisesAt_iff shows).1 rises).2
    have serving := (shows.after levels other).serving_of_answers
      ((readyRisesAt_iff_answers shows).1 again)
    obtain ⟨tick, late, early, taken⟩ :=
      exists_entry .serving (by simp [answering]) serving less
    have latches := (latchesAt_iff shows).2 taken
    rw [next tick (Nat.lt_trans behind late) (Nat.lt_trans early ahead)] at latches
    cases latches
  refine ⟨rise, ⟨behind, Nat.lt_trans ahead before, (readyRisesAt_iff shows).2 entry⟩, ?_⟩
  rintro tick ⟨late, early, rises⟩
  have rise' := (readyRisesAt_iff shows).2 entry
  exact Nat.le_antisymm
    (Nat.le_of_not_lt (apart rise tick behind early rise' rises))
    (Nat.le_of_not_lt (apart tick rise late (Nat.lt_trans ahead before) rises rise'))

/-- Each request that has been taken over has been answered, but for the one under way. -/
theorem count_latchesAt (listening : engine.mode = .listening) (ticks : Nat) :
    Nat.count (engine.latchesAt levels · = true) ticks =
      Nat.count (engine.readyRisesAt levels · = true) ticks +
        if (engine.after levels ticks).mode = .serving then 1 else 0 := by
  induction ticks with
  | zero =>
    change 0 = 0 + if engine.mode = .serving then 1 else 0
    simp [listening]
  | succ ticks ih =>
    rw [Nat.count_succ, Nat.count_succ, ih]
    simp only [latchesAt_iff shows, readyRisesAt_iff shows, after_succ,
      (shows.after levels ticks).mode_cycled]
    cases (engine.after levels ticks).mode with
    | serving => cases (engine.after levels ticks).answers (levels ticks) <;> simp
    | listening | answering => cases (levels ticks).start <;> simp

/-- Two traces that differ at most on the wires that requests come on serve a request in
the same way. -/
theorem after_eq_of_serving {other : Nat → Inputs} {first : Nat}
    (same : engine.after other first = engine.after levels first) {later : Nat}
    (past : first ≤ later)
    (serves : ∀ tick, first ≤ tick → tick < later → (engine.after levels tick).mode = .serving ∧
      (other tick).acks = (levels tick).acks ∧ (other tick).inbound = (levels tick).inbound) :
    engine.after other later = engine.after levels later := by
  induction past with
  | refl => exact same
  | @step later past ih =>
    have equal := ih fun tick behind before => serves tick behind (Nat.lt_succ_of_lt before)
    obtain ⟨serving, acks, inbound⟩ := serves later past (Nat.lt_succ_self later)
    rw [after_succ, after_succ, equal, Engine.cycled, Engine.cycled,
      (shows.after levels later).tick_of_serving serving acks inbound]

end

theorem shows_new (features : FeatureTable) (memory : Memory) : Shows { features, memory } where
  wire := rfl
  permits := trivial

theorem requests_after (features : FeatureTable) (memory : Memory) (levels : Nat → Inputs)
    (ticks : Nat) :
    (after { features, memory } levels ticks).state.stats.requests =
      Nat.count (latchesAt { features, memory } levels · = true) ticks := by
  induction ticks with
  | zero => rfl
  | succ ticks ih =>
    rw [Nat.count_succ, ← ih, after_succ]
    exact requests_cycled _

/-- The rounds of an engine under a trace of levels. -/
structure Rounds (engine : Engine) (levels : Nat → Inputs) : Prop where
  /-- Between two requests start is low and ready falls in one and the same tick. -/
  released : ∀ first second, first < second → engine.latchesAt levels first = true →
    engine.latchesAt levels second = true →
      ∃ tick, first < tick ∧ tick < second ∧ (levels tick).start = false ∧
        engine.readyFallsAt levels tick = true
  /-- Ready rises where the request taken over last ends. -/
  rises : ∀ tick, engine.readyRisesAt levels tick = true ↔
    ∃ taken < tick, ∃ latch, (engine.after levels taken).latch? (levels taken) = some latch ∧
      (∀ other, taken < other → other < tick → engine.latchesAt levels other = false) ∧
      latch.EndsIn engine.features (engine.after levels tick) (engine.after levels (tick + 1))
  falls : ∀ tick, engine.readyFallsAt levels tick = true ↔
    (engine.after levels tick).outputs.ready.level = true ∧ (levels tick).start = false
  /-- Ready rises once for each request that is followed by another one. -/
  once : ∀ first second, first < second → engine.latchesAt levels first = true →
    engine.latchesAt levels second = true →
    (∀ tick, first < tick → tick < second → engine.latchesAt levels tick = false) →
      ∃! tick, first < tick ∧ tick < second ∧ engine.readyRisesAt levels tick = true
  /-- At any time it has risen for all requests but the one that is being served. -/
  balance : ∀ tick, Nat.count (engine.latchesAt levels · = true) tick =
    Nat.count (engine.readyRisesAt levels · = true) tick +
      if (engine.after levels tick).mode = .serving then 1 else 0
  /-- A request is served in the same way whatever comes on the wires of start and of
  further requests in the meantime. -/
  served : ∀ (other : Nat → Inputs) (first later : Nat), first ≤ later →
    engine.after other first = engine.after levels first →
    (∀ tick, first ≤ tick → tick < later → (engine.after levels tick).mode = .serving ∧
      (other tick).acks = (levels tick).acks ∧ (other tick).inbound = (levels tick).inbound) →
    engine.after other later = engine.after levels later
  /-- Behind it they do not change what has become of it. -/
  settled : ∀ tick, (engine.after levels tick).mode = .answering →
    (engine.after levels (tick + 1)).memory = (engine.after levels tick).memory ∧
      (engine.after levels (tick + 1)).state.stats = (engine.after levels tick).state.stats ∧
      (engine.after levels (tick + 1)).state.lastTransfer =
        (engine.after levels tick).state.lastTransfer
  requests : ∀ tick, (engine.after levels tick).state.stats.requests =
    Nat.count (engine.latchesAt levels · = true) tick

/-- From power-up on a start that is held or repeated never triggers a second time, whatever
the features are and whatever comes in. -/
theorem rounds_new (features : FeatureTable) (memory : Memory) (levels : Nat → Inputs) :
    Rounds { features, memory } levels := by
  have shows := shows_new features memory
  constructor
  case released =>
    intro first second earlier one other
    obtain ⟨tick, behind, before, falls⟩ := exists_readyFallsAt shows earlier one other
    exact ⟨tick, behind, before, ((readyFallsAt_iff_start shows).1 falls).2, falls⟩
  case rises =>
    intro tick
    have tracks := (tracks_new features memory).follow ((List.range tick).map levels)
    have answers := tracks.answers_iff (levels tick)
    rw [features_follow] at answers
    rw [readyRisesAt_iff_answers shows, after_succ]
    refine answers.trans ⟨?_, ?_⟩
    · rintro ⟨latch, last, ends⟩
      obtain ⟨taken, past, found, next⟩ := latchedBy?_eq_some_iff.1 last
      exact ⟨taken, past, latch, found, next, ends⟩
    · rintro ⟨taken, past, latch, found, next, ends⟩
      exact ⟨latch, latchedBy?_eq_some_iff.2 ⟨taken, past, found, next⟩, ends⟩
  case falls => exact fun tick => readyFallsAt_iff_start shows
  case once =>
    exact fun first second earlier one other next =>
      existsUnique_readyRisesAt shows earlier one other next
  case balance => exact count_latchesAt shows rfl
  case served =>
    exact fun other first later past same serves => after_eq_of_serving shows same past serves
  case settled =>
    intro tick answering
    rw [after_succ]
    exact (shows.after levels tick).cycled_of_answering answering _
  case requests => exact requests_after features memory levels

end Engine

end AccessController
