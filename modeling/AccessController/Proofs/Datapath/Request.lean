import AccessController.Proofs.Datapath.Timing

/-!
# Requests are answered

An idle datapath that is given a start for one tick answers with one pulse of
ready and is idle again, whatever the request.  `Idle.answers` gives the tick of
the answer, the acknowledgements on the way and the contents at its end.
-/

namespace AccessController

/-- The inputs with another level of start. -/
def DatapathInputs.withStart (inputs : DatapathInputs) (level : Bool) : DatapathInputs :=
  { inputs with start := level }

namespace Datapath

/-- The datapath after some ticks in which start is high at the first one only
and all other inputs are held. -/
def afterStart (datapath : Datapath) (inputs : DatapathInputs) : (ticks : Nat) → Datapath
  | 0 => datapath
  | ticks + 1 => (datapath.afterStart inputs ticks).tick (inputs.withStart (decide (ticks = 0)))

/-- How often the acknowledgement of a cache rises in the ticks after a start. -/
def acksAfterStart (datapath : Datapath) (inputs : DatapathInputs) (kind : CacheKind)
    (ticks : Nat) : Nat :=
  (List.range ticks).countP fun tick =>
    (datapath.afterStart inputs tick).rises (datapath.afterStart inputs (tick + 1)) kind

/-- What is known of a datapath some ticks after a start. -/
structure Answering (datapath : Datapath) (inputs : DatapathInputs) (ticks : Nat) : Prop where
  streaming : (datapath.afterStart inputs ticks).Streaming inputs.selectIn
  quiet : (datapath.afterStart inputs ticks).Quiet inputs.selectOut
  features : (datapath.afterStart inputs ticks).engine.features = datapath.engine.features
  ticksLeft : (datapath.afterStart inputs ticks).ticksLeft =
    inputs.request.answerTicks datapath.engine.features - ticks
  acks : ∀ kind,
    datapath.acksAfterStart inputs kind ticks + (datapath.afterStart inputs ticks).acksLeft kind =
      inputs.request.answerAcks datapath.engine.features kind
  outcome : (datapath.afterStart inputs ticks).outcome inputs.selectIn =
    datapath.contents.transfer datapath.engine.features inputs.selectIn inputs.request

variable {datapath : Datapath} {inputs : DatapathInputs}

theorem acksAfterStart_succ (kind : CacheKind) (ticks : Nat) :
    datapath.acksAfterStart inputs kind (ticks + 1) =
      datapath.acksAfterStart inputs kind ticks +
        ((datapath.afterStart inputs ticks).rises (datapath.afterStart inputs (ticks + 1))
          kind).toNat := by
  rw [acksAfterStart, List.range_succ, List.countP_append, List.countP_singleton, acksAfterStart]
  cases (datapath.afterStart inputs ticks).rises (datapath.afterStart inputs (ticks + 1)) kind <;>
    rfl

theorem afterStart_one :
    datapath.afterStart inputs 1 = datapath.tick (inputs.withStart true) := rfl

theorem afterStart_add_two (ticks : Nat) :
    datapath.afterStart inputs (ticks + 2) =
      (datapath.afterStart inputs (ticks + 1)).tick (inputs.withStart false) := rfl

/-- The tick of the start. -/
theorem Idle.answering (idle : datapath.Idle) (quiet : datapath.Quiet inputs.selectOut) :
    datapath.Answering inputs 1 := by
  have phase : (datapath.tick (inputs.withStart true)).engine.state.phase =
      .decode inputs.request := idle.phase_start rfl
  have streaming := idle.streaming (inputs.withStart true).selectIn
  replace quiet : datapath.Quiet (inputs.withStart true).selectOut := quiet
  constructor
  case streaming =>
    rw [afterStart_one]
    exact streaming.tick quiet
  case quiet =>
    rw [afterStart_one]
    exact quiet.tick idle.toHandshake
  case features => exact features_tick ..
  case ticksLeft =>
    rw [afterStart_one, Datapath.ticksLeft, phase, features_tick]
  case acks =>
    intro kind
    have still : datapath.rises (datapath.tick (inputs.withStart true)) kind = false := by
      rw [idle.rises_tick, idle.phase]
      exact Bool.and_false _
    rw [acksAfterStart_succ, afterStart_one, acksLeft, phase, features_tick]
    simp [acksAfterStart, afterStart, still]
  case outcome =>
    rw [afterStart_one]
    exact idle.outcome_start quiet rfl

/-- The ticks after it. -/
theorem Answering.tick {ticks : Nat} (answering : datapath.Answering inputs (ticks + 1)) :
    datapath.Answering inputs (ticks + 2) := by
  obtain ⟨streaming, quiet, features, left, acks, outcome⟩ := answering
  replace streaming : (datapath.afterStart inputs (ticks + 1)).Streaming
    (inputs.withStart false).selectIn := streaming
  replace quiet : (datapath.afterStart inputs (ticks + 1)).Quiet
    (inputs.withStart false).selectOut := quiet
  constructor
  case streaming =>
    rw [afterStart_add_two]
    exact streaming.tick quiet
  case quiet =>
    rw [afterStart_add_two]
    exact quiet.tick streaming.toHandshake
  case features => rw [afterStart_add_two, features_tick, features]
  case ticksLeft =>
    have next : (datapath.afterStart inputs (ticks + 2)).ticksLeft = _ :=
      streaming.ticksLeft_tick rfl
    rw [next, left]
    rfl
  case acks =>
    intro kind
    have step : (datapath.afterStart inputs (ticks + 1)).acksLeft kind =
        (datapath.afterStart inputs (ticks + 2)).acksLeft kind + _ :=
      streaming.acksLeft_tick rfl kind
    rw [acksAfterStart_succ, ← acks kind, step, afterStart_add_two]
    omega
  case outcome =>
    rw [← outcome, afterStart_add_two]
    exact streaming.outcome_tick quiet nofun

/-- Every tick after the start of a request is accounted for. -/
theorem Idle.answering_all (idle : datapath.Idle) (quiet : datapath.Quiet inputs.selectOut)
    (ticks : Nat) : datapath.Answering inputs (ticks + 1) := by
  induction ticks with
  | zero => exact idle.answering quiet
  | succ ticks ih => exact ih.tick

theorem Idle.answering_answered (idle : datapath.Idle)
    (quiet : datapath.Quiet inputs.selectOut) :
    datapath.Answering inputs (inputs.request.answerTicks datapath.engine.features) := by
  have long := inputs.request.three_le_answerTicks datapath.engine.features
  rw [← Nat.sub_add_cancel (Nat.le_of_succ_le long)]
  exact idle.answering_all quiet _

/-- When the answer is over the datapath is idle again. -/
theorem Idle.idle_answered (idle : datapath.Idle) (quiet : datapath.Quiet inputs.selectOut) :
    (datapath.afterStart inputs (inputs.request.answerTicks datapath.engine.features)).Idle :=
  let answering := idle.answering_answered quiet
  answering.streaming.idle (answering.ticksLeft.trans (Nat.sub_self _))

/-- When the answer is over the contents are those of the transfer. -/
theorem Idle.contents_answered (idle : datapath.Idle) (quiet : datapath.Quiet inputs.selectOut) :
    (datapath.afterStart inputs (inputs.request.answerTicks datapath.engine.features)).contents =
      datapath.contents.transfer datapath.engine.features inputs.selectIn inputs.request := by
  rw [← (idle.answering_answered quiet).outcome, outcome, (idle.idle_answered quiet).phase]

end Datapath

end AccessController
