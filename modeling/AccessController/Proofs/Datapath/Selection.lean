import AccessController.Proofs.Datapath.Delivery

/-!
# Selectors and requests on the wires

What the wires to the datapath ask for happens at the next tick: caches move
their output lines and an idle engine takes in a request.  `forthcoming` adds it
to the outcome of the request under way, and the tick then only carries it out
(`Idle.outcome_tick`).
-/

namespace AccessController

namespace Contents

variable (contents : Contents) (features : FeatureTable)

/-- The contents once the caches have followed their selectors, where these name
a line. -/
def settle (selectOut : PerCache UInt8) : Contents :=
  { contents with
    outputLine := .ofFn fun kind =>
      if (selectOut.get kind).toNat < (features.get kind).lineCount then
        (selectOut.get kind).toNat
      else contents.outputLine.get kind }

/-- Makes a line of a cache its output line, if there is such a line. -/
def select (kind : CacheKind) (line : Nat) : Contents :=
  if line < (features.get kind).lineCount then
    { contents with outputLine := contents.outputLine.set kind line }
  else contents

variable (selectOut : PerCache UInt8)

theorem get_outputLine_settle (kind : CacheKind) :
    (contents.settle features selectOut).outputLine.get kind =
      if (selectOut.get kind).toNat < (features.get kind).lineCount then
        (selectOut.get kind).toNat
      else contents.outputLine.get kind := by
  rw [settle, PerCache.get_ofFn]

/-- Results end up in the same line before and after the caches follow their
selectors, if the output line of the cache for results stays. -/
theorem settle_deliver (results : Option (List UInt64))
    (stays : (contents.settle features selectOut).outputLine.get .dataOut =
      contents.outputLine.get .dataOut) :
    (contents.deliver features results).settle features selectOut =
      (contents.settle features selectOut).deliver features results := by
  ext1
  · rfl
  · apply PerCache.ext_get
    intro kind
    have before := contents.get_lines_deliver features results kind
    have after := (contents.settle features selectOut).get_lines_deliver features results kind
    rw [stays] at after
    exact before.trans after.symm
  · rfl

@[simp] theorem outputLine_moveUnits (geometry : Geometry) (kind : CacheKind)
    (line place address count : Nat) :
    (contents.moveUnits geometry kind line place address count).outputLine =
      contents.outputLine := by
  induction count generalizing contents place address with
  | zero => rfl
  | succ count ih => rw [moveUnits, ih, outputLine_moveUnit]

@[simp] theorem outputLine_transfer (selectIn : PerCache UInt8) (request : TransferRequest) :
    (contents.transfer features selectIn request).outputLine = contents.outputLine := by
  cases known : CacheKind.ofSelector? request.selector with
  | none => simp only [transfer, known]
  | some kind => rw [transfer_eq _ known, outputLine_moveUnits]

theorem transfer_congr {left right : PerCache UInt8} {request : TransferRequest}
    (same : ∀ kind, CacheKind.ofSelector? request.selector = some kind →
      left.get kind = right.get kind) :
    contents.transfer features left request = contents.transfer features right request := by
  cases known : CacheKind.ofSelector? request.selector with
  | none => simp only [transfer, known]
  | some kind => rw [transfer_eq _ known, transfer_eq _ known, same kind known]

end Contents

namespace Datapath

variable {datapath : Datapath} {inputs : DatapathInputs}

theorem Idle.outcome_eq (idle : datapath.Idle) (selectIn : PerCache UInt8) :
    datapath.outcome selectIn = datapath.contents := by
  rw [outcome, idle.phase]

@[simp] theorem outputLine_outcome (datapath : Datapath) (selectIn : PerCache UInt8) :
    (datapath.outcome selectIn).outputLine = datapath.contents.outputLine := by
  simp only [outcome, Contents.moveFrom, Contents.moveBehind]
  split
  · rfl
  · exact Contents.outputLine_transfer ..
  · split <;> exact Contents.outputLine_moveUnits ..
  · exact Contents.outputLine_moveUnits ..
  · rfl
  · exact Contents.outputLine_moveUnits ..

theorem Holds.get_outputLine_settle {selectOut : PerCache UInt8} {kind : CacheKind}
    (holds : datapath.Holds selectOut kind) {contents : Contents}
    (same : contents.outputLine = datapath.contents.outputLine) :
    (contents.settle datapath.engine.features selectOut).outputLine.get kind =
      contents.outputLine.get kind := by
  rw [Contents.get_outputLine_settle, same, get_outputLine_contents]
  rcases holds with there | beyond
  · rw [there, ite_self]
  · rw [if_neg (Nat.not_lt.2 beyond)]

/-- If no selector asks for a change there is nothing to follow. -/
theorem Quiet.settle_outcome {selectOut : PerCache UInt8} (quiet : datapath.Quiet selectOut)
    (selectIn : PerCache UInt8) :
    (datapath.outcome selectIn).settle datapath.engine.features selectOut =
      datapath.outcome selectIn := by
  ext1
  · rfl
  · rfl
  · apply PerCache.ext_get
    intro kind
    exact (quiet kind).get_outputLine_settle (outputLine_outcome datapath selectIn)

/-- The contents that the request under way and the wires to the datapath lead
to. -/
def forthcoming (datapath : Datapath) (inputs : DatapathInputs) : Contents :=
  let features := datapath.engine.features
  let settled := (datapath.outcome inputs.selectIn).settle features inputs.selectOut
  if inputs.start then settled.transfer features inputs.selectIn inputs.request else settled

/-- With start low and no change of a line asked for, the request under way is
all there is. -/
theorem Quiet.forthcoming_eq (quiet : datapath.Quiet inputs.selectOut)
    (low : inputs.start = false) :
    datapath.forthcoming inputs = datapath.outcome inputs.selectIn := by
  rw [forthcoming, low, quiet.settle_outcome]
  rfl

/-- Results commute with everything that is going to happen, unless the line
that receives them is about to move. -/
theorem Handshake.forthcoming_deliver (handshake : datapath.Handshake)
    (results : Option (List UInt64))
    (holds : results.isSome → datapath.Holds inputs.selectOut .dataOut) :
    (datapath.deliver results).forthcoming inputs =
      (datapath.forthcoming inputs).deliver datapath.engine.features results := by
  cases results with
  | none =>
    rw [Contents.deliver_none]
    rfl
  | some values =>
    have stays := (holds rfl).get_outputLine_settle (outputLine_outcome datapath inputs.selectIn)
    rw [forthcoming, forthcoming, handshake.outcome_deliver, engine_deliver,
      Contents.settle_deliver _ _ _ _ stays]
    split
    · rw [Contents.transfer_deliver]
    · rfl

/-- An idle engine moves no unit; the caches follow their selectors. -/
theorem Idle.contents_tick (idle : datapath.Idle) :
    (datapath.tick inputs).contents =
      datapath.contents.settle datapath.engine.features inputs.selectOut := by
  apply contents_tick_eq
  · change (datapath.engine.tick _).memory = _
    rw [Engine.memory_tick, idle.phase]
    rfl
  · intro kind
    rw [idle.lines_tick, idle.phase, if_neg (by simp [Engine.Phase.asserts])]
    exact get_lines_contents kind |>.symm
  · intro kind
    have low := idle.writeEnable kind
    rw [idle.phase] at low
    rw [get_caches_tick]
    change Cache.outputLine (Cache.tick _ _) = _
    rw [Cache.outputLine_tick, idle.geometry, Contents.get_outputLine_settle,
      get_outputLine_contents]
    simp [cacheInputs, Cache.writeTarget, low, Engine.Phase.asserts]

theorem Idle.quiet_tick (idle : datapath.Idle) :
    (datapath.tick inputs).Quiet inputs.selectOut := by
  intro kind
  have followed : (datapath.tick inputs).contents = _ := idle.contents_tick
  have line := congrArg (fun contents : Contents => contents.outputLine.get kind) followed
  rw [get_outputLine_contents, Contents.get_outputLine_settle] at line
  rw [Holds, line, features_tick]
  by_cases there : (inputs.selectOut.get kind).toNat <
      (datapath.engine.features.get kind).lineCount
  · rw [if_pos there]
    exact .inl rfl
  · exact .inr (Nat.le_of_not_lt there)

theorem Idle.streaming_tick (idle : datapath.Idle) :
    (datapath.tick inputs).Streaming inputs.selectIn where
  toHandshake := idle.toHandshake.tick inputs
  carries phase := by
    rw [phase_tick, Engine.phase_tick, idle.phase] at phase
    dsimp only at phase
    split at phase <;> cases phase

/-- The tick of an idle datapath carries out what the wires ask for. -/
theorem Idle.outcome_tick (idle : datapath.Idle) :
    (datapath.tick inputs).outcome inputs.selectIn = datapath.forthcoming inputs := by
  rw [forthcoming, idle.outcome_eq, ← idle.contents_tick]
  cases start : inputs.start with
  | true => rw [outcome, idle.phase_start start, features_tick, if_pos rfl]
  | false => rw [outcome, (idle.tick start).phase, if_neg Bool.false_ne_true]

end Datapath

end AccessController
