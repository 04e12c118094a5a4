import AccessController.Proofs.Datapath.Timing

/-!
# Results of the array

The array stores its results in the line of the cache for results that it sees.
The engine cannot touch that line, so results may arrive at any time: they leave
the handshake alone and commute with the transfers of the engine.
-/

namespace AccessController

namespace Lines

/-- The lines with results, if there are any, in a row. Results that cannot be
stored there are dropped. -/
def receive (lines : Lines) (geometry : Geometry) (row : Nat) : Option (List UInt64) → Lines
  | none => lines
  | some values =>
    match lines.fill geometry row (values.take geometry.places) with
    | .ok filled => filled
    | .error _ => lines

theorem element?_receive (lines : Lines) (shape geometry : Geometry) {row line : Nat}
    (results : Option (List UInt64)) (apart : line ≠ row) (place : Nat) :
    (lines.receive shape row results).element? geometry line place =
      lines.element? geometry line place := by
  cases results with
  | none => rfl
  | some values =>
    cases lines with
    | config values => rfl
    | data rows =>
      rw [receive, fill]
      cases rows[row]? with
      | none => rfl
      | some elements =>
        dsimp only
        split
        next filled stored =>
          split at stored <;> cases stored
          have others : (rows.set row (fillRow shape.widthBits (values.take shape.places)
              elements)).getD line [] = rows.getD line [] := by
            simp only [List.getD_eq_getElem?_getD, List.getElem?_set_ne apart.symm]
          rw [element?, element?, others]
        next => rfl

end Lines

namespace Contents

/-- The contents with results of the array, if there are any, in the output line
of the cache for results. -/
def deliver (contents : Contents) (features : FeatureTable) (results : Option (List UInt64)) :
    Contents :=
  { contents with
    lines := contents.lines.modify .dataOut fun lines =>
      lines.receive (features.get .dataOut) (contents.outputLine.get .dataOut) results }

variable (contents : Contents) (features : FeatureTable) (results : Option (List UInt64))

@[simp] theorem memory_deliver : (contents.deliver features results).memory = contents.memory := rfl

@[simp] theorem outputLine_deliver :
    (contents.deliver features results).outputLine = contents.outputLine := rfl

theorem get_lines_deliver (kind : CacheKind) :
    (contents.deliver features results).lines.get kind =
      if kind = .dataOut then
        (contents.lines.get .dataOut).receive (features.get .dataOut)
          (contents.outputLine.get .dataOut) results
      else contents.lines.get kind := by
  rw [deliver, PerCache.get_modify]
  cases kind <;> rfl

@[simp] theorem deliver_none : contents.deliver features none = contents := by
  ext1
  · rfl
  · apply PerCache.ext_get
    intro kind
    rw [get_lines_deliver]
    split
    next same => rw [same, Lines.receive]
    next => rfl
  · rfl

/-- Results commute with the units that the engine moves. -/
theorem moveUnit_deliver (geometry : Geometry) (kind : CacheKind) (line place address : Nat) :
    (contents.deliver features results).moveUnit geometry kind line place address =
      (contents.moveUnit geometry kind line place address).deliver features results := by
  have same : (contents.deliver features results).Grants geometry kind line place ↔
      contents.Grants geometry kind line place := .rfl
  by_cases drains : kind = .dataOut
  · subst drains
    by_cases grants : contents.Grants geometry .dataOut line place
    · have element := Lines.element?_receive (contents.lines.get .dataOut) (features.get .dataOut)
        geometry results grants.2.2 place
      rw [moveUnit, if_pos (same.2 grants), moveUnit, if_pos grants, if_pos rfl, if_pos rfl, unload,
        unload, get_lines_deliver, if_pos rfl, element]
      rfl
    · rw [moveUnit_of_not_grants _ _ _ _ _ _ (fun granted => grants (same.1 granted)),
        moveUnit_of_not_grants _ _ _ _ _ _ grants]
  · apply Contents.ext
    · rw [memory_moveUnit _ _ _ _ _ drains, memory_deliver, memory_deliver,
        memory_moveUnit _ _ _ _ _ drains]
    · apply PerCache.ext_get
      intro other
      simp only [get_lines_moveUnit _ _ _ _ _ drains, get_lines_deliver, same, memory_deliver,
        outputLine_moveUnit]
      grind
    · rw [outputLine_moveUnit, outputLine_deliver, outputLine_deliver, outputLine_moveUnit]

theorem moveUnits_deliver (geometry : Geometry) (kind : CacheKind) (line place address count : Nat) :
    (contents.deliver features results).moveUnits geometry kind line place address count =
      (contents.moveUnits geometry kind line place address count).deliver features results := by
  induction count generalizing contents place address with
  | zero => rfl
  | succ count ih => rw [moveUnits, moveUnits, moveUnit_deliver, ih]

theorem drained_deliver (geometry : Geometry) (line place : Nat) :
    (contents.deliver features results).drained geometry .dataOut line place =
      contents.drained geometry .dataOut line place := by
  have same : (contents.deliver features results).Grants geometry .dataOut line place ↔
      contents.Grants geometry .dataOut line place := .rfl
  rw [drained, drained]
  by_cases grants : contents.Grants geometry .dataOut line place
  · rw [if_pos (same.2 grants), if_pos grants, get_lines_deliver, if_pos rfl,
      Lines.element?_receive _ _ _ _ grants.2.2]
  · rw [if_neg fun granted => grants (same.1 granted), if_neg grants]

theorem transfer_deliver (selectIn : PerCache UInt8) (request : TransferRequest) :
    (contents.deliver features results).transfer features selectIn request =
      (contents.transfer features selectIn request).deliver features results := by
  cases known : CacheKind.ofSelector? request.selector with
  | none => simp only [transfer, known]
  | some kind => rw [transfer_eq _ known, transfer_eq _ known, moveUnits_deliver]

end Contents

namespace Datapath

/-- The datapath with the results of the array, if it has any, in the output line
of the cache for results. -/
def deliver (datapath : Datapath) : Option (List UInt64) → Datapath
  | none => datapath
  | some values =>
    match datapath.storeResults .dataOut
        (values.take (datapath.caches.get .dataOut).geometry.places) with
    | .ok stored => stored
    | .error _ => datapath

variable (datapath : Datapath) (results : Option (List UInt64))

@[simp] theorem engine_deliver : (datapath.deliver results).engine = datapath.engine := by
  cases results with
  | none => rfl
  | some values =>
    rw [deliver, storeResults]
    cases Cache.storeResults _ _ <;> rfl

/-- Results change nothing but lines. -/
theorem get_caches_deliver (kind : CacheKind) :
    (datapath.deliver results).caches.get kind =
      { datapath.caches.get kind with
        lines := ((datapath.deliver results).caches.get kind).lines } := by
  cases results with
  | none => rfl
  | some values =>
    rw [deliver, storeResults, Cache.storeResults]
    cases Lines.fill _ _ _ _ with
    | error error => rfl
    | ok lines =>
      simp only [Except.map, PerCache.get_set]
      split
      next same =>
        subst same
        rfl
      next => rfl

@[simp] theorem geometry_deliver (kind : CacheKind) :
    ((datapath.deliver results).caches.get kind).geometry =
      (datapath.caches.get kind).geometry := by
  rw [get_caches_deliver]

@[simp] theorem outputLine_deliver (kind : CacheKind) :
    ((datapath.deliver results).caches.get kind).outputLine =
      (datapath.caches.get kind).outputLine := by
  rw [get_caches_deliver]

@[simp] theorem ack_deliver (kind : CacheKind) :
    ((datapath.deliver results).caches.get kind).ack = (datapath.caches.get kind).ack := by
  rw [get_caches_deliver]

@[simp] theorem stats_deliver (kind : CacheKind) :
    ((datapath.deliver results).caches.get kind).stats = (datapath.caches.get kind).stats := by
  rw [get_caches_deliver]

@[simp] theorem refusedSelect_deliver (kind : CacheKind) :
    ((datapath.deliver results).caches.get kind).refusedSelect =
      (datapath.caches.get kind).refusedSelect := by
  rw [get_caches_deliver]

@[simp] theorem outputs_deliver (kind : CacheKind) :
    ((datapath.deliver results).caches.get kind).outputs =
      (datapath.caches.get kind).outputs := by
  rw [get_caches_deliver]

variable {datapath}

theorem Handshake.deliver (handshake : datapath.Handshake) :
    (datapath.deliver results).Handshake where
  geometry kind := by simpa using handshake.geometry kind
  readyWire := by simpa using handshake.readyWire
  ready := by simpa using handshake.ready
  writeEnable kind := by simpa using handshake.writeEnable kind
  ackWire kind := by simpa using handshake.ackWire kind
  ack kind := by simpa using handshake.ack kind

theorem Idle.deliver (idle : datapath.Idle) : (datapath.deliver results).Idle where
  toHandshake := idle.toHandshake.deliver results
  phase := by simpa using idle.phase
  ready_low := by simpa using idle.ready_low

theorem Holds.deliver {selectOut : PerCache UInt8} {kind : CacheKind}
    (holds : datapath.Holds selectOut kind) : (datapath.deliver results).Holds selectOut kind := by
  simpa [Holds] using holds

theorem Quiet.deliver {selectOut : PerCache UInt8} (quiet : datapath.Quiet selectOut) :
    (datapath.deliver results).Quiet selectOut :=
  fun kind => (quiet kind).deliver results

/-- The results are stored where the contents receive them. -/
theorem Handshake.contents_deliver (handshake : datapath.Handshake) :
    (datapath.deliver results).contents =
      datapath.contents.deliver datapath.engine.features results := by
  have geometry := handshake.geometry .dataOut
  ext1
  · rw [memory_contents, engine_deliver]
    rfl
  · apply PerCache.ext_get
    intro kind
    rw [get_lines_contents, Contents.get_lines_deliver, get_lines_contents, get_lines_contents,
      get_outputLine_contents]
    cases results with
    | none =>
      cases kind <;> rfl
    | some values =>
      rw [Datapath.deliver, storeResults, Cache.storeResults, Lines.receive, geometry]
      cases Lines.fill (datapath.engine.features.get .dataOut) (datapath.caches.get .dataOut).lines
          (datapath.caches.get .dataOut).outputLine
          (values.take (datapath.engine.features.get .dataOut).places) with
      | error error =>
        dsimp only [Except.map]
        split
        next same => rw [same]
        next => rfl
      | ok filled =>
        simp only [Except.map, PerCache.get_set, eq_comm]
        split <;> rfl
  · apply PerCache.ext_get
    intro kind
    rw [get_outputLine_contents, outputLine_deliver, Contents.outputLine_deliver,
      get_outputLine_contents]

theorem Streaming.deliver {selectIn : PerCache UInt8} (streaming : datapath.Streaming selectIn) :
    (datapath.deliver results).Streaming selectIn where
  toHandshake := streaming.toHandshake.deliver results
  carries {step job} phase := by
    rw [engine_deliver] at phase
    have carries := streaming.carries phase
    exact {
      sound := by simpa using carries.sound
      loads := carries.loads
      drains := carries.drains
      more := carries.more
      place := by simpa using carries.place
      outbound := by simpa using carries.outbound
      inbound := by
        rw [ack_deliver, outputs_deliver, engine_deliver, streaming.contents_deliver,
          Contents.drained_deliver]
        exact carries.inbound }

/-- What a request under way ends with receives the results as well. -/
theorem Handshake.outcome_deliver (handshake : datapath.Handshake) (selectIn : PerCache UInt8) :
    (datapath.deliver results).outcome selectIn =
      (datapath.outcome selectIn).deliver datapath.engine.features results := by
  have contents := handshake.contents_deliver results
  simp only [outcome, engine_deliver, ack_deliver, contents, Contents.moveFrom, Contents.moveBehind,
    Contents.moveUnits_deliver, Contents.transfer_deliver]
  cases phase : datapath.engine.state.phase with
  | await => rfl
  | decode request => rfl
  | serve step job =>
    cases step with
    | waitAck =>
      dsimp only
      split <;> rfl
    | _ => rfl

@[simp] theorem ticksLeft_deliver : (datapath.deliver results).ticksLeft = datapath.ticksLeft := by
  simp only [ticksLeft, engine_deliver, ack_deliver]

end Datapath

end AccessController
