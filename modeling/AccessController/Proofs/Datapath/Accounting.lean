import AccessController.Proofs.Datapath.Delivery

/-!
# The accounts of engine and caches

Engine and caches count the same units, each at its own tick of the handshake.  What one
side has counted and the other has not is the unit in flight, so the accounts balance
once that is added (`Accounted`), in whatever way the line selectors move meanwhile.
A tick keeps the balance (`Accounted.tick`), and while the engine waits for a start
nothing is in flight (`Accounted.settled`).
-/

namespace AccessController

/-- The requests that have been accepted by the engine, and neither been turned down nor
moved a unit since: at most the one under way. -/
def Engine.Phase.unanswered : Engine.Phase → Nat
  | .await | .serve .block _ | .serve .finish _ => 0
  | _ => 1

/-- What some caches have counted, added up. -/
def CacheKind.total (kinds : List CacheKind) (count : CacheKind → Nat) : Nat :=
  kinds.foldr (fun kind total => count kind + total) 0

namespace Datapath

/-- The cache that takes in a request at the next tick: the one that the engine waits for
and that has not acknowledged. -/
def taking? (datapath : Datapath) : Option CacheKind :=
  match datapath.engine.state.phase with
  | .serve .waitAck job =>
    if (datapath.caches.get job.context.kind).ack then none else some job.context.kind
  | _ => none

/-- The requests that a cache has acknowledged. -/
def served (datapath : Datapath) (kind : CacheKind) : Nat :=
  (datapath.caches.get kind).stats.acceptedWrites +
    (datapath.caches.get kind).stats.rejectedWrites

/-- The units that a cache has counted and the engine has not. -/
def uncounted (datapath : Datapath) : Nat :=
  match datapath.engine.state.phase with
  | .serve .waitAck job => (datapath.caches.get job.context.kind).ack.toNat
  | .serve .readData _ => 1
  | _ => 0

/-- The bytes that the cache for results has put up and the engine has not stored. -/
def unstored (datapath : Datapath) : Nat :=
  match datapath.engine.state.phase with
  | .serve .waitAck job =>
    if job.context.kind = .dataOut ∧ (datapath.caches.get job.context.kind).ack then
      (datapath.caches.get .dataOut).outputs.data.level.length
    else 0
  | .serve .readData _ => (datapath.caches.get .dataOut).outputs.data.level.length
  | _ => 0

/-- The bytes of the unit that the engine has put up, if it has, until a cache takes it
in. -/
def untaken (datapath : Datapath) : Nat :=
  match datapath.engine.state.phase with
  | .serve .writeEnable job | .serve .waitAck job =>
    if job.context.kind ≠ .dataOut ∧ (datapath.caches.get job.context.kind).ack = false ∧
        datapath.engine.outputs.outbound.level ≠ [] then
      job.context.step
    else 0
  | _ => 0

/-- The bytes of the units that a cache has accepted. -/
def acceptedBytes (datapath : Datapath) (kind : CacheKind) : Nat :=
  (datapath.engine.features.get kind).stepBytes * (datapath.caches.get kind).stats.acceptedWrites

/-- The accounts of engine and caches balance, up to the unit in flight. -/
structure Accounted (datapath : Datapath) : Prop extends Handshake datapath where
  sound : ∀ {step job}, datapath.engine.state.phase = .serve step job →
    job.Sound datapath.engine.features
  known : ∀ {request}, datapath.engine.state.phase = .decode request →
    CacheKind.ofSelector? request.selector ≠ none
  loads : ∀ {job}, datapath.engine.state.phase = .serve .writeData job →
    job.context.kind ≠ .dataOut
  outbound : datapath.engine.outputs.outbound.next = datapath.engine.outputs.outbound.level
  inbound : (datapath.caches.get .dataOut).outputs.data.next =
    (datapath.caches.get .dataOut).outputs.data.level
  aborted : datapath.engine.state.stats.abortedRequests = 0
  requests : datapath.engine.state.stats.requests ≤
    datapath.engine.state.stats.rejectedRequests + datapath.engine.state.stats.transfers +
      datapath.engine.state.phase.unanswered
  transfers : datapath.engine.state.stats.transfers + datapath.uncounted =
    CacheKind.total CacheKind.all datapath.served
  toMemory : datapath.engine.state.stats.bytesToMemory + datapath.unstored ≤
    datapath.acceptedBytes .dataOut
  toCache : CacheKind.total [.dataIn, .confPe, .confCc] datapath.acceptedBytes + datapath.untaken ≤
    datapath.engine.state.stats.bytesToCache

/-- What the counters of engine and caches say about each other with nothing in flight. -/
structure Settled (datapath : Datapath) : Prop where
  aborted : datapath.engine.state.stats.abortedRequests = 0
  requests : datapath.engine.state.stats.requests ≤
    datapath.engine.state.stats.rejectedRequests + datapath.engine.state.stats.transfers
  transfers : datapath.engine.state.stats.transfers = CacheKind.total CacheKind.all datapath.served
  toMemory : datapath.engine.state.stats.bytesToMemory ≤ datapath.acceptedBytes .dataOut
  toCache : CacheKind.total [.dataIn, .confPe, .confCc] datapath.acceptedBytes ≤
    datapath.engine.state.stats.bytesToCache

variable {datapath : Datapath} {inputs : DatapathInputs}

/-- A cache takes in a request when its write enable is high and its acknowledgement
low. -/
theorem Handshake.taking?_eq_some_iff (handshake : datapath.Handshake) (inputs : DatapathInputs)
    (kind : CacheKind) :
    datapath.taking? = some kind ↔
      (datapath.cacheInputs inputs kind).writeEnable = true ∧
        (datapath.caches.get kind).ack = false := by
  have ack := handshake.ack kind
  rw [taking?, cacheInputs, handshake.writeEnable, Wire.level_rest]
  cases phase : datapath.engine.state.phase with
  | await => simp [Engine.Phase.asserts]
  | decode request => simp [Engine.Phase.asserts]
  | serve step job =>
    rw [phase] at ack
    cases step <;> simp only [Engine.Phase.asserts, Engine.Phase.permitsAck] at ack ⊢ <;> grind

/-- A cache acknowledges what it takes in. -/
theorem Handshake.served_tick (handshake : datapath.Handshake) (inputs : DatapathInputs)
    (kind : CacheKind) :
    (datapath.tick inputs).served kind =
      datapath.served kind + if datapath.taking? = some kind then 1 else 0 := by
  simp only [served, get_caches_tick, handshake.taking?_eq_some_iff inputs]
  exact (datapath.caches.get kind).served_tick (datapath.cacheInputs inputs kind)

theorem Handshake.sum_served_tick (handshake : datapath.Handshake) (inputs : DatapathInputs) :
    CacheKind.total CacheKind.all (datapath.tick inputs).served =
      CacheKind.total CacheKind.all datapath.served + datapath.taking?.isSome.toNat := by
  simp only [CacheKind.total, CacheKind.all, List.foldr_cons, List.foldr_nil,
    handshake.served_tick]
  cases datapath.taking? with
  | none => simp
  | some kind => cases kind <;> simp <;> omega

/-- A cache accepts what it takes in at the next tick: that is granted and, unless it is
read from, there is data. -/
def Accepts (datapath : Datapath) (inputs : DatapathInputs) (kind : CacheKind) : Prop :=
  datapath.taking? = some kind ∧
    datapath.contents.Grants (datapath.engine.features.get kind) kind
      (inputs.selectIn.get kind).toNat datapath.engine.outputs.place.level ∧
    (kind = .dataOut ∨ datapath.engine.outputs.outbound.level ≠ [])

instance (kind : CacheKind) : Decidable (datapath.Accepts inputs kind) :=
  inferInstanceAs (Decidable (_ ∧ _ ∧ _))

theorem Handshake.acceptedBytes_tick (handshake : datapath.Handshake) (inputs : DatapathInputs)
    (kind : CacheKind) :
    (datapath.tick inputs).acceptedBytes kind =
      datapath.acceptedBytes kind +
        if datapath.Accepts inputs kind then (datapath.engine.features.get kind).stepBytes
        else 0 := by
  have counted := congrArg CacheStats.acceptedWrites
    ((datapath.caches.get kind).stats_tick (datapath.cacheInputs inputs kind))
  simp only [CacheStats.add_eq, Cache.gain, Cache.accepts,
    handshake.accessRefusal?_eq_none_iff, handshake.drains, decide_eq_true_eq,
    ← handshake.taking?_eq_some_iff] at counted
  have grows : ((datapath.tick inputs).caches.get kind).stats.acceptedWrites =
      (datapath.caches.get kind).stats.acceptedWrites +
        if datapath.Accepts inputs kind then 1 else 0 := by
    rw [get_caches_tick]
    exact counted
  rw [acceptedBytes, acceptedBytes, features_tick, grows, Nat.mul_add]
  split <;> simp

theorem Handshake.acceptedBytes_tick_of_none (handshake : datapath.Handshake)
    (inputs : DatapathInputs) (none : datapath.taking? = none) :
    (datapath.tick inputs).acceptedBytes = datapath.acceptedBytes := by
  funext kind
  have idle : ¬datapath.Accepts inputs kind := fun accepts => by
    have taking := accepts.1
    simp [none] at taking
  rw [handshake.acceptedBytes_tick, if_neg idle, Nat.add_zero]

/-- The cache that takes a request in is waited for, in this tick and in the next. -/
theorem Handshake.waits_of_taking (handshake : datapath.Handshake) {kind : CacheKind}
    (taking : datapath.taking? = some kind) (inputs : DatapathInputs) :
    ∃ job, job.context.kind = kind ∧ datapath.engine.state.phase = .serve .waitAck job ∧
      (datapath.caches.get kind).ack = false ∧
      (datapath.tick inputs).engine.state.phase = .serve .waitAck job ∧
      ((datapath.tick inputs).caches.get kind).ack = true := by
  rw [taking?] at taking
  cases phase : datapath.engine.state.phase with
  | serve step job =>
    cases step with
    | waitAck =>
      simp only [phase] at taking
      split at taking
      · cases taking
      next unacked =>
        cases taking
        refine ⟨job, rfl, rfl, Bool.eq_false_iff.2 unacked, ?_, ?_⟩
        · simp [phase_tick, Engine.phase_tick, phase, handshake.acks, unacked]
        · simp [handshake.ack_tick, phase, Engine.Phase.asserts]
    | _ => simp [phase] at taking
  | _ => simp [phase] at taking

/-! ## A tick keeps the balance -/

theorem Accounted.sound_tick (accounted : datapath.Accounted) {step : Engine.Step} {job : Job}
    (next : (datapath.tick inputs).engine.state.phase = .serve step job) :
    job.Sound datapath.engine.features := by
  rw [phase_tick, Engine.phase_tick] at next
  cases phase : datapath.engine.state.phase with
  | await =>
    rw [phase] at next
    dsimp only at next
    split at next <;> cases next
  | decode request =>
    rw [phase] at next
    dsimp only at next
    split at next
    · cases next
    · cases next
      exact Job.Sound.contextOf ..
  | serve step job =>
    have sound := accounted.sound phase
    have later (done : Nat) : Job.Sound datapath.engine.features { job with done } :=
      ⟨sound.step, sound.block⟩
    rw [phase] at next
    cases step <;> dsimp only [Job.afterUnit] at next <;> repeat' split at next
    all_goals cases next <;> first | exact sound | exact later _ | exact sound.nextUnit

/-- Behind a unit nothing is in flight. -/
theorem settled_afterUnit {job : Job} (after : datapath.engine.state.phase = job.afterUnit) :
    datapath.uncounted = 0 ∧ datapath.unstored = 0 ∧ datapath.untaken = 0 := by
  rw [Job.afterUnit] at after
  split at after <;> simp [uncounted, unstored, untaken, after]

/-- A tick takes a unit into a cache, or counts one, or leaves the unit in flight where it
is. -/
theorem Handshake.uncounted_tick (handshake : datapath.Handshake) (inputs : DatapathInputs) :
    (datapath.tick inputs).uncounted + datapath.engine.countedUnits (datapath.engineInputs inputs) =
      datapath.uncounted + datapath.taking?.isSome.toNat := by
  have next := datapath.phase_tick inputs
  rw [Engine.phase_tick] at next
  rw [Engine.countedUnits]
  cases phase : datapath.engine.state.phase with
  | await =>
    simp only [phase] at next
    split at next <;> simp [uncounted, taking?, phase, next]
  | decode request =>
    simp only [phase] at next
    split at next <;> simp [uncounted, taking?, phase, next]
  | serve step job =>
    cases step with
    | writeEnable =>
      simp only [phase] at next
      simp [uncounted, taking?, phase, next, handshake.ack_tick, Engine.Phase.asserts]
    | waitAck =>
      simp only [phase, handshake.acks] at next
      by_cases acked : (datapath.caches.get job.context.kind).ack = true
      · rw [if_pos acked] at next
        split at next
        next drains =>
          rw [drains] at acked
          simp [uncounted, taking?, phase, next, acked, drains]
        next loads =>
          rw [(settled_afterUnit next).1]
          simp [uncounted, taking?, phase, handshake.acks, acked, loads]
      · rw [if_neg acked] at next
        simp [uncounted, taking?, phase, next, handshake.acks, acked, handshake.ack_tick,
          Engine.Phase.asserts]
    | readData =>
      simp only [phase] at next
      rw [(settled_afterUnit next).1]
      simp [uncounted, taking?, phase]
    | _ =>
      simp only [phase] at next
      try split at next
      all_goals simp [uncounted, taking?, phase, next]

theorem Accounted.unstored_tick_of_none (accounted : datapath.Accounted)
    (inputs : DatapathInputs) (none : datapath.taking? = none) :
    (datapath.tick inputs).unstored + datapath.engine.storableBytes (datapath.engineInputs inputs) ≤
      datapath.unstored := by
  have next := datapath.phase_tick inputs
  rw [Engine.phase_tick] at next
  rw [Engine.storableBytes]
  cases phase : datapath.engine.state.phase with
  | await =>
    simp only [phase] at next
    split at next <;> simp [unstored, next]
  | decode request =>
    simp only [phase] at next
    split at next <;> simp [unstored, next]
  | serve step job =>
    cases step with
    | writeEnable =>
      simp only [phase] at next
      simp [unstored, phase, next, accounted.ack_tick, Engine.Phase.asserts]
    | waitAck =>
      have acked : (datapath.caches.get job.context.kind).ack = true := by
        simpa [taking?, phase] using none
      simp only [phase, accounted.acks, acked, if_true] at next
      split at next
      next drains =>
        have wire := accounted.dataWire_tick inputs
        rw [drains] at acked
        rw [if_neg fun rising => by simp [acked] at rising] at wire
        simp only [unstored, phase, next, wire, drains, acked, Wire.level_commit, accounted.inbound]
        grind
      next loads =>
        rw [(settled_afterUnit next).2.1]
        simp [unstored, phase, loads]
    | readData =>
      simp only [phase] at next
      rw [(settled_afterUnit next).2.1]
      have stored : ((datapath.engineInputs inputs).inbound.take job.context.step).length ≤
          (datapath.caches.get .dataOut).outputs.data.level.length := List.length_take_le' ..
      simp only [unstored, phase]
      omega
    | _ =>
      simp only [phase] at next
      try split at next
      all_goals simp [unstored, phase, next]

theorem Accounted.unstored_tick_of_some (accounted : datapath.Accounted)
    (inputs : DatapathInputs) {kind : CacheKind} (taking : datapath.taking? = some kind) :
    (datapath.tick inputs).unstored + datapath.acceptedBytes .dataOut ≤
      (datapath.tick inputs).acceptedBytes .dataOut := by
  obtain ⟨job, rfl, phase, unacked, next, acked⟩ := accounted.waits_of_taking taking inputs
  rw [accounted.acceptedBytes_tick]
  by_cases drains : job.context.kind = .dataOut
  · rw [drains] at taking unacked acked
    have wire := accounted.dataWire_tick inputs
    have short := length_drained_le datapath.contents datapath.engine.features
      (inputs.selectIn.get .dataOut).toNat datapath.engine.outputs.place.level
    rw [phase, Engine.Phase.asserts, if_pos ⟨decide_eq_true drains, unacked⟩] at wire
    by_cases granted : datapath.contents.Grants (datapath.engine.features.get .dataOut)
        .dataOut (inputs.selectIn.get .dataOut).toNat datapath.engine.outputs.place.level
    · rw [if_pos ⟨taking, granted, .inl rfl⟩]
      simp only [unstored, next, wire, drains, acked, Wire.level_rest]
      grind
    · rw [Contents.drained, if_neg granted] at wire
      simp only [unstored, next, wire, Wire.level_rest, List.length_nil, ite_self]
      omega
  · simp [unstored, next, drains]

/-- What the engine may store comes from a unit that the cache for results has accepted. -/
theorem Accounted.unstored_tick (accounted : datapath.Accounted) (inputs : DatapathInputs) :
    (datapath.tick inputs).unstored +
        datapath.engine.storableBytes (datapath.engineInputs inputs) +
          datapath.acceptedBytes .dataOut ≤
      datapath.unstored + (datapath.tick inputs).acceptedBytes .dataOut := by
  cases taking : datapath.taking? with
  | none =>
    rw [accounted.acceptedBytes_tick_of_none inputs taking]
    exact Nat.add_le_add_right (accounted.unstored_tick_of_none inputs taking) _
  | some kind =>
    obtain ⟨job, -, phase, -⟩ := accounted.waits_of_taking taking inputs
    have stored : datapath.engine.storableBytes (datapath.engineInputs inputs) = 0 := by
      rw [Engine.storableBytes, phase]
    have accepted := accounted.unstored_tick_of_some inputs taking
    omega

theorem Accounted.untaken_tick_of_none (accounted : datapath.Accounted)
    (inputs : DatapathInputs) (none : datapath.taking? = none) :
    (datapath.tick inputs).untaken ≤ datapath.untaken + datapath.engine.loadedBytes := by
  have next := datapath.phase_tick inputs
  have wire := Engine.outbound_tick datapath.engine (datapath.engineInputs inputs)
  rw [Engine.phase_tick] at next
  rw [Engine.loadedBytes]
  cases phase : datapath.engine.state.phase with
  | await =>
    simp only [phase] at next
    split at next <;> simp [untaken, next]
  | decode request =>
    simp only [phase] at next
    split at next <;> simp [untaken, next]
  | serve step job =>
    cases step with
    | process =>
      simp only [phase] at next
      split at next
      next drains => simp [untaken, next, drains]
      next => simp [untaken, next]
    | writeData =>
      have bytes := datapath.engine.memory.unitAt_eq job.context.address job.context.step
      have short := datapath.engine.memory.length_unitAt job.context.address job.context.step
      simp only [phase] at next wire
      have shown : (datapath.tick inputs).engine.outputs.outbound.level =
          datapath.engine.memory.unitAt job.context.address job.context.step := by
        rw [engine_tick, Engine.commit, wire]
        rfl
      simp only [untaken, phase, next, shown]
      grind
    | writeEnable =>
      simp only [phase] at next wire
      have shown : (datapath.tick inputs).engine.outputs.outbound.level =
          datapath.engine.outputs.outbound.level := by
        rw [engine_tick, Engine.commit, wire]
        exact accounted.outbound
      have ack := accounted.ack job.context.kind
      rw [phase] at ack
      simp only [Engine.Phase.permitsAck] at ack
      simp only [untaken, phase, next, shown, ack]
      grind
    | waitAck =>
      have acked : (datapath.caches.get job.context.kind).ack = true := by
        simpa [taking?, phase] using none
      simp only [phase, accounted.acks, acked, if_true] at next
      split at next
      next drains => simp [untaken, next]
      next => simp [(settled_afterUnit next).2.2]
    | readData =>
      simp only [phase] at next
      simp [(settled_afterUnit next).2.2]
    | _ =>
      simp only [phase] at next
      try split at next
      all_goals simp [untaken, next]

theorem Accounted.untaken_tick_of_some (accounted : datapath.Accounted)
    (inputs : DatapathInputs) {kind : CacheKind} (taking : datapath.taking? = some kind) :
    (datapath.tick inputs).untaken = 0 ∧
      CacheKind.total [.dataIn, .confPe, .confCc] (datapath.tick inputs).acceptedBytes ≤
        datapath.untaken + CacheKind.total [.dataIn, .confPe, .confCc] datapath.acceptedBytes := by
  obtain ⟨job, rfl, phase, unacked, next, acked⟩ := accounted.waits_of_taking taking inputs
  refine ⟨by simp [untaken, next, acked], ?_⟩
  have step := (accounted.sound phase).step
  simp only [CacheKind.total, List.foldr_cons, List.foldr_nil, accounted.acceptedBytes_tick, untaken,
    Accepts, taking, phase, unacked]
  cases kind : job.context.kind with
  | dataOut => simp
  | _ =>
    rw [kind] at step
    simp only [step, true_and, Option.some.injEq, reduceCtorEq, false_or, false_and, if_false]
    grind

/-- What the caches accept comes from a unit that the engine has loaded. -/
theorem Accounted.untaken_tick (accounted : datapath.Accounted) (inputs : DatapathInputs) :
    (datapath.tick inputs).untaken +
        CacheKind.total [.dataIn, .confPe, .confCc] (datapath.tick inputs).acceptedBytes ≤
      datapath.untaken + CacheKind.total [.dataIn, .confPe, .confCc] datapath.acceptedBytes +
        datapath.engine.loadedBytes := by
  cases taking : datapath.taking? with
  | none =>
    have loaded := accounted.untaken_tick_of_none inputs taking
    rw [accounted.acceptedBytes_tick_of_none inputs taking]
    omega
  | some kind =>
    obtain ⟨none, accepted⟩ := accounted.untaken_tick_of_some inputs taking
    omega

theorem Accounted.requests_tick (accounted : datapath.Accounted) (inputs : DatapathInputs) :
    (datapath.tick inputs).engine.state.stats.requests ≤
      (datapath.tick inputs).engine.state.stats.rejectedRequests +
        (datapath.tick inputs).engine.state.stats.transfers +
          (datapath.tick inputs).engine.state.phase.unanswered := by
  have balance := accounted.requests
  have next := datapath.phase_tick inputs
  rw [Engine.phase_tick] at next
  rw [next]
  simp only [engine_tick, Engine.commit, Engine.requests_tick, Engine.rejectedRequests_tick,
    Engine.transfers_tick, Engine.countedUnits]
  cases phase : datapath.engine.state.phase with
  | await =>
    simp only [phase, Engine.Phase.unanswered] at balance ⊢
    grind
  | decode request =>
    have known := accounted.known phase
    simp only [phase, Engine.Phase.unanswered] at balance ⊢
    grind
  | serve step job =>
    cases step with
    | _ =>
      simp only [phase, Engine.Phase.unanswered, Job.afterUnit] at balance ⊢
      grind

theorem known_tick (selects : CacheKind.ofSelector? inputs.selector ≠ none) {request : TransferRequest}
    (next : (datapath.tick inputs).engine.state.phase = .decode request) :
    CacheKind.ofSelector? request.selector ≠ none := by
  rw [phase_tick, Engine.phase_tick] at next
  cases phase : datapath.engine.state.phase with
  | await =>
    rw [phase] at next
    dsimp only at next
    split at next <;> cases next
    exact selects
  | decode request =>
    rw [phase] at next
    dsimp only at next
    split at next <;> cases next
  | serve step job =>
    rw [phase] at next
    cases step <;> dsimp only [Job.afterUnit] at next <;> repeat' split at next
    all_goals cases next

theorem loads_tick {job : Job}
    (next : (datapath.tick inputs).engine.state.phase = .serve .writeData job) :
    job.context.kind ≠ .dataOut := by
  rw [phase_tick, Engine.phase_tick] at next
  cases phase : datapath.engine.state.phase with
  | serve step before =>
    rw [phase] at next
    cases step <;> dsimp only [Job.afterUnit] at next <;> repeat' split at next
    all_goals cases next
    assumption
  | _ =>
    rw [phase] at next
    dsimp only at next
    split at next <;> cases next

/-- A tick with a selector that names a cache keeps the balance. -/
theorem Accounted.tick (accounted : datapath.Accounted)
    (selects : CacheKind.ofSelector? inputs.selector ≠ none) :
    (datapath.tick inputs).Accounted where
  toHandshake := accounted.toHandshake.tick inputs
  sound next := by
    rw [features_tick]
    exact accounted.sound_tick next
  known next := known_tick selects next
  loads next := loads_tick next
  outbound := rfl
  inbound := by
    rw [get_caches_tick]
    rfl
  aborted := by
    have none := accounted.aborted
    rw [engine_tick, Engine.commit, Engine.abortedRequests_tick]
    cases phase : datapath.engine.state.phase with
    | decode request => simpa [accounted.known phase] using none
    | _ => simpa using none
  requests := accounted.requests_tick inputs
  transfers := by
    have flow := accounted.uncounted_tick inputs
    have balance := accounted.transfers
    rw [accounted.sum_served_tick, engine_tick, Engine.commit, Engine.transfers_tick]
    omega
  toMemory := by
    have flow := accounted.unstored_tick inputs
    have balance := accounted.toMemory
    have stored := Engine.bytesToMemory_tick_le datapath.engine (datapath.engineInputs inputs)
    change (datapath.tick inputs).engine.state.stats.bytesToMemory ≤ _ at stored
    omega
  toCache := by
    have flow := accounted.untaken_tick inputs
    have balance := accounted.toCache
    rw [engine_tick, Engine.commit, Engine.bytesToCache_tick]
    omega

/-- While the engine waits for a start nothing is in flight. -/
theorem Accounted.settled (accounted : datapath.Accounted)
    (await : datapath.engine.state.phase = .await) : datapath.Settled where
  aborted := accounted.aborted
  requests := by
    have balance := accounted.requests
    rwa [await, Engine.Phase.unanswered, Nat.add_zero] at balance
  transfers := by
    have balance := accounted.transfers
    rwa [uncounted, await, Nat.add_zero] at balance
  toMemory := by
    have balance := accounted.toMemory
    rwa [unstored, await, Nat.add_zero] at balance
  toCache := by
    have balance := accounted.toCache
    rwa [untaken, await, Nat.add_zero] at balance

/-! ## Outside the clock -/

theorem accounted_new (features : FeatureTable) (memory : Memory) :
    (new { features, memory }).Accounted where
  toHandshake := (idle_new features memory).toHandshake
  sound := nofun
  known := nofun
  loads := nofun
  outbound := rfl
  inbound := rfl
  aborted := rfl
  requests := Nat.le_refl 0
  transfers := rfl
  toMemory := Nat.zero_le _
  toCache := by simp [CacheKind.total, acceptedBytes, untaken, new, Cache.new]

theorem Accounted.deliver (accounted : datapath.Accounted) (results : Option (List UInt64)) :
    (datapath.deliver results).Accounted := by
  have engine : (datapath.deliver results).engine = datapath.engine := engine_deliver ..
  have accepted : (datapath.deliver results).acceptedBytes = datapath.acceptedBytes := by
    funext kind
    rw [acceptedBytes, stats_deliver, engine, acceptedBytes]
  exact {
    toHandshake := accounted.toHandshake.deliver results
    sound := by
      rw [engine]
      exact accounted.sound
    known := by
      rw [engine]
      exact accounted.known
    loads := by
      rw [engine]
      exact accounted.loads
    outbound := by
      rw [engine]
      exact accounted.outbound
    inbound := by
      rw [outputs_deliver]
      exact accounted.inbound
    aborted := by
      rw [engine]
      exact accounted.aborted
    requests := by
      rw [engine]
      exact accounted.requests
    transfers := by
      have served : (datapath.deliver results).served = datapath.served := by
        funext kind
        rw [served, stats_deliver, served]
      rw [served, engine, ← accounted.transfers]
      simp only [uncounted, engine, ack_deliver]
    toMemory := by
      have balance := accounted.toMemory
      simpa only [accepted, unstored, engine, ack_deliver, outputs_deliver] using balance
    toCache := by
      have balance := accounted.toCache
      simpa only [accepted, untaken, engine, ack_deliver] using balance }

theorem Accounted.withMemory (accounted : datapath.Accounted) (memory : Memory) :
    (datapath.withMemory memory).Accounted :=
  { toHandshake := accounted.toHandshake.withMemory memory
    sound := accounted.sound
    known := accounted.known
    loads := accounted.loads
    outbound := accounted.outbound
    inbound := accounted.inbound
    aborted := accounted.aborted
    requests := accounted.requests
    transfers := accounted.transfers
    toMemory := accounted.toMemory
    toCache := accounted.toCache }

end Datapath

end AccessController
