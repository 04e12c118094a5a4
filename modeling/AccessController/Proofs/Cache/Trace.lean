import AccessController.Proofs.Cache.Shape

/-!
# Traces of a cache

A cache sees arbitrary levels at each tick, and between two ticks the array may hand
over results.  What a tick does depends on the tick before it in two ways only: write
enable rises if it was low then, and a refused output line counts if it was not refused
then for the same reason.  `Reached` ties what the cache remembers to that tick, so
every counter of the cache is the number of ticks of the trace that it is about
(`counters_trace`), and a tick changes no line but the one that is written
(`ticks_permitted`).
-/

namespace AccessController.Cache

/-- What happens to a cache: a tick with the clock edge behind it, or results from the
array. -/
inductive Event where
  | tick (inputs : CacheInputs)
  | results (values : List UInt64)

/-- Results that do not fit leave the cache as it is. -/
def apply (cache : Cache) : Event → Cache
  | .tick inputs => (cache.tick inputs).commit
  | .results values => (cache.storeResults values).toOption.getD cache

def play (cache : Cache) (events : List Event) : Cache := events.foldl apply cache

/-- A tick of a trace: the cache as it finds it, and the levels. -/
structure Tick where
  before : Cache
  inputs : CacheInputs

/-- The ticks of a trace. -/
def ticks (cache : Cache) : List Event → List Tick
  | [] => []
  | .tick inputs :: events => ⟨cache, inputs⟩ :: (cache.apply (.tick inputs)).ticks events
  | .results values :: events => (cache.apply (.results values)).ticks events

/-- Each element of a list together with the one before it; before the first one is
`previous`. -/
def successions {α : Type} (previous : Option α) : List α → List (Option α × α)
  | [] => []
  | next :: rest => (previous, next) :: successions (some next) rest

namespace Tick

def after (tick : Tick) : Cache := tick.before.apply (.tick tick.inputs)

/-- Write enable is high, and it was low at the tick before, if there was one. -/
def rises : Option Tick × Tick → Bool
  | (previous, tick) => tick.inputs.writeEnable && !previous.any (·.inputs.writeEnable)

/-- The output line changes. -/
def moves : Option Tick × Tick → Bool
  | (_, tick) => decide (tick.after.outputLine ≠ tick.before.outputLine)

/-- The line that is refused as the output line, and why. -/
def refusal? (tick : Tick) : Option (Nat × SelectRefusal) :=
  tick.before.selection? tick.inputs

/-- An output line is refused that was not refused for the same reason at the tick
before. -/
def refuses : Option Tick × Tick → Bool
  | (previous, tick) => tick.refusal?.isSome && decide (previous.bind refusal? ≠ tick.refusal?)

/-- What a tick may do to the lines, and what it answers. -/
structure Permitted (previous : Option Tick) (tick : Tick) : Prop where
  /-- The tick stays inside the lines. -/
  faultless : tick.before.tickFault? tick.inputs = none
  acknowledges : tick.after.outputs.ack.level = tick.inputs.writeEnable
  line : ∀ line, tick.after.lines.line? line ≠ tick.before.lines.line? line →
    rises (previous, tick) = true ∧ line = tick.inputs.selectIn.toNat
  element : tick.before.geometry.isData = true →
    ∀ line, tick.after.lines.line? line ≠ tick.before.lines.line? line →
      ∃ row value, tick.before.lines.line? line = some (.data row) ∧
        tick.after.lines.line? line = some (.data (row.set tick.inputs.place value))

end Tick

/-- What a cache remembers is what the tick before has left. -/
structure Reached (geometry : Geometry) (cache : Cache) (previous : Option Tick) : Prop where
  shaped : cache.lines.Shaped geometry
  geometry : cache.geometry = geometry
  ack : cache.ack = previous.any (·.inputs.writeEnable)
  refusedSelect : cache.refusedSelect = previous.bind Tick.refusal?

variable {geometry : Geometry} {cache : Cache} {previous : Option Tick}

theorem reached_new (geometry : Geometry) : (new geometry).Reached geometry none where
  shaped := Lines.shaped_blank geometry
  geometry := rfl
  ack := rfl
  refusedSelect := rfl

theorem Reached.tick (reached : cache.Reached geometry previous) (inputs : CacheInputs) :
    (cache.apply (.tick inputs)).Reached geometry (some ⟨cache, inputs⟩) where
  shaped := shaped_tick reached.shaped inputs
  geometry := (cache.geometry_tick inputs).trans reached.geometry
  ack := cache.ack_tick inputs
  refusedSelect := cache.refusedSelect_tick inputs

theorem exists_apply_results (cache : Cache) (values : List UInt64) :
    ∃ lines, cache.apply (.results values) = { cache with lines } ∧
      ∀ geometry, cache.lines.Shaped geometry → lines.Shaped geometry := by
  rw [apply, storeResults]
  cases filled : cache.lines.fill cache.geometry cache.outputLine values with
  | error fault => exact ⟨cache.lines, rfl, fun _ shaped => shaped⟩
  | ok lines => exact ⟨lines, rfl, fun _ shaped => shaped.fill filled⟩

theorem Reached.results (reached : cache.Reached geometry previous) (values : List UInt64) :
    (cache.apply (.results values)).Reached geometry previous := by
  obtain ⟨lines, same, shaped⟩ := cache.exists_apply_results values
  rw [same]
  exact ⟨shaped geometry reached.shaped, reached.geometry, reached.ack, reached.refusedSelect⟩

/-- Every tick of a trace finds a cache that remembers the tick before it. -/
theorem Reached.of_mem (reached : cache.Reached geometry previous) {events : List Event}
    {occurrence : Option Tick × Tick}
    (occurs : occurrence ∈ successions previous (cache.ticks events)) :
    occurrence.2.before.Reached geometry occurrence.1 := by
  induction events generalizing cache previous with
  | nil => cases occurs
  | cons event events ih =>
    cases event with
    | tick inputs =>
      cases occurs with
      | head => exact reached
      | tail _ later => exact ih (reached.tick inputs) later
    | results values => exact ih (reached.results values) occurs

/-- A counter that each tick raises by one if a condition on that tick and the one
before holds is the number of such ticks. -/
theorem Reached.count_play (reached : cache.Reached geometry previous)
    (counter : CacheStats → Nat) (counts : Option Tick × Tick → Bool)
    (tick : ∀ {cache previous}, cache.Reached geometry previous → ∀ inputs,
      counter (cache.apply (.tick inputs)).stats =
        counter cache.stats + if counts (previous, ⟨cache, inputs⟩) then 1 else 0)
    (events : List Event) :
    counter (cache.play events).stats =
      counter cache.stats + (successions previous (cache.ticks events)).countP counts := by
  induction events generalizing cache previous with
  | nil => rfl
  | cons event events ih =>
    cases event with
    | tick inputs =>
      rw [play, List.foldl_cons, ← play, ih (reached.tick inputs), tick reached, ticks,
        successions, List.countP_cons]
      omega
    | results values =>
      obtain ⟨lines, same, _⟩ := cache.exists_apply_results values
      have stats : (cache.apply (.results values)).stats = cache.stats := by rw [same]
      rw [play, List.foldl_cons, ← play, ih (reached.results values), stats, ticks]

/-! ## What a tick counts -/

theorem Reached.served_tick (reached : cache.Reached geometry previous) (inputs : CacheInputs) :
    (cache.apply (.tick inputs)).stats.acceptedWrites +
        (cache.apply (.tick inputs)).stats.rejectedWrites =
      cache.stats.acceptedWrites + cache.stats.rejectedWrites +
        if Tick.rises (previous, ⟨cache, inputs⟩) then 1 else 0 := by
  have served := cache.served_tick inputs
  rw [reached.ack] at served
  simpa [Tick.rises, apply, commit] using served

theorem selects_tick (inputs : CacheInputs) :
    (cache.apply (.tick inputs)).stats.selects =
      cache.stats.selects + if Tick.moves (previous, ⟨cache, inputs⟩) then 1 else 0 := by
  have counted := congrArg CacheStats.selects (cache.stats_tick inputs)
  simp only [CacheStats.add_eq, gain] at counted
  rw [apply, commit, counted]
  by_cases same : (cache.tick inputs).outputLine = cache.outputLine
  · simp [Tick.moves, Tick.after, apply, commit, same]
  · simp [Tick.moves, Tick.after, apply, commit, same]

theorem Reached.rejectedSelects_tick (reached : cache.Reached geometry previous)
    (inputs : CacheInputs) :
    (cache.apply (.tick inputs)).stats.rejectedSelects =
      cache.stats.rejectedSelects +
        if Tick.refuses (previous, ⟨cache, inputs⟩) then 1 else 0 := by
  have counted := congrArg CacheStats.rejectedSelects (cache.stats_tick inputs)
  simp only [CacheStats.add_eq, gain] at counted
  rw [reached.refusedSelect] at counted
  rw [apply, commit, counted, Tick.refuses]
  cases met : cache.selection? inputs with
  | none => simp [Tick.refusal?, met]
  | some refusal =>
    by_cases repeated : previous.bind Tick.refusal? = some refusal
    · simp [Tick.refusal?, met, repeated]
    · simp [Tick.refusal?, met, repeated, Ne.symm repeated]

/-- Every counter of a cache is the number of ticks that it is about. -/
structure Counted (cache : Cache) (occurrences : List (Option Tick × Tick)) : Prop where
  served : cache.stats.acceptedWrites + cache.stats.rejectedWrites =
    occurrences.countP Tick.rises
  selects : cache.stats.selects = occurrences.countP Tick.moves
  rejectedSelects : cache.stats.rejectedSelects = occurrences.countP Tick.refuses

theorem counted_play (geometry : Geometry) (events : List Event) :
    ((new geometry).play events).Counted (successions none ((new geometry).ticks events)) where
  served := by
    rw [(reached_new geometry).count_play (fun stats => stats.acceptedWrites + stats.rejectedWrites)
      Tick.rises fun reached inputs => reached.served_tick inputs]
    exact Nat.zero_add _
  selects := by
    rw [(reached_new geometry).count_play CacheStats.selects Tick.moves
      fun _ inputs => selects_tick inputs]
    exact Nat.zero_add _
  rejectedSelects := by
    rw [(reached_new geometry).count_play CacheStats.rejectedSelects Tick.refuses
      fun reached inputs => reached.rejectedSelects_tick inputs]
    exact Nat.zero_add _

/-! ## What a tick writes -/

theorem line?_merge_ne {geometry : Geometry} (lines : Lines) {line other place : Nat}
    (datum : Bytes) (different : other ≠ line) :
    (lines.merge geometry line place datum).line? other = lines.line? other := by
  cases lines with
  | config values => simp [Lines.merge, Lines.line?, different.symm]
  | data rows => simp [Lines.merge, Lines.line?, different.symm]

/-- A merge into a data line sets the element at the place. -/
theorem line?_merge_data (geometry : Geometry) (rows : List (List UInt64)) (line place : Nat)
    (datum : Bytes) :
    ((Lines.data rows).merge geometry line place datum).line? line =
      rows[line]?.map fun row =>
        .data (row.set place (Lines.truncateElement geometry.widthBits datum.word)) := by
  rw [Lines.merge, Lines.line?, List.getElem?_modify_eq, Option.map_eq_map, Option.map_map]
  rfl

/-- A tick that changes a line writes it: write enable rises, and the line is the one
that the selector names. -/
theorem Reached.rises_of_changed (reached : cache.Reached geometry previous)
    {inputs : CacheInputs} {line : Nat}
    (changed : (cache.tick inputs).lines.line? line ≠ cache.lines.line? line) :
    Tick.rises (previous, ⟨cache, inputs⟩) = true ∧ line = inputs.selectIn.toNat ∧
      (cache.tick inputs).lines = cache.lines.merge cache.geometry line inputs.place inputs.dataIn := by
  rw [lines_tick, lines_serve] at changed ⊢
  split at changed
  next rises =>
    rw [if_pos rises]
    split at changed
    next merges =>
      rw [if_pos merges]
      have selected : line = inputs.selectIn.toNat :=
        Decidable.byContradiction fun other =>
          changed (line?_merge_ne cache.lines inputs.dataIn other)
      refine ⟨?_, selected, by rw [selected]⟩
      rw [reached.ack] at rises
      simpa [Tick.rises] using rises
    · exact absurd rfl changed
  · exact absurd rfl changed

/-- In a data cache the element at the place is all that such a tick changes. -/
theorem Reached.exists_row_of_changed (reached : cache.Reached geometry previous)
    (data : geometry.isData = true) {inputs : CacheInputs} {line : Nat}
    (changed : (cache.tick inputs).lines.line? line ≠ cache.lines.line? line) :
    ∃ row value, cache.lines.line? line = some (.data row) ∧
      (cache.tick inputs).lines.line? line = some (.data (row.set inputs.place value)) := by
  obtain ⟨_, _, merged⟩ := reached.rises_of_changed changed
  have shaped := reached.shaped
  rw [merged] at changed ⊢
  cases lines : cache.lines with
  | config values =>
    rw [lines] at shaped
    exact absurd shaped.1 (Bool.eq_false_iff.1 (Geometry.isConfig_eq_false data))
  | data rows =>
    rw [lines, line?_merge_data] at changed
    rw [line?_merge_data]
    cases found : rows[line]? with
    | none => exact absurd (by rw [Lines.line?, found]; rfl) changed
    | some row => exact ⟨row, _, by rw [Lines.line?, found]; rfl, rfl⟩

theorem Reached.permitted (reached : cache.Reached geometry previous) {kind : CacheKind}
    (known : geometry.kind = some kind) (sound : geometry.Sound) (inputs : CacheInputs) :
    Tick.Permitted previous ⟨cache, inputs⟩ where
  faultless := by
    have shaped := reached.shaped
    rw [← reached.geometry] at shaped known sound
    exact tickFault?_eq_none shaped sound known inputs
  acknowledges := by simp [Tick.after, apply, commit]
  line line changed := by
    obtain ⟨rises, selected, _⟩ := reached.rises_of_changed changed
    exact ⟨rises, selected⟩
  element data _ changed := reached.exists_row_of_changed (reached.geometry ▸ data) changed

/-- A cache of any kind with a sound geometry can be built, and over any trace of levels
and results from then on its counters are those of the trace, every tick acknowledges
its write enable, and no tick writes anything but the element or line that its rising
write enable asks for. -/
theorem trace_accounted {kind : CacheKind} (known : geometry.kind = some kind)
    (sound : geometry.Sound) (events : List Event) :
    newFault? geometry = none ∧
      ((new geometry).play events).Counted (successions none ((new geometry).ticks events)) ∧
        ∀ occurrence ∈ successions none ((new geometry).ticks events),
          Tick.Permitted occurrence.1 occurrence.2 := by
  refine ⟨newFault?_eq_none sound, counted_play geometry events, ?_⟩
  intro occurrence occurs
  exact ((reached_new geometry).of_mem occurs).permitted known sound occurrence.2.inputs

/-- A write to line 0 is held while the selectors move.  The output line cannot move to
line 0 as long as that is written, and does so as soon as it is not. -/
def heldWrite : List Event := [
  .tick { writeEnable := true, place := 1, dataIn := [7], selectIn := 0, selectOut := 0 },
  .tick { writeEnable := true, place := 0, dataIn := [9], selectIn := 1, selectOut := 0 },
  .results [3],
  .tick { selectIn := 1, selectOut := 0 }]

theorem trace_accounted_heldWrite :
    let geometry : Geometry :=
      { kind := some .dataIn, lineBytes := 2, lineCount := 2, widthBits := 8, granularityBits := 8 }
    let cache := (new geometry).play heldWrite
    let occurrences := successions none ((new geometry).ticks heldWrite)
    geometry.Sound ∧ newFault? geometry = none ∧
      cache.stats = { acceptedWrites := 1, selects := 1, rejectedSelects := 1 } ∧
      cache.lines = .data [[3, 7], [0, 0]] ∧ cache.Counted occurrences ∧
      ∀ occurrence ∈ occurrences, Tick.Permitted occurrence.1 occurrence.2 := by
  intro geometry cache occurrences
  have sound : geometry.Sound := Geometry.fault?_eq_none_iff.1 (by decide)
  have known : geometry.kind = some .dataIn := rfl
  obtain ⟨builds, counted, permitted⟩ := trace_accounted known sound heldWrite
  exact ⟨sound, builds, by decide, by decide, counted, permitted⟩

end AccessController.Cache
