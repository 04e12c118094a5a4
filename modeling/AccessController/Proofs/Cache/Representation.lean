import AccessController.Cache.FeatureTable
import AccessController.Proofs.Cache.Assembly
import AccessController.Proofs.Cache.Geometry
import AccessController.Proofs.Cache.Trace

/-!
# What a cache always looks like

A cache shows a line that it has, its lines have the shape of its geometry, and all that
they hold fits its width (`Represented`).  Ticks, results of the array and resets keep
this, whatever the levels and the results are, and in such a state nothing that a cache
may do next reaches outside its lines (`Confined`).
-/

namespace AccessController

theorem Bits.and_wordMask_lt (value width : Nat) : value &&& wordMask width < 2 ^ width := by
  rw [wordMask, and_lowMask, Nat.one_shiftLeft]
  exact Nat.lt_of_lt_of_le (Nat.mod_lt _ (Nat.two_pow_pos _))
    (Nat.pow_le_pow_right Nat.two_pos
      (Nat.le_trans (Nat.min_le_left ..) (Nat.mod_le ..)))

theorem Geometry.lineBits_of_isConfig {geometry : Geometry} (config : geometry.isConfig = true) :
    geometry.lineBits = geometry.widthBits := by
  have data : ¬geometry.isData = true := fun data => by simp [isConfig_eq_false data] at config
  rw [lineBits, if_neg data]

namespace Lines

/-- Every element, or every configuration, fits a width. -/
def Narrow (width : Nat) : Lines → Prop
  | .config values => ∀ value ∈ values, value < 2 ^ width
  | .data rows => ∀ row ∈ rows, ∀ element ∈ row, element.toNat < 2 ^ width

theorem truncateElement_lt (width : Nat) (word : UInt64) :
    (truncateElement width word).toNat < 2 ^ width := by
  rw [truncateElement, UInt64.toNat_ofNat']
  exact Nat.lt_of_le_of_lt (Nat.mod_le ..) (Bits.and_wordMask_lt ..)

theorem rotateLeft_lt {width value : Nat} (narrow : value < 2 ^ width) (chunk : Nat) :
    rotateLeft width chunk value < 2 ^ width := by
  apply Nat.or_lt_two_pow
  · rw [Bits.and_lowMask, Nat.one_shiftLeft]
    exact Nat.mod_lt _ (Nat.two_pow_pos width)
  · exact Nat.lt_of_le_of_lt (Nat.shiftRight_le ..) narrow

/-- A chunk that is no wider than the line leaves a line that fits. -/
theorem mergeChunk_lt {width chunk value : Nat} (fits : chunk ≤ width) (narrow : value < 2 ^ width)
    (datum : Bytes) : mergeChunk width chunk datum value < 2 ^ width := by
  apply Nat.or_lt_two_pow
  · exact rotateLeft_lt narrow chunk
  · exact Nat.lt_of_lt_of_le (Bits.and_wordMask_lt ..) (Nat.pow_le_pow_right Nat.two_pos fits)

theorem narrow_blank (geometry : Geometry) (width : Nat) : (blank geometry).Narrow width := by
  rw [blank]
  split
  · intro value inside
    rw [List.eq_of_mem_replicate inside]
    exact Nat.two_pow_pos width
  · intro row rowInside element inside
    rw [List.eq_of_mem_replicate rowInside] at inside
    rw [List.eq_of_mem_replicate inside]
    exact Nat.two_pow_pos width

variable {geometry : Geometry} {lines : Lines} {width : Nat}

theorem Shaped.count_eq (shaped : lines.Shaped geometry) : lines.count = geometry.lineCount := by
  cases lines with
  | config _ => exact shaped.2
  | data _ => exact shaped.2.1

theorem lineFault?_eq_none {line : Nat} (inside : line < lines.count) :
    lines.lineFault? line = none := by
  cases lines with
  | config _ => exact if_pos inside
  | data _ => exact if_pos inside

theorem line?_eq_some {line : Nat} (inside : line < lines.count) :
    lines.line? line = some (lines.line line) := by
  cases lines with
  | config values =>
    rw [Lines.line, line?, List.getElem?_eq_getElem (show line < values.length from inside)]
    rfl
  | data rows =>
    rw [Lines.line, line?, List.getElem?_eq_getElem (show line < rows.length from inside)]
    rfl

theorem Narrow.merge (narrow : lines.Narrow geometry.widthBits) (shaped : lines.Shaped geometry)
    (sound : geometry.Sound) (line place : Nat) (datum : Bytes) :
    (lines.merge geometry line place datum).Narrow geometry.widthBits := by
  cases lines with
  | config values =>
    have lineBits := Geometry.lineBits_of_isConfig shaped.1
    have fits := sound.granularity_le
    apply forall_mem_modify narrow
    intro value below
    rw [lineBits] at fits ⊢
    exact mergeChunk_lt fits below datum
  | data rows =>
    apply forall_mem_modify narrow
    intro row below element inside
    rcases List.mem_or_eq_of_mem_set inside with kept | rfl
    · exact below element kept
    · exact truncateElement_lt ..

theorem Narrow.fill (narrow : lines.Narrow geometry.widthBits) {line : Nat}
    {values : List UInt64} {filled : Lines} (stored : lines.fill geometry line values = .ok filled) :
    filled.Narrow geometry.widthBits := by
  cases lines with
  | config _ => cases stored
  | data rows =>
    rw [Lines.fill] at stored
    cases found : rows[line]? with
    | none =>
      rw [found] at stored
      cases stored
    | some row =>
      rw [found] at stored
      dsimp only at stored
      split at stored
      · cases stored
      cases stored
      intro other otherInside
      rcases List.mem_or_eq_of_mem_set otherInside with kept | rfl
      · exact narrow other kept
      intro element inside
      rcases List.mem_append.1 inside with written | kept
      · obtain ⟨value, _, rfl⟩ := List.mem_map.1 written
        exact truncateElement_lt ..
      · exact narrow row (List.mem_of_getElem? found) element (List.mem_of_mem_drop kept)

end Lines

namespace Cache

/-! ## Operations -/

/-- What is done to a cache from outside: an event, or a reset. -/
inductive Operation where
  | event (event : Event)
  | reset

def perform (cache : Cache) : Operation → Cache
  | .event event => cache.apply event
  | .reset => cache.reset

def undergo (cache : Cache) (operations : List Operation) : Cache := operations.foldl perform cache

/-- The state of a cache is well formed. -/
structure Represented (geometry : Geometry) (cache : Cache) : Prop where
  outputLine : cache.outputLine < geometry.lineCount
  shaped : cache.lines.Shaped geometry
  narrow : cache.lines.Narrow geometry.widthBits
  geometry : cache.geometry = geometry

variable {geometry : Geometry} {cache : Cache}

theorem represented_new (sound : geometry.Sound) : (new geometry).Represented geometry where
  geometry := rfl
  outputLine := sound.bootOutputLine_lt
  shaped := Lines.shaped_blank geometry
  narrow := Lines.narrow_blank geometry _

/-- Whatever the selectors ask for, the output stays on a line that is there, and what is
merged fits. -/
theorem Represented.tick (represented : cache.Represented geometry) (sound : geometry.Sound)
    (inputs : CacheInputs) : (cache.tick inputs).Represented geometry where
  geometry := (cache.geometry_tick inputs).trans represented.geometry
  outputLine := by
    rw [outputLine_tick, represented.geometry]
    split
    next follows => exact follows.1
    next => exact represented.outputLine
  shaped := shaped_tick represented.shaped inputs
  narrow := by
    rw [lines_tick, lines_serve, represented.geometry]
    split
    · split
      · exact represented.narrow.merge represented.shaped sound ..
      · exact represented.narrow
    · exact represented.narrow

/-- Results that are stored are cut to the width; others change nothing. -/
theorem Represented.results (represented : cache.Represented geometry) (values : List UInt64) :
    (cache.apply (.results values)).Represented geometry := by
  rw [apply, storeResults]
  cases filled : cache.lines.fill cache.geometry cache.outputLine values with
  | error fault => exact represented
  | ok lines =>
    refine ⟨represented.outputLine, represented.shaped.fill filled, ?_, represented.geometry⟩
    rw [represented.geometry] at filled
    exact represented.narrow.fill filled

theorem Represented.reset (represented : cache.Represented geometry) (sound : geometry.Sound) :
    cache.reset.Represented geometry := by
  have cleared : cache.reset.lines = Lines.blank geometry := represented.shaped.clear_eq
  refine ⟨?_, ?_, ?_, represented.geometry⟩
  · change cache.geometry.bootOutputLine < _
    rw [represented.geometry]
    exact sound.bootOutputLine_lt
  · rw [cleared]
    exact Lines.shaped_blank geometry
  · rw [cleared]
    exact Lines.narrow_blank geometry _

theorem Represented.perform (represented : cache.Represented geometry) (sound : geometry.Sound)
    (operation : Operation) : (cache.perform operation).Represented geometry := by
  cases operation with
  | event event =>
    cases event with
    | tick inputs =>
      have ticked := represented.tick sound inputs
      exact ⟨ticked.outputLine, ticked.shaped, ticked.narrow, ticked.geometry⟩
    | results values => exact represented.results values
  | reset => exact represented.reset sound

theorem Represented.undergo (represented : cache.Represented geometry) (sound : geometry.Sound)
    (operations : List Operation) : (cache.undergo operations).Represented geometry := by
  induction operations generalizing cache with
  | nil => exact represented
  | cons operation rest ih => exact ih (represented.perform sound operation)

/-! ## Accesses -/

/-- Results are refused by a configuration cache, and by a data cache if there are more of
them than a line has places. -/
def Refuses (geometry : Geometry) (values : List UInt64) : Prop :=
  geometry.isConfig = true ∨ geometry.places < values.length

/-- Whatever is done next stays inside the lines. -/
structure Confined (cache : Cache) : Prop where
  /-- The merge of a tick, with the rotation of a configuration line. -/
  merge : ∀ inputs, cache.tickFault? inputs = none
  /-- The element that a granted request may read. -/
  element : ∀ line place, cache.accessRefusal? line place = none →
    cache.lines.elementFault? line place = none
  view : ∀ line < cache.geometry.lineCount, cache.lines.lineFault? line = none
  shown : cache.lines.lineFault? cache.outputLine = none
  fill : ∀ values line, cache.storeResults values ≠ .error (.lineOutOfRange line)
  /-- The mask of a unit, which is shifted inside a word. -/
  mask : Bits.wordMask cache.geometry.granularityBits = Bits.lowMask cache.geometry.granularityBits
  /-- The number of places that a request is checked against. -/
  places : cache.geometry.placesFault? = none
  /-- The output line after a reset. -/
  reset : cache.geometry.bootOutputFault? = none

/-- The output line can always be filled, unless the results themselves are refused. -/
theorem Represented.storeResults_cases (represented : cache.Represented geometry)
    (values : List UInt64) :
    (Refuses geometry values ∧ ∃ error, cache.storeResults values = .error error ∧
        ∀ line, error ≠ .lineOutOfRange line) ∨
      (¬Refuses geometry values ∧ ∃ lines, cache.storeResults values = .ok { cache with lines }) := by
  have shaped := represented.shaped
  rw [storeResults]
  cases lines : cache.lines with
  | config entries =>
    rw [lines] at shaped
    exact .inl ⟨.inl shaped.1, .configurationLine, rfl, by simp⟩
  | data rows =>
    rw [lines] at shaped
    obtain ⟨data, count, lengths⟩ := shaped
    have inside : cache.outputLine < rows.length := count.symm ▸ represented.outputLine
    have long := lengths _ (List.getElem_mem inside)
    rw [Lines.fill, List.getElem?_eq_getElem inside]
    dsimp only
    rw [long]
    by_cases many : geometry.places < values.length
    · rw [if_pos many]
      exact .inl ⟨.inr many, .tooManyValues values.length geometry.places, rfl, by simp⟩
    · rw [if_neg many]
      exact .inr ⟨fun refuses => refuses.elim (by simp [data]) many, _, rfl⟩

theorem Represented.confined (represented : cache.Represented geometry) (sound : geometry.Sound)
    {kind : CacheKind} (known : geometry.kind = some kind) : cache.Confined := by
  have shaped := represented.shaped
  have count := shaped.count_eq
  have outputLine := represented.outputLine
  have filled := represented.storeResults_cases
  obtain rfl := represented.geometry
  have positive := sound.widthBits_pos
  have lines := sound.lineCount_pos
  exact {
    merge := tickFault?_eq_none shaped sound known
    element := fun line place granted => by
      have merged := mergeFault?_eq_none shaped sound known granted
      cases lines : cache.lines with
      | config values => rfl
      | data rows =>
        rw [lines] at merged
        exact merged
    view := fun line inside => Lines.lineFault?_eq_none (count.symm ▸ inside)
    shown := Lines.lineFault?_eq_none (count.symm ▸ outputLine)
    fill := fun values line refused => by
      rcases filled values with ⟨_, error, same, other⟩ | ⟨_, _, same⟩
      · rw [same] at refused
        cases refused
        exact other line rfl
      · rw [same] at refused
        cases refused
    mask := Bits.wordMask_eq sound.granularity_word
    places := by
      rw [Geometry.placesFault?, if_neg (by omega)]
    reset := by
      rw [Geometry.bootOutputFault?, if_neg (by omega)] }

/-- From power-up on, under any levels, results and resets, a cache of a feature table is
well formed and confined to its lines.  It stores all results but those that it refuses,
which leave it as it is. -/
theorem confined_undergo (table : FeatureTable) (kind : CacheKind) (operations : List Operation) :
    let geometry := table.get kind
    let cache := (new geometry).undergo operations
    newFault? geometry = none ∧ cache.Represented geometry ∧ cache.Confined ∧
      ∀ values, ((∃ error, cache.storeResults values = .error error) ↔ Refuses geometry values) ∧
        (Refuses geometry values → cache.perform (.event (.results values)) = cache) := by
  intro geometry cache
  have sound : geometry.Sound := table.sound_get kind
  have represented : cache.Represented geometry := (represented_new sound).undergo sound operations
  refine ⟨newFault?_eq_none sound, represented, represented.confined sound (table.kind_get kind), ?_⟩
  intro values
  rw [perform, apply]
  rcases represented.storeResults_cases values with
    ⟨refuses, error, same, _⟩ | ⟨accepts, lines, same⟩
  · rw [same]
    exact ⟨⟨fun _ => refuses, fun _ => ⟨error, rfl⟩⟩, fun _ => rfl⟩
  · rw [same]
    exact ⟨⟨by rintro ⟨_, ⟨⟩⟩, fun refuses => absurd refuses accepts⟩,
      fun refuses => absurd refuses accepts⟩

end Cache

end AccessController
