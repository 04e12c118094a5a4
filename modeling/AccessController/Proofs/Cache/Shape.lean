import AccessController.Proofs.Cache.Tick

/-!
# The shape of the lines

Merging, filling and clearing change what lines hold and never how many there are
or how long they are.  Cleared lines are therefore those of a new cache
(`Lines.Shaped.clear_eq`), whatever has been stored in between, and with a sound
geometry no tick reaches outside them (`Cache.tickFault?_eq_none`).
-/

namespace AccessController

theorem Geometry.isConfig_eq_false {geometry : Geometry} (data : geometry.isData = true) :
    geometry.isConfig = false := by
  cases kind : geometry.kind with
  | none => rw [isConfig, kind]; rfl
  | some known => simpa [isData, isConfig, CacheKind.isConfig, kind] using data

theorem forall_mem_modify {α : Type} {holds : α → Prop} {entries : List α} {change : α → α}
    (every : ∀ entry ∈ entries, holds entry) (keeps : ∀ entry, holds entry → holds (change entry))
    {index : Nat} : ∀ entry ∈ entries.modify index change, holds entry := by
  intro entry inside
  obtain ⟨position, bound, rfl⟩ := List.mem_iff_getElem.1 inside
  rw [List.length_modify] at bound
  have before := every _ (List.getElem_mem bound)
  rw [List.getElem_modify]
  split
  · exact keeps _ before
  · exact before

namespace Lines

/-- The lines have the shape of those of a new cache. -/
def Shaped (geometry : Geometry) : Lines → Prop
  | .config values => geometry.isConfig = true ∧ values.length = geometry.lineCount
  | .data rows =>
    geometry.isConfig = false ∧ rows.length = geometry.lineCount ∧
      ∀ row ∈ rows, row.length = geometry.places

theorem shaped_blank (geometry : Geometry) : (blank geometry).Shaped geometry := by
  rw [blank]
  cases config : geometry.isConfig with
  | true =>
    rw [if_pos rfl]
    exact ⟨config, List.length_replicate⟩
  | false =>
    rw [if_neg Bool.false_ne_true]
    refine ⟨config, List.length_replicate, ?_⟩
    intro row inside
    rw [List.eq_of_mem_replicate inside, List.length_replicate]

variable {geometry : Geometry} {lines : Lines}

theorem Shaped.merge (shaped : lines.Shaped geometry) (shape : Geometry) (line place : Nat)
    (datum : Bytes) : (lines.merge shape line place datum).Shaped geometry := by
  cases lines with
  | config values =>
    obtain ⟨config, count⟩ := shaped
    exact ⟨config, (List.length_modify ..).trans count⟩
  | data rows =>
    obtain ⟨data, count, lengths⟩ := shaped
    refine ⟨data, (List.length_modify ..).trans count, ?_⟩
    apply forall_mem_modify lengths
    intro row long
    rw [List.length_set]
    exact long

theorem length_fillRow {values row : List UInt64} (width : Nat)
    (fits : values.length ≤ row.length) : (fillRow width values row).length = row.length := by
  rw [fillRow, List.length_append, List.length_map, List.length_drop]
  exact Nat.add_sub_cancel' fits

theorem Shaped.fill (shaped : lines.Shaped geometry) {shape : Geometry} {line : Nat}
    {values : List UInt64} {filled : Lines} (stored : lines.fill shape line values = .ok filled) :
    filled.Shaped geometry := by
  cases lines with
  | config values => cases stored
  | data rows =>
    obtain ⟨data, count, lengths⟩ := shaped
    rw [Lines.fill] at stored
    cases found : rows[line]? with
    | none =>
      rw [found] at stored
      cases stored
    | some row =>
      rw [found] at stored
      dsimp only at stored
      split at stored
      · cases stored
      next fits =>
        cases stored
        refine ⟨data, List.length_set.trans count, ?_⟩
        intro other inside
        rcases List.mem_or_eq_of_mem_set inside with kept | rfl
        · exact lengths other kept
        · rw [length_fillRow _ (Nat.le_of_not_lt fits)]
          exact lengths row (List.mem_of_getElem? found)

theorem Shaped.clear_eq (shaped : lines.Shaped geometry) : lines.clear = blank geometry := by
  cases lines with
  | config values =>
    obtain ⟨config, count⟩ := shaped
    rw [clear, blank, if_pos config, ← count, List.map_const']
  | data rows =>
    obtain ⟨data, count, lengths⟩ := shaped
    rw [clear, blank, if_neg (Bool.eq_false_iff.1 data), ← count, ← List.map_const']
    apply congrArg Lines.data
    apply List.map_congr_left
    intro row inside
    rw [List.map_const', lengths row inside]

/-- A merge at a place that a sound geometry has stays inside the lines. -/
theorem Shaped.mergeFault?_eq_none (shaped : lines.Shaped geometry) (sound : geometry.Sound)
    {line place : Nat} (line_lt : line < geometry.lineCount)
    (place_lt : geometry.isConfig = false → place < geometry.places) :
    lines.mergeFault? geometry line place = none := by
  cases lines with
  | config values =>
    obtain ⟨config, count⟩ := shaped
    rw [mergeFault?, indexFault?, if_pos (by omega),
      if_neg (Nat.not_lt.2 sound.granularity_le)]
    rfl
  | data rows =>
    obtain ⟨data, count, lengths⟩ := shaped
    have inside : line < rows.length := by omega
    have row : rows.getD line [] = rows[line] := by simp [inside]
    have long := lengths rows[line] (List.getElem_mem inside)
    rw [mergeFault?, elementFault?, indexFault?, if_pos inside, row, indexFault?,
      if_pos (by rw [long]; exact place_lt data)]
    rfl

end Lines

theorem Cache.newFault?_eq_none {geometry : Geometry} (sound : geometry.Sound) :
    newFault? geometry = none := by
  have lines := sound.lineCount_pos
  have width := sound.widthBits_pos
  rw [newFault?, Lines.blankFault?, Geometry.placesFault?, if_neg (by omega),
    Geometry.bootOutputFault?, if_neg (by omega)]
  rfl

theorem Cache.mergeFault?_eq_none {cache : Cache} {kind : CacheKind}
    (shaped : cache.lines.Shaped cache.geometry) (sound : cache.geometry.Sound)
    (known : cache.geometry.kind = some kind) {line place : Nat}
    (granted : cache.accessRefusal? line place = none) :
    cache.lines.mergeFault? cache.geometry line place = none := by
  rw [accessRefusal?] at granted
  split at granted
  · cases granted
  next inside =>
    split at granted
    · cases granted
    next placed =>
      refine shaped.mergeFault?_eq_none sound (Nat.lt_of_not_le inside) fun data => ?_
      have isData : cache.geometry.isData = true := by
        simpa [Geometry.isData, Geometry.isConfig, CacheKind.isConfig, known] using data
      exact Nat.lt_of_not_le fun beyond => placed ⟨isData, beyond⟩

/-- A tick of a cache of some kind with a sound geometry stays inside its lines. -/
theorem Cache.tickFault?_eq_none {cache : Cache} {kind : CacheKind}
    (shaped : cache.lines.Shaped cache.geometry) (sound : cache.geometry.Sound)
    (known : cache.geometry.kind = some kind) (inputs : CacheInputs) :
    cache.tickFault? inputs = none := by
  rw [tickFault?]
  split
  next merges =>
    have granted : cache.accessRefusal? inputs.selectIn.toNat inputs.place = none := by
      simpa using And.right (by simpa using merges)
    exact mergeFault?_eq_none shaped sound known granted
  · rfl

/-- A tick of a cache keeps the shape of its lines. -/
theorem Cache.shaped_tick {cache : Cache} {geometry : Geometry}
    (shaped : cache.lines.Shaped geometry) (inputs : CacheInputs) :
    (cache.tick inputs).lines.Shaped geometry := by
  rw [lines_tick, lines_serve]
  split
  · split
    · exact shaped.merge ..
    · exact shaped
  · exact shaped

end AccessController
