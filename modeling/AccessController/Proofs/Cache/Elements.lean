import AccessController.Proofs.Cache.FeatureTable
import AccessController.Proofs.Cache.Streaming

/-!
# Elements and their bytes

A datum becomes an element as the number that its bytes write, cut to the width of the cache, and
an element is read as the lowest bytes of its number.  Elements are whole bytes wide and at most
a word, so nothing is cut off a datum of that width, and nothing but its bytes is in an element.
Loading and storing are therefore inverse in every line that merging, filling and clearing lead
to (`element_bytes_survive`).
-/

namespace AccessController

namespace Bytes

theorem ofValue_value (bytes : Bytes) : ofValue bytes.length bytes.value = bytes := by
  induction bytes with
  | nil => rfl
  | cons byte rest ih =>
    have byte_lt := byte.toNat_lt
    have lowest : UInt8.ofNat (byte.toNat + 256 * value rest) = byte := by
      apply UInt8.toNat_inj.1
      rw [UInt8.toNat_ofNat']
      omega
    have others : (byte.toNat + 256 * value rest) / 256 = value rest := by omega
    rw [List.length_cons, value, ofValue, lowest, others, ih]

theorem toNat_word_of_short {bytes : Bytes} (short : bytes.length ≤ 8) :
    bytes.word.toNat = bytes.value := by
  rw [toNat_word, List.take_of_length_le short]

theorem ofWord_word {bytes : Bytes} {count : Nat} (short : count ≤ 8)
    (long : bytes.length = count) : ofWord bytes.word count = bytes := by
  subst long
  rw [ofWord, Nat.min_eq_left short, toNat_word_of_short short, ofValue_value]

theorem toNat_word_ofWord (word : UInt64) {count : Nat} (short : count ≤ 8) :
    (ofWord word count).word.toNat = word.toNat % 2 ^ (8 * count) := by
  have few : (ofValue count word.toNat).length ≤ 8 := (length_ofValue ..).symm ▸ short
  rw [ofWord, Nat.min_eq_left short, toNat_word_of_short few, value_ofValue, Nat.one_shiftLeft]

theorem word_ofWord {word : UInt64} {count : Nat} (short : count ≤ 8)
    (fits : word.toNat < 2 ^ (8 * count)) : (ofWord word count).word = word := by
  apply UInt64.toNat_inj.1
  rw [toNat_word_ofWord word short, Nat.mod_eq_of_lt fits]

theorem length_ofWord {word : UInt64} {count : Nat} (short : count ≤ 8) :
    (ofWord word count).length = count := by
  rw [ofWord, length_ofValue, Nat.min_eq_left short]

end Bytes

/-- Elements are whole bytes wide and at most a word. -/
structure Geometry.WholeBytes (geometry : Geometry) : Prop where
  whole : 8 * (geometry.widthBits / 8) = geometry.widthBits
  short : geometry.widthBits / 8 ≤ 8

theorem FeatureTable.wholeBytes_get (table : FeatureTable) {kind : CacheKind}
    (data : kind.isData = true) : (table.get kind).WholeBytes := by
  have bytes := (table.sound_get kind).granularity_bytes
  have word := (table.sound_get kind).granularity_word
  rw [table.granularityBits_get data] at bytes word
  constructor <;> omega

namespace Lines

/-- Lines after power-up, and after any data have been merged, values filled in or lines
cleared. -/
inductive Reachable (geometry : Geometry) : Lines → Prop where
  | blank : Reachable geometry (blank geometry)
  | merge {lines merged : Lines} {line place : Nat} {datum : Bytes} :
      Reachable geometry lines → lines.merge? geometry line place datum = .ok merged →
      Reachable geometry merged
  | fill {lines filled : Lines} {line : Nat} {values : List UInt64} :
      Reachable geometry lines → lines.fill geometry line values = .ok filled →
      Reachable geometry filled
  | clear {lines : Lines} : Reachable geometry lines → Reachable geometry lines.clear

/-- The element that stands at a place. Configuration lines have none. -/
def stored? (lines : Lines) (line place : Nat) : Option UInt64 :=
  match lines with
  | .config _ => none
  | .data rows => rows[line]?.bind fun row => row[place]?

variable {geometry : Geometry} {lines : Lines} {line place : Nat}

/-! ## Reachable lines -/

theorem eq_merge_of_merge? {merged : Lines} {datum : Bytes}
    (accepted : lines.merge? geometry line place datum = .ok merged) :
    merged = lines.merge geometry line place datum := by
  rw [merge?] at accepted
  split at accepted
  · cases accepted
  · cases accepted
    rfl

/-- Whatever is done to lines, they keep the shape of their cache, and their elements fit its
width. -/
theorem Reachable.shaped_and_narrow (sound : geometry.Sound) (reachable : Reachable geometry lines) :
    lines.Shaped geometry ∧ lines.Narrow geometry.widthBits := by
  induction reachable with
  | blank => exact ⟨shaped_blank geometry, narrow_blank geometry _⟩
  | merge _ accepted ih =>
    obtain ⟨shaped, narrow⟩ := ih
    rw [eq_merge_of_merge? accepted]
    exact ⟨shaped.merge .., narrow.merge shaped sound ..⟩
  | fill _ stored ih =>
    obtain ⟨shaped, narrow⟩ := ih
    exact ⟨shaped.fill stored, narrow.fill stored⟩
  | clear _ ih =>
    rw [ih.1.clear_eq]
    exact ⟨shaped_blank geometry, narrow_blank geometry _⟩

theorem Shaped.exists_stored? (shaped : lines.Shaped geometry)
    (narrow : lines.Narrow geometry.widthBits) (data : geometry.isData = true)
    (line_lt : line < geometry.lineCount) (place_lt : place < geometry.places) :
    ∃ element, lines.stored? line place = some element ∧
      element.toNat < 2 ^ geometry.widthBits := by
  cases lines with
  | config values => exact absurd shaped.1 (Bool.eq_false_iff.1 (Geometry.isConfig_eq_false data))
  | data rows =>
    obtain ⟨-, count, lengths⟩ := shaped
    have inside : line < rows.length := count.symm ▸ line_lt
    have member : rows[line] ∈ rows := List.getElem_mem inside
    have placed : place < rows[line].length := (lengths _ member).symm ▸ place_lt
    refine ⟨rows[line][place], ?_, narrow _ member _ (List.getElem_mem placed)⟩
    rw [stored?, List.getElem?_eq_getElem inside, Option.bind_some,
      List.getElem?_eq_getElem placed]

/-! ## Accesses -/

/-- A merge replaces one element, and that only if there is one. -/
theorem stored?_merge (lines : Lines) (line place : Nat) (datum : Bytes) (other position : Nat) :
    (lines.merge geometry line place datum).stored? other position =
      if line = other ∧ place = position then
        (lines.stored? other position).map fun _ => truncateElement geometry.widthBits datum.word
      else lines.stored? other position := by
  cases lines with
  | config values => simp [Lines.merge, stored?]
  | data rows =>
    rw [Lines.merge, stored?, stored?, List.getElem?_modify]
    cases rows[other]? with
    | none => simp
    | some row =>
      rw [Option.map_eq_map, Option.map_some, Option.bind_some, Option.bind_some]
      by_cases same : line = other
      · by_cases here : place = position
        · subst here
          rw [if_pos same, if_pos ⟨same, rfl⟩, List.getElem?_set_self']
          rfl
        · rw [if_pos same, if_neg fun both => here both.2, List.getElem?_set_ne here]
      · rw [if_neg same, if_neg fun both => same both.1]

theorem readElement?_of_stored? {element : UInt64}
    (stored : lines.stored? line place = some element) :
    lines.readElement? geometry line place =
      .ok (some (Bytes.ofWord element (geometry.widthBits / 8))) := by
  cases lines with
  | config values => cases stored
  | data rows =>
    obtain ⟨row, found, placed⟩ := Option.bind_eq_some_iff.1 stored
    have row_eq : rows.getD line [] = row := by rw [List.getD_eq_getElem?_getD, found]; rfl
    have element_eq : row.getD place 0 = element := by rw [List.getD_eq_getElem?_getD, placed]; rfl
    obtain ⟨inside, -⟩ := List.getElem?_eq_some_iff.1 found
    obtain ⟨within, -⟩ := List.getElem?_eq_some_iff.1 placed
    rw [readElement?, elementFault?, row_eq, indexFault?, if_pos inside, indexFault?,
      if_pos within, element?, row_eq, element_eq]
    rfl

theorem merge_of_stored? {datum : Bytes}
    (stored : lines.stored? line place =
      some (truncateElement geometry.widthBits datum.word)) :
    lines.merge geometry line place datum = lines := by
  cases lines with
  | config values => cases stored
  | data rows =>
    obtain ⟨row, found, placed⟩ := Option.bind_eq_some_iff.1 stored
    obtain ⟨_, rfl⟩ := List.getElem?_eq_some_iff.1 found
    obtain ⟨_, same⟩ := List.getElem?_eq_some_iff.1 placed
    rw [Lines.merge, List.modify_eq_set, found, Option.getD_some, ← same, List.set_getElem_self,
      List.set_getElem_self]

/-! ## Loading and storing -/

theorem truncateElement_of_lt (bytes : geometry.WholeBytes) {element : UInt64}
    (fits : element.toNat < 2 ^ geometry.widthBits) :
    truncateElement geometry.widthBits element = element := by
  obtain ⟨whole, short⟩ := bytes
  have word : geometry.widthBits ≤ 64 := by omega
  rw [truncateElement, Bits.wordMask_eq word, Bits.and_lowMask, Nat.one_shiftLeft,
    Nat.mod_eq_of_lt fits, UInt64.ofNat_toNat]

theorem truncateElement_word (bytes : geometry.WholeBytes) {datum : Bytes}
    (long : datum.length = geometry.widthBits / 8) :
    truncateElement geometry.widthBits datum.word = datum.word := by
  have below := datum.value_lt
  rw [long, bytes.whole] at below
  have short : datum.length ≤ 8 := long.symm ▸ bytes.short
  apply truncateElement_of_lt bytes
  rwa [Bytes.toNat_word_of_short short]

/-- A datum of the width of an element is read back where it has been merged. -/
theorem readElement?_merge (bytes : geometry.WholeBytes) {element : UInt64}
    (stored : lines.stored? line place = some element) {datum : Bytes}
    (long : datum.length = geometry.widthBits / 8) :
    (lines.merge geometry line place datum).readElement? geometry line place =
      .ok (some datum) := by
  have replaced :
      (lines.merge geometry line place datum).stored? line place = some datum.word := by
    rw [stored?_merge, if_pos ⟨rfl, rfl⟩, stored, Option.map_some, truncateElement_word bytes long]
  rw [readElement?_of_stored? replaced, Bytes.ofWord_word bytes.short long]

theorem merge_ofWord (bytes : geometry.WholeBytes) {element : UInt64}
    (stored : lines.stored? line place = some element)
    (fits : element.toNat < 2 ^ geometry.widthBits) :
    lines.merge geometry line place (Bytes.ofWord element (geometry.widthBits / 8)) = lines := by
  have same : (Bytes.ofWord element (geometry.widthBits / 8)).word = element :=
    Bytes.word_ofWord bytes.short (bytes.whole.symm ▸ fits)
  apply merge_of_stored?
  rw [same, truncateElement_of_lt bytes fits, stored]

/-- One element of some lines is read as it is merged. -/
structure Keeps (geometry : Geometry) (lines : Lines) (line place : Nat) : Prop where
  /-- A datum of the width of an element is read back, with every other element as before. -/
  read_merged : ∀ datum : Bytes, datum.length = geometry.widthBits / 8 →
    ∃ merged, lines.merge? geometry line place datum = .ok merged ∧
      merged.readElement? geometry line place = .ok (some datum) ∧
      ∀ other position, (other, position) ≠ (line, place) →
        merged.stored? other position = lines.stored? other position
  /-- Merging the bytes of the element changes nothing. -/
  merge_read : ∃ bytes, lines.readElement? geometry line place = .ok (some bytes) ∧
    bytes.length = geometry.widthBits / 8 ∧ lines.merge? geometry line place bytes = .ok lines

/-- The laws of reading and merging elements, and of the bytes of a word. -/
structure ElementLaws : Prop where
  /-- In all lines that a data cache can have. -/
  keeps : ∀ (table : FeatureTable) (kind : CacheKind), kind.isData = true →
    ∀ lines, Reachable (table.get kind) lines →
      ∀ line < (table.get kind).lineCount, ∀ place < (table.get kind).places,
        lines.Keeps (table.get kind) line place
  ofWord_word : ∀ count ≤ 8, ∀ bytes : Bytes, bytes.length = count →
    Bytes.ofWord bytes.word count = bytes
  word_ofWord : ∀ count ≤ 8, ∀ word : UInt64,
    (Bytes.ofWord word count).word.toNat = word.toNat % 2 ^ (8 * count)

theorem Reachable.keeps {table : FeatureTable} {kind : CacheKind} (data : kind.isData = true)
    (reachable : Reachable (table.get kind) lines) (line_lt : line < (table.get kind).lineCount)
    (place_lt : place < (table.get kind).places) : lines.Keeps (table.get kind) line place := by
  have sound := table.sound_get kind
  have bytes := table.wholeBytes_get data
  obtain ⟨shaped, narrow⟩ := reachable.shaped_and_narrow sound
  obtain ⟨element, stored, fits⟩ :=
    shaped.exists_stored? narrow ((table.isData_get kind).trans data) line_lt place_lt
  have merges (datum : Bytes) : lines.merge? (table.get kind) line place datum =
      .ok (lines.merge (table.get kind) line place datum) := by
    rw [merge?, shaped.mergeFault?_eq_none sound line_lt fun _ => place_lt]
  constructor
  case read_merged =>
    intro datum long
    refine ⟨_, merges datum, readElement?_merge bytes stored long, ?_⟩
    intro other position different
    rw [stored?_merge, if_neg]
    rintro ⟨rfl, rfl⟩
    exact different rfl
  case merge_read =>
    refine ⟨_, readElement?_of_stored? stored, Bytes.length_ofWord bytes.short, ?_⟩
    rw [merges, merge_ofWord bytes stored fits]

/-- Element bytes survive a data line, and up to eight bytes and the words that they write
determine each other. -/
theorem element_bytes_survive : ElementLaws where
  keeps _ _ data _ reachable _ line_lt _ place_lt := reachable.keeps data line_lt place_lt
  ofWord_word _ short _ := Bytes.ofWord_word short
  word_ofWord _ short word := Bytes.toNat_word_ofWord word short

/-- Elements of a whole word, one of which is set by a merge and another one by a fill. -/
theorem element_bytes_survive_wide :
    ∃ table, FeatureTable.ofList? [16, 2, 64, 4, 2, 16, 3, 2, 20, 4, 2, 32] 8 = .ok table ∧
      let geometry := table.get .dataIn
      let lines : Lines := .data [[0xf0, 0], [0, 0xffeeddccbbaa9988]]
      let datum : Bytes := [1, 2, 3, 4, 5, 6, 7, 0x80]
      Reachable geometry lines ∧
        (∃ merged, lines.merge? geometry 1 0 datum = .ok merged ∧
          merged.readElement? geometry 1 0 = .ok (some datum) ∧
          merged.stored? 1 1 = some 0xffeeddccbbaa9988) ∧
        (∃ bytes, lines.readElement? geometry 1 1 = .ok (some bytes) ∧
          lines.merge? geometry 1 1 bytes = .ok lines) ∧
        Bytes.ofWord datum.word 8 = datum := by
  obtain ⟨table, built, shape⟩ :
      ∃ table, FeatureTable.ofList? [16, 2, 64, 4, 2, 16, 3, 2, 20, 4, 2, 32] 8 = .ok table ∧
        table.get .dataIn = ⟨some .dataIn, 16, 2, 64, 64⟩ :=
    ⟨_, rfl, rfl⟩
  refine ⟨table, built, ?_⟩
  intro geometry lines datum
  have geometry_eq : geometry = ⟨some .dataIn, 16, 2, 64, 64⟩ := shape
  have reachable : Reachable geometry lines := by
    rw [geometry_eq]
    exact .fill
      (.merge (.clear .blank)
        (rfl : merge? _ _ 1 1 [0x88, 0x99, 0xaa, 0xbb, 0xcc, 0xdd, 0xee, 0xff, 0x77] = _))
      (rfl : fill _ _ 0 [0xf0] = _)
  have line_lt : 1 < geometry.lineCount := by rw [geometry_eq]; decide
  have places : geometry.places = 2 := by rw [geometry_eq]; rfl
  have long : datum.length = geometry.widthBits / 8 := by rw [geometry_eq]; rfl
  have keeps := element_bytes_survive.keeps table .dataIn rfl lines reachable 1 line_lt
  obtain ⟨merged, accepted, read, others⟩ :=
    (keeps 0 (places ▸ Nat.two_pos)).read_merged datum long
  obtain ⟨bytes, found, -, kept⟩ := (keeps 1 (places ▸ Nat.one_lt_two)).merge_read
  exact ⟨reachable, ⟨merged, accepted, read, others 1 1 (by decide)⟩, ⟨bytes, found, kept⟩,
    element_bytes_survive.ofWord_word 8 (Nat.le_refl 8) datum rfl⟩

end Lines

end AccessController
