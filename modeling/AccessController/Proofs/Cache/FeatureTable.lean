import AccessController.Cache.FeatureTable
import AccessController.Proofs.Cache.Geometry

/-!
# Accepted feature tables

A list of features is accepted if it consists of one triple for each cache and each triple is
admissible.  The shapes of the table are those of the triples, and everything that is derived from
a shape has a result and stays within the bounds that the machine relies on
(`ofList?_admissible`).
-/

namespace AccessController

namespace FeatureTable

/-- What a list of features says of one cache. -/
structure Triple where
  lineBytes : Nat
  lineCount : Nat
  widthBits : Nat
  deriving Repr, DecidableEq

namespace Triple

/-- The three entries in the order of the list. -/
def toList (triple : Triple) : List Nat := [triple.lineBytes, triple.lineCount, triple.widthBits]

/-- The bits of a line: the bytes of a data cache, the width of a configuration cache. -/
def lineBits (triple : Triple) (kind : CacheKind) : Nat :=
  if kind.isData then 8 * triple.lineBytes else triple.widthBits

/-- The bits of a unit: the width of a data cache, a given granularity of a configuration cache. -/
def unitBits (triple : Triple) (kind : CacheKind) (confGranularity : Nat) : Nat :=
  if kind.isData then triple.widthBits else confGranularity

/-- A triple that a cache can have. -/
structure Admissible (triple : Triple) (kind : CacheKind) (confGranularity : Nat) : Prop where
  lineBytes_pos : 0 < triple.lineBytes
  lineCount_pos : 0 < triple.lineCount
  widthBits_pos : 0 < triple.widthBits
  unitBits_pos : 0 < triple.unitBits kind confGranularity
  unitBits_bytes : 8 ∣ triple.unitBits kind confGranularity
  unitBits_word : triple.unitBits kind confGranularity ≤ 64
  unitBits_le : triple.unitBits kind confGranularity ≤ triple.lineBits kind

/-- The shape that a triple gives to a cache. -/
def shape (triple : Triple) (kind : CacheKind) (confGranularity : Nat) : Geometry :=
  FeatureTable.shape kind confGranularity triple.lineBytes triple.lineCount triple.widthBits

theorem lineBits_shape (triple : Triple) (kind : CacheKind) (confGranularity : Nat) :
    (triple.shape kind confGranularity).lineBits = triple.lineBits kind := by
  rw [lineBits, Nat.mul_comm]
  rfl

theorem sound_shape_iff {triple : Triple} {kind : CacheKind} {confGranularity : Nat} :
    (triple.shape kind confGranularity).Sound ↔ triple.Admissible kind confGranularity := by
  constructor
  · intro sound
    refine ⟨sound.lineBytes_pos, sound.lineCount_pos, sound.widthBits_pos,
      sound.granularityBits_pos, Nat.dvd_of_mod_eq_zero sound.granularity_bytes,
      sound.granularity_word, ?_⟩
    rw [← lineBits_shape]
    exact sound.granularity_le
  · intro admissible
    have fits := admissible.unitBits_le
    rw [← lineBits_shape triple kind confGranularity] at fits
    refine ⟨admissible.lineCount_pos, admissible.lineBytes_pos, admissible.widthBits_pos,
      admissible.unitBits_pos, Nat.mod_eq_zero_of_dvd admissible.unitBits_bytes,
      admissible.unitBits_word, fits, fun data => ?_⟩
    have known : kind.isData = true := data
    rwa [unitBits, if_pos known] at fits

end Triple

/-! ## Lists of features -/

/-- The entries of four triples, one cache behind the other. -/
def entries (triples : PerCache Triple) : List Nat := triples.toList.flatMap Triple.toList

theorem exists_triple {features : List Nat} {more : Nat} (long : features.length = 3 + more) :
    ∃ (triple : Triple) (rest : List Nat), features = triple.toList ++ rest ∧
      rest.length = more := by
  match features with
  | [] | [_] | [_, _] => simp only [List.length_cons, List.length_nil] at long; omega
  | first :: second :: third :: rest =>
    refine ⟨⟨first, second, third⟩, rest, rfl, ?_⟩
    simp only [List.length_cons] at long
    omega

theorem exists_entries_eq {features : List Nat} (complete : features.length = entryCount) :
    ∃ triples, features = entries triples := by
  have four : features.length = 3 + (3 + (3 + (3 + 0))) := complete
  obtain ⟨dataIn, others, rfl, three⟩ := exists_triple four
  obtain ⟨dataOut, confs, rfl, two⟩ := exists_triple three
  obtain ⟨confPe, last, rfl, one⟩ := exists_triple two
  obtain ⟨confCc, rest, rfl, none⟩ := exists_triple one
  obtain rfl := List.eq_nil_of_length_eq_zero none
  exact ⟨⟨dataIn, dataOut, confPe, confCc⟩, rfl⟩

theorem get_shapes_entries (triples : PerCache Triple) (confGranularity : Nat) (kind : CacheKind) :
    (shapes (entries triples) confGranularity).get kind =
      (triples.get kind).shape kind confGranularity := by
  cases kind <;> rfl

theorem firstFault?_eq_none_iff {geometry : PerCache Geometry} :
    firstFault? geometry = none ↔ ∀ kind, (geometry.get kind).Sound := by
  constructor
  · exact sound_of_firstFault?
  · intro sound
    refine List.findSome?_eq_none_iff.2 fun kind _ => ?_
    rw [Geometry.fault?_eq_none_iff.2 (sound kind)]
    rfl

/-- What was accepted is complete, and the table has its shapes. -/
theorem ofList?_eq_ok {features : List Nat} {confGranularity : Nat} {table : FeatureTable}
    (accepted : ofList? features confGranularity = .ok table) :
    features.length = entryCount ∧ table.geometry = shapes features confGranularity := by
  rw [ofList?] at accepted
  split at accepted
  next complete =>
    split at accepted
    next => cases accepted
    next =>
      cases accepted
      exact ⟨complete, rfl⟩
  next => cases accepted

theorem exists_ofList?_eq_ok {triples : PerCache Triple} {confGranularity : Nat}
    (admissible : ∀ kind, (triples.get kind).Admissible kind confGranularity) :
    ∃ table, ofList? (entries triples) confGranularity = .ok table := by
  have faultless : firstFault? (shapes (entries triples) confGranularity) = none := by
    refine firstFault?_eq_none_iff.2 fun kind => ?_
    rw [get_shapes_entries]
    exact Triple.sound_shape_iff.2 (admissible kind)
  have complete : (entries triples).length = entryCount := rfl
  rw [ofList?, if_pos complete]
  split
  next fault faulty =>
    rw [faultless] at faulty
    cases faulty
  next => exact ⟨_, rfl⟩

theorem exists_entries_of_ofList? {features : List Nat} {confGranularity : Nat}
    {table : FeatureTable} (accepted : ofList? features confGranularity = .ok table) :
    ∃ triples, features = entries triples ∧ ∀ kind,
      (triples.get kind).Admissible kind confGranularity ∧
        table.get kind = (triples.get kind).shape kind confGranularity := by
  obtain ⟨complete, shapes_eq⟩ := ofList?_eq_ok accepted
  obtain ⟨triples, rfl⟩ := exists_entries_eq complete
  refine ⟨triples, rfl, fun kind => ?_⟩
  have shape_eq : table.get kind = (triples.get kind).shape kind confGranularity := by
    rw [get, shapes_eq, get_shapes_entries]
  exact ⟨Triple.sound_shape_iff.1 (shape_eq ▸ table.sound_get kind), shape_eq⟩

/-! ## Derived quantities -/

/-- Everything that is derived from the shape of a cache has a result and stays within its
bounds. -/
structure Derived (geometry : Geometry) : Prop where
  places_defined : geometry.placesFault? = none
  blockTransfer_defined : geometry.blockTransferFault? = none
  bootOutput_defined : geometry.bootOutputFault? = none
  places_pos : 1 ≤ geometry.places
  stepBytes_pos : 1 ≤ geometry.stepBytes
  stepBytes_le : geometry.stepBytes ≤ 8
  bootOutputLine_lt : geometry.bootOutputLine < geometry.lineCount
  /-- The bits of the units of a line. -/
  units_mul : (geometry.blockTransferCount + 1) * geometry.granularityBits =
    if geometry.lineBits % geometry.granularityBits = 0 then geometry.lineBits
    else geometry.lineBits + 2 * geometry.granularityBits -
      geometry.lineBits % geometry.granularityBits
  /-- The places of a data line are its units, without the two that an inexact line has behind
  its last place. -/
  places_eq : geometry.isData → geometry.places =
    if geometry.lineBits % geometry.granularityBits = 0 then geometry.blockTransferCount + 1
    else geometry.blockTransferCount + 1 - 2
  places_le : geometry.isData → geometry.places * geometry.stepBytes ≤ geometry.lineBytes

/-- The summary of a shape has a result if no part of it is without one. -/
theorem Derived.summary?_eq {geometry : Geometry} (derived : Derived geometry) :
    geometry.summary? = .ok {
      lineBits := geometry.lineBits
      places := geometry.places
      stepBytes := geometry.stepBytes
      blockTransferCount := geometry.blockTransferCount
      bootOutputLine := geometry.bootOutputLine } := by
  rw [Geometry.summary?, derived.places_defined, derived.blockTransfer_defined,
    derived.bootOutput_defined]
  rfl

theorem isData_get (table : FeatureTable) (kind : CacheKind) :
    (table.get kind).isData = kind.isData := by
  rw [Geometry.isData, kind_get, Option.any_some]

theorem places_get (table : FeatureTable) {kind : CacheKind} (data : (table.get kind).isData) :
    (table.get kind).places = (table.get kind).lineBits / (table.get kind).granularityBits := by
  have known : kind.isData := isData_get table kind ▸ data
  rw [Geometry.places, if_pos data, table.granularityBits_get known]

theorem derived_get (table : FeatureTable) (kind : CacheKind) : Derived (table.get kind) := by
  have sound := table.sound_get kind
  have unitBits_pos := sound.granularityBits_pos
  have fits := sound.granularity_le
  have bytes := sound.mul_stepBytes
  constructor
  case places_defined =>
    exact if_neg fun zero => Nat.ne_of_gt sound.widthBits_pos zero.2
  case blockTransfer_defined =>
    rw [Geometry.blockTransferFault?, if_neg (Nat.ne_of_gt unitBits_pos),
      if_neg (Nat.ne_of_gt (Nat.lt_of_lt_of_le unitBits_pos fits))]
  case bootOutput_defined => exact if_neg (Nat.ne_of_gt sound.lineCount_pos)
  case places_pos =>
    rw [Geometry.places]
    split
    next data => exact Nat.div_pos (sound.element_le data) sound.widthBits_pos
    next => exact Nat.le_refl 1
  case stepBytes_pos => omega
  case stepBytes_le =>
    have word := sound.granularity_word
    omega
  case bootOutputLine_lt => exact sound.bootOutputLine_lt
  case units_mul => exact sound.units_mul_granularityBits
  case places_eq =>
    intro data
    rw [table.places_get data, Geometry.units_eq unitBits_pos fits]
    split
    next => rfl
    next => rfl
  case places_le =>
    intro data
    have covered := Nat.div_mul_le_self (table.get kind).lineBits (table.get kind).granularityBits
    rw [← table.places_get data, ← bytes, Nat.mul_left_comm, Geometry.lineBits, if_pos data,
      Nat.mul_comm _ 8] at covered
    exact Nat.le_of_mul_le_mul_left covered (by decide)

/-- A list of features is accepted if it consists of four admissible triples. The shapes of the
table are then those of the triples, and everything derived from them has a result and stays within
its bounds. -/
theorem ofList?_admissible (features : List Nat) (confGranularity : Nat) :
    ((∃ table, ofList? features confGranularity = .ok table) ↔
      ∃ triples, features = entries triples ∧
        ∀ kind, (triples.get kind).Admissible kind confGranularity) ∧
    ∀ table, ofList? features confGranularity = .ok table →
      ∃ triples, features = entries triples ∧ ∀ kind,
        table.get kind = (triples.get kind).shape kind confGranularity ∧
          Derived (table.get kind) := by
  refine ⟨⟨?_, ?_⟩, ?_⟩
  · rintro ⟨table, accepted⟩
    obtain ⟨triples, features_eq, admissible⟩ := exists_entries_of_ofList? accepted
    exact ⟨triples, features_eq, fun kind => (admissible kind).1⟩
  · rintro ⟨triples, rfl, admissible⟩
    exact exists_ofList?_eq_ok admissible
  · intro table accepted
    obtain ⟨triples, features_eq, shapes_eq⟩ := exists_entries_of_ofList? accepted
    exact ⟨triples, features_eq, fun kind => ⟨(shapes_eq kind).2, derived_get table kind⟩⟩

/-- Five bytes hold two elements of 16 bits and a part of a third one. -/
theorem ofList?_admissible_inexact :
    ∃ table, ofList? [5, 2, 16, 8, 1, 32, 13, 2, 100, 16, 3, 128] 64 = .ok table ∧
      (table.get .dataIn).places = 2 ∧ (table.get .dataIn).blockTransferCount + 1 = 4 ∧
      ∀ kind, Derived (table.get kind) := by
  have accepts := ofList?_admissible [5, 2, 16, 8, 1, 32, 13, 2, 100, 16, 3, 128] 64
  obtain ⟨table, accepted⟩ := accepts.1.2
    ⟨⟨⟨5, 2, 16⟩, ⟨8, 1, 32⟩, ⟨13, 2, 100⟩, ⟨16, 3, 128⟩⟩, rfl, fun kind => by
      cases kind <;> constructor <;> decide⟩
  obtain ⟨_, _, derived⟩ := accepts.2 table accepted
  have shape_eq := (ofList?_eq_ok accepted).2
  refine ⟨table, accepted, ?_, ?_, fun kind => (derived kind).2⟩
  · rw [get, shape_eq]
    rfl
  · rw [get, shape_eq]
    rfl

end FeatureTable

end AccessController
