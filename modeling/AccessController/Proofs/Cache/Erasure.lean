import AccessController.Proofs.Cache.Shape

/-!
# A cache without its data

Erasing data turns every stored value into zero and keeps what control can depend
on: how many lines there are and how long, how many bytes a wire carries, and all
counters.  A cache looks at data nowhere else, so it makes no difference behind a
tick whether its data was erased before as well.
-/

namespace AccessController

/-- As many bytes, all of them zero. -/
def Bytes.withoutData (bytes : Bytes) : Bytes := bytes.map fun _ => 0

namespace Bytes

variable {left right : Bytes}

theorem withoutData_eq_iff : left.withoutData = right.withoutData ↔ left.length = right.length := by
  rw [withoutData, withoutData, List.map_const', List.map_const']
  constructor
  · intro same
    simpa using congrArg List.length same
  · intro same
    rw [same]

@[simp] theorem length_withoutData (bytes : Bytes) : bytes.withoutData.length = bytes.length :=
  List.length_map ..

@[simp] theorem withoutData_withoutData (bytes : Bytes) :
    bytes.withoutData.withoutData = bytes.withoutData :=
  withoutData_eq_iff.2 bytes.length_withoutData

@[simp] theorem isEmpty_withoutData (bytes : Bytes) :
    bytes.withoutData.isEmpty = bytes.isEmpty := by
  cases bytes <;> rfl

end Bytes

/-- A data wire whose bytes are all zero, before the clock edge and behind it. -/
def Wire.withoutData (wire : Wire Bytes) : Wire Bytes :=
  ⟨wire.level.withoutData, wire.next.withoutData⟩

theorem Wire.withoutData_drive (wire : Wire Bytes) {ours theirs : Bytes}
    (same : ours.length = theirs.length) :
    (wire.drive ours).withoutData = (wire.withoutData.drive theirs).withoutData := by
  have driven : ours.withoutData = theirs.withoutData := Bytes.withoutData_eq_iff.2 same
  simp [Wire.withoutData, Wire.drive, driven]

namespace Lines

variable (lines : Lines) (geometry : Geometry)

@[simp] theorem clear_clear : lines.clear.clear = lines.clear := by
  cases lines with
  | config values => simp [clear]
  | data rows => simp [clear]

theorem clear_merge (line place : Nat) (datum : Bytes) :
    (lines.merge geometry line place datum).clear = lines.clear := by
  cases lines with
  | config values =>
    simp only [merge, clear, List.map_const', List.length_modify]
  | data rows =>
    simp only [merge, clear, List.map_const']
    apply congrArg Lines.data
    apply List.ext_getElem?
    intro index
    rw [List.getElem?_map, List.getElem?_map, List.getElem?_modify]
    cases rows[index]? with
    | none => rfl
    | some row => split <;> simp

variable {lines geometry} in
theorem clear_fill {line : Nat} {values : List UInt64} {filled : Lines}
    (stored : lines.fill geometry line values = .ok filled) : filled.clear = lines.clear := by
  cases lines with
  | config _ => cases stored
  | data rows =>
    rw [fill] at stored
    cases found : rows[line]? with
    | none =>
      rw [found] at stored
      cases stored
    | some row =>
      rw [found] at stored
      dsimp only at stored
      split at stored
      · cases stored
      next fits =>
        cases stored
        have length := length_fillRow geometry.widthBits (Nat.le_of_not_lt fits)
        simp only [clear, List.map_const']
        apply congrArg Lines.data
        apply List.ext_getElem?
        intro index
        rw [List.getElem?_map, List.getElem?_map, List.getElem?_set]
        split
        next same =>
          subst same
          have inside : line < rows.length := (List.getElem?_eq_some_iff.1 found).1
          rw [if_pos inside, found, Option.map_some, Option.map_some, length]
        next => rfl

/-- An element has as many bytes as its cache gives it, whatever its value is. -/
theorem length_element? (line place : Nat) :
    ((lines.element? geometry line place).getD []).length =
      ((lines.clear.element? geometry line place).getD []).length := by
  cases lines with
  | config _ => rfl
  | data _ => exact (Bytes.length_ofValue ..).trans (Bytes.length_ofValue ..).symm

end Lines

/-- The levels that a cache samples, without the data among them. -/
def CacheInputs.withoutData (inputs : CacheInputs) : CacheInputs :=
  { inputs with dataIn := inputs.dataIn.withoutData }

namespace Cache

/-- The cache with all its data erased. -/
def withoutData (cache : Cache) : Cache :=
  { cache with
    lines := cache.lines.clear
    outputs.data := cache.outputs.data.withoutData }

variable (cache : Cache) (line place : Nat)

theorem withoutData_driveData {ours theirs : Bytes} (same : ours.length = theirs.length) :
    (cache.driveData ours).withoutData = (cache.withoutData.driveData theirs).withoutData := by
  rw [withoutData, driveData, withoutData, driveData]
  simp only [Wire.withoutData_drive _ same, withoutData, Lines.clear_clear]

theorem withoutData_withoutData : cache.withoutData.withoutData = cache.withoutData := by
  simp [withoutData, Wire.withoutData]

/-- A request is granted, counted and answered alike. -/
theorem withoutData_serve (datum : Bytes) :
    (cache.serve line place datum).withoutData =
      (cache.withoutData.serve line place datum.withoutData).withoutData := by
  have refusal : cache.withoutData.accessRefusal? line place = cache.accessRefusal? line place := rfl
  have drains : cache.withoutData.drains = cache.drains := rfl
  have counted (ours theirs : Cache) (same : ours.withoutData = theirs.withoutData) :
      ours.countAccepted.withoutData = theirs.countAccepted.withoutData ∧
        ours.countRejected.withoutData = theirs.countRejected.withoutData := by
    simp only [withoutData, countAccepted, countRejected, Cache.mk.injEq] at same ⊢
    simp_all
  rw [serve, serve, refusal, drains, Bytes.isEmpty_withoutData]
  cases cache.accessRefusal? line place with
  | some reason =>
    apply (counted _ _ _).2
    split
    · exact cache.withoutData_driveData rfl
    · exact cache.withoutData_withoutData.symm
  | none =>
    dsimp only
    split
    · apply (counted _ _ _).1
      exact cache.withoutData_driveData (cache.lines.length_element? ..)
    · split
      · exact (counted _ _ cache.withoutData_withoutData.symm).2
      · apply (counted _ _ _).1
        simp only [withoutData, Lines.clear_merge, Lines.clear_clear]
        simp [Wire.withoutData]

theorem withoutData_handshake (inputs : CacheInputs) :
    (cache.handshake inputs).withoutData =
      (cache.withoutData.handshake inputs.withoutData).withoutData := by
  have answered (ours theirs : Cache) (same : ours.withoutData = theirs.withoutData) :
      withoutData { ours with
          ack := inputs.writeEnable, outputs.ack := ours.outputs.ack.drive inputs.writeEnable } =
        withoutData { theirs with
          ack := inputs.writeEnable
          outputs.ack := theirs.outputs.ack.drive inputs.writeEnable } := by
    simp only [withoutData, Cache.mk.injEq, CacheOutputs.mk.injEq] at same ⊢
    simp_all
  have served : (if inputs.writeEnable && !cache.ack then
        cache.serve inputs.selectIn.toNat inputs.place inputs.dataIn else cache).withoutData =
      (if inputs.writeEnable && !cache.ack then
        cache.withoutData.serve inputs.selectIn.toNat inputs.place inputs.dataIn.withoutData
      else cache.withoutData).withoutData := by
    split
    · exact cache.withoutData_serve ..
    · exact cache.withoutData_withoutData.symm
  exact answered _ _ served

theorem withoutData_updateSelection (requested : Nat) (target : Option Nat) :
    (cache.updateSelection requested target).withoutData =
      cache.withoutData.updateSelection requested target := by
  have refusal : cache.withoutData.selectRefusal? requested target =
      cache.selectRefusal? requested target := rfl
  have output : cache.withoutData.outputLine = cache.outputLine := rfl
  rw [updateSelection, updateSelection, refusal, output]
  split
  · rfl
  · cases cache.selectRefusal? requested target <;> rfl

/-- Behind a tick it makes no difference that data was erased before it. -/
theorem withoutData_tick (inputs : CacheInputs) :
    (cache.tick inputs).withoutData =
      (cache.withoutData.tick inputs.withoutData).withoutData := by
  rw [tick, tick, withoutData_updateSelection, withoutData_updateSelection, withoutData_handshake]
  rfl

end Cache

end AccessController
