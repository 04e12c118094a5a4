import AccessController.Cache.Basic

/-!
# What a tick of a cache does

Each theorem gives one field of a cache after a tick.  The acknowledgement is
the write enable of the tick, the lines and the data wire change when write
enable rises, and the output line follows its selector unless that is refused.
The counters grow with what the tick does: a request is counted once, accepted
or rejected, and so is a change of the output line and a refusal of one.
-/

namespace AccessController

/-! ## Counters -/

namespace CacheStats

instance : Add CacheStats where
  add left right := {
    acceptedWrites := left.acceptedWrites + right.acceptedWrites
    rejectedWrites := left.rejectedWrites + right.rejectedWrites
    selects := left.selects + right.selects
    rejectedSelects := left.rejectedSelects + right.rejectedSelects }

variable (left right : CacheStats)

theorem add_eq :
    left + right = {
      acceptedWrites := left.acceptedWrites + right.acceptedWrites
      rejectedWrites := left.rejectedWrites + right.rejectedWrites
      selects := left.selects + right.selects
      rejectedSelects := left.rejectedSelects + right.rejectedSelects } := rfl

protected theorem add_assoc (other : CacheStats) :
    left + right + other = left + (right + other) := by
  simp only [add_eq, Nat.add_assoc]

theorem add_eq_right_iff : left + right = right ↔ left = {} := by
  cases left
  cases right
  simp only [add_eq, mk.injEq]
  omega

end CacheStats

namespace Cache

variable (cache : Cache) (inputs : CacheInputs)

/-! ## Serving a request -/

section Serve

variable (line place : Nat) (datum : Bytes)

@[simp] theorem outputLine_serve :
    (cache.serve line place datum).outputLine = cache.outputLine := by
  rw [serve]
  split
  · split <;> rfl
  · split
    · rfl
    · split <;> rfl

@[simp] theorem geometry_serve :
    (cache.serve line place datum).geometry = cache.geometry := by
  rw [serve]
  split
  · split <;> rfl
  · split
    · rfl
    · split <;> rfl

@[simp] theorem ackWire_serve :
    (cache.serve line place datum).outputs.ack = cache.outputs.ack := by
  rw [serve]
  split
  · split <;> rfl
  · split
    · rfl
    · split <;> rfl

theorem lines_serve :
    (cache.serve line place datum).lines =
      if cache.accessRefusal? line place = none ∧ cache.drains = false ∧ datum ≠ [] then
        cache.lines.merge cache.geometry line place datum
      else cache.lines := by
  simp only [serve, driveData, countAccepted, countRejected]
  grind [List.isEmpty_iff]

theorem dataWire_serve :
    (cache.serve line place datum).outputs.data =
      if cache.drains then
        cache.outputs.data.drive <|
          if cache.accessRefusal? line place = none then
            (cache.lines.element? cache.geometry line place).getD []
          else []
      else cache.outputs.data := by
  simp only [serve, driveData, countAccepted, countRejected]
  grind

/-- Whether serving a request counts it as accepted. -/
def accepts : Prop :=
  cache.accessRefusal? line place = none ∧ (cache.drains = true ∨ datum ≠ [])

instance : Decidable (cache.accepts line place datum) :=
  inferInstanceAs (Decidable (_ ∧ _))

@[simp] theorem refusedSelect_serve :
    (cache.serve line place datum).refusedSelect = cache.refusedSelect := by
  rw [serve]
  split
  · split <;> rfl
  · split
    · rfl
    · split <;> rfl

/-- A request that is served is counted once. -/
theorem stats_serve :
    (cache.serve line place datum).stats = { cache.stats with
      acceptedWrites :=
        cache.stats.acceptedWrites + if cache.accepts line place datum then 1 else 0
      rejectedWrites :=
        cache.stats.rejectedWrites + if cache.accepts line place datum then 0 else 1 } := by
  cases access : cache.accessRefusal? line place with
  | some refusal =>
    rw [if_neg fun accepted => by simp [accepts, access] at accepted,
      if_neg fun accepted => by simp [accepts, access] at accepted]
    simp only [serve, access]
    split <;> rfl
  | none =>
    by_cases effect : cache.drains = true ∨ datum ≠ []
    · rw [if_pos ⟨access, effect⟩, if_pos ⟨access, effect⟩]
      simp only [serve, access]
      split
      · rfl
      next merges =>
        rw [if_neg fun empty => effect.elim merges fun full => full (List.isEmpty_iff.1 empty)]
        rfl
    · rw [if_neg fun accepted => effect accepted.2, if_neg fun accepted => effect accepted.2]
      simp only [not_or, ne_eq, Decidable.not_not] at effect
      simp only [serve, access]
      rw [if_neg effect.1, if_pos (List.isEmpty_iff.2 effect.2)]
      rfl

end Serve

/-! ## The selection of the output line -/

section Selection

variable (requested : Nat) (target : Option Nat)

@[simp] theorem geometry_updateSelection :
    (cache.updateSelection requested target).geometry = cache.geometry := by
  rw [updateSelection]
  split
  · rfl
  · split <;> rfl

@[simp] theorem lines_updateSelection :
    (cache.updateSelection requested target).lines = cache.lines := by
  rw [updateSelection]
  split
  · rfl
  · split <;> rfl

@[simp] theorem ack_updateSelection :
    (cache.updateSelection requested target).ack = cache.ack := by
  rw [updateSelection]
  split
  · rfl
  · split <;> rfl

@[simp] theorem outputs_updateSelection :
    (cache.updateSelection requested target).outputs = cache.outputs := by
  rw [updateSelection]
  split
  · rfl
  · split <;> rfl

theorem outputLine_updateSelection :
    (cache.updateSelection requested target).outputLine =
      if requested < cache.geometry.lineCount ∧ target ≠ some requested then requested
      else cache.outputLine := by
  simp only [updateSelection, selectRefusal?]
  grind

/-- The refusal that a request for an output line meets, with the line, if it asks
for another line than the one that is shown. -/
def refusal? : Option (Nat × SelectRefusal) :=
  if requested = cache.outputLine then none
  else (cache.selectRefusal? requested target).map (requested, ·)

theorem refusedSelect_updateSelection :
    (cache.updateSelection requested target).refusedSelect = cache.refusal? requested target := by
  rw [updateSelection, refusal?]
  split
  · rfl
  · cases cache.selectRefusal? requested target <;> rfl

/-- A change of the output line is counted, and so is a refusal that was not met at
the tick before. -/
theorem stats_updateSelection :
    (cache.updateSelection requested target).stats = { cache.stats with
      selects := cache.stats.selects +
        if (cache.updateSelection requested target).outputLine = cache.outputLine then 0 else 1
      rejectedSelects := cache.stats.rejectedSelects +
        if cache.refusal? requested target = none ∨
          cache.refusal? requested target = cache.refusedSelect then 0 else 1 } := by
  rw [updateSelection, refusal?]
  by_cases shown : requested = cache.outputLine
  · simp [shown]
  · cases cache.selectRefusal? requested target with
    | none => simp [shown]
    | some refusal => simp [shown, eq_comm]

end Selection

/-! ## One tick -/

theorem lines_handshake :
    (cache.handshake inputs).lines =
      if inputs.writeEnable ∧ cache.ack = false then
        (cache.serve inputs.selectIn.toNat inputs.place inputs.dataIn).lines
      else cache.lines := by
  rw [handshake]
  by_cases rises : inputs.writeEnable = true ∧ cache.ack = false
  · rw [if_pos rises]
    simp [rises]
  · rw [if_neg rises, if_neg (by simpa using rises)]

theorem dataWire_handshake :
    (cache.handshake inputs).outputs.data =
      if inputs.writeEnable ∧ cache.ack = false then
        (cache.serve inputs.selectIn.toNat inputs.place inputs.dataIn).outputs.data
      else cache.outputs.data := by
  rw [handshake]
  by_cases rises : inputs.writeEnable = true ∧ cache.ack = false
  · rw [if_pos rises]
    simp [rises]
  · rw [if_neg rises, if_neg (by simpa using rises)]

@[simp] theorem outputLine_handshake :
    (cache.handshake inputs).outputLine = cache.outputLine := by
  rw [handshake]
  split <;> simp

@[simp] theorem geometry_handshake :
    (cache.handshake inputs).geometry = cache.geometry := by
  rw [handshake]
  split <;> simp

@[simp] theorem refusedSelect_handshake :
    (cache.handshake inputs).refusedSelect = cache.refusedSelect := by
  rw [handshake]
  split <;> simp

@[simp] theorem refusal?_handshake (requested : Nat) (target : Option Nat) :
    (cache.handshake inputs).refusal? requested target = cache.refusal? requested target := by
  simp [refusal?, selectRefusal?]

theorem stats_handshake :
    (cache.handshake inputs).stats = { cache.stats with
      acceptedWrites := cache.stats.acceptedWrites +
        if (inputs.writeEnable ∧ cache.ack = false) ∧
          cache.accepts inputs.selectIn.toNat inputs.place inputs.dataIn then 1 else 0
      rejectedWrites := cache.stats.rejectedWrites +
        if (inputs.writeEnable ∧ cache.ack = false) ∧
          ¬ cache.accepts inputs.selectIn.toNat inputs.place inputs.dataIn then 1 else 0 } := by
  rw [handshake]
  by_cases rises : inputs.writeEnable = true ∧ cache.ack = false
  · simp [rises, stats_serve]
  · simp [rises]

@[simp] theorem geometry_tick : (cache.tick inputs).geometry = cache.geometry := by
  rw [tick, geometry_updateSelection, geometry_handshake]

@[simp] theorem ack_tick : (cache.tick inputs).ack = inputs.writeEnable := by
  rw [tick, ack_updateSelection]
  rfl

@[simp] theorem ackWire_tick :
    (cache.tick inputs).outputs.ack = cache.outputs.ack.drive inputs.writeEnable := by
  rw [tick, outputs_updateSelection]
  simp only [handshake]
  split <;> simp

theorem lines_tick :
    (cache.tick inputs).lines =
      if inputs.writeEnable ∧ cache.ack = false then
        (cache.serve inputs.selectIn.toNat inputs.place inputs.dataIn).lines
      else cache.lines := by
  rw [tick, lines_updateSelection, lines_handshake, lines_serve, lines_serve]
  rfl

theorem dataWire_tick :
    (cache.tick inputs).outputs.data =
      if inputs.writeEnable ∧ cache.ack = false then
        (cache.serve inputs.selectIn.toNat inputs.place inputs.dataIn).outputs.data
      else cache.outputs.data := by
  rw [tick, outputs_updateSelection, dataWire_handshake, dataWire_serve, dataWire_serve]
  rfl

/-- The refusal that the selector of the output line meets at a tick. -/
def selection? : Option (Nat × SelectRefusal) :=
  cache.refusal? inputs.selectOut.toNat (writeTarget inputs)

@[simp] theorem refusedSelect_tick :
    (cache.tick inputs).refusedSelect = cache.selection? inputs := by
  rw [tick, refusedSelect_updateSelection, refusal?_handshake]
  rfl

theorem outputLine_tick :
    (cache.tick inputs).outputLine =
      if inputs.selectOut.toNat < cache.geometry.lineCount ∧
          writeTarget inputs ≠ some inputs.selectOut.toNat then inputs.selectOut.toNat
      else cache.outputLine := by
  rw [tick, outputLine_updateSelection, outputLine_handshake, geometry_handshake]

/-! ## What a tick counts -/

/-- What a tick adds to the counters. -/
def gain : CacheStats where
  acceptedWrites :=
    if (inputs.writeEnable ∧ cache.ack = false) ∧
      cache.accepts inputs.selectIn.toNat inputs.place inputs.dataIn then 1 else 0
  rejectedWrites :=
    if (inputs.writeEnable ∧ cache.ack = false) ∧
      ¬ cache.accepts inputs.selectIn.toNat inputs.place inputs.dataIn then 1 else 0
  selects := if (cache.tick inputs).outputLine = cache.outputLine then 0 else 1
  rejectedSelects :=
    if cache.selection? inputs = none ∨ cache.selection? inputs = cache.refusedSelect
    then 0 else 1

theorem stats_tick : (cache.tick inputs).stats = cache.stats + cache.gain inputs := by
  rw [gain, tick, stats_updateSelection, refusal?_handshake, refusedSelect_handshake,
    outputLine_handshake, stats_handshake]
  rfl

/-- A request is served when write enable rises, and counted once. -/
theorem served_tick :
    (cache.tick inputs).stats.acceptedWrites + (cache.tick inputs).stats.rejectedWrites =
      cache.stats.acceptedWrites + cache.stats.rejectedWrites +
        if inputs.writeEnable ∧ cache.ack = false then 1 else 0 := by
  simp only [stats_tick, CacheStats.add_eq, gain]
  grind

end Cache

end AccessController
