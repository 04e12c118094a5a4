import AccessController.Proofs.Cache.Representation

/-!
# What the array sees of a cache

A merge is checked against the line that is shown before the tick, and a change of the
output line against the line that is being written, in this order.  Between them they
cover every combination of the levels: a tick writes neither the line that was shown
before it nor the one that is shown behind it (`Tick.Untorn`).  So a line is seen as it
was when it came into view, for as long as it stays there.
-/

namespace AccessController.Cache

/-- What a tick leaves alone. -/
structure Tick.Untorn (tick : Tick) : Prop where
  /-- What is shown behind the tick is what the line held before it. -/
  shown : tick.before.lines.line? tick.after.outputLine = some tick.after.currentLine
  /-- The line that was shown before the tick still holds what was seen. -/
  left : tick.after.lines.line? tick.before.outputLine = some tick.before.currentLine
  /-- The output moves to no line that is being written. -/
  target : tick.after.outputLine ≠ tick.before.outputLine →
    writeTarget tick.inputs ≠ some tick.after.outputLine
  /-- A request that is accepted is for neither of the two lines. -/
  accepted : tick.after.stats.acceptedWrites ≠ tick.before.stats.acceptedWrites →
    tick.inputs.selectIn.toNat ≠ tick.before.outputLine ∧
      tick.inputs.selectIn.toNat ≠ tick.after.outputLine

variable {geometry : Geometry} {cache : Cache} {inputs : CacheInputs} {line : Nat}

theorem ne_outputLine_of_granted {place : Nat} (granted : cache.accessRefusal? line place = none) :
    line ≠ cache.outputLine := by
  intro shown
  rw [accessRefusal?, if_pos shown] at granted
  split at granted
  · cases granted
  · split at granted <;> cases granted

/-- The output stays, or it moves to a line that is not being written. -/
theorem outputLine_tick_cases (cache : Cache) (inputs : CacheInputs) :
    (cache.tick inputs).outputLine = cache.outputLine ∨
      writeTarget inputs ≠ some (cache.tick inputs).outputLine := by
  rw [outputLine_tick]
  split
  next moves => exact .inr moves.2
  next => exact .inl rfl

/-- A tick writes no line but the one that is being written, and not even that while it is
shown. -/
theorem line?_tick_of_shown
    (guarded : line = cache.outputLine ∨ writeTarget inputs ≠ some line) :
    (cache.tick inputs).lines.line? line = cache.lines.line? line := by
  rw [lines_tick, lines_serve]
  split
  next rises =>
    split
    next merges =>
      apply line?_merge_ne
      rcases guarded with rfl | free
      · exact (ne_outputLine_of_granted merges.1).symm
      · intro written
        exact free (by rw [writeTarget, if_pos rises.1, written])
    next => rfl
  next => rfl

theorem granted_of_accepted
    (accepted : (cache.tick inputs).stats.acceptedWrites ≠ cache.stats.acceptedWrites) :
    writeTarget inputs = some inputs.selectIn.toNat ∧
      inputs.selectIn.toNat ≠ cache.outputLine := by
  rw [stats_tick, CacheStats.add_eq, gain] at accepted
  by_cases counts : (inputs.writeEnable ∧ cache.ack = false) ∧
      cache.accepts inputs.selectIn.toNat inputs.place inputs.dataIn
  · exact ⟨if_pos counts.1.1, ne_outputLine_of_granted counts.2.1⟩
  · simp [if_neg counts] at accepted

theorem Represented.line?_outputLine (represented : cache.Represented geometry) :
    cache.lines.line? cache.outputLine = some cache.currentLine := by
  have inside := represented.outputLine
  rw [← represented.shaped.count_eq] at inside
  exact Lines.line?_eq_some inside

theorem Represented.untorn (represented : cache.Represented geometry) (sound : geometry.Sound)
    (inputs : CacheInputs) : Tick.Untorn ⟨cache, inputs⟩ := by
  have cases := cache.outputLine_tick_cases inputs
  have next := represented.tick sound inputs
  exact {
    shown := (line?_tick_of_shown cases).symm.trans next.line?_outputLine
    left := (line?_tick_of_shown (.inl rfl)).trans represented.line?_outputLine
    target := fun moves => cases.resolve_left moves
    accepted := fun accepted => by
      obtain ⟨written, hidden⟩ := granted_of_accepted accepted
      refine ⟨hidden, fun shown => ?_⟩
      rcases cases with stays | free
      · exact hidden (shown.trans stays)
      · exact free (written.trans (congrArg some shown)) }

/-- While ticks show one line, the array sees what that line held before them. -/
theorem Represented.shown_of_stays (represented : cache.Represented geometry)
    (sound : geometry.Sound) {levels : List CacheInputs}
    (stays : ∀ tick ∈ cache.ticks (levels.map .tick), tick.after.outputLine = line) :
    ∀ tick ∈ cache.ticks (levels.map .tick), cache.lines.line? line = some tick.after.currentLine := by
  induction levels generalizing cache with
  | nil => simp [ticks]
  | cons inputs rest ih =>
    intro tick occurs
    have first := stays _ (List.mem_cons_self ..)
    have shown := (represented.untorn sound inputs).shown
    rw [first] at shown
    rcases List.mem_cons.1 occurs with rfl | later
    · exact shown
    · have next := represented.perform sound (.event (.tick inputs))
      have guarded := cache.outputLine_tick_cases inputs
      rw [show (cache.tick inputs).outputLine = line from first] at guarded
      have kept : (cache.apply (.tick inputs)).lines.line? line = cache.lines.line? line :=
        line?_tick_of_shown guarded
      rw [← kept]
      exact ih next (fun tick occurs => stays tick (List.mem_cons_of_mem _ occurs)) tick later

/-- From power-up on, whatever has been done to a cache, a tick writes no line that is
shown before or behind it, and ticks that go on showing one line show it as it was before
the first of them. -/
theorem untorn_of_operations (sound : geometry.Sound) (operations : List Operation) :
    let cache := (new geometry).undergo operations
    (∀ inputs, Tick.Untorn ⟨cache, inputs⟩) ∧
      ∀ (levels : List CacheInputs) (line : Nat),
        (∀ tick ∈ cache.ticks (levels.map .tick), tick.after.outputLine = line) →
          ∀ tick ∈ cache.ticks (levels.map .tick),
            cache.lines.line? line = some tick.after.currentLine := by
  intro cache
  have represented : cache.Represented geometry := (represented_new sound).undergo sound operations
  exact ⟨represented.untorn sound, fun _ _ stays => represented.shown_of_stays sound stays⟩

/-- Line 1 is asked for while it is being written, so line 0 stays in view. -/
theorem untorn_of_heldWrite :
    let geometry : Geometry :=
      { kind := some .dataIn, lineBytes := 2, lineCount := 2, widthBits := 8, granularityBits := 8 }
    let operations : List Operation := .reset :: heldWrite.map .event
    let cache := (new geometry).undergo operations
    let write : CacheInputs :=
      { writeEnable := true, place := 1, dataIn := [5], selectIn := 1, selectOut := 1 }
    let levels : List CacheInputs := [write, { write with place := 0, dataIn := [6] }]
    geometry.Sound ∧ Tick.Untorn ⟨cache, write⟩ ∧
      (cache.play (levels.map .tick)).lines = .data [[3, 7], [0, 5]] ∧
      ∀ tick ∈ cache.ticks (levels.map .tick), tick.after.currentLine = .data [3, 7] := by
  intro geometry operations cache write levels
  have sound : geometry.Sound := Geometry.fault?_eq_none_iff.1 (by decide)
  have stays : ∀ tick ∈ cache.ticks (levels.map .tick), tick.after.outputLine = 0 := by decide
  have first : cache.lines.line? 0 = some (.data [3, 7]) := by decide
  obtain ⟨untorn, shown⟩ := untorn_of_operations sound operations
  refine ⟨sound, untorn write, by decide, ?_⟩
  intro tick occurs
  exact Option.some.inj ((shown levels 0 stays tick occurs).symm.trans first)

end AccessController.Cache
