import AccessController.Proofs.Machine.Lockstep
import AccessController.Proofs.Machine.Restart

/-!
# Reports after a reset

A reset clears every counter but those of the caches.  From then on a machine runs in
lockstep with a fresh one and counts the same (`Recounts`), so a report after a reset is
that of the fresh machine with what the caches had counted before added to it
(`run_reset`).  It is the fresh machine's own report only if they had counted nothing.
-/

namespace AccessController

namespace Datapath.Agrees

variable {left right : Datapath} {ours theirs : DatapathInputs} (agrees : left.Agrees right)
  (same : ours.Agrees left.engine.state.phase.cache? theirs) (kind : CacheKind)

include agrees

theorem geometry : (left.caches.get kind).geometry = (right.caches.get kind).geometry := by
  rw [agrees.leftHandshake.geometry, agrees.rightHandshake.geometry, agrees.engine.features]

theorem accessRefusal? (line place : Nat) :
    (left.caches.get kind).accessRefusal? line place =
      (right.caches.get kind).accessRefusal? line place := by
  rw [Cache.accessRefusal?, Cache.accessRefusal?, agrees.geometry, agrees.outputLine]

theorem rises (ours theirs : DatapathInputs) :
    ((left.cacheInputs ours kind).writeEnable = true ∧ (left.caches.get kind).ack = false) ↔
      ((right.cacheInputs theirs kind).writeEnable = true ∧
        (right.caches.get kind).ack = false) := by
  rw [cacheInputs, cacheInputs, agrees.leftHandshake.writeEnable,
    agrees.rightHandshake.writeEnable, agrees.phase, agrees.ack]

include same

theorem selection? :
    (left.caches.get kind).selection? (left.cacheInputs ours kind) =
      (right.caches.get kind).selection? (right.cacheInputs theirs kind) := by
  have target : Cache.writeTarget (left.cacheInputs ours kind) =
      Cache.writeTarget (right.cacheInputs theirs kind) := by
    simp only [Cache.writeTarget, cacheInputs, agrees.leftHandshake.writeEnable,
      agrees.rightHandshake.writeEnable, agrees.phase, Wire.level_rest]
    by_cases asserted : left.engine.state.phase.asserts kind = true
    · rw [same.line kind (.inl (cache?_of_asserts asserted))]
    · simp only [asserted, Bool.false_eq_true, if_false]
  have requested : (left.cacheInputs ours kind).selectOut =
      (right.cacheInputs theirs kind).selectOut := congrArg (·.get kind) same.selectOut
  rw [Cache.selection?, Cache.selection?, target, requested, Cache.refusal?, Cache.refusal?,
    Cache.selectRefusal?, Cache.selectRefusal?, agrees.geometry, agrees.outputLine]

theorem accepts_iff
    (rises : (left.cacheInputs ours kind).writeEnable = true ∧
      (left.caches.get kind).ack = false) :
    (left.caches.get kind).accepts (left.cacheInputs ours kind).selectIn.toNat
        (left.cacheInputs ours kind).place (left.cacheInputs ours kind).dataIn ↔
      (right.caches.get kind).accepts (right.cacheInputs theirs kind).selectIn.toNat
        (right.cacheInputs theirs kind).place (right.cacheInputs theirs kind).dataIn := by
  obtain ⟨high, unserved⟩ := rises
  have asserted : left.engine.state.phase.asserts kind = true := by
    rwa [cacheInputs, agrees.leftHandshake.writeEnable, Wire.level_rest] at high
  obtain ⟨shown, held⟩ := agrees.leftHandshake.shows_of_asserts asserted unserved
  simp only [Cache.accepts, cacheInputs, agrees.accessRefusal?,
    same.line kind (.inl (cache?_of_asserts asserted)), agrees.engine.place shown,
    agrees.leftHandshake.drains, agrees.rightHandshake.drains, decide_eq_true_eq]
  by_cases drains : kind = .dataOut
  · simp only [drains, true_or]
  · rw [agrees.engine.outbound (held drains)]

/-- Caches that remember the same refusal count the same. -/
theorem gain
    (refused : (left.caches.get kind).refusedSelect = (right.caches.get kind).refusedSelect) :
    (left.caches.get kind).gain (left.cacheInputs ours kind) =
      (right.caches.get kind).gain (right.cacheInputs theirs kind) := by
  have moves := agrees.outputLine_tick same kind
  rw [get_caches_tick, get_caches_tick] at moves
  change (Cache.tick _ _).outputLine = (Cache.tick _ _).outputLine at moves
  have rises := agrees.rises kind ours theirs
  by_cases rising : (left.cacheInputs ours kind).writeEnable = true ∧
      (left.caches.get kind).ack = false
  · have accepts := agrees.accepts_iff same kind rising
    simp only [Cache.gain, rising, rises.1 rising, true_and, accepts, moves, agrees.outputLine,
      agrees.selection? same, refused]
  · have falls := mt rises.2 rising
    simp only [Cache.gain, rising, falls, false_and, moves, agrees.outputLine,
      agrees.selection? same, refused]

end Datapath.Agrees

/-- A report with something added to what each cache has counted. -/
def Report.recounted (base : CacheKind → CacheStats) (report : Report) : Report :=
  { report with
    caches := report.caches.map fun entry =>
      { entry with stats := base entry.kind + entry.stats } }

namespace Machine

/-- Two machines agree and have counted the same, except for what the caches of the first
have counted more. -/
structure Recounts (base : CacheKind → CacheStats) (left right : Machine) : Prop where
  agrees : left.Agrees right
  cycle : left.cycle = right.cycle
  refused : ∀ kind, (left.cache kind).refusedSelect = (right.cache kind).refusedSelect
  stats : ∀ kind, (left.cache kind).stats = base kind + (right.cache kind).stats

variable {base : CacheKind → CacheStats} {left right : Machine}

theorem Agrees.delivered (agrees : left.Agrees right) :
    left.delivered.Agrees right.delivered := by
  obtain ⟨results, -⟩ := agrees.arrayTick
  rw [Machine.delivered, Machine.delivered, results]
  exact agrees.datapath.deliver left.arrayTick.2

theorem get_caches_tick (machine : Machine) (kind : CacheKind) :
    machine.tick.cache kind =
      ((machine.delivered.caches.get kind).tick
        (machine.delivered.cacheInputs machine.datapathInputs kind)).commit := by
  rw [cache, datapath_tick, Datapath.get_caches_tick]

/-- A tick adds the same to the counters of both. -/
theorem Recounts.tick (recounts : left.Recounts base right) :
    left.tick.Recounts base right.tick where
  agrees := recounts.agrees.tick
  cycle := by
    rw [tick_eq, tick_eq, recounts.cycle]
  refused kind := by
    have inputs := recounts.agrees.inputs
    rw [← engine_delivered] at inputs
    rw [get_caches_tick, get_caches_tick, Cache.commit, Cache.commit]
    dsimp only
    rw [Cache.refusedSelect_tick, Cache.refusedSelect_tick,
      recounts.agrees.delivered.selection? inputs]
  stats kind := by
    have inputs := recounts.agrees.inputs
    rw [← engine_delivered] at inputs
    have before : (left.delivered.caches.get kind).stats =
        base kind + (right.delivered.caches.get kind).stats := by
      rw [delivered, delivered, Datapath.stats_deliver, Datapath.stats_deliver]
      exact recounts.stats kind
    have refused : (left.delivered.caches.get kind).refusedSelect =
        (right.delivered.caches.get kind).refusedSelect := by
      rw [delivered, delivered, Datapath.refusedSelect_deliver, Datapath.refusedSelect_deliver]
      exact recounts.refused kind
    rw [get_caches_tick, get_caches_tick, Cache.commit, Cache.commit]
    dsimp only
    rw [Cache.stats_tick, Cache.stats_tick, before,
      recounts.agrees.delivered.gain inputs kind refused, CacheStats.add_assoc]

theorem lockstep_recounts (base : CacheKind → CacheStats) : Lockstep (Recounts base) where
  tick recounts := recounts.tick
  setRun level recounts := {
    agrees := { recounts.agrees with
      pins := congrArg (fun pins => { pins with run := .rest level }) recounts.agrees.pins }
    cycle := recounts.cycle
    refused := recounts.refused
    stats := recounts.stats }
  finishLevel recounts := congrArg Wire.level recounts.agrees.controller.finish
  timeoutError timeout recounts := by
    rw [timeoutError, timeoutError, recounts.agrees.controller.state,
      recounts.agrees.datapath.phase]
  haltError? recounts := by
    rw [Machine.haltError?, Machine.haltError?, recounts.agrees.controller.state,
      recounts.cycle]
  stage recounts := congrArg ControlState.stage recounts.agrees.controller.state

theorem Recounts.report (recounts : left.Recounts base right) :
    left.report = right.report.recounted base := by
  have entries : left.report.caches = (right.report.recounted base).caches := by
    simp only [Machine.report, Report.recounted, List.map_map]
    apply List.map_congr_left
    intro kind _
    dsimp only [Function.comp]
    rw [recounts.stats, cache, recounts.agrees.datapath.outputLine]
    rfl
  have same : left.report = { right.report with caches := left.report.caches } := by
    rw [Machine.report, Machine.report, recounts.cycle, recounts.agrees.controller.state,
      recounts.agrees.datapath.engine.state]
  rw [same, entries]
  rfl

/-- Runs of both fail alike, or end with reports that differ by `base`. -/
theorem Recounts.run (recounts : left.Recounts base right) (timeout : Nat) :
    (left.run timeout).2 = (right.run timeout).2.map (Report.recounted base) := by
  obtain ⟨ended, outcome⟩ := (lockstep_recounts base).run recounts timeout
  rcases outcome with ⟨error, ours, theirs⟩ | ⟨ours, theirs⟩
  · rw [ours, theirs]
    rfl
  · rw [ours, theirs, ended.report]
    rfl

/-- The report of a run is that of the machine it leaves. -/
theorem report_of_run {machine : Machine} {timeout : Nat} {report : Report}
    (ends : (machine.run timeout).2 = .ok report) : report = (machine.run timeout).1.report := by
  rw [Machine.run] at ends ⊢
  split at ends
  · cases ends
  · split at ends
    · cases ends
    · cases ends
      simp only [*]

theorem recounted_report_eq_iff (machine : Machine) :
    machine.report.recounted base = machine.report ↔ ∀ kind, base kind = {} := by
  have entries : machine.report.recounted base = machine.report ↔
      (CacheKind.all.map fun kind => CacheReport.mk kind (machine.cache kind).outputLine
        (base kind + (machine.cache kind).stats)) =
      CacheKind.all.map fun kind => CacheReport.mk kind (machine.cache kind).outputLine
        (machine.cache kind).stats := by
    rw [Report.recounted, Machine.report]
    simp only [Report.mk.injEq, List.map_map, true_and, and_true]
    rfl
  rw [entries, List.map_inj_left]
  simp only [CacheReport.mk.injEq, true_and, CacheStats.add_eq_right_iff]
  exact ⟨fun none kind => none kind (CacheKind.mem_all kind), fun none kind _ => none kind⟩

theorem cache_new (program : Program) (features : FeatureTable) (memory : Memory) (latency : Nat)
    (kind : CacheKind) :
    (new { program } { features, memory } { latency }).cache kind =
      Cache.new (features.get kind) := PerCache.get_map ..

/-- A reset machine with low pins differs from a fresh one by what its caches have
counted. -/
theorem Made.reset_recounts {program : Program} {features : FeatureTable} {latency : Nat}
    {machine : Machine} (made : Made program features latency machine)
    (low : machine.pins = {}) :
    machine.reset.Recounts (fun kind => (machine.cache kind).stats)
      (new { program } { features, memory := machine.memory } { latency }) where
  agrees := by
    have blank : (new { program } { features, memory := machine.memory } { latency }).reset =
        new { program } { features, memory := machine.memory } { latency } :=
      reset_new program features machine.memory latency {} rfl
    have agrees := made.reset_agrees (made_new program features machine.memory latency) rfl low
    rwa [blank] at agrees
  cycle := rfl
  refused kind := by
    rw [cache, get_caches_reset, cache_new]
    rfl
  stats kind := by
    rw [cache, get_caches_reset, cache_new]
    rfl

theorem Made.pins_eq {program : Program} {features : FeatureTable} {latency : Nat}
    {machine : Machine} (made : Made program features latency machine)
    (run : machine.pins.run.level = false) (pause : machine.pins.pause.level = false)
    (reset : machine.pins.reset.level = false) : machine.pins = {} := by
  have committed := made.pins
  rw [ExternalPins.commit] at committed
  rw [← committed] at run pause reset ⊢
  simp only [Wire.level_commit] at run pause reset
  rw [Wire.commit, Wire.commit, Wire.commit, run, pause, reset]

/-- Whatever has been done to a machine, once its pins are low a run behind a reset ends
like that of a machine after power-up with the same memory, and its report is the same
but for what the caches had counted before the reset: it is the same report only if they
had counted nothing. -/
theorem run_reset {settings : Settings} {program : Program} {fresh : Machine}
    (built : build? settings program = .ok fresh) (history : List Operation)
    (run : (history.foldl perform fresh).pins.run.level = false)
    (pause : (history.foldl perform fresh).pins.pause.level = false)
    (reset : (history.foldl perform fresh).pins.reset.level = false) (timeout : Nat) :
    let reached := history.foldl perform fresh
    let restarted := fresh.withMemory reached.memory
    (reached.reset.run timeout).2 =
        (restarted.run timeout).2.map
          (Report.recounted fun kind => (reached.cache kind).stats) ∧
      ((reached.reset.run timeout).2 = (restarted.run timeout).2 ↔
        ∀ report, (restarted.run timeout).2 = .ok report →
          ∀ kind, (reached.cache kind).stats = {}) := by
  intro reached restarted
  obtain ⟨features, old, rfl⟩ := eq_new_of_build? built
  obtain ⟨events, played⟩ := exists_play_of_operations _ history
  have made : Made program features settings.array.latency reached := by
    have made := (made_new program features old settings.array.latency).play events
    rwa [← played] at made
  have ended : (reached.reset.run timeout).2 = (restarted.run timeout).2.map _ :=
    (made.reset_recounts (made.pins_eq run pause reset)).run timeout
  refine ⟨ended, ?_⟩
  rw [ended]
  cases outcome : (restarted.run timeout).2 with
  | error error => exact ⟨fun _ _ ok => (nomatch ok), fun _ => rfl⟩
  | ok report =>
    rw [Except.map, Except.ok.injEq, report_of_run outcome, recounted_report_eq_iff]
    exact ⟨fun none _ _ => none, fun none => none _ rfl⟩

/-- A run that was begun and cut before its first request leaves nothing in the report of
the next one. -/
theorem run_reset_cutBegin :
    let history : List Operation :=
      [.event (.run true), .event .tick, .event .tick, .event (.run false)]
    ∃ fresh, build? { engine := { memorySize := 64 } } (.singleLoad 0 0) = .ok fresh ∧
      let reached := history.foldl perform fresh
      let restarted := fresh.withMemory reached.memory
      reached.controller.state.stage = .transfer .loadElement ∧
        (reached.reset.run 100).2 = (restarted.run 100).2 ∧
        ((restarted.run 100).2.toOption.map Report.cycles) = some 17 := by
  intro history
  obtain ⟨fresh, built, begun, low, uncounted, ends⟩ :
      ∃ fresh, build? { engine := { memorySize := 64 } } (.singleLoad 0 0) = .ok fresh ∧
        (history.foldl perform fresh).controller.state.stage = .transfer .loadElement ∧
        (history.foldl perform fresh).pins = {} ∧
        (∀ kind ∈ CacheKind.all, ((history.foldl perform fresh).cache kind).stats = {}) ∧
        ((fresh.withMemory (history.foldl perform fresh).memory).run 100).2.toOption.map
          Report.cycles = some 17 :=
    ⟨_, rfl, by decide +kernel, by decide +kernel, by decide +kernel, by decide +kernel⟩
  have lowered (pin : ExternalPins → Wire Bool) (rests : (pin {}).level = false) :
      (pin (history.foldl perform fresh).pins).level = false := by rwa [low]
  obtain ⟨-, same⟩ :=
    run_reset built history (lowered _ rfl) (lowered _ rfl) (lowered _ rfl) 100
  exact ⟨fresh, built, begun,
    same.2 fun _ _ kind => uncounted kind (CacheKind.mem_all kind), ends⟩

/-- The cache has counted the unit of a first run when the report of the second one is
made, so the reports are not always the same. -/
theorem not_run_reset_of_load :
    ¬∀ (settings : Settings) (program : Program) (fresh : Machine) (history : List Operation)
        (timeout : Nat), build? settings program = .ok fresh →
      (history.foldl perform fresh).pins = {} →
      ((history.foldl perform fresh).reset.run timeout).2 =
        ((fresh.withMemory (history.foldl perform fresh).memory).run timeout).2 := by
  intro same
  obtain ⟨fresh, built, low, apart⟩ :
      ∃ fresh, build? { engine := { memorySize := 64 } } (.singleLoad 0 0) = .ok fresh ∧
        (perform fresh (.simulate 100)).pins = {} ∧
        ((perform fresh (.simulate 100)).reset.run 100).2.toOption.map Report.caches ≠
          ((fresh.withMemory (perform fresh (.simulate 100)).memory).run 100).2.toOption.map
            Report.caches :=
    ⟨_, rfl, by decide +kernel, by decide +kernel⟩
  have reports := same _ _ fresh [.simulate 100] 100 built low
  exact apart (congrArg (fun result => result.toOption.map Report.caches) reports)

end Machine

end AccessController
