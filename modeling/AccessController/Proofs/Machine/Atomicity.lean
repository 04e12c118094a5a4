import AccessController.Proofs.Machine.Orderly

/-!
# Transfers are atomic

The array sees the output lines of the caches, and the engine moves units to and
from the others.  While a request is under way no output line moves, a line that the
array sees changes only by becoming another one, and what a store writes to memory
was in its line when the request was issued (`transfers_atomic`).
-/

namespace AccessController

theorem Lines.line_merge_of_ne (lines : Lines) (geometry : Geometry) {line index : Nat}
    (apart : line ≠ index) (place : Nat) (datum : Bytes) :
    (lines.merge geometry line place datum).line index = lines.line index := by
  cases lines with
  | config values =>
    rw [merge, Lines.line, Lines.line, line?, line?, List.getElem?_modify_ne _ _ apart]
  | data rows =>
    rw [merge, Lines.line, Lines.line, line?, line?, List.getElem?_modify_ne _ _ apart]

namespace Machine

/-- The controller waits for the engine at the beginning of each event, and the machine
is not reset. -/
def AwaitsEngine : Machine → List Event → Prop
  | _, [] => True
  | machine, event :: rest =>
    machine.controller.state.activity = .waiting .engine ∧ event ≠ .reset ∧
      (machine.apply event).AwaitsEngine rest

instance decidableAwaitsEngine :
    (machine : Machine) → (events : List Event) → Decidable (machine.AwaitsEngine events)
  | _, [] => .isTrue trivial
  | machine, event :: rest =>
    let := decidableAwaitsEngine (machine.apply event) rest
    inferInstanceAs (Decidable (_ ∧ _ ∧ _))

/-- What the host makes of memory in an event. -/
def Event.rewrite (memory : Memory) : Event → Memory
  | .write other => other
  | _ => memory

/-- A store from a line as it was at the origin, of which the first units had been stored
when memory was a given one: memory is as the host wrote it last, with the units on top that
have been stored since. As long as the host does not write these begin right behind the
first ones, and once the controller does not wait any more they go to the end. -/
def Stores (origin : Contents) (request : TransferRequest) (line : Nat) (base : Memory)
    (first : Nat) (events : List Event) (machine : Machine) : Prop :=
  let geometry := machine.datapath.engine.features.get .dataOut
  ∃ start count, start + count ≤ request.unitCount geometry ∧
    machine.memory =
      origin.memoryAfter geometry line request (events.foldl Event.rewrite base) start count ∧
    ((∀ memory, .write memory ∉ events) → start = first) ∧
    (machine.controller.state.activity ≠ .waiting .engine →
      start + count = request.unitCount geometry)

variable {machine : Machine}

/-! ## Output lines -/

/-- No output line moves in an event that begins with a wait for the engine. -/
theorem Orderly.outputLine_apply (orderly : machine.Orderly)
    (waiting : machine.controller.state.activity = .waiting .engine) {event : Event}
    (unreset : event ≠ .reset) (kind : CacheKind) :
    ((machine.apply event).cache kind).outputLine = (machine.cache kind).outputLine := by
  cases event with
  | tick =>
    have quiet := (orderly.quiet waiting).deliver machine.arrayTick.2
    have handshake := orderly.synchronized.handshake.deliver machine.arrayTick.2
    rw [Machine.apply, cache, cache, datapath_tick, delivered, quiet.outputLine_tick handshake,
      Datapath.outputLine_deliver]
  | reset => exact absurd rfl unreset
  | _ => rfl

/-- The line that the array sees before a tick is not written in it. -/
theorem currentLine_tick (handshake : machine.datapath.Handshake) {kind : CacheKind}
    (loads : kind ≠ .dataOut) :
    (machine.tick.cache kind).lines.line (machine.cache kind).outputLine =
      (machine.cache kind).currentLine := by
  have delivered : (machine.delivered.caches.get kind).lines = (machine.cache kind).lines := by
    rw [delivered, ← Datapath.get_lines_contents, handshake.contents_deliver,
      Contents.get_lines_deliver, if_neg loads, Datapath.get_lines_contents, cache]
  have outputLine : machine.delivered.contents.outputLine.get kind =
      (machine.cache kind).outputLine := by
    rw [Datapath.get_outputLine_contents, Machine.delivered, Datapath.outputLine_deliver, cache]
  have after := (handshake.deliver machine.arrayTick.2).lines_tick machine.datapathInputs kind
  rw [← Machine.delivered, delivered] at after
  rw [cache, datapath_tick, after]
  split
  next taken =>
    obtain ⟨-, -, -, grants, -⟩ := taken
    exact Lines.line_merge_of_ne _ _ (outputLine ▸ grants.2.2) _ _
  next => rfl

/-- A line that the array sees changes by becoming another line only. -/
theorem Orderly.currentLine_apply (orderly : machine.Orderly) {event : Event}
    (unreset : event ≠ .reset) {kind : CacheKind} (loads : kind ≠ .dataOut)
    (stays : ((machine.apply event).cache kind).outputLine = (machine.cache kind).outputLine) :
    ((machine.apply event).cache kind).currentLine = (machine.cache kind).currentLine := by
  cases event with
  | tick =>
    rw [Cache.currentLine, stays]
    exact currentLine_tick orderly.synchronized.handshake loads
  | reset => exact absurd rfl unreset
  | _ => rfl

/-! ## Stores -/

section

variable {origin : Contents} {request : TransferRequest} {line : Nat} {base : Memory} {first : Nat}

theorem Stores.cons {event : Event} {rest : List Event} (same : event.rewrite base = base)
    (stores : machine.Stores origin request line base first rest) :
    machine.Stores origin request line base first (event :: rest) := by
  obtain ⟨start, count, within, memory, begins, ends⟩ := stores
  refine ⟨start, count, within, ?_, fun none => ?_, ends⟩
  · rw [List.foldl_cons, same]
    exact memory
  · exact begins fun memory written => none memory (.tail _ written)

theorem Stores.write {memory : Memory} {left : Nat} {rest : List Event}
    (stores : machine.Stores origin request line memory left rest) :
    machine.Stores origin request line base first (.write memory :: rest) := by
  obtain ⟨start, count, within, memory, -, ends⟩ := stores
  exact ⟨start, count, within, memory, fun none => absurd (.head _) (none _), ends⟩

end

/-- A request to store a line is on the wires or under way. -/
structure Storing (origin : Contents) (request : TransferRequest) (line : Nat) (base : Memory)
    (first : Nat) (machine : Machine) : Prop where
  streaming : machine.datapath.Streaming machine.datapathInputs.selectIn
  named : (machine.datapathInputs.selectIn.get .dataOut).toNat = line
  asked : machine.controller.state.engineStartHigh = true →
    machine.datapathInputs.request = request ∧ machine.memory = base ∧ first = 0 ∧
      ∀ place,
        machine.datapath.contents.drained (machine.datapath.engine.features.get .dataOut) .dataOut
            line place =
          origin.drained (machine.datapath.engine.features.get .dataOut) .dataOut line place
  served : machine.controller.state.engineStartHigh = false →
    ∃ count, machine.datapath.Drains origin request line base first count

namespace Storing

variable {origin : Contents} {request : TransferRequest} {line : Nat} {base : Memory} {first : Nat}

theorem stores (storing : machine.Storing origin request line base first)
    (waiting : machine.controller.state.activity = .waiting .engine) :
    machine.Stores origin request line base first [] := by
  cases high : machine.controller.state.engineStartHigh with
  | true =>
    obtain ⟨-, memory, rfl, -⟩ := storing.asked high
    exact ⟨0, 0, Nat.zero_le _, memory, fun _ => rfl, fun ended => absurd waiting ended⟩
  | false =>
    obtain ⟨count, drains⟩ := storing.served high
    exact ⟨first, count, drains.count_le, drains.memory, fun _ => rfl,
      fun ended => absurd waiting ended⟩

theorem outside (storing : machine.Storing origin request line base first) (pins : ExternalPins) :
    Storing origin request line base first { machine with pins } :=
  ⟨storing.streaming, storing.named, storing.asked, storing.served⟩

section

variable (storing : machine.Storing origin request line base first) (orderly : machine.Orderly)
  (known : CacheKind.ofSelector? request.selector = some .dataOut)
  (waiting : machine.controller.state.activity = .waiting .engine)

include storing orderly known waiting

theorem drains_tick :
    ∃ count, machine.tick.datapath.Drains origin request line base first count := by
  have quiet := (orderly.quiet waiting).deliver machine.arrayTick.2
  rw [datapath_tick, delivered]
  rcases orderly.synchronized.situation with rest | asked | served
  · exact absurd waiting rest.free.unasked
  · obtain ⟨rfl, rfl, rfl, units⟩ := storing.asked asked.startHigh
    refine ⟨0, (asked.idle.deliver _).drains_start quiet (congrArg Wire.level asked.start) ?_ ?_⟩
    · rw [Datapath.engine_deliver]
      rfl
    · intro place
      rw [Datapath.engine_deliver, asked.idle.contents_deliver, Contents.drained_deliver]
      exact units place
  · obtain ⟨count, drains⟩ := storing.served served.startHigh
    exact (drains.deliver served.handshake _).tick (storing.streaming.deliver _) quiet
      (congrArg Wire.level served.start) storing.named known

omit known in
theorem withMemory (memory : Memory) :
    ∃ left, (machine.withMemory memory).Storing origin request line memory left := by
  rcases orderly.synchronized.situation with rest | asked | served
  · exact absurd waiting rest.free.unasked
  · obtain ⟨same, -, -, units⟩ := storing.asked asked.startHigh
    exact ⟨0, (asked.idle.withMemory memory).streaming _, storing.named,
      fun _ => ⟨same, rfl, rfl, units⟩, fun low => absurd (low.symm.trans asked.startHigh) nofun⟩
  · obtain ⟨count, drains⟩ := storing.served served.startHigh
    exact ⟨first + count, drains.streaming_withMemory storing.streaming memory, storing.named,
      fun high => absurd (high.symm.trans served.startHigh) nofun,
      fun _ => ⟨0, drains.withMemory memory⟩⟩

variable (uninterrupted : ¬machine.Interrupts)

include uninterrupted

theorem tick (waits : machine.tick.controller.state.activity = .waiting .engine) :
    machine.tick.Storing origin request line base first := by
  have quiet := (orderly.quiet waiting).deliver machine.arrayTick.2
  have inputs := orderly.inputs_of_waits waiting uninterrupted waits
  obtain ⟨-, controller⟩ := controller_of_waits waiting uninterrupted waits
  exact {
    streaming := by
      rw [inputs, datapath_tick]
      exact (storing.streaming.deliver machine.arrayTick.2).tick quiet
    named := by
      rw [inputs]
      exact storing.named
    asked := by
      rw [controller_tick, controller]
      nofun
    served := fun _ => storing.drains_tick orderly known waiting }

/-- When the wait is over all units have been stored. -/
theorem stores_tick (ended : machine.tick.controller.state.activity ≠ .waiting .engine) :
    machine.tick.Stores origin request line base first [] := by
  obtain ⟨count, drains⟩ := storing.drains_tick orderly known waiting
  have idle : machine.tick.datapath.Idle := by
    rcases orderly.synchronized.situation with rest | asked | served
    · exact absurd waiting rest.free.unasked
    · exact absurd (asked.tick uninterrupted).waiting ended
    · rw [datapath_tick]
      exact ((idle_of_ended served uninterrupted ended).deliver _).tick
        (congrArg Wire.level served.start)
  have phase := drains.phase
  rw [idle.phase] at phase
  exact ⟨first, count, drains.count_le, drains.memory, fun _ => rfl, fun _ => phase⟩

end

/-- Whatever happens in the wait, the units are those of the beginning. -/
theorem stores_play (storing : machine.Storing origin request line base first)
    (orderly : machine.Orderly)
    (known : CacheKind.ofSelector? request.selector = some .dataOut)
    (waiting : machine.controller.state.activity = .waiting .engine) {events : List Event}
    (undisturbed : machine.Undisturbed events) (awaits : machine.AwaitsEngine events) :
    (machine.play events).Stores origin request line base first events := by
  induction events generalizing machine base first with
  | nil => exact storing.stores waiting
  | cons event rest ih =>
    obtain ⟨uninterrupted, undisturbed⟩ := undisturbed
    obtain ⟨-, unreset, awaits⟩ := awaits
    have next := orderly.apply event uninterrupted
    have outside (pins : ExternalPins) := storing.outside pins
    cases event with
    | tick =>
      have uninterrupted := uninterrupted rfl waiting
      refine .cons rfl ?_
      by_cases waits : machine.tick.controller.state.activity = .waiting .engine
      · exact ih (storing.tick orderly known waiting uninterrupted waits) next waits undisturbed
          awaits
      · -- no event begins with a wait any more
        cases rest with
        | nil => exact storing.stores_tick orderly known waiting uninterrupted waits
        | cons _ _ => exact absurd awaits.1 waits
    | run level => exact .cons rfl (ih (outside _) next waiting undisturbed awaits)
    | pause level => exact .cons rfl (ih (outside _) next waiting undisturbed awaits)
    | resetPin level => exact .cons rfl (ih (outside _) next waiting undisturbed awaits)
    | write memory =>
      obtain ⟨left, storing⟩ := storing.withMemory orderly waiting memory
      exact (ih storing next waiting undisturbed awaits).write
    | reset => exact absurd rfl unreset

end Storing

/-- A tick that issues a request to store a line begins a store from the contents that
it leaves. -/
theorem Orderly.storing_tick (orderly : machine.Orderly)
    (uninterrupted : machine.controller.state.activity = .waiting .engine → ¬machine.Interrupts)
    {operation : TransferOp} (drains : operation.kind = .dataOut)
    (stage : machine.controller.state.stage = .transfer operation)
    (high : machine.tick.controller.state.engineStartHigh = true) :
    machine.tick.controller.state.activity = .waiting .engine ∧
      machine.tick.Storing machine.tick.datapath.contents
        (machine.controller.state.instruction.request operation)
        machine.controller.state.instruction.line.toNat machine.tick.memory 0 := by
  have asked : machine.tick.Asked := by
    rcases (orderly.tick uninterrupted).synchronized.situation with rest | asked | served
    · exact absurd (rest.startHigh.symm.trans high) nofun
    · exact asked
    · exact absurd (served.startHigh.symm.trans high) nofun
  rw [controller_tick] at high
  obtain ⟨issued, issues⟩ := Controller.issues_of_startHigh high
  obtain rfl : issued = operation := Stage.transfer.inj (issues.1.symm.trans stage)
  have inputs := datapathInputs_tick.trans issues.forthcomingInputs
  refine ⟨asked.waiting, ?_⟩
  exact {
    streaming := asked.idle.streaming _
    named := by
      rw [inputs, ← Instruction.toNat_lineLevel]
      simp [drains]
    asked := fun _ => by
      rw [inputs]
      exact ⟨rfl, rfl, rfl, fun _ => rfl⟩
    served := fun low => absurd (low.symm.trans asked.startHigh) nofun }

/-- Whatever the program is, and whatever happens to a machine after power-up as long
as run does not rise and reset does not fall in a wait for the engine: no output line
moves in a wait for the engine; a line that the array sees changes in no event but a
reset of the machine, unless another line takes its place; and a store of a line
writes the elements that were in it when the request was issued, in the tick before
`later`. -/
theorem transfers_atomic {settings : Settings} {program : Program}
    (built : build? settings program = .ok machine) (memory : Memory) {events : List Event}
    (undisturbed : (machine.withMemory memory).Undisturbed events) :
    let reached := (machine.withMemory memory).play events
    (reached.controller.state.activity = .waiting .engine → ∀ event ≠ .reset, ∀ kind,
        ((reached.apply event).cache kind).outputLine = (reached.cache kind).outputLine) ∧
      (∀ event ≠ .reset, ∀ kind ≠ .dataOut,
        ((reached.apply event).cache kind).outputLine = (reached.cache kind).outputLine →
          ((reached.apply event).cache kind).currentLine = (reached.cache kind).currentLine) ∧
      ∀ (operation : TransferOp) (later : List Event), operation.kind = .dataOut →
        reached.controller.state.stage = .transfer operation →
        reached.tick.controller.state.engineStartHigh = true →
        reached.Undisturbed (.tick :: later) → reached.tick.AwaitsEngine later →
        (reached.tick.play later).Stores reached.tick.datapath.contents
          (reached.controller.state.instruction.request operation)
          reached.controller.state.instruction.line.toNat reached.tick.memory 0 later := by
  intro reached
  obtain ⟨features, old, rfl⟩ := eq_new_of_build? built
  have orderly : reached.Orderly :=
    ((orderly_new program features old _).apply (.write memory) nofun).play undisturbed
  refine ⟨?_, ?_, ?_⟩
  · intro waiting event unreset kind
    exact orderly.outputLine_apply waiting unreset kind
  · intro event unreset kind loads stays
    exact orderly.currentLine_apply unreset loads stays
  · intro operation later drains stage high undisturbed awaits
    obtain ⟨uninterrupted, undisturbed⟩ := undisturbed
    have known : CacheKind.ofSelector?
        (reached.controller.state.instruction.request operation).selector = some .dataOut := by
      rw [Instruction.request, CacheKind.ofSelector?_selector, drains]
    obtain ⟨waiting, storing⟩ := orderly.storing_tick (uninterrupted rfl) drains stage high
    exact storing.stores_play (orderly.tick (uninterrupted rfl)) known waiting undisturbed awaits

/-- The array delivers while the line that it had before goes to memory. -/
theorem transfers_atomic_storedLine :
    let start := (Instruction.ofFields 7 0 0 0).toWord
    let store := (Instruction.ofFields 4 0 0 0).toWord
    let events : List Event := .run true :: List.replicate 6 .tick
    let later : List Event := List.replicate 28 .tick
    let memory : Memory := ⟨Array.replicate 64 7⟩
    ∃ machine, build? { engine := { memorySize := 64 } } ⟨[start, store]⟩ = .ok machine ∧
      let reached := (machine.withMemory memory).play events
      (reached.tick.play (later.take 5)).array.ready.level = true ∧
        (reached.tick.play later).controller.state.activity = .running ∧
        (reached.tick.play later).memory ≠ memory ∧
        (reached.tick.play later).Stores reached.tick.datapath.contents
          (reached.controller.state.instruction.request .storeLine) 0 reached.tick.memory 0
          later := by
  intro start store events later memory
  obtain ⟨machine, built, undisturbed, stage, high, continued, awaits, delivers, ended, stored,
      line⟩ :
      ∃ machine, build? { engine := { memorySize := 64 } } ⟨[start, store]⟩ = .ok machine ∧
        (machine.withMemory memory).Undisturbed events ∧
        let reached := (machine.withMemory memory).play events
        reached.controller.state.stage = .transfer .storeLine ∧
          reached.tick.controller.state.engineStartHigh = true ∧
          reached.Undisturbed (.tick :: later) ∧ reached.tick.AwaitsEngine later ∧
          (reached.tick.play (later.take 5)).array.ready.level = true ∧
          (reached.tick.play later).controller.state.activity = .running ∧
          (reached.tick.play later).memory ≠ memory ∧
          reached.controller.state.instruction.line.toNat = 0 :=
    ⟨_, rfl, by decide +kernel⟩
  obtain ⟨-, -, stores⟩ := transfers_atomic built memory undisturbed
  have stores := stores .storeLine later rfl stage high continued awaits
  exact ⟨machine, built, delivers, ended, stored, line ▸ stores⟩

end Machine

end AccessController
