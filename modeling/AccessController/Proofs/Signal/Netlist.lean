import AccessController.Proofs.Outcome
import AccessController.Signal.Netlist

/-!
# What a netlist guarantees

A netlist is assembled and used by calls, and a call that goes wrong leaves no netlist.
Whatever the calls are, terminals and clock only know wires that are there, a terminal stays
tied to its wire, and no two outputs share one (`Keeps`).  So what an input reads is what the
one output on its wire put up last before the last clock edge, whatever else the netlist is
used for (`read_of_edge`).
-/

namespace AccessController

namespace Netlist

/-- A call on a netlist. -/
inductive Call where
  | addWire (level : UInt64)
  | addInput
  | addOutput
  | track (wire : Index)
  | attach (input wire : Index)
  | tieInput (input : Index)
  | tieOutput (output : Index)
  | link (input output : Index)
  | changeWire (wire : Index) (change : Wire UInt64 → Wire UInt64)
  | put (output : Index) (value : UInt64)
  | commit

def apply (netlist : Netlist) : Call → Except Fault Netlist
  | .addWire level => .ok (netlist.addWire level)
  | .addInput => .ok netlist.addInput
  | .addOutput => .ok netlist.addOutput
  | .track wire => netlist.track wire
  | .attach input wire => netlist.attach input wire
  | .tieInput input => netlist.tieInput input
  | .tieOutput output => netlist.tieOutput output
  | .link input output => netlist.link input output
  | .changeWire wire change => netlist.changeWire wire change
  | .put output value => netlist.put output value
  | .commit => .ok netlist.commit

/-- Calls one after the other, up to the first one that goes wrong. -/
def run (netlist : Netlist) (calls : List Call) : Except Fault Netlist := calls.foldlM apply netlist

/-- A terminal of a list is tied to a wire. -/
def Tied (terminals : List (Option Index)) (terminal wire : Index) : Prop :=
  terminals[terminal]? = some (some wire)

variable {netlist before after : Netlist} {input output wire : Index}
variable {terminals : List (Option Index)} {terminal : Index}

/-! ## Calls that succeed -/

theorem entry_eq_ok_iff {α : Type} {entries : List α} {index : Index} {value : α} :
    entry entries index = .ok value ↔ entries[index]? = some value := by
  rw [entry]
  cases entries[index]? with
  | none => exact iff_of_false nofun nofun
  | some found => rw [Except.ok.injEq, Option.some.injEq]

theorem exists_entry_iff {α : Type} {entries : List α} {index : Index} :
    (∃ value, entry entries index = .ok value) ↔ index < entries.length := by
  simp only [entry_eq_ok_iff]
  constructor
  · exact fun ⟨_, found⟩ => (List.getElem?_eq_some_iff.1 found).1
  · exact fun inside => ⟨_, List.getElem?_eq_getElem inside⟩

theorem wireOf_eq_ok_iff : wireOf terminals terminal = .ok wire ↔ Tied terminals terminal wire := by
  rw [wireOf, bind_eq_ok_iff]
  constructor
  · rintro ⟨slot, found, done⟩
    cases slot with
    | none => cases done
    | some tied =>
      cases done
      exact entry_eq_ok_iff.1 found
  · exact fun tied => ⟨some wire, entry_eq_ok_iff.2 tied, rfl⟩

theorem tie_eq_ok_iff {tied : List (Option Index)} :
    tie terminals terminal wire = .ok tied ↔
      terminals[terminal]? = some none ∧ terminals.set terminal (some wire) = tied := by
  rw [tie, bind_eq_ok_iff]
  constructor
  · rintro ⟨slot, found, done⟩
    cases slot with
    | some _ => cases done
    | none =>
      cases done
      exact ⟨entry_eq_ok_iff.1 found, rfl⟩
  · rintro ⟨free, rfl⟩
    exact ⟨none, entry_eq_ok_iff.2 free, rfl⟩

theorem track_eq_ok_iff :
    netlist.track wire = .ok after ↔
      wire < netlist.wires.length ∧
        { netlist with tracked := netlist.tracked ++ [wire] } = after := by
  rw [track, bind_eq_ok_iff, ← exists_entry_iff, exists_and_right]
  exact and_congr_right fun _ => iff_of_eq (Except.ok.injEq ..)

theorem changeWire_eq_ok_iff {change : Wire UInt64 → Wire UInt64} :
    netlist.changeWire wire change = .ok after ↔
      wire < netlist.wires.length ∧ netlist.onWire wire change = after := by
  rw [changeWire, bind_eq_ok_iff, ← exists_entry_iff, exists_and_right]
  exact and_congr_right fun _ => iff_of_eq (Except.ok.injEq ..)

theorem attach_eq_ok_iff :
    netlist.attach input wire = .ok after ↔
      netlist.inputs[input]? = some none ∧ wire < netlist.wires.length ∧
        { netlist with inputs := netlist.inputs.set input (some wire) } = after := by
  simp only [attach, bind_eq_ok_iff, tie_eq_ok_iff]
  constructor
  · rintro ⟨_, -, _, there, _, ⟨free, rfl⟩, ⟨⟩⟩
    exact ⟨free, exists_entry_iff.1 ⟨_, there⟩, rfl⟩
  · rintro ⟨free, there, rfl⟩
    obtain ⟨_, found⟩ := exists_entry_iff.2 there
    exact ⟨none, entry_eq_ok_iff.2 free, _, found, _, ⟨free, rfl⟩, rfl⟩

theorem tieOutput_eq_ok_iff :
    netlist.tieOutput output = .ok after ↔
      netlist.outputs[output]? = some none ∧
        { netlist.addWire 0 with
          outputs := netlist.outputs.set output (some netlist.wires.length) } = after := by
  simp only [tieOutput, bind_eq_ok_iff, tie_eq_ok_iff]
  constructor
  · rintro ⟨_, ⟨free, rfl⟩, ⟨⟩⟩
    exact ⟨free, rfl⟩
  · rintro ⟨free, rfl⟩
    exact ⟨_, ⟨free, rfl⟩, rfl⟩

/-- A link ties the output to a new wire and the input to the same one. -/
theorem tieOutput_and_attach_of_link (links : netlist.link input output = .ok after) :
    ∃ tied, netlist.tieOutput output = .ok tied ∧
      tied.attach input netlist.wires.length = .ok after := by
  simp only [link, bind_eq_ok_iff] at links
  obtain ⟨_, -, linked⟩ := links
  exact linked

theorem put_eq_ok_iff {value : UInt64} :
    netlist.put output value = .ok after ↔
      ∃ wire, Tied netlist.outputs output wire ∧ netlist.onWire wire (·.drive value) = after := by
  simp only [put, bind_eq_ok_iff, wireOf_eq_ok_iff]
  exact exists_congr fun _ => and_congr_right fun _ => iff_of_eq (Except.ok.injEq ..)

theorem read_eq_ok_iff {level : UInt64} :
    netlist.read input = .ok level ↔
      ∃ wire, Tied netlist.inputs input wire ∧
        ∃ found, netlist.wires[wire]? = some found ∧ found.level = level := by
  simp only [read, bind_eq_ok_iff, wireOf_eq_ok_iff, entry_eq_ok_iff]
  exact exists_congr fun _ => and_congr_right fun _ => exists_congr fun _ =>
    and_congr_right fun _ => iff_of_eq (Except.ok.injEq ..)

/-! ## The clock edge -/

theorem getElem?_onWire (netlist : Netlist) (changed : Index)
    (change : Wire UInt64 → Wire UInt64) (index : Index) :
    (netlist.onWire changed change).wires[index]? =
      if changed = index then netlist.wires[index]?.map change else netlist.wires[index]? := by
  rw [onWire, List.getElem?_modify]
  split <;> simp

/-- The clock edge concerns nothing but wires. -/
theorem commit_eq (netlist : Netlist) :
    netlist.commit = { netlist with wires := netlist.commit.wires } := by
  suffices only : ∀ (tracked : List Index) (current : Netlist),
      tracked.foldl (fun current wire => current.onWire wire Wire.commit) current =
        { current with
          wires := (tracked.foldl (fun current wire => current.onWire wire Wire.commit)
            current).wires } from only netlist.tracked netlist
  intro tracked
  induction tracked with
  | nil => exact fun _ => rfl
  | cons wire rest ih => exact fun current => ih (current.onWire wire Wire.commit)

/-- The clock edge commits the tracked wires, in whatever order and however often each one is
tracked, and no others. -/
theorem getElem?_commit (netlist : Netlist) (index : Index) :
    netlist.commit.wires[index]? =
      if index ∈ netlist.tracked then netlist.wires[index]?.map Wire.commit
      else netlist.wires[index]? := by
  rw [commit]
  generalize netlist.tracked = tracked
  induction tracked generalizing netlist with
  | nil => rfl
  | cons wire rest ih =>
    rw [List.foldl_cons, ih, getElem?_onWire]
    by_cases here : wire = index
    · subst here
      -- a second edge finds the wire at rest
      have again : ∀ current : Option (Wire UInt64),
          (current.map Wire.commit).map Wire.commit = current.map Wire.commit := by
        rintro (_ | _) <;> rfl
      simp [again]
    · simp [here, Ne.symm here]

theorem commit_of_tracked (all : ∀ wire < netlist.wires.length, wire ∈ netlist.tracked) :
    netlist.commit = { netlist with wires := netlist.wires.map Wire.commit } := by
  have wires : netlist.commit.wires = netlist.wires.map Wire.commit := by
    apply List.ext_getElem?
    intro index
    rw [getElem?_commit, List.getElem?_map]
    by_cases inside : index < netlist.wires.length
    · rw [if_pos (all index inside)]
    · simp [List.getElem?_eq_none (Nat.le_of_not_lt inside)]
  rw [commit_eq, wires]

/-! ## What all calls keep -/

/-- Terminals and clock know wires that are there only, and a wire has one output at most. -/
structure Sound (netlist : Netlist) : Prop where
  input_lt : ∀ {input wire}, Tied netlist.inputs input wire → wire < netlist.wires.length
  output_lt : ∀ {output wire}, Tied netlist.outputs output wire → wire < netlist.wires.length
  driver : ∀ {first second wire}, Tied netlist.outputs first wire →
    Tied netlist.outputs second wire → first = second
  tracked_lt : ∀ wire ∈ netlist.tracked, wire < netlist.wires.length

/-- One netlist has come from another one: it is as sound, and nothing has been untied. -/
structure Keeps (before after : Netlist) : Prop where
  sound : before.Sound → after.Sound
  inputs : ∀ {input wire}, Tied before.inputs input wire → Tied after.inputs input wire
  outputs : ∀ {output wire}, Tied before.outputs output wire → Tied after.outputs output wire
  tracked : before.tracked ⊆ after.tracked

theorem sound_empty : Sound {} where
  input_lt := nofun
  output_lt := nofun
  driver := nofun
  tracked_lt := nofun

theorem Keeps.refl (netlist : Netlist) : Keeps netlist netlist where
  sound := id
  inputs := id
  outputs := id
  tracked := List.Subset.refl _

theorem Keeps.trans {between : Netlist} (first : Keeps before between)
    (second : Keeps between after) : Keeps before after where
  sound := second.sound ∘ first.sound
  inputs := second.inputs ∘ first.inputs
  outputs := second.outputs ∘ first.outputs
  tracked := List.Subset.trans first.tracked second.tracked

theorem tied_append_none :
    Tied (terminals ++ [none]) terminal wire ↔ Tied terminals terminal wire := by
  rw [Tied, Tied, List.getElem?_append]
  split
  · rfl
  next outside =>
    rw [List.getElem?_eq_none (Nat.le_of_not_lt outside)]
    refine iff_of_false (fun tied => ?_) nofun
    obtain ⟨_, untied⟩ := List.getElem?_eq_some_iff.1 tied
    simp at untied

theorem tied_set (free : terminals[terminal]? = some none) {other found : Index} :
    Tied (terminals.set terminal (some wire)) other found ↔
      (other = terminal ∧ found = wire) ∨ Tied terminals other found := by
  obtain ⟨inside, -⟩ := List.getElem?_eq_some_iff.1 free
  rw [Tied, Tied, List.getElem?_set]
  by_cases same : terminal = other
  · subst same
    rw [if_pos rfl, if_pos inside, free]
    simp [eq_comm]
  · simp [same, Ne.symm same]

theorem keeps_addWire (netlist : Netlist) (level : UInt64) :
    Keeps netlist (netlist.addWire level) where
  sound sound := by
    have longer : netlist.wires.length < (netlist.addWire level).wires.length := by simp [addWire]
    exact {
      input_lt := fun tied => Nat.lt_trans (sound.input_lt tied) longer
      output_lt := fun tied => Nat.lt_trans (sound.output_lt tied) longer
      driver := sound.driver
      tracked_lt := fun wire tracked => Nat.lt_trans (sound.tracked_lt wire tracked) longer }
  inputs := id
  outputs := id
  tracked := List.Subset.refl _

theorem keeps_addInput (netlist : Netlist) : Keeps netlist netlist.addInput where
  sound sound :=
    { sound with input_lt := fun tied => sound.input_lt (tied_append_none.1 tied) }
  inputs := tied_append_none.2
  outputs := id
  tracked := List.Subset.refl _

theorem keeps_addOutput (netlist : Netlist) : Keeps netlist netlist.addOutput where
  sound sound :=
    { sound with
      output_lt := fun tied => sound.output_lt (tied_append_none.1 tied)
      driver := fun first second =>
        sound.driver (tied_append_none.1 first) (tied_append_none.1 second) }
  inputs := id
  outputs := tied_append_none.2
  tracked := List.Subset.refl _

theorem keeps_of_track (tracks : before.track wire = .ok after) : Keeps before after := by
  obtain ⟨there, rfl⟩ := track_eq_ok_iff.1 tracks
  exact {
    sound := fun sound =>
      { sound with
        tracked_lt := fun other tracked => by
          rcases List.mem_append.1 tracked with earlier | now
          · exact sound.tracked_lt other earlier
          · exact List.mem_singleton.1 now ▸ there }
    inputs := id
    outputs := id
    tracked := List.subset_append_left .. }

theorem keeps_of_attach (attaches : before.attach input wire = .ok after) : Keeps before after := by
  obtain ⟨free, there, rfl⟩ := attach_eq_ok_iff.1 attaches
  exact {
    sound := fun sound =>
      { sound with
        input_lt := fun tied => by
          rcases (tied_set free).1 tied with ⟨-, rfl⟩ | earlier
          · exact there
          · exact sound.input_lt earlier }
    inputs := fun tied => (tied_set free).2 (.inr tied)
    outputs := id
    tracked := List.Subset.refl _ }

/-- The output is the only one on its wire, because the wire is new. -/
theorem keeps_of_tieOutput (ties : before.tieOutput output = .ok after) : Keeps before after := by
  obtain ⟨free, rfl⟩ := tieOutput_eq_ok_iff.1 ties
  have laid := before.keeps_addWire 0
  exact {
    sound := fun sound =>
      { laid.sound sound with
        output_lt := fun tied => by
          rcases (tied_set free).1 tied with ⟨-, rfl⟩ | earlier
          · simp [addWire]
          · exact (laid.sound sound).output_lt earlier
        driver := fun {first second shared} one other => by
          rcases (tied_set free).1 one with ⟨rfl, rfl⟩ | earlier <;>
            rcases (tied_set free).1 other with ⟨rfl, same⟩ | later
          · rfl
          · exact absurd (sound.output_lt later) (Nat.lt_irrefl _)
          · exact absurd (same ▸ sound.output_lt earlier) (Nat.lt_irrefl _)
          · exact sound.driver earlier later }
    inputs := id
    outputs := fun tied => (tied_set free).2 (.inr tied)
    tracked := List.Subset.refl _ }

theorem keeps_onWire (netlist : Netlist) (wire : Index) (change : Wire UInt64 → Wire UInt64) :
    Keeps netlist (netlist.onWire wire change) where
  sound sound := by
    have same : (netlist.onWire wire change).wires.length = netlist.wires.length :=
      List.length_modify ..
    exact {
      input_lt := fun tied => same ▸ sound.input_lt tied
      output_lt := fun tied => same ▸ sound.output_lt tied
      driver := sound.driver
      tracked_lt := fun wire tracked => same ▸ sound.tracked_lt wire tracked }
  inputs := id
  outputs := id
  tracked := List.Subset.refl _

theorem keeps_commit (netlist : Netlist) : Keeps netlist netlist.commit := by
  rw [commit]
  generalize netlist.tracked = tracked
  induction tracked generalizing netlist with
  | nil => exact Keeps.refl netlist
  | cons wire rest ih => exact (netlist.keeps_onWire wire Wire.commit).trans (ih _)

theorem keeps_of_apply {call : Call} (applied : before.apply call = .ok after) :
    Keeps before after := by
  cases call with
  | addWire level =>
    cases applied
    exact before.keeps_addWire level
  | addInput =>
    cases applied
    exact before.keeps_addInput
  | addOutput =>
    cases applied
    exact before.keeps_addOutput
  | track wire => exact keeps_of_track applied
  | attach input wire => exact keeps_of_attach applied
  | tieInput input => exact (before.keeps_addWire 0).trans (keeps_of_attach applied)
  | tieOutput output => exact keeps_of_tieOutput applied
  | link input output =>
    obtain ⟨_, ties, attaches⟩ := tieOutput_and_attach_of_link applied
    exact (keeps_of_tieOutput ties).trans (keeps_of_attach attaches)
  | changeWire wire change =>
    obtain ⟨-, rfl⟩ := changeWire_eq_ok_iff.1 applied
    exact before.keeps_onWire wire change
  | put output value =>
    obtain ⟨wire, -, rfl⟩ := put_eq_ok_iff.1 applied
    exact before.keeps_onWire wire _
  | commit =>
    cases applied
    exact before.keeps_commit

theorem keeps_of_run {calls : List Call} (ran : before.run calls = .ok after) :
    Keeps before after :=
  foldlM_keeps (fun applied keeps => keeps.trans (keeps_of_apply applied)) ran (Keeps.refl before)

/-- Whatever a netlist is assembled by, it is sound. -/
theorem sound_of_run {calls : List Call} (ran : run {} calls = .ok netlist) : netlist.Sound :=
  (keeps_of_run ran).sound sound_empty

/-- In a sound netlist an input that is tied can be read, and no other one can. -/
theorem Sound.exists_read_iff (sound : netlist.Sound) :
    (∃ level, netlist.read input = .ok level) ↔ ∃ wire, Tied netlist.inputs input wire := by
  simp only [read_eq_ok_iff]
  constructor
  · rintro ⟨_, wire, tied, -⟩
    exact ⟨wire, tied⟩
  · rintro ⟨wire, tied⟩
    exact ⟨_, wire, tied, _, List.getElem?_eq_getElem (sound.input_lt tied), rfl⟩

/-! ## What a reader gets -/

/-- An input and an output on one wire that follows the clock. -/
structure Linked (netlist : Netlist) (input output wire : Index) : Prop where
  input : Tied netlist.inputs input wire
  output : Tied netlist.outputs output wire
  tracked : wire ∈ netlist.tracked

theorem Linked.keeps (linked : before.Linked input output wire) (keeps : Keeps before after) :
    after.Linked input output wire where
  input := keeps.inputs linked.input
  output := keeps.outputs linked.output
  tracked := keeps.tracked linked.tracked

theorem linked_of_link {between : Netlist} (links : before.link input output = .ok between)
    (tracks : between.track before.wires.length = .ok after) :
    after.Linked input output before.wires.length := by
  obtain ⟨tied, ties, attaches⟩ := tieOutput_and_attach_of_link links
  have driven : Tied tied.outputs output before.wires.length := by
    obtain ⟨free, rfl⟩ := tieOutput_eq_ok_iff.1 ties
    exact (tied_set free).2 (.inl ⟨rfl, rfl⟩)
  obtain ⟨unset, -, rfl⟩ := attach_eq_ok_iff.1 attaches
  obtain ⟨-, rfl⟩ := track_eq_ok_iff.1 tracks
  exact ⟨(tied_set unset).2 (.inl ⟨rfl, rfl⟩), driven, by simp⟩

/-- What a call does to a wire that follows the clock and has one driver. -/
def heard (driver : Index) (wire : Wire UInt64) : Call → Wire UInt64
  | .put output value => if output = driver then wire.drive value else wire
  | .commit => wire.commit
  | _ => wire

variable {shared : Index} {wire : Wire UInt64}

theorem getElem?_addWire (found : netlist.wires[shared]? = some wire) (level : UInt64) :
    (netlist.addWire level).wires[shared]? = some wire := by
  obtain ⟨inside, -⟩ := List.getElem?_eq_some_iff.1 found
  rw [addWire, List.getElem?_append_left inside, found]

theorem getElem?_of_attach (found : before.wires[shared]? = some wire) {tied : Index}
    (attaches : before.attach input tied = .ok after) : after.wires[shared]? = some wire := by
  obtain ⟨-, -, rfl⟩ := attach_eq_ok_iff.1 attaches
  exact found

theorem getElem?_of_tieOutput (found : before.wires[shared]? = some wire)
    (ties : before.tieOutput output = .ok after) : after.wires[shared]? = some wire := by
  obtain ⟨-, rfl⟩ := tieOutput_eq_ok_iff.1 ties
  exact getElem?_addWire found 0

/-- Calls that are not about a wire leave it alone, and other outputs are not about it. -/
theorem Linked.heard_of_apply (linked : before.Linked input output shared) (sound : before.Sound)
    (found : before.wires[shared]? = some wire) {call : Call}
    (untouched : ∀ change, call ≠ .changeWire shared change)
    (applied : before.apply call = .ok after) :
    after.wires[shared]? = some (heard output wire call) := by
  cases call with
  | addWire level =>
    cases applied
    exact getElem?_addWire found level
  | addInput | addOutput =>
    cases applied
    exact found
  | track tracked =>
    obtain ⟨-, rfl⟩ := track_eq_ok_iff.1 applied
    exact found
  | attach other tied => exact getElem?_of_attach found applied
  | tieInput other => exact getElem?_of_attach (getElem?_addWire found 0) applied
  | tieOutput other => exact getElem?_of_tieOutput found applied
  | link other driver =>
    obtain ⟨_, ties, attaches⟩ := tieOutput_and_attach_of_link applied
    exact getElem?_of_attach (getElem?_of_tieOutput found ties) attaches
  | changeWire changed change =>
    obtain ⟨-, rfl⟩ := changeWire_eq_ok_iff.1 applied
    have elsewhere : changed ≠ shared := fun same => untouched change (same ▸ rfl)
    rw [getElem?_onWire, if_neg elsewhere, found]
    rfl
  | put driver value =>
    obtain ⟨driven, tied, rfl⟩ := put_eq_ok_iff.1 applied
    rw [getElem?_onWire, found, heard]
    by_cases same : driver = output
    · subst same
      obtain rfl : driven = shared := Option.some.inj (Option.some.inj (tied.symm.trans linked.output))
      rw [if_pos rfl, if_pos rfl, Option.map_some]
    · have elsewhere : driven ≠ shared := by
        rintro rfl
        exact same (sound.driver tied linked.output)
      rw [if_neg elsewhere, if_neg same]
  | commit =>
    cases applied
    rw [getElem?_commit, if_pos linked.tracked, found, Option.map_some, heard]

/-- In whatever way a netlist is used and assembled further, a wire goes its own way with its
driver and the clock. -/
theorem Linked.heard_of_run (linked : before.Linked input output shared) (sound : before.Sound)
    (found : before.wires[shared]? = some wire) {calls : List Call}
    (untouched : ∀ change, .changeWire shared change ∉ calls)
    (ran : before.run calls = .ok after) :
    after.wires[shared]? = some (calls.foldl (heard output) wire) := by
  induction calls generalizing before wire with
  | nil =>
    cases ran
    exact found
  | cons call later ih =>
    obtain ⟨between, applied, rest⟩ := foldlM_cons_eq_ok_iff.1 ran
    have keeps := keeps_of_apply applied
    have heard := linked.heard_of_apply sound found
      (fun change same => untouched change (same ▸ List.mem_cons_self)) applied
    exact ih (linked.keeps keeps) (keeps.sound sound) heard
      (fun change member => untouched change (List.mem_cons_of_mem _ member)) rest

/-- The value that an output has put up last, or an earlier one if it has not put up any. -/
def lastPut (output : Index) (earlier : UInt64) : List Call → UInt64
  | [] => earlier
  | .put driver value :: later => lastPut output (if driver = output then value else earlier) later
  | _ :: later => lastPut output earlier later

theorem next_foldl_heard (calls : List Call) :
    (calls.foldl (heard output) wire).next = lastPut output wire.next calls := by
  induction calls generalizing wire with
  | nil => rfl
  | cons call later ih =>
    rw [List.foldl_cons, ih]
    cases call with
    | put driver value =>
      rw [lastPut, heard]
      split <;> rfl
    | _ => rfl

/-- Between two edges the level does not move. -/
theorem level_foldl_heard {calls : List Call} (quiet : .commit ∉ calls) :
    (calls.foldl (heard output) wire).level = wire.level := by
  induction calls generalizing wire with
  | nil => rfl
  | cons call later ih =>
    rw [List.mem_cons, not_or] at quiet
    rw [List.foldl_cons, ih quiet.2]
    cases call with
    | commit => exact absurd rfl quiet.1
    | put driver value =>
      rw [heard]
      split <;> rfl
    | _ => rfl

/-- An input reads what the output on its wire put up last before the last clock edge, in
whatever way the netlist is used and assembled further before and behind it. -/
theorem Linked.read_of_edge (linked : before.Linked input output shared) (sound : before.Sound)
    (found : before.wires[shared]? = some wire) {earlier later : List Call}
    (untouched : ∀ change, .changeWire shared change ∉ earlier ++ .commit :: later)
    (quiet : .commit ∉ later) (ran : before.run (earlier ++ .commit :: later) = .ok after) :
    after.read input = .ok (lastPut output wire.next earlier) := by
  have heard := linked.heard_of_run sound found untouched ran
  refine read_eq_ok_iff.2 ⟨shared, (keeps_of_run ran).inputs linked.input, _, heard, ?_⟩
  rw [List.foldl_append, List.foldl_cons, level_foldl_heard quiet]
  exact next_foldl_heard earlier

/-- A value that is put up behind the edge is not read yet. -/
example : (run {} [.addInput, .addOutput, .link 0 0, .track 0, .put 0 5, .commit,
    .put 0 7]).bind (·.read 0) = .ok 5 := rfl

end Netlist

end AccessController
