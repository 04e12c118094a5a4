import AccessController.Signal.Wire

/-!
# Netlists

A netlist is assembled piece by piece: wires are laid, the terminals of
components are tied to them, and the wires that follow the clock are tracked. A
terminal is tied once; using it before that, or tying it again, is a fault of
the assembly.
-/

namespace AccessController

/-- A number that names a wire or a terminal of a netlist. -/
abbrev Netlist.Index := Nat

/-- Wires of 64-bit words, the terminals tied to them and the wires that a clock
edge commits. -/
structure Netlist where
  wires : List (Wire UInt64) := []
  inputs : List (Option Netlist.Index) := []
  outputs : List (Option Netlist.Index) := []
  tracked : List Netlist.Index := []
  deriving Repr

namespace Netlist

/-- What can be wrong with the use of a terminal or wire. -/
inductive Fault where
  | terminalNotTied
  | terminalTiedTwice
  | missing (count index : Nat)
  deriving Repr, DecidableEq

def Fault.message : Fault → String
  | .terminalNotTied => "port lock not set"
  | .terminalTiedTwice => "lock already set: \"\""
  | .missing count index =>
    s!"index out of bounds: the len is {count} but the index is {index}"

/-- The number of wires that a clock edge commits. -/
def size (netlist : Netlist) : Nat := netlist.tracked.length

/-- The levels of all wires, in the order in which they were laid. -/
def levels (netlist : Netlist) : List UInt64 := netlist.wires.map (·.level)

/-- The entry of a list that an index names. -/
def entry {α : Type} (entries : List α) (index : Index) : Except Fault α :=
  match entries[index]? with
  | some value => .ok value
  | none => .error (.missing entries.length index)

/-- Changes one wire. -/
def onWire (netlist : Netlist) (wire : Index) (change : Wire UInt64 → Wire UInt64) : Netlist :=
  { netlist with wires := netlist.wires.modify wire change }

/-- Changes one wire, which has to be there. -/
def changeWire (netlist : Netlist) (wire : Index) (change : Wire UInt64 → Wire UInt64) :
    Except Fault Netlist := do
  let _ ← entry netlist.wires wire
  return netlist.onWire wire change

/-- Lays a further wire at rest. -/
def addWire (netlist : Netlist) (level : UInt64) : Netlist :=
  { netlist with wires := netlist.wires ++ [.rest level] }

def addInput (netlist : Netlist) : Netlist :=
  { netlist with inputs := netlist.inputs ++ [none] }

def addOutput (netlist : Netlist) : Netlist :=
  { netlist with outputs := netlist.outputs ++ [none] }

/-- Makes a wire follow the clock. -/
def track (netlist : Netlist) (wire : Index) : Except Fault Netlist := do
  let _ ← entry netlist.wires wire
  return { netlist with tracked := netlist.tracked ++ [wire] }

/-- The clock edge of every tracked wire. -/
def commit (netlist : Netlist) : Netlist :=
  netlist.tracked.foldl (fun current wire => current.onWire wire Wire.commit) netlist

/-- Ties one terminal of a list to a wire, unless it is tied already. -/
def tie (terminals : List (Option Index)) (terminal wire : Index) :
    Except Fault (List (Option Index)) := do
  match ← entry terminals terminal with
  | some _ => throw .terminalTiedTwice
  | none => return terminals.set terminal (some wire)

/-- Ties an input terminal to a wire that is there already. -/
def attach (netlist : Netlist) (input wire : Index) : Except Fault Netlist := do
  let _ ← entry netlist.inputs input
  let _ ← entry netlist.wires wire
  let inputs ← tie netlist.inputs input wire
  return { netlist with inputs }

/-- Ties an output terminal to a new wire that nobody need read. -/
def tieOutput (netlist : Netlist) (output : Index) : Except Fault Netlist := do
  let outputs ← tie netlist.outputs output netlist.wires.length
  return { netlist.addWire 0 with outputs }

/-- Ties an input terminal to a new wire driven from outside. -/
def tieInput (netlist : Netlist) (input : Index) : Except Fault Netlist :=
  (netlist.addWire 0).attach input netlist.wires.length

/-- Ties an output terminal and an input terminal, which have to be there, to
one new wire, the output first. -/
def link (netlist : Netlist) (input output : Index) : Except Fault Netlist := do
  let _ ← entry netlist.inputs input
  let tied ← netlist.tieOutput output
  tied.attach input netlist.wires.length

/-- The wire that a terminal of a list is tied to. -/
def wireOf (terminals : List (Option Index)) (terminal : Index) : Except Fault Index := do
  match ← entry terminals terminal with
  | some wire => return wire
  | none => throw .terminalNotTied

/-- Drives the wire of an output terminal. -/
def put (netlist : Netlist) (output : Index) (value : UInt64) : Except Fault Netlist := do
  let wire ← wireOf netlist.outputs output
  return netlist.onWire wire (·.drive value)

/-- The level of the wire of an input terminal. -/
def read (netlist : Netlist) (input : Index) : Except Fault UInt64 := do
  let wire ← entry netlist.wires (← wireOf netlist.inputs input)
  return wire.level

end Netlist

end AccessController
