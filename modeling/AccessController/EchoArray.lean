import AccessController.Cache.Lines
import AccessController.Log
import AccessController.Signal.Wire
import AccessController.Bytes

/-!
# The echo array

A compute array as the controller sees it: a rising start pulse makes it take
in the current lines of the caches, and after its latency it raises ready for
one tick and hands over results. This array computes nothing; its results are
the values that it was started with. While it is busy, starts have no effect.
-/

namespace AccessController

/-- The lines that the array sees. -/
structure ArrayInputs where
  confPe : Line
  confCc : Line
  values : Line
  deriving Repr, DecidableEq

namespace ArrayInputs

/-- The values to be echoed; a configuration line has none. -/
def elements (inputs : ArrayInputs) : List UInt64 :=
  match inputs.values with
  | .data elements => elements
  | .config _ => []

/-- The two configurations, if both lines hold one. -/
def configurations? (inputs : ArrayInputs) : Option (Nat × Nat) :=
  match inputs.confPe, inputs.confCc with
  | .config pe, .config cc => some (pe, cc)
  | _, _ => none

end ArrayInputs

/-- What the array remembers from tick to tick. -/
structure EchoArray.State where
  previousStart : Bool := false
  /-- The ticks left until the results are due, while a run is under way. -/
  countdown : Option Nat := none
  captured : List UInt64 := []
  readyHigh : Bool := false
  runs : Nat := 0
  lastConfig : Option (Nat × Nat) := none
  deriving Repr, DecidableEq

/-- The echo array with its ready wire. -/
structure EchoArray where
  /-- The ticks between the start pulse and the results. -/
  latency : Nat
  state : EchoArray.State := {}
  cycle : Nat := 0
  ready : Wire Bool := .rest false
  deriving Repr, DecidableEq

namespace EchoArray

/-- Lowers ready the tick after it was raised. -/
def lowerReady (array : EchoArray) : EchoArray :=
  if array.state.readyHigh then
    { array with state.readyHigh := false, ready := array.ready.drive false }
  else array

/-- Takes in the lines and starts a run if start has risen on an idle array. -/
def sampleStart (array : EchoArray) (start : Bool) (inputs : ArrayInputs) : EchoArray :=
  let sampled := { array with state.previousStart := start }
  if start && !array.state.previousStart && array.state.countdown.isNone then
    { sampled with
      state.captured := inputs.elements
      state.lastConfig := inputs.configurations?
      state.countdown := some array.latency }
  else sampled

/-- Counts a run down; at zero it ends with results and a ready pulse. -/
def countDown (array : EchoArray) : EchoArray × Option (List UInt64) :=
  match array.state.countdown with
  | none => (array, none)
  | some (ticks + 1) => ({ array with state.countdown := some ticks }, none)
  | some 0 =>
    ({ array with
        state.countdown := none
        state.runs := array.state.runs + 1
        state.readyHigh := true
        state.captured := []
        ready := array.ready.drive true },
      some array.state.captured)

/-- One tick. -/
def tick (array : EchoArray) (start : Bool) (inputs : ArrayInputs) :
    EchoArray × Option (List UInt64) :=
  ({ array with cycle := array.cycle + 1 }.lowerReady.sampleStart start inputs).countDown

/-- What a tick logs. -/
def tickLog (array : EchoArray) (start : Bool) (inputs : ArrayInputs) : List LogLine :=
  let started :=
    if start && !array.state.previousStart && array.state.countdown.isNone then
      [LogLine.debug s!"array: started with {Hex.wordsListing inputs.elements}"]
    else []
  let ended := (array.tick start inputs).1
  if (array.tick start inputs).2.isSome then
    started ++ [LogLine.debug s!"array: done, run {ended.state.runs}"]
  else started

/-- Back to the state after power-up. -/
def reset (array : EchoArray) : EchoArray :=
  { array with state := {}, ready := array.ready.drive false }

/-- The clock edge of the ready wire. -/
def commit (array : EchoArray) : EchoArray := { array with ready := array.ready.commit }

end EchoArray

end AccessController
