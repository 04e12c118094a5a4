import AccessController.Proofs.Controller.Driving
import AccessController.Proofs.Datapath.Agreement

/-!
# Controllers that agree

The controller reads none of the wires that it drives.  Two controllers with the
same program and the same state therefore do the same and drive the same wires to
the same values (`Controller.Agrees.tick`), whatever is left on wires that they
have not driven yet.
-/

namespace AccessController

namespace Controller

/-- The levels that reach the datapath behind the next clock edge. -/
def forthcomingInputs (controller : Controller) : DatapathInputs :=
  controller.outputs.commit.datapathInputs

section

variable (controller : Controller)

theorem forthcomingInputs_sample (pins : ControlPins) :
    (controller.sample pins).forthcomingInputs =
      { controller.forthcomingInputs with
        start := controller.forthcomingInputs.start && !controller.state.engineStartHigh } := by
  have start : ((controller.outputs.engineStart).driveIf controller.state.engineStartHigh
      false).next = (controller.outputs.engineStart.next && !controller.state.engineStartHigh) := by
    cases controller.state.engineStartHigh with
    | true => exact (Bool.and_false _).symm
    | false => exact (Bool.and_true _).symm
  exact congrArg (fun start => { controller.forthcomingInputs with start }) start

theorem forthcomingInputs_request (operation : TransferOp) :
    (controller.request operation).forthcomingInputs =
      let request := controller.state.instruction.request operation
      { controller.forthcomingInputs with
        start := true
        selector := request.selector
        address := request.address
        place := request.place
        selectIn := controller.forthcomingInputs.selectIn.set operation.kind
          controller.state.instruction.lineLevel } := by
  have selectIn := PerCache.map_commit_modify_drive operation.kind controller.outputs.selectIn
    controller.state.instruction.lineLevel
  have levels := congrArg (PerCache.map · Wire.level) selectIn
  rw [PerCache.map_set] at levels
  exact congrArg (fun selectIn => { (controller.request operation).forthcomingInputs with
    selectIn }) levels

theorem forthcomingInputs_select (kind : CacheKind) :
    (controller.select kind).forthcomingInputs =
      { controller.forthcomingInputs with
        selectOut := controller.forthcomingInputs.selectOut.set kind
          controller.state.instruction.lineLevel } := by
  have selectOut := PerCache.map_commit_modify_drive kind controller.outputs.selectOut
    controller.state.instruction.lineLevel
  have levels := congrArg (PerCache.map · Wire.level) selectOut
  rw [PerCache.map_set] at levels
  exact congrArg (fun selectOut => { controller.forthcomingInputs with selectOut }) levels

end

/-- Two controllers are in the same state, and behind the clock edge the wires that
they drive are the same as far as they are read. -/
structure Agrees (served : Option CacheKind) (left right : Controller) : Prop where
  program : left.program = right.program
  state : left.state = right.state
  arrayStart : left.outputs.arrayStart = right.outputs.arrayStart
  finish : left.outputs.finish = right.outputs.finish
  inputs : left.forthcomingInputs.Agrees served right.forthcomingInputs

namespace Agrees

variable {served : Option CacheKind} {left right : Controller}
  (agrees : Agrees served left right) (before pins : ControlPins) (run : Bool)

include agrees

theorem change (state : ControlState) :
    Agrees served { left with state } { right with state } where
  program := agrees.program
  state := rfl
  arrayStart := agrees.arrayStart
  finish := agrees.finish
  inputs := agrees.inputs

/-- Ending a pulse takes a request back and puts none up. -/
theorem sample : Agrees served (left.sample pins) (right.sample pins) where
  program := agrees.program
  state := by
    simp only [Controller.sample, dropPulses, agrees.state]
  arrayStart := by
    simp only [Controller.sample, dropPulses, agrees.state, agrees.arrayStart]
  finish := agrees.finish
  inputs := by
    obtain ⟨start, selectOut, request, line⟩ := agrees.inputs
    rw [forthcomingInputs_sample, forthcomingInputs_sample, ← agrees.state, ← start]
    exact {
      start := rfl
      selectOut
      request := fun high => request (Bool.and_eq_true_iff.1 high).1
      line := fun kind read =>
        line kind (read.imp_right (And.imp_left fun high => (Bool.and_eq_true_iff.1 high).1)) }

theorem engineEdge :
    Agrees served (left.engineEdge before pins) (right.engineEdge before pins) := by
  rw [Controller.engineEdge, Controller.engineEdge]
  split
  · exact agrees
  · rw [onEngineEdge, onEngineEdge, ← agrees.state]
    split
    · split
      · exact agrees
      · rw [enter, become, enter, become, ← agrees.state]
        exact agrees.change _
    · exact agrees.change _
    · exact agrees.change _

theorem arrayEdge :
    Agrees served (left.arrayEdge before pins) (right.arrayEdge before pins) := by
  rw [Controller.arrayEdge, Controller.arrayEdge]
  split
  · rw [onArrayReady, onArrayReady, enter, become, enter, become, ← agrees.state]
    split
    · exact agrees.change _
    · exact agrees.change _
  · exact agrees

theorem resetEdge :
    Agrees served (left.resetEdge before pins) (right.resetEdge before pins) := by
  rw [Controller.resetEdge, Controller.resetEdge]
  split
  · rw [onResetReleased, onResetReleased, enter, become, enter, become, ← agrees.state]
    exact agrees.change _
  · exact agrees

theorem runEdge : Agrees served (left.runEdge before pins) (right.runEdge before pins) := by
  rw [Controller.runEdge, Controller.runEdge]
  split
  · rw [onRun, onRun, enter, become, enter, become, ← agrees.state]
    exact agrees.change _
  · exact agrees

theorem onPause : Agrees served (left.onPause before pins) (right.onPause before pins) := by
  rw [onPause_eq, onPause_eq, become, become, ← agrees.state]
  exact agrees.change _

theorem request (operation : TransferOp) :
    Agrees served (left.request operation) (right.request operation) where
  program := agrees.program
  state := by
    simp only [Controller.request, agrees.state]
  arrayStart := agrees.arrayStart
  finish := agrees.finish
  inputs := by
    rw [forthcomingInputs_request, forthcomingInputs_request, ← agrees.state]
    exact {
      start := rfl
      selectOut := agrees.inputs.selectOut
      request := fun _ => rfl
      line := by
        intro kind read
        dsimp only
        rw [PerCache.get_set, PerCache.get_set]
        split
        next => rfl
        next apart =>
          refine agrees.inputs.line kind (.inl (read.resolve_right fun named => apart ?_))
          have known : CacheKind.ofSelector? operation.kind.selector = some kind := named.2
          rw [CacheKind.ofSelector?_selector] at known
          exact Option.some.inj known }

theorem select (kind : CacheKind) : Agrees served (left.select kind) (right.select kind) where
  program := agrees.program
  state := by
    simp only [Controller.select, enter, agrees.state]
  arrayStart := agrees.arrayStart
  finish := agrees.finish
  inputs := by
    obtain ⟨start, selectOut, request, line⟩ := agrees.inputs
    rw [forthcomingInputs_select, forthcomingInputs_select, ← agrees.state, ← selectOut]
    exact ⟨start, rfl, request, line⟩

theorem startArray : Agrees served left.startArray right.startArray where
  program := agrees.program
  state := by
    simp only [Controller.startArray, enter, agrees.state]
  arrayStart := by
    simp only [Controller.startArray, enter, agrees.arrayStart]
  finish := agrees.finish
  inputs := agrees.inputs

theorem signal : Agrees served (left.finish run) (right.finish run) := by
  rw [Controller.finish, Controller.finish, enter, enter, ← agrees.state, ← agrees.finish]
  split
  · exact { agrees with finish := rfl, state := rfl }
  · exact { agrees with finish := rfl, state := rfl }

theorem step : Agrees served (left.step run) (right.step run) := by
  rw [Controller.step, Controller.step, ← agrees.state]
  cases left.state.stage with
  | idle => exact agrees
  | fetch =>
    dsimp only
    rw [fetch, fetch, ← agrees.program, ← agrees.state]
    split
    · rw [enter, enter, ← agrees.state]
      exact agrees.change _
    · rw [enter, enter, ← agrees.state]
      exact agrees.change _
  | decode =>
    dsimp only
    rw [dispatch, dispatch, ← agrees.state]
    split
    · rw [enter, enter, ← agrees.state]
      exact agrees.change _
    · rw [enter, enter, ← agrees.state]
      exact agrees.change _
  | transfer operation => exact agrees.request operation
  | awaitEngine =>
    dsimp only
    rw [become, become, ← agrees.state]
    exact agrees.change _
  | engineDone =>
    dsimp only
    rw [enter, enter, ← agrees.state]
    exact agrees.change _
  | select kind => exact agrees.select kind
  | start => exact agrees.startArray
  | waitReady =>
    dsimp only
    rw [waitReady, waitReady, enter, enter, become, become, ← agrees.state]
    split
    · exact agrees.change _
    · exact agrees.change _
  | finish => exact agrees.signal run
  | advance =>
    dsimp only
    rw [advance, advance, enter, enter, ← agrees.state]
    exact agrees.change _

theorem act : Agrees served (left.act run) (right.act run) := by
  rw [Controller.act, Controller.act, ← agrees.state]
  split
  · exact agrees.step run
  · exact agrees.change _
  · exact agrees.change _
  · exact agrees
  · exact agrees

/-- A tick keeps controllers in agreement that sample the same pins. -/
theorem tick : Agrees served (left.tick pins) (right.tick pins) := by
  have sampled := agrees.sample pins
  have edged := sampled.engineEdge left.state.sampled pins
  simp only [Controller.tick, ← agrees.state, ← sampled.state, ← edged.state]
  split
  · exact sampled
  · split
    · exact edged
    · exact ((((edged.arrayEdge _ pins).resetEdge _ pins).runEdge _ pins).onPause _ pins).act
        pins.run

/-- A start that has been seen makes its cache the one that is served. -/
theorem serve {next : Option CacheKind}
    (named : ∀ kind, next = some kind → served = some kind ∨
      left.forthcomingInputs.start = true ∧
        CacheKind.ofSelector? left.forthcomingInputs.selector = some kind) :
    Agrees next left right where
  program := agrees.program
  state := agrees.state
  arrayStart := agrees.arrayStart
  finish := agrees.finish
  inputs := {
    start := agrees.inputs.start
    selectOut := agrees.inputs.selectOut
    request := agrees.inputs.request
    line := fun kind read => agrees.inputs.line kind (read.elim (named kind) .inr) }

theorem commit : Agrees served left.commit right.commit where
  program := agrees.program
  state := agrees.state
  arrayStart := congrArg Wire.commit agrees.arrayStart
  finish := congrArg Wire.commit agrees.finish
  inputs := agrees.inputs

end Agrees

end Controller

end AccessController
