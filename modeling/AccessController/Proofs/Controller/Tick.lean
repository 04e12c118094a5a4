import AccessController.Controller.Basic
import AccessController.Datapath.Basic

/-!
# What a tick of the controller does

A tick attends to the edges of the pins and then acts.  The two halves are kept
apart: what the edges do is given for each edge, and what the controller does
once it has seen them is one transition table over its stages.
-/

namespace AccessController

/-- The levels of the wires from the controller to the datapath. -/
def ControlOutputs.datapathInputs (outputs : ControlOutputs) : DatapathInputs where
  start := outputs.engineStart.level
  selector := outputs.selector.level
  address := outputs.address.level
  place := outputs.place.level
  selectIn := outputs.selectIn.map (·.level)
  selectOut := outputs.selectOut.map (·.level)

namespace PerCache

@[simp] theorem map_level_modify_drive {α : Type} (wires : PerCache (Wire α)) (kind : CacheKind)
    (value : α) :
    (wires.modify kind fun wire => wire.drive value).map (·.level) = wires.map (·.level) := by
  apply ext_get
  intro other
  rw [get_map, get_map, get_modify]
  split <;> rfl

end PerCache

namespace Controller

variable (controller : Controller) (before pins : ControlPins) (run : Bool)

/-- The controller when it has seen all edges and has not acted yet. -/
def attend : Controller :=
  let before := controller.state.sampled
  (((((controller.sample pins).engineEdge before pins).arrayEdge before pins).resetEdge before
    pins).runEdge before pins).onPause before pins

/-- A controller that has not failed acts on what it has seen, unless an edge of
the engine's ready comes out of turn. -/
theorem tick_eq_act (working : controller.state.activity ≠ .failed)
    (heeded : pins.engineReady = controller.state.sampled.engineReady ∨
      controller.state.activity = .waiting .engine) :
    controller.tick pins = (controller.attend pins).act pins.run := by
  have sampled : (controller.sample pins).state.activity = controller.state.activity := rfl
  have synchronized : ((controller.sample pins).engineEdge controller.state.sampled
      pins).state.activity ≠ .failed := by
    rw [engineEdge]
    split
    · exact working
    next edge =>
      rw [onEngineEdge, sampled, heeded.resolve_left edge]
      dsimp only
      split
      · exact working
      · nofun
  simp only [tick]
  rw [if_neg (sampled ▸ working), if_neg synchronized]
  rfl

@[simp] theorem state_commit : controller.commit.state = controller.state := rfl

/-! ## The levels of the wires -/

@[simp] theorem datapathInputs_sample :
    (controller.sample pins).outputs.datapathInputs = controller.outputs.datapathInputs := by
  simp [sample, dropPulses, ControlOutputs.datapathInputs]

@[simp] theorem datapathInputs_act :
    (controller.act run).outputs.datapathInputs = controller.outputs.datapathInputs := by
  rw [act]
  split <;> try rfl
  rw [step]
  split <;> try rfl
  next => rw [fetch]; split <;> rfl
  next => rw [dispatch]; split <;> rfl
  next operation => simp [request, ControlOutputs.datapathInputs]
  next => simp [select, ControlOutputs.datapathInputs, enter]
  next => rw [waitReady]; split <;> rfl
  next => rw [finish]; split <;> rfl

/-! ## Edges -/

/-- What no edge changes. -/
structure Attended (before after : Controller) : Prop where
  program : after.program = before.program
  outputs : after.outputs = before.outputs
  instruction : after.state.instruction = before.state.instruction
  sampled : after.state.sampled = before.state.sampled
  engineStartHigh : after.state.engineStartHigh = before.state.engineStartHigh
  arrayStartHigh : after.state.arrayStartHigh = before.state.arrayStartHigh
  engineRequests : after.state.stats.engineRequests = before.state.stats.engineRequests
  instructions : after.state.stats.instructions = before.state.stats.instructions

variable {controller}

theorem Attended.trans {middle after : Controller} (left : Attended controller middle)
    (right : Attended middle after) : Attended controller after where
  program := right.program.trans left.program
  outputs := right.outputs.trans left.outputs
  instruction := right.instruction.trans left.instruction
  sampled := right.sampled.trans left.sampled
  engineStartHigh := right.engineStartHigh.trans left.engineStartHigh
  arrayStartHigh := right.arrayStartHigh.trans left.arrayStartHigh
  engineRequests := right.engineRequests.trans left.engineRequests
  instructions := right.instructions.trans left.instructions

variable (controller)

theorem attended_engineEdge : Attended controller (controller.engineEdge before pins) := by
  rw [engineEdge]
  split
  · constructor <;> rfl
  · rw [onEngineEdge]
    split
    · split <;> constructor <;> rfl
    · constructor <;> rfl
    · constructor <;> rfl

theorem attended_arrayEdge : Attended controller (controller.arrayEdge before pins) := by
  rw [arrayEdge]
  split
  · rw [onArrayReady]
    split <;> constructor <;> rfl
  · constructor <;> rfl

theorem attended_resetEdge : Attended controller (controller.resetEdge before pins) := by
  rw [resetEdge]
  split <;> constructor <;> rfl

theorem attended_runEdge : Attended controller (controller.runEdge before pins) := by
  rw [runEdge]
  split <;> constructor <;> rfl

theorem attended_onPause : Attended controller (controller.onPause before pins) := by
  rw [onPause]
  split
  · split <;> constructor <;> rfl
  · split <;> constructor <;> rfl
  · constructor <;> rfl

/-- The edges leave the wires and most of the state to the other half of the
tick. -/
theorem attended_attend : Attended (controller.sample pins) (controller.attend pins) :=
  (attended_engineEdge ..).trans <| (attended_arrayEdge ..).trans <|
    (attended_resetEdge ..).trans <| (attended_runEdge ..).trans (attended_onPause ..)

/-- What the datapath sees does not depend on whether the controller has ticked
before it. -/
@[simp] theorem datapathInputs_tick :
    (controller.tick pins).outputs.datapathInputs = controller.outputs.datapathInputs := by
  have sampled := controller.datapathInputs_sample pins
  simp only [tick]
  split
  · exact sampled
  · split
    · rw [(attended_engineEdge ..).outputs, sampled]
    · rw [datapathInputs_act, ← sampled, ← (controller.attended_attend pins).outputs]
      rfl

/-! ## Requests -/

/-- No request of the controller is under way. -/
structure Free (controller : Controller) : Prop where
  working : controller.state.activity ≠ .failed
  unasked : controller.state.activity ≠ .waiting .engine
  stage : controller.state.stage ≠ .awaitEngine

/-- The controller issues a request when it acts. -/
def Requests (controller : Controller) : Prop :=
  controller.state.activity = .running ∧ ∃ operation, controller.state.stage = .transfer operation

/-- What is left alone by a controller that does not issue a request. -/
structure Unasked (before after : Controller) : Prop where
  free : after.Free
  engineStart : after.outputs.engineStart = before.outputs.engineStart
  engineStartHigh : after.state.engineStartHigh = before.state.engineStartHigh
  engineRequests : after.state.stats.engineRequests = before.state.stats.engineRequests
  sampled : after.state.sampled = before.state.sampled

variable {controller pins}

theorem Free.arrayEdge (free : controller.Free) : (controller.arrayEdge before pins).Free := by
  obtain ⟨working, unasked, stage⟩ := free
  rw [Controller.arrayEdge]
  split
  · rw [onArrayReady]
    split
    · exact ⟨nofun, nofun, nofun⟩
    · exact ⟨working, unasked, stage⟩
  · exact ⟨working, unasked, stage⟩

theorem Free.resetEdge (free : controller.Free) : (controller.resetEdge before pins).Free := by
  rw [Controller.resetEdge]
  split
  · exact ⟨nofun, nofun, nofun⟩
  · exact free

theorem Free.runEdge (free : controller.Free) : (controller.runEdge before pins).Free := by
  rw [Controller.runEdge]
  split
  · exact ⟨nofun, nofun, nofun⟩
  · exact free

theorem Free.onPause (free : controller.Free) : (controller.onPause before pins).Free := by
  rw [Controller.onPause]
  split
  · split
    · exact ⟨nofun, nofun, free.stage⟩
    · exact free
  · split
    · exact ⟨nofun, nofun, free.stage⟩
    · exact free
  · exact free

/-- A controller without a request under way that sees no edge of the engine's
ready has none under way when it acts. -/
theorem Free.attend (free : controller.Free)
    (same : pins.engineReady = controller.state.sampled.engineReady) :
    (controller.attend pins).Free := by
  have sampled : (controller.sample pins).Free := ⟨free.working, free.unasked, free.stage⟩
  rw [Controller.attend, engineEdge, if_pos same]
  exact (((sampled.arrayEdge _).resetEdge _).runEdge _).onPause _

/-- Only a wait for the array ignores edges of the engine's ready. -/
theorem ignoredEdges_attend
    (heeded : pins.engineReady = controller.state.sampled.engineReady ∨
      controller.state.activity = .waiting .engine) :
    (controller.attend pins).state.stats.ignoredEdges =
      controller.state.stats.ignoredEdges := by
  have engine : ((controller.sample pins).engineEdge controller.state.sampled
      pins).state.stats.ignoredEdges = controller.state.stats.ignoredEdges := by
    rcases heeded with same | waiting
    · rw [engineEdge, if_pos same]
      rfl
    · have sampled : (controller.sample pins).state.activity = .waiting .engine := waiting
      simp only [engineEdge, onEngineEdge, sampled]
      split
      · rfl
      · split <;> rfl
  have array (other : Controller) (edge : ControlPins) :
      (other.arrayEdge edge pins).state.stats.ignoredEdges = other.state.stats.ignoredEdges := by
    rw [arrayEdge]
    split
    · rw [onArrayReady]
      split <;> rfl
    · rfl
  have reset (other : Controller) (edge : ControlPins) :
      (other.resetEdge edge pins).state.stats.ignoredEdges = other.state.stats.ignoredEdges := by
    rw [resetEdge]
    split <;> rfl
  have run (other : Controller) (edge : ControlPins) :
      (other.runEdge edge pins).state.stats.ignoredEdges = other.state.stats.ignoredEdges := by
    rw [runEdge]
    split <;> rfl
  have pause (other : Controller) (edge : ControlPins) :
      (other.onPause edge pins).state.stats.ignoredEdges = other.state.stats.ignoredEdges := by
    rw [onPause]
    split
    · split <;> rfl
    · split <;> rfl
    · rfl
  rw [attend, pause, run, reset, array, engine]

theorem ignoredEdges_act :
    (controller.act run).state.stats.ignoredEdges = controller.state.stats.ignoredEdges := by
  rw [Controller.act]
  split <;> try rfl
  rw [step]
  split <;> try rfl
  next => rw [fetch]; split <;> rfl
  next => rw [dispatch]; split <;> rfl
  next => rw [waitReady]; split <;> rfl
  next => rw [finish]; split <;> rfl

theorem Free.move (free : controller.Free) {after : Controller}
    (activity : after.state.activity = controller.state.activity)
    (stage : after.state.stage ≠ .awaitEngine) : after.Free where
  working := activity ▸ free.working
  unasked := activity ▸ free.unasked
  stage := stage

theorem Free.act (free : controller.Free) (silent : ¬controller.Requests) :
    Unasked controller (controller.act run) := by
  have still : Unasked controller controller := ⟨free, rfl, rfl, rfl, rfl⟩
  rw [Controller.act]
  cases activity : controller.state.activity with
  | running =>
    dsimp only
    rw [step]
    cases stage : controller.state.stage with
    | idle => exact still
    | fetch =>
      dsimp only
      rw [fetch]
      split <;> exact ⟨free.move rfl nofun, rfl, rfl, rfl, rfl⟩
    | decode =>
      dsimp only
      rw [dispatch]
      split
      next opcode _ =>
        exact ⟨free.move rfl (by cases opcode <;> nofun), rfl, rfl, rfl, rfl⟩
      next => exact ⟨free.move rfl nofun, rfl, rfl, rfl, rfl⟩
    | transfer operation => exact absurd ⟨activity, operation, stage⟩ silent
    | awaitEngine => exact absurd stage free.stage
    | waitReady =>
      dsimp only
      rw [waitReady]
      split
      · exact ⟨free.move rfl nofun, rfl, rfl, rfl, rfl⟩
      · exact ⟨⟨nofun, nofun, free.stage⟩, rfl, rfl, rfl, rfl⟩
    | finish =>
      dsimp only
      rw [finish]
      split
      · exact ⟨free.move rfl free.stage, rfl, rfl, rfl, rfl⟩
      · exact ⟨free.move rfl nofun, rfl, rfl, rfl, rfl⟩
    | _ => exact ⟨free.move rfl nofun, rfl, rfl, rfl, rfl⟩
  | waiting awaited => exact ⟨free.move rfl free.stage, rfl, rfl, rfl, rfl⟩
  | paused => exact ⟨free.move rfl free.stage, rfl, rfl, rfl, rfl⟩
  | stopped => exact still
  | failed => exact absurd activity free.working

/-- A rising ready is only taken note of by a controller that waits for it. -/
theorem engineEdge_of_waiting (waiting : controller.state.activity = .waiting .engine)
    (unended : ¬(before.engineReady = true ∧ pins.engineReady = false)) :
    controller.engineEdge before pins = controller := by
  rw [engineEdge]
  split
  · rfl
  next edge =>
    have rising : pins.engineReady = true := by
      cases now : pins.engineReady with
      | true => rfl
      | false =>
        cases past : before.engineReady with
        | true => exact absurd ⟨past, now⟩ unended
        | false => exact absurd (now.trans past.symm) edge
    rw [onEngineEdge, waiting, rising]
    rfl

/-- A controller that does not wait for the array keeps in mind that it has
become ready. -/
theorem arrayEdge_of_unawaited (unawaited : controller.state.activity ≠ .waiting .array) :
    controller.arrayEdge before pins =
      { controller with
        state.arrayDone :=
          controller.state.arrayDone || (pins.arrayReady && !before.arrayReady) } := by
  rw [arrayEdge]
  split
  next rising =>
    rw [onArrayReady, if_neg unawaited, rising, Bool.or_true]
  next steady =>
    rw [Bool.eq_false_iff.2 steady, Bool.or_false]

/-- A falling ready ends the wait for the engine. -/
theorem attend_of_ended (waiting : controller.state.activity = .waiting .engine)
    (past : controller.state.sampled.engineReady = true) (now : pins.engineReady = false) :
    (controller.attend pins).Free := by
  have sampled : (controller.sample pins).state.activity = .waiting .engine := waiting
  have ended : ((controller.sample pins).engineEdge controller.state.sampled pins).Free := by
    rw [engineEdge, if_neg (by simp [past, now]), onEngineEdge, sampled, now]
    exact ⟨nofun, nofun, nofun⟩
  rw [attend]
  exact (((ended.arrayEdge _).resetEdge _).runEdge _).onPause _

end Controller

end AccessController
