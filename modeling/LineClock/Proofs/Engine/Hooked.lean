import LineClock.Proofs.Engine.Quiet
import LineClock.Proofs.Engine.SlotWraps

/-!
# A machine with hooks of others at the trace slot

Hooks that may put another hook into the trace slot or empty it, switch off line events of a frame,
and fail, by what was announced to them before. What they are told while profilers have taken the
slot over is what they are told without profilers.

Main statements: `Hooked.announceTrace_alone` and `Hooked.announceTrace`.
-/

namespace LineClock

open Machine Engine

/-- An invocation of a hook. The frame is that which the hook sees, but for whether its line events
are delivered. -/
structure Visit where
  hook : ScriptId
  frame : Frame
  event : TraceEvent
  deriving DecidableEq

/-- What a hook does when it is invoked. -/
structure Reaction where
  /-- What it puts into the trace slot, if anything: a hook, or nothing. -/
  slot : Option (Option ScriptId) := none
  /-- Whether it switches off line events of the frame. -/
  mutes : Bool := false
  error : Option HookError := none

/-- What hooks do, from the invocations before, the last of them first. -/
abbrev Hooks := List Visit → Visit → Reaction

/-- What an event leaves: the invocations, the hook to whom the next event goes, and whether line
events of the frame were switched off, or an error. -/
structure Heard where
  visits : List Visit
  inner : Option ScriptId
  answer : Except HookError Bool

def Heard.failed (h : Heard) : Bool :=
  match h.answer with
  | .ok _ => false
  | .error _ => true

/-- Nobody hears of an event. -/
def Heard.unheard (visits : List Visit) (inner : Option ScriptId) : Heard := ⟨visits, inner, .ok false⟩

/-- What an event leaves at the hook that is in the slot. -/
def Hooks.hear (hooks : Hooks) (inner : Option ScriptId) (frame : Frame) (event : TraceEvent)
    (visits : List Visit) : Heard :=
  match inner with
  | none => .unheard visits none
  | some id =>
    let visit : Visit := ⟨id, { frame with linesOn := true }, event⟩
    let r := hooks visits visit
    match r.error with
    | some err => ⟨visit :: visits, none, .error err⟩
    | none => ⟨visit :: visits, r.slot.getD (some id), .ok r.mutes⟩

section

variable {hooks : Hooks} {id : ScriptId} {frame : Frame} {event : TraceEvent} {visits : List Visit}

theorem Hooks.hear_error {err : HookError}
    (failed : (hooks visits ⟨id, { frame with linesOn := true }, event⟩).error = some err) :
    hooks.hear (some id) frame event visits =
      ⟨⟨id, { frame with linesOn := true }, event⟩ :: visits, none, .error err⟩ := by
  unfold hear
  simp only [failed]

theorem Hooks.hear_ok
    (fine : (hooks visits ⟨id, { frame with linesOn := true }, event⟩).error = none) :
    hooks.hear (some id) frame event visits =
      ⟨⟨id, { frame with linesOn := true }, event⟩ :: visits,
        (hooks visits ⟨id, { frame with linesOn := true }, event⟩).slot.getD (some id),
        .ok (hooks visits ⟨id, { frame with linesOn := true }, event⟩).mutes⟩ := by
  unfold hear
  simp only [fine]

end

/-- An engine with hooks beside it. -/
structure Hooked where
  engine : Engine
  /-- The invocations of the hooks, the last first. -/
  visits : List Visit := []
  /-- Whether a hook failed. -/
  failed : Bool := false

/-- The trace slots after a reaction. -/
def Reaction.slots (r : Reaction) (e : Engine) : Assoc ThreadKey TraceHook :=
  match r.slot with
  | none => e.slots
  | some hook => hookAt e.slots e.thread (hook.map .script)

theorem Reaction.get?_slots (r : Reaction) (e : Engine) : (r.slots e).get? e.thread =
    match r.slot with
    | none => e.traceHook?
    | some hook => hook.map .script := by
  unfold slots
  cases r.slot with
  | none => rfl
  | some hook => exact withHook_traceHook? e (hook.map .script)

namespace Hooked

/-- The state after a hook was invoked. -/
def after (x : Hooked) (visit : Visit) (r : Reaction) : Hooked where
  engine := { x.engine with slots := r.slots x.engine }
  visits := visit :: x.visits
  failed := x.failed || r.error.isSome

/-- The scripts of the hooks. -/
def scripts (hooks : Hooks) : Scripts Hooked where
  engine x := x.engine
  withEngine x e := { x with engine := e }
  trace id frame event := ExceptT.mk do
    let x ← get
    let visit : Visit := ⟨id, { frame with linesOn := true }, event⟩
    let r := hooks x.visits visit
    set (x.after visit r)
    return match r.error with
      | some err => .error err
      | none => .ok (frame.linesOn && !r.mutes)
  monitor _ _ := pure .goOn

/-- The machine's surroundings. Without profilers wrappers switch nothing. -/
def host (hooks : Hooks) (profiled : Bool) : Host Hooked :=
  { (scripts hooks).host with
    enter := fun routine => if profiled then (scripts hooks).host.enter routine else pure ()
    leave := fun routine => if profiled then (scripts hooks).host.leave routine else pure () }

-- These equations are for rewriting: comparing machines by unfolding would go into the engine.
theorem host_newFrame (hooks : Hooks) (profiled : Bool) (x : Hooked) :
    (host hooks profiled).newFrame x = (x.engine.frames,
      { x with engine := { x.engine with
        clock := x.engine.clock, frames := x.engine.frames + 1 } }) := rfl

theorem host_work (hooks : Hooks) (profiled : Bool) (n : UInt8) (x : Hooked) :
    ((host hooks profiled).work n x).2 =
      { x with engine := { x.engine with
        clock := x.engine.clock.satAdd (n.toUInt64 * Scripts.ticksPerUnit)
        frames := x.engine.frames } } := rfl

variable {hooks : Hooks} {registry : RegistryId} {inner : Option ScriptId} {x : Hooked}
  {frame : Frame} {event : TraceEvent}

theorem lawful (x : Hooked) : (scripts hooks).withEngine x ((scripts hooks).engine x) = x := rfl

/-! ## The hooks alone -/

/-- What the machine does where nobody took the slot over. -/
theorem announceTrace_alone (hooks : Hooks) (slot : x.engine.traceHook? = inner.map .script)
    (frame : Frame) (event : TraceEvent) :
    let told := hooks.hear inner frame event x.visits
    ∃ slots, answer ((scripts hooks).announceTrace frame event) x =
        (told.answer.map fun mutes => frame.linesOn && !mutes,
          { engine := { x.engine with slots }, visits := told.visits
            failed := x.failed || told.failed }) ∧
      slots.get? x.engine.thread = told.inner.map .script := by
  have slot : ((scripts hooks).engine x).traceHook? = inner.map .script := slot
  rw [Scripts.answer_announceTrace, slot]
  cases inner with
  | none =>
    refine ⟨x.engine.slots, ?_, slot⟩
    obtain ⟨engine, visits, failed⟩ := x
    simp [Hooks.hear, Heard.unheard, Heard.failed, Except.map]
  | some id =>
    let visit : Visit := ⟨id, { frame with linesOn := true }, event⟩
    let r := hooks x.visits visit
    have delivered : answer ((scripts hooks).deliverTrace ((scripts hooks).hopsAt x) (.script id) frame
        event) x = (match r.error with
          | some err => .error err
          | none => .ok (frame.linesOn && !r.mutes), x.after visit r) := rfl
    have slots := r.get?_slots x.engine
    simp only [Option.map_some]
    rw [delivered]
    unfold Hooks.hear
    simp only
    cases failed : r.error with
    | some err =>
      refine ⟨hookAt (r.slots x.engine) x.engine.thread none, ?_, ?_⟩
      · have some : r.error.isSome = true := by rw [failed]; rfl
        unfold after
        rw [some]
        rfl
      · exact withHook_traceHook? (x.after visit r).engine none
    | none =>
      refine ⟨r.slots x.engine, ?_, ?_⟩
      · have none : r.error.isSome = false := by rw [failed]; rfl
        unfold after
        rw [none]
        rfl
      · rw [slots]
        cases r.slot with
        | none => exact slot
        | some hook => rfl

/-! ## The hooks after profilers took the slot over -/

/-- What a trace event leaves where the profilers' hook is in the slot: the other hooks were told of
it or not, as `told` says, and unless one of them failed the profilers recorded it. -/
structure Takes (registry : RegistryId) (told : Heard) (frame : Frame) (event : TraceEvent)
    (x x' : Hooked) : Prop where
  visits : x'.visits = told.visits
  failed : x'.failed = (x.failed || told.failed)
  stands : SlotWraps registry (told.inner.map .script) x'.failed x'.engine
  threads : ∀ th, (x'.engine.dispatchAt th registry).activated =
    (x.engine.dispatchAt th registry).activated
  bare : (x'.engine.scene registry).bare = (x.engine.scene registry).bare
  active : (x'.engine.scene registry).active = (x.engine.scene registry).active
  scene : x'.failed = false → x'.engine.scene registry = (x.engine.scene registry).hear frame event
  others : ∀ id, id ≠ frame.id → (id ∈ (x'.engine.dispatchOf registry).muted ↔
    id ∈ (x.engine.dispatchOf registry).muted)
  muted : ¬ closes frame event → (frame.id ∈ (x'.engine.dispatchOf registry).muted ↔
    frame.id ∈ (x.engine.dispatchOf registry).muted ∨ told.answer = .ok true)

/-- Hearing of an event does not change who is on. -/
theorem active_hear (s : Scene) (frame : Frame) (event : TraceEvent) :
    (s.hear frame event).active = s.active := by
  cases event <;> rfl

/-- An event that the profilers keep to themselves. -/
theorem Takes.kept (h : SlotWraps registry (inner.map .script) x.failed x.engine) (frame : Frame)
    (event : TraceEvent) : Takes registry (.unheard x.visits inner) frame event x
      { x with engine := Engine.heard registry x.engine frame event } := by
  have scene := heard_scene registry x.engine frame event
  have dispatch := heard_dispatchOf registry x.engine frame event
  refine ⟨rfl, (Bool.or_false _).symm, h.heard frame event, fun th => ?_, ?_, ?_, fun _ => scene,
    fun id other => ?_, fun goes => ?_⟩
  · rw [heard_dispatchAt, cleared_eq]
    split
    · rename_i here
      rw [here]
      rfl
    · rfl
  · rw [scene, Scene.bare_hear]
  · rw [scene, active_hear]
  · rw [dispatch, mem_cleared]
    simp [other]
  · rw [dispatch, mem_cleared]
    simp [goes, Heard.unheard]

/-- The engine while the hook is invoked to which an event went on. -/
def passing (registry : RegistryId) (e : Engine) (frame : Frame) (event : TraceEvent) : Engine :=
  let e := Engine.heard registry e frame event
  e.withDispatch registry { e.dispatchOf registry with busy := true }

/-- What the hook that failed leaves. -/
theorem Takes.broke (h : SlotWraps registry (inner.map .script) x.failed x.engine)
    (on : (x.engine.dispatchOf registry).activated = true) (frame : Frame) (event : TraceEvent)
    (visits : List Visit) (err : HookError) (slots : Assoc ThreadKey TraceHook) :
    Takes registry ⟨visits, none, .error err⟩ frame event x
      { engine := ((reslotted registry (Engine.heard registry x.engine frame event) slots
            { (Engine.heard registry x.engine frame event).dispatchOf registry with
              busy := false, wrapped := none, saved := none }).withProfilers
            ((x.engine.scene registry).hear frame event).forgetPending.profilers).withHook none
        visits, failed := true } := by
  let s := (x.engine.scene registry).hear frame event
  let e := (Engine.heard registry x.engine frame event).withProfilers s.forgetPending.profilers
  let d : Dispatch := { (Engine.heard registry x.engine frame event).dispatchOf registry with
    busy := false, wrapped := none, saved := none }
  let slots' := hookAt slots e.thread none
  have dispatch := heard_dispatchOf registry x.engine frame event
  have order : ((reslotted registry (Engine.heard registry x.engine frame event) slots d).withProfilers
      s.forgetPending.profilers).withHook none = reslotted registry e slots' d := rfl
  have none : slots'.get? e.thread = none := withHook_traceHook? { e with slots } none
  have h₁ : SlotWraps registry (inner.map .script) x.failed e :=
    (h.heard frame event).withProfilers s.forgetPending.profilers
  have forgot : e.scene registry = s.forgetPending := by
    have heard := heard_scene registry x.engine frame event
    show { (Engine.heard registry x.engine frame event).scene registry with
      profilers := s.forgetPending.profilers } = _
    rw [heard]
    rfl
  have same : (reslotted registry e slots' d).scene registry = s.forgetPending :=
    (scene_reslotted_same registry e slots' (d := d) rfl).trans forgot
  obtain ⟨serial, ours⟩ := (h.listening on).ours
  have kept : d = { x.engine.dispatchOf registry with
      busy := false, wrapped := .none, saved := .none, muted := d.muted } := by
    unfold d
    rw [dispatch, cleared_eq]
  have mem : ∀ id, id ∈ d.muted ↔ id ∈ (cleared frame event (x.engine.dispatchOf registry)).muted := by
    intro id
    unfold d
    rw [dispatch]
  show Takes registry _ frame event x { engine := _, visits, failed := true }
  rw [order]
  refine ⟨rfl, (Bool.or_true _).symm, ?_, fun th => ?_, ?_, ?_, fun fine => (by cases fine),
    fun id other => ?_, fun goes => ?_⟩
  · refine h₁.change slots' rfl (fun _ => ⟨rfl, rfl, ⟨serial, ?_⟩, .inr ⟨rfl, rfl, none⟩⟩) fun _ => none
    rw [kept]
    exact ours
  · rw [reslotted_dispatchAt, kept]
    have thread : e.thread = x.engine.thread := heard_thread registry x.engine frame event
    rw [thread]
    split
    · rename_i here
      rw [here]
      rfl
    · have elsewhere := heard_dispatchAt registry x.engine frame event th
      rw [if_neg (by assumption)] at elsewhere
      exact congrArg Dispatch.activated elsewhere
  · show ((reslotted registry e slots' d).scene registry).bare = _
    rw [same, Scene.bare_forgetPending]
    exact Scene.bare_hear _ frame event
  · show ((reslotted registry e slots' d).scene registry).active = _
    rw [same]
    exact active_hear _ frame event
  · rw [reslotted_dispatchOf, mem, mem_cleared]
    simp [other]
  · rw [reslotted_dispatchOf, mem, mem_cleared]
    simp [goes]

/-- What a hook that did not fail leaves. -/
theorem Takes.passed (h : SlotWraps registry (inner.map .script) x.failed x.engine)
    (on : (x.engine.dispatchOf registry).activated = true) (frame : Frame) (event : TraceEvent)
    (visits : List Visit) (next : Option ScriptId) (mutes : Bool) {slots : Assoc ThreadKey TraceHook}
    (there : slots.get? x.engine.thread = (x.engine.dispatchOf registry).ours) :
    Takes registry ⟨visits, next, .ok mutes⟩ frame event x
      { x with
        engine := reslotted registry (Engine.heard registry x.engine frame event) slots
          (answered ((Engine.heard registry x.engine frame event).dispatchOf registry)
            (next.map .script) (!mutes) frame.id)
        visits } := by
  have scene := heard_scene registry x.engine frame event
  have dispatch := heard_dispatchOf registry x.engine frame event
  have same : (reslotted registry (Engine.heard registry x.engine frame event) slots
      (answered ((Engine.heard registry x.engine frame event).dispatchOf registry)
        (next.map .script) (!mutes) frame.id)).scene registry =
      (x.engine.scene registry).hear frame event := by
    rw [← scene]
    refine scene_reslotted_same registry _ slots ?_
    rw [answered_eq]
  have h₁ := h.heard frame event
  obtain ⟨serial, ours⟩ := (h.listening on).ours
  refine ⟨rfl, (Bool.or_false _).symm, ?_, fun th => ?_, ?_, ?_, fun _ => same, fun id other => ?_,
    fun goes => ?_⟩
  · refine h₁.change slots ?_ (fun _ => ⟨?_, ?_, ⟨serial, ?_⟩, .inl ?_⟩) fun off => ?_
    · rw [answered_eq]
    · rw [answered_eq]
    · rw [answered_eq]
    · rw [answered_eq, dispatch, cleared_eq]
      exact ours
    · rw [answered_eq, dispatch, cleared_eq, heard_thread]
      exact there
    · rw [answered_eq, dispatch, cleared_eq] at off
      exact absurd (on.symm.trans off) (by decide)
  · rw [reslotted_dispatchAt, answered_eq, dispatch, cleared_eq, heard_thread]
    split
    · rename_i here
      rw [here]
      rfl
    · rw [heard_dispatchAt, if_neg (by assumption)]
  · rw [same, Scene.bare_hear]
  · rw [same, active_hear]
  · rw [reslotted_dispatchOf, mem_answered, dispatch, mem_cleared]
    simp [other]
  · rw [reslotted_dispatchOf, mem_answered, dispatch, mem_cleared]
    cases mutes <;> simp [goes]

/-- Somebody who is on wraps. -/
def Wrapping (s : Scene) : Prop := ∃ a ∈ s.here, (s.profiler a.1).wrap = true

theorem wantsWrap (wraps : Wrapping (x.engine.scene registry)) (frame : Frame) (event : TraceEvent) :
    (Engine.heard registry x.engine frame event).wantsWrap registry = true := by
  obtain ⟨a, mem, wrap⟩ := wraps
  have scene := heard_scene registry x.engine frame event
  have same : ((Engine.heard registry x.engine frame event).profiler a.1).bare =
      ((x.engine.scene registry).profiler a.1).bare := by
    rw [← scene_profiler registry, scene, ← Scene.profiler_bare, Scene.bare_hear, Scene.profiler_bare]
  have active : ((Engine.heard registry x.engine frame event).dispatchOf registry).active =
      (x.engine.scene registry).here := by
    rw [heard_dispatchOf, cleared_active]
    rfl
  unfold Engine.wantsWrap
  rw [active, List.any_eq_true]
  exact ⟨a, mem, (congrArg Profiler.wrap same).trans wrap⟩

/-- The engine when the hook has reacted to which an event went on. -/
def reacted (registry : RegistryId) (e : Engine) (frame : Frame) (event : TraceEvent)
    (slots : Assoc ThreadKey TraceHook) : Engine :=
  reslotted registry (Engine.heard registry e frame event) slots
    { (Engine.heard registry e frame event).dispatchOf registry with busy := true }

section

variable {e : Engine} {id : ScriptId} {serial : Nat} {failed : Bool} {slots : Assoc ThreadKey TraceHook}

theorem reacted_dispatchOf : (reacted registry e frame event slots).dispatchOf registry =
    { (Engine.heard registry e frame event).dispatchOf registry with busy := true } :=
  reslotted_dispatchOf registry (Engine.heard registry e frame event) slots _

/-- Hearing of an event and waiting for a hook change nothing of how the profilers took the slot. -/
theorem reacted_eq : (reacted registry e frame event slots).dispatchOf registry =
    { e.dispatchOf registry with
      busy := true, muted := ((reacted registry e frame event slots).dispatchOf registry).muted } := by
  rw [reacted_dispatchOf, heard_dispatchOf, cleared_eq]

theorem scene_reacted : (reacted registry e frame event slots).scene registry =
    (e.scene registry).hear frame event :=
  (scene_reslotted_same registry (Engine.heard registry e frame event) slots
    (d := { (Engine.heard registry e frame event).dispatchOf registry with busy := true }) rfl).trans
      (heard_scene registry e frame event)

variable (h : SlotWraps registry (some (.script id)) failed e)
  (on : (e.dispatchOf registry).activated = true)
  (mine : (e.dispatchOf registry).ours = some (.profiler registry serial))

include on mine

/-- The failure of the hook is passed on. -/
theorem absorbTrace_failed (err : HookError) :
    answer (absorbTrace registry frame (.error err)) (reacted registry e frame event slots) =
      (.error err, (reslotted registry (Engine.heard registry e frame event) slots
        { (Engine.heard registry e frame event).dispatchOf registry with
          busy := false, wrapped := none, saved := none }).withProfilers
            ((e.scene registry).hear frame event).forgetPending.profilers) := by
  have listens : ((reacted registry e frame event slots).dispatchOf registry).activated = true := by
    rw [reacted_eq]
    exact on
  have ours : ((reacted registry e frame event slots).dispatchOf registry).ours =
      some (.profiler registry serial) := by
    rw [reacted_eq]
    exact mine
  have absorbed := answer_absorbTrace_error frame listens ours err
  rw [scene_reacted, reacted_dispatchOf] at absorbed
  refine absorbed.trans (congrArg (Prod.mk _) ?_)
  unfold reacted
  rw [reslotted_reslotted]
  rfl

include h

variable (frame event) in
/-- The answer of the hook is taken, and the hook that is in the slot then is gone on to. -/
theorem absorbTrace_answered (slot : e.traceHook? = some (.profiler registry serial)) (r : Reaction)
    (linesOn : Bool) :
    ∃ slots, answer (absorbTrace registry frame (.ok linesOn)) (reacted registry e frame event
          (r.slots (passing registry e frame event))) =
        (.ok true, reslotted registry (Engine.heard registry e frame event) slots
          (answered ((Engine.heard registry e frame event).dispatchOf registry)
            ((r.slot.getD (some id)).map .script) linesOn frame.id)) ∧
      slots.get? e.thread = (e.dispatchOf registry).ours := by
  let e₃ := reacted registry e frame event (r.slots (passing registry e frame event))
  have thread : e₃.thread = e.thread := heard_thread registry e frame event
  have listens : (e₃.dispatchOf registry).activated = true := by
    rw [reacted_eq]
    exact on
  have ours : (e₃.dispatchOf registry).ours = some (.profiler registry serial) := by
    rw [reacted_eq]
    exact mine
  have wrapped : (e₃.dispatchOf registry).wrapped = some (.script id) := by
    rw [reacted_eq]
    exact (h.listening on).wrapped
  have same : (e₃.dispatchOf registry).saved = (e₃.dispatchOf registry).wrapped := by
    rw [wrapped, reacted_eq]
    exact (h.listening on).saved
  have before : (passing registry e frame event).traceHook? = some (.profiler registry serial) := by
    have same : (passing registry e frame event).traceHook? =
      (Engine.heard registry e frame event).slots.get? (Engine.heard registry e frame event).thread := rfl
    rw [same, heard_slots, heard_thread]
    exact slot
  have now : e₃.traceHook? = _ := r.get?_slots (passing registry e frame event)
  have next : successor (.profiler registry serial) e₃ (e₃.dispatchOf registry) =
      (r.slot.getD (some id)).map .script := by
    unfold successor
    rw [now, wrapped]
    cases r.slot with
    | none => exact if_pos before
    | some hook => cases hook <;> rfl
  obtain ⟨slots, absorbed, there⟩ := answer_absorbTrace_ok listens ours frame same linesOn
  refine ⟨slots, ?_, ?_⟩
  · rw [next, reacted_dispatchOf] at absorbed
    refine absorbed.trans (congrArg (Prod.mk _) ?_)
    exact reslotted_reslotted registry (Engine.heard registry e frame event) _ slots _ _
  · rw [mine, ← thread]
    exact (there e₃.thread).trans (if_pos rfl)

end

/-- The hook is invoked to which an event went on. -/
theorem deliverTrace_invoked (hooks : Hooks) (id : ScriptId) (hops : Nat) :
    let visit : Visit := ⟨id, { frame with linesOn := true }, event⟩
    let r := hooks x.visits visit
    answer ((scripts hooks).deliverTrace hops (.script id) frame event)
        ((scripts hooks).withEngine x (passing registry x.engine frame event)) =
      (match r.error with
        | some err => .error err
        | none => .ok (frame.linesOn && !r.mutes),
        { engine := reacted registry x.engine frame event
            (r.slots (passing registry x.engine frame event))
          visits := visit :: x.visits, failed := x.failed || r.error.isSome }) := by
  cases hops <;> rfl

/-- A trace event goes on to the hook that was in the slot before. -/
theorem announceTrace_passed (hooks : Hooks) {id : ScriptId}
    (h : SlotWraps registry (some (.script id)) x.failed x.engine)
    (on : (x.engine.dispatchOf registry).activated = true) (lit : frame.linesOn = true) {serial : Nat}
    (mine : (x.engine.dispatchOf registry).ours = some (.profiler registry serial))
    (slot : x.engine.traceHook? = some (.profiler registry serial))
    (took : (takeTrace registry frame event).run x.engine =
      (some (.script id), passing registry x.engine frame event)) :
    let told := hooks.hear (some id) frame event x.visits
    ∃ x', answer ((scripts hooks).announceTrace frame event) x = (told.answer.map fun _ => true, x') ∧
      Takes registry told frame event x x' := by
  let visit : Visit := ⟨id, { frame with linesOn := true }, event⟩
  let r := hooks x.visits visit
  let e₃ := reacted registry x.engine frame event (r.slots (passing registry x.engine frame event))
  have wraps : SlotWraps registry ((some id).map .script) x.failed x.engine := h
  have passed := (scripts hooks).announceTrace_passed slot took
  simp only at passed
  rw [passed, deliverTrace_invoked, Scripts.answer_tryRun]
  cases failed : r.error with
  | some err =>
    have absorbed : answer (absorbTrace registry frame (.error err)) ((scripts hooks).engine
        { engine := e₃, visits := visit :: x.visits, failed := true }) = _ :=
      absorbTrace_failed on mine err
    have broken : (x.failed || (some err).isSome) = true := Bool.or_true _
    rw [Hooks.hear_error failed]
    simp only
    rw [broken, absorbed]
    exact ⟨_, rfl, Takes.broke wraps on frame event (visit :: x.visits) err _⟩
  | none =>
    obtain ⟨slots, absorbed, put⟩ := absorbTrace_answered frame event h on mine slot r (!r.mutes)
    have absorbed : answer (absorbTrace registry frame (.ok !r.mutes)) ((scripts hooks).engine
        { engine := e₃, visits := visit :: x.visits, failed := x.failed }) = _ := absorbed
    have fine : (x.failed || (none : Option HookError).isSome) = x.failed := Bool.or_false _
    rw [Hooks.hear_ok failed]
    simp only
    rw [fine, lit, Bool.true_and, absorbed]
    exact ⟨_, rfl, Takes.passed wraps on frame event (visit :: x.visits) (r.slot.getD (some id)) r.mutes put⟩

/-- **A trace event where profilers took the slot over.** The hook that was there before is told of
it, unless it is a line of a frame that it does not want to hear of; and the answer is that of the
profilers' own hook. -/
theorem announceTrace (hooks : Hooks) (h : SlotWraps registry (inner.map .script) x.failed x.engine)
    (on : (x.engine.dispatchOf registry).activated = true)
    (wraps : Wrapping (x.engine.scene registry)) (lit : frame.linesOn = true) (event : TraceEvent) :
    let told := if event = .line ∧ frame.id ∈ (x.engine.dispatchOf registry).muted then
        .unheard x.visits inner
      else hooks.hear inner frame event x.visits
    ∃ x', answer ((scripts hooks).announceTrace frame event) x = (told.answer.map fun _ => true, x') ∧
      Takes registry told frame event x x' := by
  obtain ⟨-, wrapped, ⟨serial, mine⟩, slot⟩ := h.listening on
  rcases slot with slot | ⟨failed, nobody, slot⟩
  · have asked := run_takeTrace registry x.engine frame event
    rw [if_neg (by rw [h.idle]; exact Bool.false_ne_true)] at asked
    simp only [wantsWrap wraps, not_true_eq_false, false_or, List.contains_iff_mem, wrapped] at asked
    have slot : x.engine.traceHook? = some (.profiler registry serial) := slot.trans mine
    have kept : (takeTrace registry frame event).run x.engine =
        (none, Engine.heard registry x.engine frame event) →
        answer ((scripts hooks).announceTrace frame event) x =
          (.ok true, { x with engine := Engine.heard registry x.engine frame event }) := by
      intro asked
      rw [(scripts hooks).announceTrace_kept slot asked, lit]
      rfl
    by_cases quiet : event = .line ∧ frame.id ∈ (x.engine.dispatchOf registry).muted
    · rw [if_pos quiet] at asked
      simp only [if_pos quiet]
      exact ⟨_, kept asked, Takes.kept h frame event⟩
    · rw [if_neg quiet] at asked
      simp only [if_neg quiet]
      cases inner with
      | none => exact ⟨_, kept asked, Takes.kept h frame event⟩
      | some id => exact announceTrace_passed hooks h on lit mine slot asked
  · have slot : ((scripts hooks).engine x).traceHook? = none := slot
    have nobody : inner = none := Option.map_eq_none_iff.mp nobody
    subst nobody
    have unheard : (if event = .line ∧ frame.id ∈ (x.engine.dispatchOf registry).muted then
        .unheard x.visits none else hooks.hear none frame event x.visits) = .unheard x.visits none :=
      ite_self _
    rw [unheard]
    refine ⟨x, ?_, rfl, (Bool.or_false _).symm, h, fun _ => rfl, rfl, rfl,
      fun fine => absurd (failed.symm.trans fine) (by decide), fun _ _ => Iff.rfl, fun _ => ?_⟩
    · rw [Scripts.answer_announceTrace, slot, lit]
      rfl
    · simp [Heard.unheard]

/-- A monitoring event is nobody's business. -/
theorem announceEvent (hooks : Hooks)
    (silent : ∀ tool kind, x.engine.facility.callback? tool kind = none) (event : MonitorEvent) :
    answer ((scripts hooks).announceEvent event) x = (.ok (), x) := by
  have none : ((scripts hooks).engine x).facility.targets event = [] := targets_silent silent event
  rw [Scripts.answer_announceEvent, none]
  split <;> rfl

end Hooked

end LineClock
