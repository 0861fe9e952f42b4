import LineClock.Proofs.Engine.Counts
import LineClock.Proofs.Engine.Hooked

/-!
# Profilers that relay events to a hook

Profilers stand between the machine and a hook of somebody else. Programs run while one of them is on
who wraps: who is on changes only with the scopes of wrappers, and each event is announced to the
hook unless it asked not to hear of it.

Main statements: `Relaying.announceTrace`, `Relaying.enter` and `Relaying.leave`.
-/

namespace LineClock

open Machine Engine

/-- The profilers of a registry stand before a hook, or will do so once one of them is on. -/
structure Interposed (registry : RegistryId) (inner : Option ScriptId) (x : Hooked) : Prop where
  stands : SlotWraps registry (inner.map .script) x.failed x.engine
  balanced : Balanced registry x.engine
  sole : (x.engine.scene registry).Sole registry
  fair : Scene.Fair (x.engine.scene registry).here

/-- What is the same again after each scope: the thread, who is on there, one of them who wraps, and
the routines. -/
structure Crew where
  thread : ThreadKey
  on : List (ProfilerId × Nat)
  lead : ProfilerId
  routines : Assoc RoutineId Routine

/-- The crew with a profiler switched on once more. -/
def Crew.raise (crew : Crew) (p : ProfilerId) : Crew :=
  { crew with on := (({ active := crew.on } : Dispatch).raise p).active }

/-- The profilers of a registry stand before a hook while a crew is on. -/
structure Relaying (registry : RegistryId) (inner : Option ScriptId) (crew : Crew) (x : Hooked) :
    Prop extends Interposed registry inner x where
  thread : x.engine.thread = crew.thread
  here : (x.engine.scene registry).here = crew.on
  routines : x.engine.routines = crew.routines
  wraps : ((x.engine.scene registry).profiler crew.lead).wrap = true

/-- A routine as the crew knows it. -/
def Crew.routine (crew : Crew) (id : RoutineId) : Routine := crew.routines.getD id { slot := id }

/-- The crew within the scope of a routine. -/
def Crew.within (crew : Crew) (routine : RoutineId) : Crew :=
  match (crew.routine routine).scope with
  | none => crew
  | some scope => crew.raise scope.profiler

/-- The leader of a crew is on, and everybody is listed once. -/
structure Crew.Led (crew : Crew) : Prop where
  lead : crew.lead ∈ crew.on.map Prod.fst
  fair : Scene.Fair crew.on

theorem Crew.Led.raise {crew : Crew} (h : crew.Led) (p : ProfilerId) : (crew.raise p).Led := by
  refine ⟨?_, h.fair.raise p⟩
  show crew.lead ∈ (({ active := crew.on } : Dispatch).raise p).active.map Prod.fst
  unfold Dispatch.raise
  split
  · have keys : (Dispatch.bump p crew.on).map Prod.fst = crew.on.map Prod.fst := Dispatch.map_fst_bump
    exact keys ▸ h.lead
  · rw [List.map_append]
    exact List.mem_append_left _ h.lead

theorem Crew.Led.within {crew : Crew} (h : crew.Led) (routine : RoutineId) :
    (crew.within routine).Led := by
  unfold Crew.within
  split
  · exact h
  · exact h.raise _

/-- Somebody is on. -/
theorem Crew.Led.isActive {crew : Crew} (h : crew.Led) :
    ({ active := crew.on } : Dispatch).isActive = true :=
  Dispatch.isActive_of_isOn ((Dispatch.isOn_iff _ crew.lead).mpr h.lead)

variable {registry : RegistryId} {inner : Option ScriptId} {crew : Crew} {x : Hooked}
  {hooks : Hooks}

/-! ## Switching -/

namespace Interposed

/-- An engine whose scene is known, on which the profilers stand before the hook. -/
theorem of_scene {e : Engine} (stands : SlotWraps registry (inner.map .script) x.failed e) (balanced : Balanced registry e)
    {s : Scene} (scene : e.scene registry = s) (sole : s.Sole registry) (fair : Scene.Fair s.here) :
    Interposed registry inner { x with engine := e } := by
  subst scene
  exact ⟨stands, balanced, sole, fair⟩

/-- Switching a profiler on. -/
theorem enable (h : Interposed registry inner x) (p : ProfilerId) :
    ∃ e, answer (Engine.enable registry p) x.engine =
        (.ok (((x.engine.scene registry).raise p).count p), e) ∧
      Interposed registry inner { x with engine := e } ∧
      e.scene registry = (x.engine.scene registry).raise p ∧
      ((x.engine.dispatchOf registry).muted = [] → (e.dispatchOf registry).muted = []) := by
  obtain ⟨e, enabled, ⟨stands, clean⟩, balanced, scene⟩ :=
    (SlotWraps.switching registry (inner.map .script) x.failed _).enable ⟨h.stands, id⟩ h.balanced p
  refine ⟨e, enabled, of_scene stands balanced scene (h.sole.raise p) ?_, scene, clean⟩
  unfold Scene.raise
  rw [Scene.switch_here]
  exact h.fair.raise p

/-- Undoing one switching on. -/
theorem disable (h : Interposed registry inner x) (p : ProfilerId) :
    ∃ e, answer (Engine.disable registry p) x.engine =
        (.ok ((x.engine.scene registry).count p - 1), e) ∧
      Interposed registry inner { x with engine := e } ∧
      e.scene registry = (x.engine.scene registry).lower p ∧
      ((x.engine.dispatchOf registry).muted = [] → (e.dispatchOf registry).muted = []) := by
  obtain ⟨e, disabled, ⟨stands, clean⟩, balanced, scene⟩ :=
    (SlotWraps.switching registry (inner.map .script) x.failed _).disable ⟨h.stands, id⟩ h.balanced p
  refine ⟨e, disabled, of_scene stands balanced scene (h.sole.lower p) ?_, scene, clean⟩
  unfold Scene.lower
  simp only
  split
  · rw [Scene.switch_here]
    exact h.fair.lower p _
  · exact h.fair

/-- Once nobody is on, the hook is in the slot. -/
theorem slot (h : Interposed registry inner x) (nobody : (x.engine.scene registry).here = []) :
    x.engine.traceHook? = inner.map .script := by
  refine h.stands.off ((h.balanced x.engine.thread).trans ?_)
  rw [isActive_eq]
  show (!((x.engine.scene registry).here).isEmpty) = false
  rw [nobody]
  rfl

end Interposed

namespace Relaying

/-- Who is on, as the running thread knows it. -/
theorem active (h : Relaying registry inner crew x) :
    (x.engine.dispatchOf registry).active = crew.on := h.here

theorem isActive (h : Relaying registry inner crew x) (led : crew.Led) :
    (x.engine.dispatchOf registry).isActive = true := by
  have same : (x.engine.dispatchOf registry).isActive =
      ({ active := (x.engine.dispatchOf registry).active } : Dispatch).isActive := rfl
  rw [same, h.active]
  exact led.isActive

/-- The registry listens. -/
theorem activated (h : Relaying registry inner crew x) (led : crew.Led) :
    (x.engine.dispatchOf registry).activated = true :=
  (h.balanced x.engine.thread).trans (h.isActive led)

theorem wrapping (h : Relaying registry inner crew x) (led : crew.Led) :
    Hooked.Wrapping (x.engine.scene registry) := by
  obtain ⟨a, mem, here⟩ := List.mem_map.mp led.lead
  refine ⟨a, ?_, ?_⟩
  · rw [h.here]
    exact mem
  · rw [here]
    exact h.wraps

/-- What scenes show of profilers besides what they recorded, and of routines. -/
theorem of_bare {s t : Scene} (same : s.bare = t.bare) :
    (∀ p, (s.profiler p).wrap = (t.profiler p).wrap) ∧ s.routines = t.routines := by
  have routines := congrArg Scene.routines same
  refine ⟨fun p => ?_, routines⟩
  have bare : (s.profiler p).bare = (t.profiler p).bare := by
    rw [← Scene.profiler_bare, same, Scene.profiler_bare]
  have wrap := congrArg Profiler.wrap bare
  exact wrap

/-- A later moment, or more frames. -/
theorem passing (h : Relaying registry inner crew x) (clock : Counter) (frames : Nat) :
    Relaying registry inner crew { x with engine := { x.engine with clock, frames } } := by
  obtain ⟨⟨stands, balanced, sole, fair⟩, thread, here, routines, wraps⟩ := h
  have stands' : SlotWraps registry (inner.map .script) x.failed { x.engine with clock, frames } :=
    ⟨stands.present, stands.backend, stands.silent, stands.idle, stands.listening, stands.off⟩
  exact ⟨⟨stands', balanced, ⟨sole.profilers, sole.wrappers, sole.numbered⟩, fair⟩, thread, here,
    routines, wraps⟩

/-- A trace event is announced to the hook, unless it is a line of a frame of which the hook does not
want to hear. -/
theorem announceTrace (h : Relaying registry inner crew x) (led : crew.Led) (hooks : Hooks)
    {frame : Frame} (lit : frame.linesOn = true) (event : TraceEvent) :
    let told := if event = .line ∧ frame.id ∈ (x.engine.dispatchOf registry).muted then
        .unheard x.visits inner
      else hooks.hear inner frame event x.visits
    ∃ x', answer ((Hooked.scripts hooks).announceTrace frame event) x =
        (told.answer.map fun _ => true, x') ∧
      Hooked.Takes registry told frame event x x' ∧ Relaying registry told.inner crew x' := by
  intro told
  obtain ⟨x', answered, takes⟩ :=
    Hooked.announceTrace hooks h.stands (h.activated led) (h.wrapping led) lit event
  refine ⟨x', answered, takes, ?_⟩
  obtain ⟨wrap, routines⟩ := of_bare takes.bare
  have thread := congrArg Scene.thread takes.bare
  change (x'.engine.scene registry).thread = (x.engine.scene registry).thread at thread
  have here : (x'.engine.scene registry).here = (x.engine.scene registry).here := by
    unfold Scene.here
    rw [takes.active, thread]
  refine ⟨⟨takes.stands, fun th => ?_, h.sole.of_bare takes.bare, ?_⟩,
    thread.trans h.thread, here.trans h.here, routines.trans h.routines, (wrap _).trans h.wraps⟩
  · rw [takes.threads, isActive_eq, takes.active]
    exact h.balanced th
  · rw [here]
    exact h.fair

/-! ## Scopes -/

/-- While somebody stays on, only the counts change. -/
theorem switch (h : Relaying registry inner crew x) (led : crew.Led)
    {on : List (ProfilerId × Nat)} (fair : Scene.Fair on)
    (some : ({ active := on } : Dispatch).isActive = true) :
    Relaying registry inner { crew with on }
      { x with
        engine := x.engine.withDispatch registry { x.engine.dispatchOf registry with active := on } } := by
  have scene := scene_withDispatch registry x.engine { x.engine.dispatchOf registry with active := on }
  have activated := h.activated led
  obtain ⟨⟨stands, balanced, sole, -⟩, thread, here, routines, wraps⟩ := h
  have balanced' : Balanced registry
      (x.engine.withDispatch registry { x.engine.dispatchOf registry with active := on }) := by
    intro th
    rw [withDispatch_dispatchAt]
    split
    · exact activated.trans some.symm
    · exact balanced th
  have sole' : ((x.engine.scene registry).switch on).Sole registry :=
    ⟨sole.profilers, sole.wrappers, sole.numbered⟩
  have here' : ((x.engine.scene registry).switch on).here = on := Scene.switch_here _ on
  refine ⟨.of_scene (x := x) (stands.withActive on) balanced' scene sole' (here'.symm ▸ fair), thread, ?_,
    routines, ?_⟩
  · rw [scene]
    exact here'
  · rw [scene]
    exact wraps

/-- A routine is entered. -/
theorem enter (h : Relaying registry inner crew x) (led : crew.Led) (hooks : Hooks)
    (routine : RoutineId) :
    ∃ e, answer ((Hooked.scripts hooks).host.enter routine) x = (.ok (), { x with engine := e }) ∧
      Relaying registry inner (crew.within routine) { x with engine := e } ∧
      e.scene registry = (x.engine.scene registry).enterScope routine ∧
      (e.dispatchOf registry).muted = (x.engine.dispatchOf registry).muted := by
  have routines : (x.engine.scene registry).routine routine = crew.routine routine := by
    unfold Scene.routine Crew.routine
    rw [← h.routines]
    rfl
  have found : ((Hooked.scripts hooks).engine x).routine routine = crew.routine routine := routines
  rw [Scripts.answer_enter, found]
  unfold Crew.within Scene.enterScope
  rw [routines]
  cases there : (crew.routine routine).scope with
  | none => exact ⟨x.engine, rfl, h, rfl, rfl⟩
  | some scope =>
    have own := h.sole.wrappers routine scope ((congrArg Routine.scope routines).trans there)
    have enabled : answer (Engine.enable registry scope.profiler) ((Hooked.scripts hooks).engine x) = _ :=
      answer_enable_active (h.isActive led) scope.profiler
    have active : ((x.engine.dispatchOf registry).raise scope.profiler).active =
        (crew.raise scope.profiler).on := by
      rw [Dispatch.active_raise, h.active]
      rfl
    have raised : (x.engine.dispatchOf registry).raise scope.profiler =
        { x.engine.dispatchOf registry with active := (crew.raise scope.profiler).on } := by
      rw [Dispatch.raise_eq, active]
    have led' := led.raise scope.profiler
    simp only
    rw [own, enabled, raised]
    refine ⟨_, rfl, h.switch led led'.fair led'.isActive, ?_, ?_⟩
    · rw [scene_withDispatch]
      unfold Scene.raise
      rw [h.here]
      rfl
    · rw [withDispatch_dispatchOf]

/-- A routine is left. -/
theorem leave {routine : RoutineId} (h : Relaying registry inner (crew.within routine) x)
    (led : crew.Led) (hooks : Hooks) :
    ∃ e, ((Hooked.scripts hooks).host.leave routine x).2 = { x with engine := e } ∧
      Relaying registry inner crew { x with engine := e } ∧
      e.scene registry = (x.engine.scene registry).leaveScope routine ∧
      (e.dispatchOf registry).muted = (x.engine.dispatchOf registry).muted := by
  have kept : (crew.within routine).routines = crew.routines := by
    unfold Crew.within
    split <;> rfl
  have routines : (x.engine.scene registry).routine routine = crew.routine routine := by
    unfold Scene.routine Crew.routine
    rw [← kept, ← h.routines]
    rfl
  have found : ((Hooked.scripts hooks).engine x).routine routine = crew.routine routine := routines
  rw [Scripts.host_leave, found]
  unfold Crew.within at h
  unfold Scene.leaveScope
  rw [routines]
  cases there : (crew.routine routine).scope with
  | none =>
    rw [there] at h
    exact ⟨x.engine, rfl, h, rfl, rfl⟩
  | some scope =>
    rw [there] at h
    simp only at h ⊢
    have own := h.sole.wrappers routine scope ((congrArg Routine.scope routines).trans there)
    have led' := led.raise scope.profiler
    let d := x.engine.dispatchOf registry
    have isOn : d.isOn scope.profiler = true := by
      have same : d.isOn scope.profiler = ({ active := d.active } : Dispatch).isOn scope.profiler := rfl
      rw [same, h.active]
      exact Scene.Fair.isOn_raise crew.on scope.profiler
    have lowered : d.lower scope.profiler (d.countOf scope.profiler - 1) =
        { d with active := crew.on } := by
      have count : d.countOf scope.profiler =
        ({ active := d.active } : Dispatch).countOf scope.profiler := rfl
      rw [Dispatch.lower_eq, Dispatch.active_lower, count, h.active]
      exact congrArg (fun on => { d with active := on }) (led.fair.lower_raise scope.profiler)
    have still : (d.lower scope.profiler (d.countOf scope.profiler - 1)).isActive = true := by
      rw [lowered]
      exact led.isActive
    have disabled := congrArg Prod.snd (answer_disable_active isOn still)
    rw [lowered] at disabled
    have disabled : (answer (Engine.disable registry scope.profiler)
      ((Hooked.scripts hooks).engine x)).2 = _ := disabled
    rw [own, disabled]
    refine ⟨_, rfl, h.switch led' led.fair led.isActive, ?_, ?_⟩
    · rw [scene_withDispatch]
      exact (Scene.lower_raised led.fair h.here).symm
    · rw [withDispatch_dispatchOf]

end Relaying

end LineClock
