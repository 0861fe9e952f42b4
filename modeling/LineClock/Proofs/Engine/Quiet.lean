import LineClock.Engine.Watch
import LineClock.Proofs.Engine.Recording
import LineClock.Proofs.Engine.SlotListens
import LineClock.Proofs.Engine.Switching
import LineClock.Proofs.Engine.ToolListens

/-!
# Profilers on a quiet machine

An engine is `Quiet` for a registry if nobody but that registry uses hooks. What the machine
announces and how profilers are switched is then described by the scene alone: lines that start and
blocks that are left are recorded by those who are on, nothing fails, and no frame changes. It does
not matter how the registry listens.

Operations that neither switch profilers nor touch hooks leave listening alone: defining routines,
making profilers and watching code. What such a `Setup` does is decided by the scene, whatever was
recorded and whoever is on, and it keeps a quiet engine quiet.
-/

namespace LineClock

open Machine Engine

/-- A registry that is alone where it listens. -/
def Listens : Backend → RegistryId → Engine → Prop
  | .slot => SlotListens
  | .tool => ToolListens

/-- An engine on which nobody but a registry uses hooks. -/
structure Quiet (b : Backend) (registry : RegistryId) (e : Engine) : Prop where
  listens : Listens b registry e
  balanced : ∀ th, (e.dispatchAt th registry).activated = (e.dispatchAt th registry).isActive

namespace Scene

/-- What a trace event changes where a registry listens in a given way. -/
def traced (b : Backend) (s : Scene) (frame : Frame) (event : TraceEvent) : Scene :=
  match b with
  | .slot => s.hear frame event
  | .tool => s

/-- What a monitoring event changes where a registry listens in a given way. -/
def notified (b : Backend) (s : Scene) (event : MonitorEvent) : Scene :=
  match b with
  | .slot => s
  | .tool => s.hearEvent event

end Scene

namespace Listens

variable {b : Backend} {registry : RegistryId} {e : Engine}

/-- Switching profilers leaves a registry alone where it listens. -/
theorem switching (b : Backend) (registry : RegistryId) :
    Switching registry (Listens b registry) := by
  cases b with
  | slot => exact ⟨SlotListens.activate, SlotListens.deactivate, SlotListens.withActive⟩
  | tool => exact ToolListens.switching registry

end Listens

namespace Quiet

variable {b : Backend} {registry : RegistryId} {e : Engine}

theorem present (h : Quiet b registry e) : (e.registries.get? registry).isSome := by
  cases b with
  | slot => exact SlotListens.present h.listens
  | tool => exact (ToolListens.unguarded h.listens).present

/-! ## Events -/

/-- A trace event is recorded at most, and line events of the frame stay as they are. -/
theorem trace (h : Quiet b registry e) (frame : Frame) (event : TraceEvent) :
    ∃ e', answer (Scripts.quiet.host.trace frame event) e = (.ok frame.linesOn, e') ∧
      Quiet b registry e' ∧ e'.scene registry = (e.scene registry).traced b frame event := by
  cases b with
  | slot =>
    obtain ⟨e', told, listens, scene, dispatch⟩ :=
      SlotListens.announceTrace h.listens frame event (h.balanced e.thread)
    refine ⟨e', told, ⟨listens, fun th => ?_⟩, scene⟩
    rw [dispatch]
    exact h.balanced th
  | tool => exact ⟨e, h.listens.atTool.announceTrace frame event, h, rfl⟩

/-- A monitoring event is recorded at most. -/
theorem monitor (h : Quiet b registry e) (event : MonitorEvent) :
    ∃ e', answer (Scripts.quiet.host.monitor event) e = (.ok (), e') ∧
      Quiet b registry e' ∧ e'.scene registry = (e.scene registry).notified b event := by
  cases b with
  | slot => exact ⟨e, SlotListens.announceEvent h.listens event, h, rfl⟩
  | tool =>
    obtain ⟨e', told, listens, scene, dispatch⟩ :=
      ToolListens.announceEvent h.listens event h.balanced
    refine ⟨e', told, ⟨listens, fun th => ?_⟩, scene⟩
    rw [dispatch]
    exact h.balanced th

/-! ## Switching -/

/-- Switching a profiler on. -/
theorem enable (h : Quiet b registry e) (p : ProfilerId) :
    ∃ e', answer (enable registry p) e = (.ok (((e.scene registry).raise p).count p), e') ∧
      Quiet b registry e' ∧ e'.scene registry = (e.scene registry).raise p := by
  obtain ⟨e', enabled, listens, balanced, scene⟩ :=
    (Listens.switching b registry).enable h.listens h.balanced p
  exact ⟨e', enabled, ⟨listens, balanced⟩, scene⟩

/-- Undoing one switching on. -/
theorem disable (h : Quiet b registry e) (p : ProfilerId) :
    ∃ e', answer (disable registry p) e = (.ok ((e.scene registry).count p - 1), e') ∧
      Quiet b registry e' ∧ e'.scene registry = (e.scene registry).lower p := by
  obtain ⟨e', disabled, listens, balanced, scene⟩ :=
    (Listens.switching b registry).disable h.listens h.balanced p
  exact ⟨e', disabled, ⟨listens, balanced⟩, scene⟩

/-- The scope of a wrapper is entered by switching its profiler on. -/
theorem enter (h : Quiet b registry e) (sole : (e.scene registry).Sole registry)
    (routine : RoutineId) :
    ∃ e', answer (Scripts.quiet.host.enter routine) e = (.ok (), e') ∧ Quiet b registry e' ∧
      e'.scene registry = (e.scene registry).enterScope routine := by
  obtain ⟨e', entered, listens, balanced, scene⟩ :=
    (Listens.switching b registry).enter (s := Scripts.quiet) (fun _ => rfl) h.listens h.balanced
      sole routine
  exact ⟨e', entered, ⟨listens, balanced⟩, scene⟩

/-- The scope of a wrapper is left by switching its profiler off. -/
theorem leave (h : Quiet b registry e) (sole : (e.scene registry).Sole registry)
    (routine : RoutineId) :
    Quiet b registry (Scripts.quiet.host.leave routine e).2 ∧
      ((Scripts.quiet.host.leave routine e).2).scene registry =
        (e.scene registry).leaveScope routine := by
  obtain ⟨e', left, listens, balanced, scene⟩ :=
    (Listens.switching b registry).leave (s := Scripts.quiet) (fun _ => rfl) h.listens h.balanced
      sole routine
  rw [left]
  exact ⟨⟨listens, balanced⟩, scene⟩

end Quiet

/-! ## Operations that leave listening alone -/

/-- Engines that differ in nothing by which a registry listens. -/
structure Aside (registry : RegistryId) (e e' : Engine) : Prop where
  slots : e'.slots = e.slots
  facility : e'.facility = e.facility
  dispatch : e'.dispatch = e.dispatch
  monitored : e'.monitored = e.monitored
  present : (e'.registries.get? registry).isSome = (e.registries.get? registry).isSome
  backend : (e'.registry registry).backend = (e.registry registry).backend
  guarded : (e'.registry registry).guarded = (e.registry registry).guarded
  released : (e'.registry registry).released = (e.registry registry).released
  share : e'.share registry = e.share registry
  refusals : e'.refusals = e.refusals

namespace Aside

variable {registry : RegistryId} {e e' e'' : Engine}

theorem refl (registry : RegistryId) (e : Engine) : Aside registry e e :=
  ⟨rfl, rfl, rfl, rfl, rfl, rfl, rfl, rfl, rfl, rfl⟩

theorem trans (h : Aside registry e e') (h' : Aside registry e' e'') : Aside registry e e'' :=
  ⟨h'.slots.trans h.slots, h'.facility.trans h.facility, h'.dispatch.trans h.dispatch,
    h'.monitored.trans h.monitored, h'.present.trans h.present, h'.backend.trans h.backend,
    h'.guarded.trans h.guarded, h'.released.trans h.released, h'.share.trans h.share,
    h'.refusals.trans h.refusals⟩

/-- Engines with the same registries. -/
theorem of_registries (slots : e'.slots = e.slots) (facility : e'.facility = e.facility)
    (dispatch : e'.dispatch = e.dispatch) (monitored : e'.monitored = e.monitored)
    (registries : e'.registries = e.registries) (refusals : e'.refusals = e.refusals) :
    Aside registry e e' := by
  have registry' := registry_congr registries registry
  refine ⟨slots, facility, dispatch, monitored, ?_, ?_, ?_, ?_, ?_, refusals⟩
  · rw [registries]
  · rw [registry']
  · rw [registry']
  · rw [registry']
  · unfold Engine.share
    rw [registry']

theorem dispatchAt (h : Aside registry e e') (th : ThreadKey) :
    e'.dispatchAt th registry = e.dispatchAt th registry := by
  unfold Engine.dispatchAt
  rw [h.dispatch]

/-- Standing at the tool id. -/
theorem atTool {P : Facility → ToolShare → Prop} (h : Aside registry e e')
    (there : AtTool P registry e) : AtTool P registry e' := by
  refine ⟨⟨?_, h.backend.trans there.unguarded.backend, ?_,
    h.released.trans there.unguarded.released⟩, h.monitored.trans there.monitored, fun th => ?_,
    fun th => ?_, ?_, ?_⟩
  · rw [h.present]
    exact there.unguarded.present
  · rw [h.guarded, h.refusals]
    exact there.unguarded.unrefused
  · rw [h.slots]
    exact there.slots th
  · rw [h.dispatchAt]
    exact there.idle th
  · obtain ⟨ths, distinct, mem, length⟩ := there.threads
    refine ⟨ths, distinct, fun th => ?_, ?_⟩
    · rw [h.dispatchAt]
      exact mem th
    · rw [h.share]
      exact length
  · rw [h.facility, h.share]
    exact there.place

theorem balanced (h : Aside registry e e') (there : Balanced registry e) : Balanced registry e' := by
  intro th
  rw [h.dispatchAt]
  exact there th

theorem listens {b : Backend} (h : Aside registry e e') (l : Listens b registry e) :
    Listens b registry e' := by
  cases b with
  | slot =>
    obtain ⟨present, backend, silent, thread⟩ := l
    refine ⟨?_, h.backend.trans backend, ?_, fun th => ?_⟩
    · rw [h.present]
      exact present
    · rw [h.facility]
      exact silent
    · rw [h.dispatchAt, h.slots]
      exact thread th
  | tool => exact .of_atTool (h.atTool (ToolListens.atTool l))

theorem quiet {b : Backend} (h : Aside registry e e') (q : Quiet b registry e) :
    Quiet b registry e' := ⟨h.listens q.listens, h.balanced q.balanced⟩

end Aside

/-- An engine with a registry, to which all profilers belong. -/
structure Ready (registry : RegistryId) (e : Engine) : Prop where
  present : (e.registries.get? registry).isSome
  sole : (e.scene registry).Sole registry

/-- What remains of a scene: all profilers are of one registry still, none loses anything, and no
frame is taken back. -/
structure Scene.Keeps (registry : RegistryId) (s s' : Scene) : Prop where
  sole : s'.Sole registry
  enriched : ∀ p, (s.profiler p).Enriched (s'.profiler p)
  frames : s.frames ≤ s'.frames

namespace Scene.Keeps

variable {registry : RegistryId} {s s' s'' : Scene}

theorem refl (h : s.Sole registry) : Keeps registry s s := ⟨h, fun _ => .refl _, Nat.le_refl _⟩

theorem trans (h : Keeps registry s s') (h' : Keeps registry s' s'') : Keeps registry s s'' :=
  ⟨h'.sole, fun p => (h.enriched p).trans (h'.enriched p), Nat.le_trans h.frames h'.frames⟩

/-- Changes that profilers and routines have no part in. -/
theorem same (h : s.Sole registry) (profilers : s'.profilers = s.profilers)
    (routines : s'.routines = s.routines) (frames : s.frames ≤ s'.frames) :
    Keeps registry s s' := by
  have same : ∀ p, s'.profiler p = s.profiler p := by
    intro p
    unfold profiler
    rw [profilers]
  refine ⟨⟨fun p => ?_, fun id scope found => ?_, ?_⟩, fun p => ?_, frames⟩
  · rw [same]
    exact h.profilers p
  · unfold routine at found
    rw [routines] at found
    exact h.wrappers id scope found
  · rw [profilers]
    exact h.numbered
  · rw [same]
    exact .refl _

/-- One more routine. -/
theorem addRoutine (h : s.Sole registry) (id : RoutineId) {r : Routine}
    (wraps : ∀ scope, r.scope = some scope → scope.registry = registry)
    (code : Assoc RoutineId Block) :
    Keeps registry s { s with routines := s.routines.set id r, code } :=
  ⟨h.addRoutine id wraps code, fun _ => .refl _, Nat.le_refl _⟩

/-- One more profiler, which has recorded nothing. -/
theorem addProfiler (h : s.Sole registry) {p : Profiler} (own : p.registry = registry)
    (blank : p.tally = {}) :
    Keeps registry s { s with profilers := s.profilers.set s.profilers.entries.length p } := by
  refine ⟨h.addProfiler own, fun id => ?_, Nat.le_refl _⟩
  unfold profiler
  simp only [Assoc.getD_set]
  split
  · rename_i next
    have nothing : s.profilers.getD id default = default :=
      Assoc.getD_of_get?_none (next ▸ h.next_free) default
    rw [nothing]
    refine ⟨?_, fun _ => ?_, fun _ _ known => (by cases known), fun _ listed => (by cases listed)⟩
    · rw [blank]
      exact .refl _
    · rw [blank]
      exact .empty
  · exact .refl _

/-- A profiler changed without losing anything. -/
theorem modifyProfiler (h : s.Sole registry) (id : ProfilerId) {f : Profiler → Profiler}
    (own : ∀ p, p.registry = registry → (f p).registry = registry)
    (enriched : (s.profiler id).Enriched (f (s.profiler id))) :
    Keeps registry s { s with profilers := s.profilers.modify id f } := by
  refine ⟨h.modifyProfiler id own, fun id' => ?_, Nat.le_refl _⟩
  unfold profiler
  simp only [Assoc.getD_modify]
  split
  · rename_i here
    rw [← here.1]
    exact enriched
  · exact .refl _

end Scene.Keeps

/-! ## What was recorded plays no part -/

namespace Scene

/-- How closely scenes are looked at. -/
inductive Look where
  | whole
  | bare

/-- What is seen of a scene. -/
def Look.see : Look → Scene → Scene
  | whole, s => s
  | bare, s => s.bare

/-- What a bare scene decides is decided by what is seen. -/
theorem Look.decides {β : Type} {g : Scene → β} (hg : ∀ s : Scene, g s.bare = g s) (look : Look)
    {s s' : Scene} (same : look.see s = look.see s') : g s = g s' := by
  cases look with
  | whole => exact congrArg g same
  | bare => exact (hg s).symm.trans ((congrArg g same).trans (hg s'))

end Scene

namespace Engine

/-- The rest of preparing a routine whose code was `before`, once a block was accepted for it. -/
def putIn (registry : RegistryId) (routine : RoutineId) (id : ProfilerId) (before : Block)
    (accepted : Block × Padding) : StateM Engine Block := do
  let (others, padding) := accepted.2.enrol routine before.id accepted.1.id id
  modifyRegistry registry fun r => { r with padding }
  if accepted.1.id ≠ before.id then
    modify fun e => e.replaceCode routine accepted.1
  others.forM fun other => discard <| (watch other accepted.1).run
  return accepted.1

/-- Adding a routine that may have been refused. -/
def addUnless (id : ProfilerId) (routine : RoutineId) :
    Option ProfilerError → ExceptT ProfilerError (StateM Engine) Bool
  | some e => throw e
  | none => do
    let block ← prepare ((← get).profiler id).registry routine id
    let added ← watch id block
    modifyProfiler id fun p => p.addRoutine routine
    return added

end Engine

/-- An operation that leaves listening alone and is decided by the scene. -/
structure Setup {α : Type} (registry : RegistryId) (m : StateM Engine α) : Prop where
  aside : ∀ e, Ready registry e → Aside registry e (m.run e).2
  keeps : ∀ e, Ready registry e → (e.scene registry).Keeps registry ((m.run e).2.scene registry)
  agree : ∀ (look : Scene.Look) (e d : Engine), Ready registry e → Ready registry d →
    look.see (e.scene registry) = look.see (d.scene registry) →
      (m.run e).1 = (m.run d).1 ∧
        look.see ((m.run e).2.scene registry) = look.see ((m.run d).2.scene registry)

namespace Setup

variable {registry : RegistryId} {α β ε : Type}

theorem ready {m : StateM Engine α} (hm : Setup registry m) {e : Engine} (h : Ready registry e) :
    Ready registry (m.run e).2 :=
  ⟨(hm.aside e h).present.trans h.present, (hm.keeps e h).sole⟩

/-- On engines with the same scene it does the same. -/
theorem agree_whole {m : StateM Engine α} (hm : Setup registry m) {e d : Engine}
    (he : Ready registry e) (hd : Ready registry d) (same : e.scene registry = d.scene registry) :
    (m.run e).1 = (m.run d).1 ∧ (m.run e).2.scene registry = (m.run d).2.scene registry :=
  hm.agree .whole e d he hd same

/-- What was recorded and who is on make no difference. -/
theorem agree_bare {m : StateM Engine α} (hm : Setup registry m) {e d : Engine}
    (he : Ready registry e) (hd : Ready registry d)
    (same : (e.scene registry).bare = (d.scene registry).bare) :
    (m.run e).1 = (m.run d).1 ∧
      ((m.run e).2.scene registry).bare = ((m.run d).2.scene registry).bare :=
  hm.agree .bare e d he hd same

theorem pure (a : α) : Setup registry (pure a : StateM Engine α) :=
  ⟨fun e _ => Aside.refl registry e, fun _ h => .refl h.sole, fun _ _ _ _ _ same => ⟨rfl, same⟩⟩

theorem bind {m : StateM Engine α} {f : α → StateM Engine β} (hm : Setup registry m)
    (hf : ∀ a, Setup registry (f a)) : Setup registry (m >>= f) := by
  refine ⟨fun e h => ?_, fun e h => ?_, fun look e d he hd same => ?_⟩
  · exact (hm.aside e h).trans ((hf _).aside _ (hm.ready h))
  · exact (hm.keeps e h).trans ((hf _).keeps _ (hm.ready h))
  · obtain ⟨result, scene⟩ := hm.agree look e d he hd same
    have rest := (hf (m.run e).1).agree look _ _ (hm.ready he) (hm.ready hd) scene
    have run : ∀ e, (m >>= f).run e = (f (m.run e).1).run (m.run e).2 := fun _ => rfl
    rw [run, run, ← result]
    exact rest

/-- Reading something that the scene decides. -/
theorem reading {f : Engine → StateM Engine α} (g : Scene → β) (k : β → StateM Engine α)
    (hf : ∀ e, Ready registry e → f e = k (g (e.scene registry))) (hg : ∀ s : Scene, g s.bare = g s)
    (hk : ∀ b, Setup registry (k b)) : Setup registry (get >>= f) := by
  refine ⟨fun e h => ?_, fun e h => ?_, fun look e d he hd same => ?_⟩
  · rw [run_state_get_bind, hf e h]
    exact (hk _).aside e h
  · rw [run_state_get_bind, hf e h]
    exact (hk _).keeps e h
  · rw [run_state_get_bind, run_state_get_bind, hf e he, hf d hd, ← look.decides hg same]
    exact (hk _).agree look e d he hd same

/-- Two operations, the second of which is left out if the first fails. -/
theorem tryBind {x : ExceptT ε (StateM Engine) α} {f : α → ExceptT ε (StateM Engine) β}
    (hx : Setup registry x.run) (hf : ∀ a, Setup registry (f a).run) :
    Setup registry (x >>= f).run := by
  have run : (x >>= f).run = x.run >>= ExceptT.bindCont f := rfl
  rw [run]
  refine Setup.bind hx fun o => ?_
  cases o with
  | ok a => exact hf a
  | error e => exact Setup.pure _

/-- A change that is a function of the scene. -/
theorem change {m : StateM Engine α} (result : Scene → α) (next : Scene → Scene)
    (aside : ∀ e, Ready registry e → Aside registry e (m.run e).2)
    (results : ∀ e, (m.run e).1 = result (e.scene registry))
    (scenes : ∀ e, Ready registry e → (m.run e).2.scene registry = next (e.scene registry))
    (keeps : ∀ s : Scene, s.Sole registry → s.Keeps registry (next s))
    (bareResult : ∀ s : Scene, result s.bare = result s)
    (bareNext : ∀ s : Scene, (next s.bare).bare = (next s).bare) : Setup registry m := by
  refine ⟨aside, fun e h => ?_, fun look e d he hd same => ⟨?_, ?_⟩⟩
  · rw [scenes e h]
    exact keeps _ h.sole
  · rw [results, results, look.decides bareResult same]
  · rw [scenes e he, scenes d hd]
    cases look with
    | whole => exact congrArg next same
    | bare => exact (bareNext _).symm.trans ((congrArg (Scene.bare ∘ next) same).trans (bareNext _))

/-- A change that profilers have no part in. -/
theorem bare_next {s t : Scene} (h : t = s.bare) : t.bare = s.bare := by
  rw [h, Scene.bare_bare]

/-! ## Time and frames -/

/-- The clock plays no part in listening. -/
theorem aside_withClock (e : Engine) (clock : Counter) :
    Aside registry e (e.withClock clock) :=
  Aside.of_registries rfl rfl rfl rfl rfl rfl

theorem keeps_withClock {s : Scene} (h : s.Sole registry) (clock : Counter) :
    s.Keeps registry (s.withClock clock) :=
  .same h rfl rfl (Nat.le_refl _)

theorem bare_withClock (s : Scene) (clock : Counter) :
    s.bare.withClock clock = (s.withClock clock).bare := rfl

-- Engines are compared for an arbitrary clock above: a saturating sum must not be unfolded.
theorem spend (ticks : Counter) :
    Setup registry (modify fun e : Engine => { e with clock := e.clock.satAdd ticks }) :=
  change (fun _ => ()) (fun s => s.spend ticks)
    (fun e _ => aside_withClock e (e.clock.satAdd ticks)) (fun _ => rfl)
    (fun e _ => scene_withClock registry e (e.clock.satAdd ticks))
    (fun s h => keeps_withClock h (s.clock.satAdd ticks)) (fun _ => rfl)
    fun s => bare_next (bare_withClock s (s.clock.satAdd ticks))

theorem newFrame : Setup registry Scripts.quiet.host.newFrame :=
  change (fun s => s.frames) (fun s => s.addFrame)
    (fun _ _ => Aside.of_registries rfl rfl rfl rfl rfl rfl) (fun _ => rfl) (fun _ _ => rfl)
    (fun _ h => .same h rfl rfl (Nat.le_succ _)) (fun _ => rfl) fun _ => bare_next rfl

theorem work_eq (n : UInt8) : Scripts.quiet.host.work n = modify fun e : Engine =>
    { e with clock := e.clock.satAdd (n.toUInt64 * Scripts.ticksPerUnit) } := by
  have run : Scripts.quiet.host.work n = Scripts.quiet.run (modify fun e : Engine =>
      { e with clock := e.clock.satAdd (n.toUInt64 * Scripts.ticksPerUnit) }) := rfl
  rw [run, Scripts.quiet_run]

theorem work (n : UInt8) : Setup registry (Scripts.quiet.host.work n) := by
  rw [work_eq]
  exact spend _

theorem scene_work (n : UInt8) (e : Engine) :
    (Scripts.quiet.host.work n e).2.scene registry =
      (e.scene registry).spend (n.toUInt64 * Scripts.ticksPerUnit) := by
  rw [work_eq]
  exact scene_withClock registry e (e.clock.satAdd (n.toUInt64 * Scripts.ticksPerUnit))

theorem write (path : String) (bytes : Bytes) :
    Setup registry (modify fun e : Engine => match e.files.write path bytes with
      | .ok files => { e with files }
      | .error _ => e) := by
  have written : ∀ e : Engine, (match e.files.write path bytes with
      | .ok files => { e with files }
      | .error _ => e) = { e with files := ((e.files.write path bytes).toOption).getD e.files } := by
    intro e
    cases e.files.write path bytes <;> rfl
  simp only [written]
  exact change (fun _ => ())
    (fun s => { s with files := ((s.files.write path bytes).toOption).getD s.files })
    (fun _ _ => Aside.of_registries rfl rfl rfl rfl rfl rfl) (fun _ => rfl) (fun _ _ => rfl)
    (fun _ h => .same h rfl rfl (Nat.le_refl _)) (fun _ => rfl) fun _ => bare_next rfl

/-! ## Code -/

theorem newBlock : Setup registry newBlock :=
  change (fun s => s.blocks) (fun s => { s with blocks := s.blocks + 1 })
    (fun _ _ => Aside.of_registries rfl rfl rfl rfl rfl rfl) (fun _ => rfl) (fun _ _ => rfl)
    (fun _ h => .same h rfl rfl (Nat.le_refl _)) (fun _ => rfl) fun _ => bare_next rfl

theorem newRoutine (block : Block) : Setup registry (newRoutine block) :=
  change (fun s => s.routines.entries.length)
    (fun s =>
      let id := s.routines.entries.length
      { s with routines := s.routines.set id { slot := id }, code := s.code.set id block })
    (fun _ _ => Aside.of_registries rfl rfl rfl rfl rfl rfl) (fun _ => rfl) (fun _ _ => rfl)
    (fun _ h => .addRoutine h _ (fun _ found => by cases found) _) (fun _ => rfl)
    fun _ => bare_next rfl

theorem newWrapper (inner : RoutineId) (p : ProfilerId) :
    Setup registry (newWrapper inner { registry, profiler := p }) :=
  change (fun s => s.routines.entries.length)
    (fun s =>
      let r : Routine :=
        { slot := (s.routine inner).slot, scope := some { registry, profiler := p }
          wrapped := some inner }
      { s with routines := s.routines.set s.routines.entries.length r })
    (fun _ _ => Aside.of_registries rfl rfl rfl rfl rfl rfl) (fun _ => rfl) (fun _ _ => rfl)
    (fun s h => .addRoutine h _ (fun _ found => by cases found; rfl) s.code) (fun _ => rfl)
    fun _ => bare_next rfl

theorem define (draft : Draft) : Setup registry (define draft) :=
  newBlock.bind fun _ => newRoutine _

theorem replaceCode (id : RoutineId) (block : Block) :
    Setup registry (modify fun e => e.replaceCode id block) :=
  change (fun _ => ()) (fun s => { s with code := s.code.set (s.routine id).slot block })
    (fun _ _ => Aside.of_registries rfl rfl rfl rfl rfl rfl) (fun _ => rfl) (fun _ _ => rfl)
    (fun _ h => .same h rfl rfl (Nat.le_refl _)) (fun _ => rfl) fun _ => bare_next rfl

/-! ## Profilers -/

theorem newProfiler (wrap : Option Bool) (clock : Timepiece) (sources : Sources) :
    Setup registry (newProfiler registry wrap clock sources) :=
  change (fun s => s.profilers.entries.length)
    (fun s =>
      let p : Profiler := { registry, wrap := wrap.getD s.wrap, clock, sources }
      { s with profilers := s.profilers.set s.profilers.entries.length p })
    (fun _ _ => Aside.of_registries rfl rfl rfl rfl rfl rfl) (fun _ => rfl) (fun _ _ => rfl)
    (fun _ h => .addProfiler h rfl rfl) (fun s => by simp [Scene.bare])
    fun s => bare_next (by rw [Scene.bare_setProfiler]; simp [Scene.bare]; rfl)

theorem modifyProfiler (id : ProfilerId) {f : Profiler → Profiler}
    (own : ∀ p, (f p).registry = p.registry) (enriched : ∀ p : Profiler, p.Enriched (f p))
    (bare : ∀ p : Profiler, (f p.bare).bare = (f p).bare) :
    Setup registry (modifyProfiler id f) :=
  change (fun _ => ()) (fun s => { s with profilers := s.profilers.modify id f })
    (fun _ _ => Aside.of_registries rfl rfl rfl rfl rfl rfl) (fun _ => rfl) (fun _ _ => rfl)
    (fun _ h => .modifyProfiler h id (fun p old => (own p).trans old) (enriched _)) (fun _ => rfl)
    fun s => s.bare_modifyProfiler id (bare _)

theorem withProfiler (id : ProfilerId) {act : ExceptT ε (StateM Profiler) α}
    (own : ∀ p, (answer act p).2.registry = p.registry)
    (enriched : ∀ p : Profiler, p.Enriched (answer act p).2)
    (bare : ∀ p : Profiler, (answer act p.bare).1 = (answer act p).1 ∧
      (answer act p.bare).2.bare = (answer act p).2.bare) :
    Setup registry (withProfiler id act).run := by
  exact change (fun s => (answer act (s.profiler id)).1)
    (fun s => { s with profilers :=
      s.profilers.modify id fun _ => (answer act (s.profiler id)).2 })
    (fun _ _ => Aside.of_registries rfl rfl rfl rfl rfl rfl) (fun _ => rfl) (fun _ _ => rfl)
    (fun _ h => .modifyProfiler h id (fun _ _ => (own _).trans (h.profilers id)) (enriched _))
    (fun s => by rw [Scene.profiler_bare]; exact (bare _).1)
    fun s => s.bare_modifyProfiler id (by rw [Scene.profiler_bare]; exact (bare _).2)

theorem registry_padding {e : Engine} (h : Ready registry e) (padding : Padding) :
    ((modifyRegistry registry fun r => { r with padding }).run e).2.registry registry =
      { e.registry registry with padding } := by
  obtain ⟨r, found⟩ := Option.isSome_iff_exists.mp h.present
  change ((e.registries.modify registry fun r => { r with padding }).get? registry).getD default = _
  rw [Assoc.get?_modify, if_pos rfl, Engine.registry, Assoc.getD, found]
  rfl

theorem scene_padding {e : Engine} (h : Ready registry e) (padding : Padding) :
    ((modifyRegistry registry fun r => { r with padding }).run e).2.scene registry =
      { e.scene registry with padding } := by
  unfold Engine.scene
  rw [registry_padding h]
  rfl

theorem withPadding (padding : Padding) :
    Setup registry (modifyRegistry registry fun r => { r with padding }) := by
  refine change (fun _ => ()) (fun s => { s with padding }) (fun e h => ?_) (fun _ => rfl)
    (fun e h => scene_padding h padding) (fun _ h => .same h rfl rfl (Nat.le_refl _)) (fun _ => rfl)
    fun _ => bare_next rfl
  have now := registry_padding h padding
  refine ⟨rfl, rfl, rfl, rfl, ?_, ?_, ?_, ?_, ?_, rfl⟩
  · change ((e.registries.modify registry fun r => { r with padding }).get? registry).isSome = _
    rw [Assoc.get?_modify, if_pos rfl, Option.isSome_map]
  · rw [now]
  · rw [now]
  · rw [now]
  · unfold Engine.share
    rw [now]

/-! ## Watching -/

theorem watch (id : ProfilerId) (block : Block) : Setup registry (watch id block).run := by
  have run : (Engine.watch id block).run =
      get >>= fun e => (Engine.withProfiler id (Profiler.watch e.files block)).run := rfl
  rw [run]
  refine reading (fun s => s.files) (fun files => (Engine.withProfiler id
    (Profiler.watch files block)).run) (fun _ _ => rfl) (fun _ => rfl) fun files => ?_
  exact withProfiler id (Profiler.watch_registry files block) (Profiler.watch_enriched files block)
    (Profiler.watch_bare files block)

/-- A list of operations, one after another. -/
theorem all {γ : Type} {f : γ → StateM Engine PUnit} (hf : ∀ c, Setup registry (f c)) :
    ∀ l : List γ, Setup registry (l.forM f)
  | [] => Setup.pure _
  | c :: rest => (hf c).bind fun _ => all hf rest

theorem discard {m : StateM Engine α} (hm : Setup registry m) : Setup registry (discard m) :=
  hm.bind fun _ => Setup.pure _

theorem putIn (routine : RoutineId) (id : ProfilerId) (before : Block)
    (accepted : Block × Padding) : Setup registry (putIn registry routine id before accepted) := by
  obtain ⟨block, padding⟩ := accepted
  unfold Engine.putIn
  simp only
  refine (withPadding _).bind fun _ => ?_
  have follow : Setup registry (do
      (padding.enrol routine before.id block.id id).1.forM fun other =>
        Functor.discard (Engine.watch other block).run
      return block) :=
    (all (fun other => (watch other block).discard) _).bind fun _ => Setup.pure _
  split
  · exact (replaceCode routine block).bind fun _ => follow
  · exact follow

theorem prepare (routine : RoutineId) (id : ProfilerId) :
    Setup registry (prepare registry routine id) := by
  unfold Engine.prepare
  refine Setup.reading (fun s => s.codeOf routine) (fun before => do
    let copy ← Engine.newBlock
    let e ← get
    Engine.putIn registry routine id before ((e.registry registry).padding.accept before copy))
    (fun _ _ => rfl) (fun _ => rfl) fun before => ?_
  refine newBlock.bind fun copy => ?_
  exact Setup.reading (fun s => s.padding.accept before copy)
    (Engine.putIn registry routine id before) (fun _ _ => rfl) (fun _ => rfl)
    fun accepted => putIn routine id before accepted

/-- Reading something that the scene decides, before what may fail. -/
theorem tryReading {f : Engine → ExceptT ε (StateM Engine) α} (g : Scene → β)
    (k : β → ExceptT ε (StateM Engine) α)
    (hf : ∀ e, Ready registry e → f e = k (g (e.scene registry))) (hg : ∀ s : Scene, g s.bare = g s)
    (hk : ∀ b, Setup registry (k b).run) : Setup registry (get >>= f).run := by
  have run : (get >>= f).run = get >>= fun e => (f e).run := rfl
  rw [run]
  exact reading g (fun b => (k b).run) (fun e h => by rw [hf e h]) hg hk

/-- An operation that cannot fail, before what may fail. -/
theorem tryLift {m : StateM Engine α} {f : α → ExceptT ε (StateM Engine) β} (hm : Setup registry m)
    (hf : ∀ a, Setup registry (f a).run) :
    Setup registry ((liftM m : ExceptT ε (StateM Engine) α) >>= f).run := by
  have run : ((liftM m : ExceptT ε (StateM Engine) α) >>= f).run = m >>= fun a => (f a).run := rfl
  rw [run]
  exact hm.bind hf

/-- A profiler takes note of a routine. -/
theorem note (id : ProfilerId) (routine : RoutineId) :
    Setup registry (Engine.modifyProfiler id fun p => p.addRoutine routine) := by
  refine modifyProfiler id (fun p => ?_) (fun p => .addRoutine p routine) fun p => ?_
  · rw [Profiler.addRoutine_eq]
  · rw [Profiler.addRoutine_eq, Profiler.addRoutine_eq]
    rfl

theorem addRoutine (id : ProfilerId) (routine : RoutineId) :
    Setup registry (addRoutine id routine).run := by
  unfold Engine.addRoutine
  refine tryReading (fun s => Profiler.refusal? (s.codeOf routine)) (Engine.addUnless id routine)
    (fun _ _ => rfl) (fun _ => rfl) fun refusal => ?_
  cases refusal with
  | some e => exact Setup.pure _
  | none =>
    refine tryReading (fun _ => ()) (fun _ => do
      let block ← Engine.prepare registry routine id
      let added ← Engine.watch id block
      Engine.modifyProfiler id fun p => p.addRoutine routine
      return added) (fun e h => ?_) (fun _ => rfl) fun _ => ?_
    · have own : (e.profiler id).registry = registry := h.sole.profilers id
      rw [own]
    · refine tryLift (prepare routine id) fun block => tryBind (watch id block) fun added => ?_
      exact tryLift (note id routine) fun _ => Setup.pure _

/-- One more of several routines, of which `n` were new. -/
theorem addOne (id : ProfilerId) (n : Nat) (routine : RoutineId) : Setup registry (do
    match ← (Engine.addRoutine id routine).run with
    | .ok true => return n + 1
    | _ => return n) := by
  refine Setup.bind (addRoutine id routine) fun o => ?_
  split <;> exact Setup.pure _

theorem addRoutines (id : ProfilerId) (routines : List RoutineId) :
    Setup registry (addRoutines id routines) := by
  unfold Engine.addRoutines
  generalize 0 = n
  induction routines generalizing n with
  | nil => exact Setup.pure n
  | cons routine rest ih =>
    rw [List.foldlM_cons]
    exact Setup.bind (addOne id n routine) fun n => ih n

theorem wrapRoutine (id : ProfilerId) (routine : RoutineId) :
    Setup registry (wrapRoutine id routine).run := by
  unfold Engine.wrapRoutine
  refine tryBind ?_ fun _ => ?_
  · rw [discard_eq_bind]
    exact tryBind (addRoutine id routine) fun _ => Setup.pure _
  · refine tryReading (fun _ => ()) (fun _ =>
      liftM (Engine.newWrapper routine { registry, profiler := id })) (fun e h => ?_) (fun _ => rfl)
      fun _ => ?_
    · have own : (e.profiler id).registry = registry := h.sole.profilers id
      rw [own]
    · exact (newWrapper routine id).bind fun _ => Setup.pure _

end Setup

end LineClock
