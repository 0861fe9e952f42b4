import LineClock.Proofs.Engine.Audience
import LineClock.Proofs.Engine.Tenant

/-!
# A machine with a tampering tool

The machine's surroundings with a tool beside the engine whose callbacks tamper with its id whenever
they are called. The tool has a state of its own and sees the whole engine. Beside it stand notes that nothing
depends on: how the profilers found the facility each time they began to listen, the engine after
each monitoring event, and the announcements to the trace hook.

Main statement: `Tampered.announceEvent`.
-/

namespace LineClock

open Machine Engine

variable {τ : Type} {registry : RegistryId}

/-- What a callback of a tool does when it is called. -/
structure Deed (registry : RegistryId) (τ : Type) where
  tampers : List (Tamper registry) := []
  action : MonitorAction := .goOn
  /-- The tool's own state afterwards. -/
  tool : τ

/-- How the callbacks of a tool answer, from its own state and all that they can see. -/
abbrev Tool (registry : RegistryId) (τ : Type) :=
  τ → Engine → ScriptId → MonitorEvent → Deed registry τ

/-- An engine with a tool beside it. -/
structure Tampered (τ : Type) where
  engine : Engine
  tool : τ
  /-- The facility as the profilers found it each time they began to listen. -/
  found : List Facility := []
  /-- The engine after each monitoring event, the newest first. -/
  heard : List Engine := []
  /-- What was announced to the trace hook, the newest first. -/
  log : List Sighting := []

namespace Tampered

/-- Another engine. If the profilers began to listen, it is noted how they found the facility. -/
def moveTo (registry : RegistryId) (x : Tampered τ) (e : Engine) : Tampered τ :=
  { x with
    engine := e
    found :=
      if (x.engine.share registry).threads = 0 ∧ 0 < (e.share registry).threads then
        x.engine.facility :: x.found
      else x.found }

/-- The state after a callback was called. Callbacks for entered frames, which profilers do not
take over, leave the facility alone. -/
def after (x : Tampered τ) (event : MonitorEvent) (deed : Deed registry τ) : Tampered τ :=
  { x with
    tool := deed.tool
    engine := { x.engine with
      facility :=
        if event.kind = .start then x.engine.facility else Tamper.all x.engine.facility deed.tampers } }

/-- The scripts of a tool. -/
def scripts (tool : Tool registry τ) : Scripts (Tampered τ) where
  engine x := x.engine
  withEngine x e := x.moveTo registry e
  trace _ frame _ := pure frame.linesOn
  monitor id event := ExceptT.mk do
    let x ← get
    let deed := tool x.tool x.engine id event
    set (x.after event deed)
    return .ok deed.action

/-- The machine's surroundings, with the notes of all events. -/
def host (tool : Tool registry τ) : Host (Tampered τ) :=
  { (scripts tool).host with
    trace := fun frame event => do
      modify fun x => { x with log := ⟨x.engine.scene registry, frame, event⟩ :: x.log }
      (scripts tool).announceTrace frame event
    monitor := fun event => do
      (scripts tool).announceEvent event
      modify fun x => { x with heard := x.engine :: x.heard } }

variable {x : Tampered τ} {event : MonitorEvent} {tool : Tool registry τ}

/-- While as many threads listen as before, nothing is noted. -/
theorem moveTo_same {e : Engine}
    (same : (e.share registry).threads = (x.engine.share registry).threads) :
    x.moveTo registry e = { x with engine := e } := by
  unfold moveTo
  rw [same, if_neg fun h => absurd h.1 (Nat.ne_of_gt h.2)]

theorem lawful (x : Tampered τ) : (scripts tool).withEngine x ((scripts tool).engine x) = x :=
  moveTo_same rfl

/-- The one kind that profilers do not listen to. -/
theorem kind_start {kind : EventKind} (h : kind ∉ ourKinds) : kind = .start := by
  cases kind with
  | start => rfl
  | line | ret | yield | raise | reraise | unwind => exact absurd (by simp [ourKinds]) h

/-! ## Events -/

/-- No location is switched off while the profilers listen. -/
def Open (registry : RegistryId) (x : Tampered τ) : Prop :=
  0 < (x.engine.share registry).threads → x.engine.facility.Clear

/-- What is left of a state after an event: the profilers stand as they did, and nothing was noted. -/
structure Keeps (registry : RegistryId) (x x' : Tampered τ) : Prop where
  atTool : AtTool (Tenanted registry) registry x'.engine
  dispatch : ∀ th, x'.engine.dispatchAt th registry = x.engine.dispatchAt th registry
  threads : (x'.engine.share registry).threads = (x.engine.share registry).threads
  found : x'.found = x.found
  heard : x'.heard = x.heard
  log : x'.log = x.log

/-- A callback that gets an event from the profilers. -/
theorem deliverEvent_busy (tool : Tool registry τ) (event : MonitorEvent)
    (h : Unguarded registry x.engine) (monitored : x.engine.monitored = true)
    (busy : (x.engine.dispatchOf registry).busy = true) (tame : x.engine.facility.Tame registry)
    {hook : ToolHook} (within : hook.Within registry) (hops : Nat) :
    ∃ action tool' f, answer ((scripts tool).deliverEvent hops hook event) x =
        (.ok action, { x with tool := tool', engine := { x.engine with facility := f } }) ∧
      f.Tame registry ∧ ∀ d ∈ f.disabled, d ∈ x.engine.facility.disabled := by
  have delivered : answer ((scripts tool).deliverEvent hops hook event) x = _ :=
    (scripts tool).answer_deliverEvent_busy lawful h monitored busy within hops
  split at delivered
  · exact ⟨_, x.tool, x.engine.facility, delivered, tame, fun _ mem => mem⟩
  · rename_i id _
    let deed := tool x.tool x.engine id event
    refine ⟨deed.action, deed.tool, _, delivered, ?_, fun d mem => ?_⟩
    · split
      · exact tame
      · exact Tamper.tame_all deed.tampers tame
    · split at mem
      · exact mem
      · exact Tamper.mem_disabled_all deed.tampers mem
  · exact ⟨_, x.tool, x.engine.facility, delivered, tame, fun _ mem => mem⟩

/-- An event that the profilers' callback keeps to itself. -/
theorem deliverEvent_kept {hook : ToolHook} {serial : Nat} {e : Engine}
    (ours : (uncover event hook).run x.engine = (some (.profiler registry serial), x.engine))
    (kept : (takeEvent registry event).run x.engine = (none, e))
    (same : (e.share registry).threads = (x.engine.share registry).threads) (hops : Nat) :
    answer ((scripts tool).deliverEvent (hops + 1) hook event) x =
      (.ok .goOn, { x with engine := e }) := by
  have kept : (takeEvent registry event).run ((scripts tool).engine x) = (none, e) := kept
  rw [(scripts tool).answer_deliverEvent_taken (x := x) lawful hops ours, kept]
  exact congrArg (Prod.mk _) (moveTo_same same)

/-- An event that goes on to a callback of the tool, which may tamper with the id. -/
theorem deliverEvent_passed (h : AtTool (Tenanted registry) registry x.engine) {hook : ToolHook}
    {serial : Nat}
    (ours : (uncover event hook).run x.engine = (some (.profiler registry serial), x.engine))
    {wrapped : ToolHook}
    (next : ((x.engine.share registry).noticed x.engine.facility.restarts).next? event = some wrapped)
    (passed : (takeEvent registry event).run x.engine =
      (some wrapped, (taken registry x.engine event).waiting registry)) (hops : Nat) :
    ∃ x', answer ((scripts tool).deliverEvent (hops + 1) hook event) x = (.ok .goOn, x') ∧
      Keeps registry x x' ∧ x'.engine.scene registry = (x.engine.scene registry).hearEvent event ∧
      ∀ d ∈ x'.engine.facility.disabled, d ∈ x.engine.facility.disabled := by
  have h₂ := h.place.noticed x.engine.facility.restarts
  obtain ⟨-, within⟩ := h₂.wrapped _ _ (ToolShare.wrapped_of_next? next)
  -- something is wrapped only while the profilers listen, so the registry knows its callbacks
  have on : 0 < ((x.engine.share registry).noticed x.engine.facility.restarts).threads := by
    refine Nat.pos_of_ne_zero fun none => ?_
    cases (h₂.nothing none event.kind).symm.trans (ToolShare.wrapped_of_next? next)
  let e₃ := (taken registry x.engine event).waiting registry
  have u₃ : Unguarded registry e₃ := unguarded_waiting h.unguarded event
  obtain ⟨action, tool', f₁, answered, tame, fewer⟩ :=
    deliverEvent_busy (x := { x with engine := e₃ }) tool event u₃
      h.monitored (busy_waiting event) h.place.tame within hops
  let e₄ : Engine := { e₃ with facility := f₁ }
  have u₄ : Unguarded registry e₄ := u₃.same rfl rfl
  have share₄ : e₄.share registry = (x.engine.share registry).noticed x.engine.facility.restarts :=
    share_waiting h.unguarded event
  have threads₄ : (e₄.share registry).threads = (x.engine.share registry).threads :=
    (congrArg ToolShare.threads share₄).trans (ToolShare.threads_noticed _ _)
  have armed : (e₄.share registry).Armed registry := by
    rw [share₄]
    exact (h₂.held on).armed
  obtain ⟨f, s₁, absorbed, absorbs⟩ := answer_absorbEvent u₄ armed event action
  rw [share₄] at absorbs
  let s : ToolShare := s₁.answered event action
  have again := idle_again (e := recorded registry x.engine event) (h.idle x.engine.thread) e₄
    ⟨_, _, _, f₁, rfl⟩ e₄.hooks f s
  rw [again] at absorbed
  let e₅ := (retooled registry (recorded registry x.engine event) e₄.hooks f s).withDispatch registry
    (x.engine.dispatchOf registry)
  have threads : s.threads = (x.engine.share registry).threads :=
    (ToolShare.threads_answered s₁ event action).trans
      (absorbs.threads.trans (ToolShare.threads_noticed _ _))
  have share₅ : (e₅.share registry).threads = (x.engine.share registry).threads :=
    (congrArg ToolShare.threads (share_answered h.unguarded event e₄.hooks f s)).trans threads
  refine ⟨{ x with tool := tool', engine := e₅ }, ?_,
    ⟨h.answered event e₄.hooks threads ((h₂.absorbs on tame absorbs).answered event action),
      fun th => withDispatch_same _ rfl th, share₅, rfl, rfl, rfl⟩,
    scene_answered h.unguarded event e₄.hooks f s, fun d mem => ?_⟩
  · have passed : (takeEvent registry event).run ((scripts tool).engine x) = (some wrapped, e₃) :=
      passed
    have moved : (scripts tool).withEngine x e₃ = { x with engine := e₃ } :=
      moveTo_same threads₄
    have absorbed : answer (absorbEvent registry event (.ok action))
      ((scripts tool).engine { x with tool := tool', engine := e₄ }) = (.ok .goOn, e₅) := absorbed
    rw [(scripts tool).answer_deliverEvent_taken (x := x) lawful hops ours, passed]
    simp only
    rw [moved, answered, Scripts.answer_tryRun, absorbed]
    exact congrArg (Prod.mk _) (moveTo_same (share₅.trans threads₄.symm))
  · have mem : d ∈ f.disabled := mem
    rw [absorbs.disabled] at mem
    exact fewer d mem

/-- The profilers' callback records an event, passes it on, and undoes what became of the id. -/
theorem deliverEvent_ours (tool : Tool registry τ)
    (h : AtTool (Tenanted registry) registry x.engine) {hook : ToolHook}
    {serial : Nat}
    (ours : (uncover event hook).run x.engine = (some (.profiler registry serial), x.engine))
    (hops : Nat) :
    ∃ x', answer ((scripts tool).deliverEvent (hops + 1) hook event) x = (.ok .goOn, x') ∧
      Keeps registry x x' ∧ x'.engine.scene registry = (x.engine.scene registry).hearEvent event ∧
      ∀ d ∈ x'.engine.facility.disabled, d ∈ x.engine.facility.disabled := by
  have asked := run_takeEvent h.unguarded h.monitored (h.idle x.engine.thread) event
  simp only at asked
  split at asked
  · cases next : ((x.engine.share registry).noticed x.engine.facility.restarts).next? event with
    | none =>
      rw [next] at asked
      have threads := (congrArg ToolShare.threads (share_taken h.unguarded event)).trans
        (ToolShare.threads_noticed _ _)
      exact ⟨_, deliverEvent_kept ours asked threads hops,
        ⟨h.taken event fun place => place.noticed _, fun _ => rfl, threads, rfl, rfl, rfl⟩, scene_taken h.unguarded event, fun _ mem => mem⟩
    | some wrapped =>
      rw [next] at asked
      exact deliverEvent_passed h ours next asked hops
  · exact ⟨_, deliverEvent_kept ours asked rfl hops,
      ⟨h.withProfilers _, fun _ => rfl, rfl, rfl, rfl, rfl⟩, scene_hearEvent registry x.engine event,
      fun _ mem => mem⟩

/-- An event of a kind that profilers do not listen to, or while they do not listen. -/
def Apart (registry : RegistryId) (x : Tampered τ) (event : MonitorEvent) : Prop :=
  (x.engine.share registry).threads = 0 ∨ event.kind ∉ ourKinds

/-- Profilers make nothing of an event that is apart from them. -/
theorem hearEvent_apart (h : AtTool (Tenanted registry) registry x.engine)
    (balanced : Balanced registry x.engine) (apart : Apart registry x event) :
    (x.engine.scene registry).hearEvent event = x.engine.scene registry := by
  rcases apart with nowhere | other
  · exact Scene.hearEvent_nobody (h.nobody nowhere balanced) event
  · exact Scene.hearEvent_other _ other

/-- The facility after a callback of the tool was called while the profilers had no part in it. -/
theorem place_after (h : AtTool (Tenanted registry) registry x.engine)
    (apart : Apart registry x event) (deed : Deed registry τ) :
    Tenanted registry (x.after event deed).engine.facility (x.engine.share registry) ∧
      ∀ d ∈ (x.after event deed).engine.facility.disabled, d ∈ x.engine.facility.disabled := by
  show Tenanted registry (if event.kind = .start then x.engine.facility
      else Tamper.all x.engine.facility deed.tampers) (x.engine.share registry) ∧
    ∀ d ∈ (if event.kind = .start then x.engine.facility
      else Tamper.all x.engine.facility deed.tampers).disabled, d ∈ x.engine.facility.disabled
  by_cases start : event.kind = .start
  · rw [if_pos start]
    exact ⟨h.place, fun _ mem => mem⟩
  · rw [if_neg start]
    rcases apart with nowhere | other
    · exact ⟨h.place.own (Tamper.tame_all _ h.place.tame) nowhere, fun _ => Tamper.mem_disabled_all _⟩
    · exact absurd (kind_start other) start

/-- An event that the tool hears of itself, and what its answer switches off. -/
theorem deliverTo_own (h : AtTool (Tenanted registry) registry x.engine)
    (apart : Apart registry x event) {hook : ToolHook} {action : MonitorAction} {tool' : τ}
    {f : Facility}
    (delivered : answer ((scripts tool).deliverEvent ((scripts tool).hopsAt x) hook event) x =
      (.ok action, { x with tool := tool', engine := { x.engine with facility := f } }))
    (place : Tenanted registry f (x.engine.share registry))
    (fewer : ∀ d ∈ f.disabled, d ∈ x.engine.facility.disabled) :
    ∃ x', answer ((scripts tool).deliverTo event (Facility.profilerTool, hook)) x = (.ok (), x') ∧
      Keeps registry x x' ∧ x'.engine.scene registry = x.engine.scene registry ∧
      (Open registry x → Open registry x') := by
  rw [Scripts.answer_deliverTo, delivered]
  simp only
  split
  · refine ⟨{ x with
      tool := tool'
      engine := { x.engine with
        facility := f.disable Facility.profilerTool event.location } }, ?_,
      ⟨h.withFacility (place.disable _), fun _ => rfl, rfl, rfl, rfl, rfl⟩, rfl, fun clear on => ?_⟩
    · exact congrArg (Prod.mk _) (moveTo_same rfl)
    · rcases apart with nowhere | other
      · exact absurd nowhere (Nat.ne_of_gt on)
      · exact ((clear on).fewer fewer).disable other
  · exact ⟨_, rfl, ⟨h.withFacility place, fun _ => rfl, rfl, rfl, rfl, rfl⟩, rfl,
      fun clear on => (clear on).fewer fewer⟩

/-- What an announced event leaves. Profilers hear of it if no location is switched off while they
listen. -/
structure Told (registry : RegistryId) (event : MonitorEvent) (x x' : Tampered τ) : Prop where
  keeps : Keeps registry x x'
  scene : x'.engine.scene registry = x.engine.scene registry ∨
    x'.engine.scene registry = (x.engine.scene registry).hearEvent event
  heard : Open registry x → Open registry x' ∧
    x'.engine.scene registry = (x.engine.scene registry).hearEvent event

/-- An event of which profilers make nothing. -/
theorem Told.apart {x' : Tampered τ} (h : AtTool (Tenanted registry) registry x.engine)
    (balanced : Balanced registry x.engine) (apart : Open registry x → Apart registry x event)
    (keeps : Keeps registry x x') (scene : x'.engine.scene registry = x.engine.scene registry)
    (clear : Open registry x → Open registry x') : Told registry event x x' :=
  ⟨keeps, .inl scene, fun c => ⟨clear c, scene.trans (hearEvent_apart h balanced (apart c)).symm⟩⟩

/-- An event of which nobody hears. -/
theorem Told.unheard (h : AtTool (Tenanted registry) registry x.engine)
    (balanced : Balanced registry x.engine) (apart : Open registry x → Apart registry x event) :
    Told registry event x x :=
  .apart h balanced apart ⟨h, fun _ => rfl, rfl, rfl, rfl, rfl⟩ rfl fun clear => clear

/-- An event is apart from the profilers unless they listen for it. -/
theorem apart_of_silent (silent : 0 < (x.engine.share registry).threads → event.kind ∉ ourKinds) :
    Apart registry x event := by
  by_cases on : 0 < (x.engine.share registry).threads
  · exact .inr (silent on)
  · exact .inl (Nat.eq_zero_of_not_pos on)

/-- A callback hears of an event. -/
theorem deliverTo_told (h : AtTool (Tenanted registry) registry x.engine)
    (balanced : Balanced registry x.engine) {hook : ToolHook}
    (there : x.engine.facility.callback? Facility.profilerTool event.kind = some hook) :
    ∃ x', answer ((scripts tool).deliverTo event (Facility.profilerTool, hook)) x = (.ok (), x') ∧
      Told registry event x x' := by
  have within := h.place.tame.within _ _ there
  have bare := run_uncover h.unguarded h.monitored event within
  -- where the profilers listen, their own callback is the one that is there
  have apart : (∀ serial, hook ≠ .profiler registry serial) → Apart registry x event := by
    refine fun foreign => apart_of_silent fun on mem => ?_
    obtain ⟨serial, mine, -⟩ := (h.place.held on).ours event.kind mem
    cases mine.symm.trans there
    exact foreign serial rfl
  cases core : hook.core? event (x.engine.isAttached registry) x.engine.facility.restarts with
  | none =>
    rw [core] at bare
    have alone : Apart registry x event := by
      refine apart ?_
      rintro serial rfl
      cases core
    obtain ⟨x', told, keeps, scene, clear⟩ := deliverTo_own h alone
      ((scripts tool).answer_deliverEvent_covered lawful _ bare) h.place fun _ mem => mem
    exact ⟨x', told, .apart h balanced (fun _ => alone) keeps scene clear⟩
  | some below =>
    rw [core] at bare
    rcases ToolHook.of_core? within core with ⟨id, rfl⟩ | ⟨serial, rfl⟩
    · have alone : Apart registry x event := by
        refine apart ?_
        rintro serial rfl
        cases core
      obtain ⟨place, fewer⟩ := place_after h alone (tool x.tool x.engine id event)
      obtain ⟨x', told, keeps, scene, clear⟩ := deliverTo_own h alone
        ((scripts tool).answer_deliverEvent_script lawful _ bare) place fewer
      exact ⟨x', told, .apart h balanced (fun _ => alone) keeps scene clear⟩
    · obtain ⟨x', delivered, keeps, scene, fewer⟩ := deliverEvent_ours tool h bare
        (x.engine.registries.entries.length)
      have delivered : answer ((scripts tool).deliverEvent ((scripts tool).hopsAt x) hook event) x =
        (.ok .goOn, x') := delivered
      rw [Scripts.answer_deliverTo, delivered]
      refine ⟨x', rfl, keeps, .inr scene, fun clear => ⟨fun on => ?_, scene⟩⟩
      rw [keeps.threads] at on
      exact (clear on).fewer fewer

/-- **Every monitoring event** leaves the profilers standing as they did. -/
theorem announceEvent (h : AtTool (Tenanted registry) registry x.engine)
    (balanced : Balanced registry x.engine) (tool : Tool registry τ) (event : MonitorEvent) :
    ∃ x', answer ((scripts tool).announceEvent event) x = (.ok (), x') ∧ Told registry event x x' := by
  have monitored : ((scripts tool).engine x).monitored = true := h.monitored
  have targets : ((scripts tool).engine x).facility.targets event = _ :=
    Facility.targets_sole h.place.tame.others event
  rw [Scripts.answer_announceEvent, if_pos monitored, targets]
  split
  · cases there : x.engine.facility.callback? Facility.profilerTool event.kind with
    | none =>
      refine ⟨x, rfl, .unheard h balanced fun _ => apart_of_silent fun on mem => ?_⟩
      obtain ⟨serial, mine, -⟩ := (h.place.held on).ours event.kind mem
      cases mine.symm.trans there
    | some hook =>
      rw [Option.map_some, Option.toList_some, Scripts.answer_forM_one]
      exact deliverTo_told h balanced there
  · rename_i unseen
    refine ⟨x, rfl, .unheard h balanced fun clear => apart_of_silent fun on mem => ?_⟩
    refine unseen ⟨(h.place.held on).subscribed mem, ?_⟩
    show ¬ x.engine.facility.isDisabled Facility.profilerTool event.location = true
    rw [(clear on).isDisabled mem]
    exact Bool.false_ne_true

end Tampered

end LineClock
