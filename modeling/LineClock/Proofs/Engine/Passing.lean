import LineClock.Proofs.Engine.AtTool

/-!
# Passing monitoring events on

To whom the profilers' callback passes a monitoring event on, and what a callback does that gets an
event from there. Layers are seen through without changing anything; the profilers' callback notices
restarts and marks its registry as busy, and while it is busy nothing is passed on a second time.

Main statements: `run_uncover`, `run_takeEvent` and `Scripts.answer_deliverEvent_busy`.
-/

namespace LineClock

open Machine Engine

namespace ToolHook

/-- A hook that belongs to scripts and to one registry. -/
def Within (registry : RegistryId) : ToolHook → Prop
  | .script _ => True
  | .profiler owner _ => owner = registry
  | .replay wrapped _ _ owner => owner = registry ∧ wrapped.Within registry

/-- The hook below all layers, unless one of them answers for it. -/
def core? (event : MonitorEvent) (attached : Bool) (restarts : Nat) : ToolHook → Option ToolHook
  | .replay wrapped locations version _ =>
    if attached ∧ restarts = version ∧ locations.contains (event.block.id, event.offset) then none
    else wrapped.core? event attached restarts
  | hook => some hook

/-- Below all layers is a script or a profiler of the registry. -/
theorem of_core? {registry : RegistryId} {event : MonitorEvent} {attached : Bool} {restarts : Nat}
    {hook core : ToolHook} (within : hook.Within registry)
    (found : hook.core? event attached restarts = some core) :
    (∃ id, core = .script id) ∨ ∃ serial, core = .profiler registry serial := by
  induction hook with
  | script id =>
    cases found
    exact .inl ⟨id, rfl⟩
  | profiler owner serial =>
    cases found
    have own : owner = registry := within
    rw [own]
    exact .inr ⟨serial, rfl⟩
  | replay wrapped locations version owner ih =>
    unfold core? at found
    split at found
    · cases found
    · exact ih within.2 found

end ToolHook

namespace ToolShare

/-- The share once it noticed how often the facility was restarted. -/
def noticed (s : ToolShare) (restarts : Nat) : ToolShare :=
  if s.seenRestart = restarts then s else { s with seenRestart := restarts, disabled := [] }

/-- The wrapped callback for an event, if the wrapped tool would hear of it. -/
def next? (s : ToolShare) (event : MonitorEvent) : Option ToolHook :=
  if s.wrappedEvents.contains event.kind ∧ ¬ s.disabled.contains event.location then
    s.wrapped.get? event.kind
  else
    none

theorem noticed_eq (s : ToolShare) (restarts : Nat) : s.noticed restarts =
    { s with
      seenRestart := (s.noticed restarts).seenRestart
      disabled := (s.noticed restarts).disabled } := by
  unfold noticed
  split <;> rfl

theorem threads_noticed (s : ToolShare) (restarts : Nat) : (s.noticed restarts).threads = s.threads := by
  rw [s.noticed_eq]

theorem wrapped_of_next? {s : ToolShare} {event : MonitorEvent} {hook : ToolHook}
    (h : s.next? event = some hook) : s.wrapped.get? event.kind = some hook := by
  unfold next? at h
  split at h
  · exact h
  · cases h

/-- An event goes on if the wrapped tool subscribed to its kind and did not switch its location
off. -/
theorem heard_of_next? {s : ToolShare} {event : MonitorEvent} {hook : ToolHook}
    (h : s.next? event = some hook) :
    s.wrappedEvents.contains event.kind = true ∧ event.location ∉ s.disabled := by
  unfold next? at h
  split at h
  · rename_i heard
    exact ⟨heard.1, fun off => heard.2 (List.contains_iff_mem.mpr off)⟩
  · cases h

end ToolShare

/-- If callbacks are registered under the profilers' id alone, the one there hears of an event or
nobody does. -/
theorem Facility.targets_sole {f : Facility}
    (others : ∀ tool kind, tool ≠ profilerTool → f.callback? tool kind = none) (event : MonitorEvent) :
    f.targets event =
      if (f.eventsOf profilerTool).contains event.kind ∧
        ¬ f.isDisabled profilerTool event.location then
        ((f.callback? profilerTool event.kind).map fun hook => (profilerTool, hook)).toList
      else [] := by
  have ids : toolIds = [0, 1, 2, 3, 4, 5] := rfl
  have none₀ := others 0 event.kind (by decide)
  have none₁ := others 1 event.kind (by decide)
  have none₃ := others 3 event.kind (by decide)
  have none₄ := others 4 event.kind (by decide)
  have none₅ := others 5 event.kind (by decide)
  have here : profilerTool = 2 := rfl
  unfold targets
  rw [ids, here]
  by_cases heard : (f.eventsOf 2).contains event.kind ∧ ¬ f.isDisabled 2 event.location
  · rw [if_pos heard]
    cases there : f.callback? 2 event.kind <;>
      simp [none₀, none₁, none₃, none₄, none₅, there, heard.1, heard.2]
  · rw [if_neg heard]
    simp only [List.filterMap_cons, List.filterMap_nil, none₀, none₁, none₃, none₄, none₅,
      Option.map_none, ite_self, if_neg heard]

namespace Engine

variable {registry : RegistryId} {e : Engine}

/-- Layers are seen through without changing anything. -/
theorem run_uncover (h : Unguarded registry e) (monitored : e.monitored = true) (event : MonitorEvent)
    {hook : ToolHook} (within : hook.Within registry) :
    (uncover event hook).run e =
      (hook.core? event (e.isAttached registry) e.facility.restarts, e) := by
  induction hook with
  | script | profiler => rfl
  | replay wrapped locations version owner ih =>
    obtain ⟨rfl, inside⟩ := within
    have found : (reach owner).run e = (true, e) := by
      rw [run_reach h, monitored]
    have asked : (replays owner locations version event).run e =
        (decide (e.isAttached owner ∧ e.facility.restarts = version ∧
          locations.contains (event.block.id, event.offset)), e) := by
      unfold replays
      rw [run_state_get_bind]
      by_cases attached : e.isAttached owner
      · rw [if_pos attached, run_state_bind found, attached]
        simp only [if_true, true_and]
        rfl
      · rw [if_neg attached]
        simp only [attached]
        rfl
    unfold Engine.uncover
    rw [run_state_bind asked, ToolHook.core?]
    by_cases answers : e.isAttached owner ∧ e.facility.restarts = version ∧
      locations.contains (event.block.id, event.offset)
    · rw [if_pos (decide_eq_true answers), if_pos answers]
      rfl
    · rw [if_neg (by simpa using answers), if_neg answers]
      exact ih inside

/-- The wrapped callback for an event, as the share knows it after noticing restarts. -/
theorem run_wrappedFor (h : Unguarded registry e) (monitored : e.monitored = true)
    (event : MonitorEvent) :
    (wrappedFor registry event).run e =
      if e.isAttached registry then
        (((e.share registry).noticed e.facility.restarts).next? event,
          retooled registry e e.hooks e.facility ((e.share registry).noticed e.facility.restarts))
      else (none, e) := by
  have found : (reach registry).run e = (true, e) := by
    rw [run_reach h, monitored]
  unfold Engine.wrappedFor
  rw [run_state_get_bind]
  by_cases attached : e.isAttached registry
  · rw [if_pos attached, if_pos attached, run_state_bind found]
    simp only [if_true]
    have noticed : (noticeRestart registry).run e = ((),
        retooled registry e e.hooks e.facility ((e.share registry).noticed e.facility.restarts)) := by
      unfold noticeRestart
      rw [run_state_get_bind]
      exact run_modifyShare h _
    rw [run_state_bind noticed, run_state_bind run_shareOf, share_retooled h]
    unfold ToolShare.next?
    split <;> rfl
  · rw [if_neg attached, if_neg attached]
    rfl

/-- A busy registry takes no event. -/
theorem run_takeEvent_busy (busy : (e.dispatchOf registry).busy = true) (event : MonitorEvent) :
    (takeEvent registry event).run e = (none, e) := by
  unfold takeEvent
  rw [run_state_get_bind, busy]
  rfl

/-- The engine after an event was recorded. -/
def recorded (registry : RegistryId) (e : Engine) (event : MonitorEvent) : Engine :=
  e.withProfilers ((e.scene registry).hearEvent event).profilers

/-- The engine while a registry waits for the callback to which it passed an event on. -/
def waiting (registry : RegistryId) (e : Engine) : Engine :=
  e.withDispatch registry { e.dispatchOf registry with busy := true }

/-- An event is recorded, and then the next callback is looked up, if the event goes on at all. -/
theorem run_takeEvent (h : Unguarded registry e) (monitored : e.monitored = true)
    (idle : (e.dispatchOf registry).busy = false) (event : MonitorEvent) :
    (takeEvent registry event).run e =
      let e₁ := recorded registry e event
      let s := (e.share registry).noticed e.facility.restarts
      let e₂ := retooled registry e₁ e.hooks e.facility s
      if e₁.goesOn registry ∧ e.isAttached registry then
        match s.next? event with
        | none => (none, e₂)
        | some hook => (some hook, e₂.waiting registry)
      else (none, e₁) := by
  have h₁ : Unguarded registry (recorded registry e event) := h.same rfl rfl
  have next := run_wrappedFor h₁ monitored event
  unfold takeEvent
  rw [run_state_get_bind, idle]
  simp only [Bool.false_eq_true, if_false]
  rw [run_state_bind (run_recordEvent registry e event), run_state_get_bind]
  change (if (recorded registry e event).goesOn registry = true then _ else _ :
    StateM Engine (Option ToolHook)).run (recorded registry e event) = _
  by_cases on : (recorded registry e event).goesOn registry
  · rw [if_pos on]
    have same : (recorded registry e event).isAttached registry = e.isAttached registry := rfl
    rw [same] at next
    by_cases attached : e.isAttached registry
    · rw [if_pos attached] at next
      rw [run_state_bind next, if_pos ⟨on, attached⟩]
      have share : (recorded registry e event).share registry = e.share registry := rfl
      have facility : (recorded registry e event).facility = e.facility := rfl
      rw [share, facility]
      cases ((e.share registry).noticed e.facility.restarts).next? event <;> rfl
    · rw [if_neg attached] at next
      rw [run_state_bind next, if_neg fun h => attached h.2]
      rfl
  · rw [if_neg on, if_neg fun h => on h.1]
    rfl

/-- The engine after an event was recorded and a restart noticed. -/
def taken (registry : RegistryId) (e : Engine) (event : MonitorEvent) : Engine :=
  retooled registry (recorded registry e event) e.hooks e.facility
    ((e.share registry).noticed e.facility.restarts)

/-- The share of the registry after that. -/
theorem share_taken (h : Unguarded registry e) (event : MonitorEvent) :
    (taken registry e event).share registry = (e.share registry).noticed e.facility.restarts :=
  share_retooled (e := recorded registry e event) (h.same rfl rfl) _ _ _

theorem scene_taken (h : Unguarded registry e) (event : MonitorEvent) :
    (taken registry e event).scene registry = (e.scene registry).hearEvent event :=
  (scene_retooled (e := recorded registry e event) (h.same rfl rfl) _ _ _).trans
    (scene_hearEvent registry e event)

/-- When the callback has answered, the registry is idle again, whatever became of the facility. -/
theorem idle_again (idle : (e.dispatchOf registry).busy = false) (e' : Engine)
    (back : ∃ hooks f s f', e' = { (retooled registry e hooks f s).waiting registry with
      facility := f' }) (hooks : Nat) (f : Facility) (s : ToolShare) :
    (retooled registry e' hooks f s).withDispatch registry
        { e'.dispatchOf registry with busy := false } =
      (retooled registry e hooks f s).withDispatch registry (e.dispatchOf registry) := by
  obtain ⟨hooks₁, f₁, s₁, f₂, rfl⟩ := back
  have read : ({ (retooled registry e hooks₁ f₁ s₁).waiting registry with
      facility := f₂ } : Engine).dispatchOf registry = { e.dispatchOf registry with busy := true } :=
    withDispatch_dispatchOf registry (retooled registry e hooks₁ f₁ s₁) _
  have mine : ({ e.dispatchOf registry with busy := false } : Dispatch) = e.dispatchOf registry := by
    rw [← idle]
  rw [read, mine]
  unfold waiting withDispatch retooled
  simp only [Assoc.set_set, Assoc.modify_modify]

/-- What the running thread knows is put back. -/
theorem withDispatch_same (d : Dispatch) (same : e.dispatchOf registry = d) (th : ThreadKey) :
    (e.withDispatch registry d).dispatchAt th registry = e.dispatchAt th registry := by
  rw [withDispatch_dispatchAt]
  split
  · rename_i here
    rw [here, ← same]
    rfl
  · rfl

/-! ## While a callback answers, and afterwards -/

section

variable (h : Unguarded registry e) (event : MonitorEvent)

include h

theorem unguarded_waiting : Unguarded registry ((taken registry e event).waiting registry) := by
  have there : Unguarded registry (taken registry e event) :=
    Unguarded.retooled (e := recorded registry e event) (h.same rfl rfl) _ _ _
  exact there.same rfl rfl

theorem share_waiting : ((taken registry e event).waiting registry).share registry =
    (e.share registry).noticed e.facility.restarts := share_taken h event

omit h in
theorem busy_waiting :
    (((taken registry e event).waiting registry).dispatchOf registry).busy = true :=
  congrArg Dispatch.busy (withDispatch_dispatchOf registry (taken registry e event) _)

theorem share_answered (hooks : Nat) (f : Facility) (s : ToolShare) :
    ((retooled registry (recorded registry e event) hooks f s).withDispatch registry
      (e.dispatchOf registry)).share registry = s :=
  share_retooled (e := recorded registry e event) (h.same rfl rfl) hooks f s

theorem scene_answered (hooks : Nat) (f : Facility) (s : ToolShare) :
    ((retooled registry (recorded registry e event) hooks f s).withDispatch registry
      (e.dispatchOf registry)).scene registry = (e.scene registry).hearEvent event :=
  (scene_withDispatch_same registry _ rfl).trans
    ((scene_retooled (e := recorded registry e event) (h.same rfl rfl) hooks f s).trans
      (scene_hearEvent registry e event))

end

end Engine

/-- A registry stands as before when an event was passed on and answered, with what became of the
facility and of what it keeps of the id. -/
theorem AtTool.answered {P Q : Facility → ToolShare → Prop} {registry : RegistryId} {e : Engine}
    (h : AtTool P registry e) (event : MonitorEvent) (hooks : Nat) {f : Facility} {s : ToolShare}
    (threads : s.threads = (e.share registry).threads) (place : Q f s) :
    AtTool Q registry ((retooled registry (recorded registry e event) hooks f s).withDispatch registry
      (e.dispatchOf registry)) := by
  have there : AtTool P registry (recorded registry e event) := h.withProfilers _
  refine there.change hooks (h.idle e.thread) ?_ place
  obtain ⟨ths, distinct, mem, length⟩ := h.threads
  refine ⟨ths, distinct, fun th => ?_, length.trans threads.symm⟩
  rw [mem]
  split
  · rename_i here
    rw [here]
    rfl
  · rfl

/-- What noticing a restart does not end. -/
theorem AtTool.taken {P : Facility → ToolShare → Prop} {registry : RegistryId} {e : Engine}
    (h : AtTool P registry e)
    (event : MonitorEvent)
    (place : P e.facility (e.share registry) →
      P e.facility ((e.share registry).noticed e.facility.restarts)) :
    AtTool P registry (taken registry e event) :=
  (h.withProfilers _).retool _ (ToolShare.threads_noticed _ _) (place h.place)

namespace Scripts

variable {σ : Type} (s : Scripts σ) {x : σ} {registry : RegistryId} {event : MonitorEvent}
  {hook : ToolHook}

/-- An event for which a layer answers. -/
theorem answer_deliverEvent_covered (lawful : ∀ x, s.withEngine x (s.engine x) = x) (hops : Nat)
    (h : (uncover event hook).run (s.engine x) = (none, s.engine x)) :
    answer (s.deliverEvent hops hook event) x = (.ok .disable, x) := by
  have bare : (s.run (uncover event hook)).run x = (none, x) := by
    rw [run_run, h, lawful]
  cases hops <;>
  · unfold deliverEvent
    rw [answer_liftM_bind bare]
    rfl

/-- An event for a script, below all layers. -/
theorem answer_deliverEvent_script (lawful : ∀ x, s.withEngine x (s.engine x) = x) (hops : Nat)
    {id : ScriptId} (h : (uncover event hook).run (s.engine x) = (some (.script id), s.engine x)) :
    answer (s.deliverEvent hops hook event) x = answer (s.monitor id event) x := by
  have bare : (s.run (uncover event hook)).run x = (some (.script id), x) := by
    rw [run_run, h, lawful]
  cases hops <;>
  · unfold deliverEvent
    rw [answer_liftM_bind bare]

/-- An event that the profilers' callback takes, below all layers. -/
theorem answer_deliverEvent_taken (lawful : ∀ x, s.withEngine x (s.engine x) = x) (hops : Nat)
    {serial : Nat}
    (h : (uncover event hook).run (s.engine x) = (some (.profiler registry serial), s.engine x)) :
    answer (s.deliverEvent (hops + 1) hook event) x =
      match (takeEvent registry event).run (s.engine x) with
      | (none, e) => (.ok .goOn, s.withEngine x e)
      | (some wrapped, e) =>
        let passed := answer (s.deliverEvent hops wrapped event) (s.withEngine x e)
        answer (s.tryRun (absorbEvent registry event passed.1)) passed.2 := by
  have bare : (s.run (uncover event hook)).run x = (some (.profiler registry serial), x) := by
    rw [run_run, h, lawful]
  rw [deliverEvent, answer_liftM_bind bare]
  simp only
  rcases taken : (takeEvent registry event).run (s.engine x) with ⟨_ | wrapped, e⟩
  · have none : (s.run (takeEvent registry event)).run x = (none, s.withEngine x e) := by
      rw [run_run, taken]
    rw [answer_liftM_bind none]
    rfl
  · have some : (s.run (takeEvent registry event)).run x = (some wrapped, s.withEngine x e) := by
      rw [run_run, taken]
    rw [answer_liftM_bind some]
    rfl

/-- While a registry is busy, an event reaches a script or nobody. -/
theorem answer_deliverEvent_busy (lawful : ∀ x, s.withEngine x (s.engine x) = x)
    (h : Unguarded registry (s.engine x)) (monitored : (s.engine x).monitored = true)
    (busy : ((s.engine x).dispatchOf registry).busy = true) (within : hook.Within registry)
    (hops : Nat) :
    answer (s.deliverEvent hops hook event) x =
      match hook.core? event ((s.engine x).isAttached registry) (s.engine x).facility.restarts with
      | none => (.ok .disable, x)
      | some (.script id) => answer (s.monitor id event) x
      | some _ => (.ok .goOn, x) := by
  have bare := run_uncover h monitored event within
  cases found : hook.core? event ((s.engine x).isAttached registry)
      (s.engine x).facility.restarts with
  | none =>
    rw [found] at bare
    exact s.answer_deliverEvent_covered lawful hops bare
  | some core =>
    rw [found] at bare
    rcases ToolHook.of_core? within found with ⟨id, rfl⟩ | ⟨serial, rfl⟩
    · exact s.answer_deliverEvent_script lawful hops bare
    · cases hops with
      | zero =>
        have there : (s.run (uncover event hook)).run x = (some (.profiler registry serial), x) := by
          rw [run_run, bare, lawful]
        unfold deliverEvent
        rw [answer_liftM_bind there]
        rfl
      | succ hops =>
        rw [s.answer_deliverEvent_taken lawful hops bare, run_takeEvent_busy busy]
        simp only
        rw [lawful]

end Scripts

end LineClock
