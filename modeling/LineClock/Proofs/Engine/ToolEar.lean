import LineClock.Proofs.Engine.Absorbing
import LineClock.Proofs.Engine.Meek
import LineClock.Proofs.Engine.Standing

/-!
# Listening at the tool id among callbacks that fail

A registry that listens at the profilers' tool id, with callbacks of others at all ids that may fail,
and a script in the trace slot that may fail. When the callback that was taken over fails all that is
pending is dropped and the id is silenced, so the registry is deaf from then on. A callback at an id
before it that fails keeps an event from the profilers.

Main statements: `ToolEar.announceEvent` and `ToolEar.clearing`.
-/

namespace LineClock

open Machine Engine Earshot

/-- The kinds of events that tell that a frame is left. -/
def leavingKinds : List EventKind := [.ret, .yield, .unwind]

theorem leaving_ours {kind : EventKind} (left : kind ∈ leavingKinds) : kind ∈ ourKinds := by
  cases kind <;> first | decide | exact absurd left (by decide)

/-- How things stand around a registry at the tool id: the callbacks of others are those of `f₀`, and
the trace slot holds `home`, or nothing since that failed. -/
structure ToolSide (registry : RegistryId) (f₀ : Facility) (home : Option TraceHook) (e : Engine) :
    Prop where
  unguarded : Unguarded registry e
  monitored : e.monitored = true
  others : ∀ tool kind, ¬ (tool = Facility.profilerTool ∧ kind ∈ ourKinds) →
    e.facility.callback? tool kind = f₀.callback? tool kind
  slot : e.traceHook? = none ∨ e.traceHook? = home

/-- A registry at the tool id that hears whenever a frame is left, or is deaf because a callback
failed. -/
structure ToolEar (registry : RegistryId) (f₀ : Facility) (home : Option TraceHook) (deaf : Bool)
    (e : Engine) : Prop where
  side : ToolSide registry f₀ home e
  silent : deaf = true → e.facility.eventsOf Facility.profilerTool = .empty
  held : deaf = false → e.facility.Held registry (e.share registry)
  clear : deaf = false → ∀ location, location.kind ∈ leavingKinds →
    e.facility.isDisabled Facility.profilerTool location = false
  wrapped : deaf = false → ∀ kind hook, (e.share registry).wrapped.get? kind = some hook →
    ∃ id, hook = .script id

/-- A registry at the tool id that is not waiting for a callback. -/
def ToolIdle (registry : RegistryId) (f₀ : Facility) (home : Option TraceHook) (deaf : Bool)
    (e : Engine) : Prop :=
  ToolEar registry f₀ home deaf e ∧ (e.dispatchOf registry).busy = false

namespace ToolEar

variable {registry : RegistryId} {f₀ : Facility} {home : Option TraceHook} {deaf : Bool} {e : Engine}

theorem withDispatch (h : ToolEar registry f₀ home deaf e) (d : Dispatch) :
    ToolEar registry f₀ home deaf (e.withDispatch registry d) :=
  ⟨⟨h.side.unguarded.same rfl rfl, h.side.monitored, h.side.others, h.side.slot⟩, h.silent, h.held,
    h.clear, h.wrapped⟩

theorem withProfilers (h : ToolEar registry f₀ home deaf e) (profilers : Assoc ProfilerId Profiler) :
    ToolEar registry f₀ home deaf (e.withProfilers profilers) :=
  ⟨⟨h.side.unguarded.same rfl rfl, h.side.monitored, h.side.others, h.side.slot⟩, h.silent, h.held,
    h.clear, h.wrapped⟩

theorem withHook (h : ToolEar registry f₀ home deaf e) :
    ToolEar registry f₀ home deaf (e.withHook none) :=
  ⟨⟨h.side.unguarded.same rfl rfl, h.side.monitored, h.side.others, .inl (withHook_traceHook? e none)⟩,
    h.silent, h.held, h.clear, h.wrapped⟩

/-- What other tools subscribe to and have switched off does not matter. -/
theorem withFacility (h : ToolEar registry f₀ home deaf e) {f : Facility}
    (quieter : e.facility.Quieter (· ≠ Facility.profilerTool) f) :
    ToolEar registry f₀ home deaf { e with facility := f } := by
  have events := quieter.events Facility.profilerTool fun other => other rfl
  refine ⟨⟨h.side.unguarded.same rfl rfl, h.side.monitored, fun tool kind other => ?_, h.side.slot⟩,
    fun deaf => events.trans (h.silent deaf), fun hears => ?_, fun hears location left => ?_,
    h.wrapped⟩
  · exact (quieter.callback? tool kind).trans (h.side.others tool kind other)
  · have held := h.held hears
    refine ⟨?_, fun kind mem => ?_, events.trans held.events⟩
    · show (f.holders.get? Facility.profilerTool).isSome
      rw [quieter.holders]
      exact held.holder
    · obtain ⟨serial, there, known⟩ := held.ours kind mem
      exact ⟨serial, (quieter.callback? _ _).trans there, known⟩
  · exact (quieter.disabled _ location fun other => other rfl).trans (h.clear hears location left)

/-- What else the registry keeps of the id does not matter. -/
theorem withShare (h : ToolEar registry f₀ home false e) {s : ToolShare}
    (ours : s.ours = (e.share registry).ours) (wrapped : s.wrapped = (e.share registry).wrapped)
    (events : s.wrappedEvents = (e.share registry).wrappedEvents) :
    ToolEar registry f₀ home false (retooled registry e e.hooks e.facility s) := by
  have kept := share_retooled h.side.unguarded e.hooks e.facility s
  have held := h.held rfl
  refine ⟨⟨h.side.unguarded.retooled _ _ _, h.side.monitored, h.side.others, h.side.slot⟩,
    fun deaf => (by cases deaf), fun _ => ?_, fun _ => h.clear rfl, fun _ => ?_⟩
  · rw [kept]
    refine ⟨held.holder, fun kind mem => ?_, ?_⟩
    · rw [ours]
      exact held.ours kind mem
    · rw [events]
      exact held.events
  · rw [kept, wrapped]
    exact h.wrapped rfl

/-- An id that is silenced makes the registry deaf, whatever it keeps of the id. -/
theorem silence (side : ToolSide registry f₀ home e) :
    ToolEar registry f₀ home true
      { e with facility := e.facility.silence Facility.profilerTool } := by
  refine ⟨⟨side.unguarded.same rfl rfl, side.monitored, side.others, side.slot⟩, fun _ => ?_,
    fun hears => (by cases hears), fun hears => (by cases hears), fun hears => (by cases hears)⟩
  have read : (e.facility.silence Facility.profilerTool).eventsOf Facility.profilerTool =
    (e.facility.events.set Facility.profilerTool .empty).getD Facility.profilerTool .empty := rfl
  rw [read, Assoc.getD_set, if_pos rfl]

theorem earshot (registry : RegistryId) (f₀ : Facility) (home : Option TraceHook) :
    Earshot registry (ToolIdle registry f₀ home) where
  withActive {deaf e} h on := by
    refine ⟨h.1.withDispatch _, ?_⟩
    rw [withDispatch_dispatchOf]
    exact h.2
  passing h clock frames :=
    ⟨⟨⟨h.1.side.unguarded.same rfl rfl, h.1.side.monitored, h.1.side.others, h.1.side.slot⟩, h.1.silent,
      h.1.held, h.1.clear, h.1.wrapped⟩, h.2⟩

/-! ## The callback that was taken over -/

/-- The callback to which an event went on has answered. -/
theorem absorbEvent_ok (h : ToolEar registry f₀ home false e) (event : MonitorEvent)
    (action : MonitorAction) :
    ∃ e', answer (absorbEvent registry event (.ok action)) e = (.ok .goOn, e') ∧
      ToolIdle registry f₀ home false e' ∧ e'.scene registry = e.scene registry := by
  have unguarded := h.side.unguarded
  have absorbed := run_absorbTool_held unguarded (h.held rfl)
  -- the registry is idle again, whatever it noted
  have done : ∀ s : ToolShare, s.ours = (e.share registry).ours →
      s.wrapped = (e.share registry).wrapped → s.wrappedEvents = (e.share registry).wrappedEvents →
      let e₁ := retooled registry e e.hooks e.facility s
      let e' := e₁.withDispatch registry { e₁.dispatchOf registry with busy := false }
      ToolIdle registry f₀ home false e' ∧ e'.scene registry = e.scene registry := by
    intro s ours wrapped events
    refine ⟨⟨(h.withShare ours wrapped events).withDispatch _, ?_⟩, ?_⟩
    · rw [withDispatch_dispatchOf]
    · refine (scene_withDispatch_same registry (retooled registry e e.hooks e.facility s) ?_).trans
        (scene_retooled unguarded _ _ _)
      rfl
  unfold absorbEvent
  rw [answer_liftM_bind absorbed]
  simp only
  by_cases off : action = .disable ∧ event.kind.canDisable = true
  · let s : ToolShare := if (e.share registry).disabled.contains event.location then e.share registry
      else { e.share registry with disabled := event.location :: (e.share registry).disabled }
    have same : s = { e.share registry with disabled := s.disabled } := by
      unfold s
      split <;> rfl
    rw [if_pos off, answer_liftM_bind (run_modifyShare unguarded _)]
    exact ⟨_, rfl, done s (by rw [same]) (by rw [same]) (by rw [same])⟩
  · have kept : retooled registry e e.hooks e.facility (e.share registry) = e :=
      retooled_share unguarded _ _
    have idle := done (e.share registry) rfl rfl rfl
    rw [kept] at idle
    rw [if_neg off]
    exact ⟨_, rfl, idle⟩

/-- The callback to which an event went on has failed, and the id is silenced. -/
theorem absorbEvent_error (h : ToolEar registry f₀ home false e) (event : MonitorEvent)
    (err : HookError) :
    ∃ e', answer (absorbEvent registry event (.error err)) e = (.error err, e') ∧
      let e'' : Engine := { e' with facility := e'.facility.silence Facility.profilerTool }
      ToolIdle registry f₀ home true e'' ∧
        e''.scene registry = (e.scene registry).forgetPending := by
  have unguarded := h.side.unguarded
  have absorbed := run_absorbTool_held unguarded (h.held rfl)
  let s : ToolShare := { e.share registry with wrapped := {}, wrappedEvents := .empty }
  let e₁ := retooled registry e e.hooks e.facility s
  have emptied : (modifyShare registry fun s =>
    { s with wrapped := {}, wrappedEvents := .empty }).run e = ((), e₁) := run_modifyShare unguarded _
  let d : Dispatch := { e₁.dispatchOf registry with busy := false }
  let e₂ := e₁.withDispatch registry d
  have scene : e₂.scene registry = e.scene registry := by
    refine (scene_withDispatch_same registry e₁ ?_).trans (scene_retooled unguarded _ _ _)
    rfl
  have forgotten := run_forgetPending registry e₂
  rw [scene] at forgotten
  have side : ToolSide registry f₀ home (e₂.withProfilers (e.scene registry).forgetPending.profilers) :=
    ⟨(unguarded.retooled e.hooks e.facility s).same rfl rfl, h.side.monitored, h.side.others, h.side.slot⟩
  refine ⟨e₂.withProfilers (e.scene registry).forgetPending.profilers, ?_, ⟨silence side, ?_⟩, ?_⟩
  · unfold absorbEvent
    rw [answer_liftM_bind absorbed]
    simp only
    rw [answer_liftM_bind emptied, answer_liftM_bind (run_modifyDispatch registry e₁ _),
      answer_liftM_bind forgotten]
    rfl
  · have known : e₂.dispatchOf registry = d := withDispatch_dispatchOf registry e₁ d
    show (e₂.dispatchOf registry).busy = false
    rw [known]
  · show ({ e₂.scene registry with profilers := (e.scene registry).forgetPending.profilers } : Scene) = _
    rw [scene]
    rfl

end ToolEar

/-! ## Who is told -/

namespace Facility

/-- The callback of a tool that hears of an event. -/
def target? (f : Facility) (event : MonitorEvent) (tool : ToolId) : Option (ToolId × ToolHook) :=
  if (f.eventsOf tool).contains event.kind ∧ ¬ f.isDisabled tool event.location then
    (f.callback? tool event.kind).map fun hook => (tool, hook)
  else
    none

/-- The tools before the profilers' id are told first, and those after it last. -/
theorem targets_around (f : Facility) (event : MonitorEvent) :
    f.targets event = ([0, 1] : List ToolId).filterMap (f.target? event) ++
      ((f.target? event profilerTool).toList ++
        ([3, 4, 5] : List ToolId).filterMap (f.target? event)) := by
  have ids : toolIds = [0, 1] ++ ([profilerTool] ++ [3, 4, 5]) := rfl
  have own : [profilerTool].filterMap (f.target? event) = (f.target? event profilerTool).toList := by
    rw [List.filterMap_cons]
    cases f.target? event profilerTool <;> rfl
  have all : f.targets event = toolIds.filterMap (f.target? event) := rfl
  rw [all, ids, List.filterMap_append, List.filterMap_append, own]

theorem of_target? {f : Facility} {event : MonitorEvent} {tool : ToolId} {target : ToolId × ToolHook}
    (h : f.target? event tool = some target) :
    target.1 = tool ∧ f.callback? tool event.kind = some target.2 := by
  unfold target? at h
  split at h
  · obtain ⟨hook, there, rfl⟩ := Option.map_eq_some_iff.mp h
    exact ⟨rfl, there⟩
  · cases h

theorem of_mem_targets {f : Facility} {event : MonitorEvent} {tools : List ToolId}
    {target : ToolId × ToolHook} (h : target ∈ tools.filterMap (f.target? event)) :
    target.1 ∈ tools ∧ f.callback? target.1 event.kind = some target.2 := by
  obtain ⟨tool, mem, found⟩ := List.mem_filterMap.mp h
  obtain ⟨rfl, there⟩ := of_target? found
  exact ⟨mem, there⟩

end Facility

/-- One list after the other, until one fails. -/
theorem answer_forM_append {ε α σ : Type} (f : α → ExceptT ε (StateM σ) Unit) (l l' : List α) (x : σ) :
    answer ((l ++ l').forM f) x = match answer (l.forM f) x with
      | (.ok _, x') => answer (l'.forM f) x'
      | (.error err, x') => (.error err, x') := by
  induction l generalizing x with
  | nil => rfl
  | cons a rest ih =>
    rw [List.cons_append, answer_forM_cons, answer_forM_cons]
    rcases answer (f a) x with ⟨_ | _, x'⟩
    · rfl
    · exact ih x'

/-- The hooks that do not fail: the trace hook when a frame is left or an exception is announced, at
ids other than the profilers' the callbacks for raised exceptions, at ids before it those for frames
that are left, and at the profilers' id the callback that is not taken over. -/
structure Scripts.Firm {σ : Type} (s : Scripts σ) (f₀ : Facility) (home : Option TraceHook) : Prop where
  trace : ∀ id, home = some (.script id) → s.Traces .ret id ∧ s.Traces .exception id
  raise : ∀ tool id, tool ≠ Facility.profilerTool → f₀.callback? tool .raise = some (.script id) →
    s.Monitors .raise id
  leave : ∀ tool kind id, tool < Facility.profilerTool → kind ∈ leavingKinds →
    f₀.callback? tool kind = some (.script id) → s.Monitors kind id
  start : ∀ id, f₀.callback? Facility.profilerTool .start = some (.script id) → s.Monitors .start id

/-- What becomes of a scene and of whether a registry is deaf when an event is announced. -/
inductive Told (event : MonitorEvent) (scene : Scene) : Bool → Bool → Scene → Prop
  | unheard (deaf : Bool) (reason : event.kind ∈ leavingKinds → deaf = true) :
    Told event scene deaf deaf scene
  | heard : Told event scene false false (scene.hearEvent event)
  | lost : Told event scene false true (scene.hearEvent event).forgetPending

namespace ToolEar

variable {registry : RegistryId} {f₀ : Facility} {home : Option TraceHook} {deaf : Bool} {e : Engine}
  {σ : Type} {s : Scripts σ} {x : σ}

/-- Other tools are told. -/
theorem others (aloof : s.Aloof) (scripted : f₀.Scripted)
    (h : ToolIdle registry f₀ home deaf (s.engine x)) (event : MonitorEvent)
    (targets : List (ToolId × ToolHook))
    (there : ∀ target ∈ targets, target.1 ≠ Facility.profilerTool ∧
      f₀.callback? target.1 event.kind = some target.2) :
    let out := answer (targets.forM (s.deliverTo event)) x
    ToolIdle registry f₀ home deaf (s.engine out.2) ∧
      (s.engine out.2).scene registry = (s.engine x).scene registry ∧
      (s.engine x).facility.Quieter (· ≠ Facility.profilerTool) (s.engine out.2).facility ∧
      ((∀ target ∈ targets, ∀ id, f₀.callback? target.1 event.kind = some (.script id) →
        s.Monitors event.kind id) → out.1 = .ok ()) := by
  obtain ⟨firm, f, after, quieter⟩ := aloof.announce (· ≠ Facility.profilerTool) event targets
    (fun target mem => ⟨(there target mem).1, scripted _ _ _ (there target mem).2⟩) x
  simp only
  rw [after]
  refine ⟨⟨h.1.withFacility quieter, h.2⟩, rfl, quieter, fun firms => ?_⟩
  refine firm fun target mem id script => firms target mem id ?_
  rw [(there target mem).2, script]

/-- An event is recorded, and may go on to the callback that was taken over. -/
theorem takeEvent (h : ToolIdle registry f₀ home false e) (event : MonitorEvent) :
    ∃ e', (e'.scene registry = (e.scene registry).hearEvent event) ∧
      ((takeEvent registry event).run e = (none, e') ∧ ToolIdle registry f₀ home false e' ∨
        ∃ id, (takeEvent registry event).run e = (some (.script id), e') ∧
          ToolEar registry f₀ home false e') := by
  obtain ⟨ear, idle⟩ := h
  have unguarded := ear.side.unguarded
  have noted : ToolEar registry f₀ home false (taken registry e event) := by
    have recorded := ear.withProfilers ((e.scene registry).hearEvent event).profilers
    have same := ToolShare.noticed_eq (e.share registry) e.facility.restarts
    have ours := congrArg ToolShare.ours same
    have wrapped := congrArg ToolShare.wrapped same
    have events := congrArg ToolShare.wrappedEvents same
    exact recorded.withShare ours wrapped events
  have scene := scene_taken unguarded event
  rw [run_takeEvent unguarded ear.side.monitored idle event]
  simp only
  split
  · cases next : ((e.share registry).noticed e.facility.restarts).next? event with
    | none => exact ⟨_, scene, .inl ⟨rfl, noted, idle⟩⟩
    | some hook =>
      have known := ToolShare.wrapped_of_next? next
      rw [← share_taken unguarded event] at known
      obtain ⟨id, rfl⟩ := noted.wrapped rfl _ hook known
      refine ⟨_, ?_, .inr ⟨id, rfl, noted.withDispatch _⟩⟩
      refine (scene_withDispatch_same registry (taken registry e event) ?_).trans scene
      rfl
  · exact ⟨_, scene_hearEvent registry e event, .inl ⟨rfl, ear.withProfilers _, idle⟩⟩

/-- **The profilers' callback** hears of an event. If the callback that was taken over fails, nothing is
pending any more and the registry is deaf. -/
theorem deliverTo (aloof : s.Aloof) (h : ToolIdle registry f₀ home false (s.engine x))
    (event : MonitorEvent) (serial : Nat) :
    let out := answer (s.deliverTo event (Facility.profilerTool, .profiler registry serial)) x
    ∃ deaf, ToolIdle registry f₀ home deaf (s.engine out.2) ∧
      Told event ((s.engine x).scene registry) false deaf ((s.engine out.2).scene registry) ∧
      (out.1 = .ok () ∨ deaf = true) := by
  have bare : (uncover event (.profiler registry serial)).run (s.engine x) =
    (some (.profiler registry serial), s.engine x) := rfl
  obtain ⟨e', scene, taken⟩ := takeEvent h event
  simp only
  rw [s.answer_deliverTo, Scripts.hopsAt, s.answer_deliverEvent_taken aloof.put_get _ bare]
  rcases taken with ⟨taken, there⟩ | ⟨id, taken, there⟩
  · rw [taken]
    simp only
    rw [if_neg (by rintro ⟨⟨⟩, -⟩), aloof.get_put, scene]
    exact ⟨false, there, .heard, .inl rfl⟩
  · rw [taken]
    let y := s.withEngine x e'
    have bare' : (uncover event (.script id)).run (s.engine y) = (some (.script id), s.engine y) := rfl
    have alone := aloof.monitor id event y
    have same : s.engine y = e' := aloof.get_put x e'
    simp only
    rw [s.answer_deliverEvent_script aloof.put_get _ bare']
    rcases heard : answer (s.monitor id event) y with ⟨err | action, x₂⟩ <;> rw [heard, same] at alone
    · obtain ⟨e₂, absorbed, deafened, forgotten⟩ := there.absorbEvent_error event err
      simp only
      rw [Scripts.answer_tryRun, alone, absorbed]
      simp only
      rw [aloof.get_put, aloof.get_put, forgotten, scene]
      exact ⟨true, deafened, .lost, .inr rfl⟩
    · obtain ⟨e₂, absorbed, idle, kept⟩ := there.absorbEvent_ok event action
      simp only
      rw [Scripts.answer_tryRun, alone, absorbed]
      simp only
      rw [if_neg (by rintro ⟨⟨⟩, -⟩), aloof.get_put, kept, scene]
      exact ⟨false, idle, .heard, .inl rfl⟩

/-- A place that is switched off at the profilers' id, where no frame is left. -/
theorem disable (h : ToolIdle registry f₀ home deaf e) {location : Location}
    (inside : location.kind ∉ leavingKinds) :
    ToolIdle registry f₀ home deaf
      { e with facility := e.facility.disable Facility.profilerTool location } := by
  obtain ⟨ear, idle⟩ := h
  have clear : ∀ other : Location, other.kind ∈ leavingKinds →
      e.facility.isDisabled Facility.profilerTool other = false →
      (e.facility.disable Facility.profilerTool location).isDisabled Facility.profilerTool other =
        false := by
    intro other left clear
    rw [← Bool.not_eq_true, Facility.isDisabled_disable, clear]
    rintro (⟨-, rfl⟩ | off)
    · exact inside left
    · cases off
  rw [Facility.disable_eq] at clear ⊢
  refine ⟨⟨⟨ear.side.unguarded.same rfl rfl, ear.side.monitored, ear.side.others, ear.side.slot⟩,
    ear.silent, fun hears => ?_, fun hears other left => clear other left (ear.clear hears other left),
    ear.wrapped⟩, idle⟩
  obtain ⟨holder, ours, events⟩ := ear.held hears
  exact ⟨holder, ours, events⟩

/-- The callback for starting frames at the profilers' id is not taken over. It may ask to hear no more
of a place. -/
theorem deliverTo_start (aloof : s.Aloof) (h : ToolIdle registry f₀ home deaf (s.engine x))
    {event : MonitorEvent} (start : event.kind = .start) {id : ScriptId} (firm : s.Monitors .start id) :
    let out := answer (s.deliverTo event (Facility.profilerTool, .script id)) x
    ToolIdle registry f₀ home deaf (s.engine out.2) ∧
      (s.engine out.2).scene registry = (s.engine x).scene registry ∧ out.1 = .ok () := by
  have alone := aloof.monitor id event x
  obtain ⟨action, ok⟩ := firm event x start
  simp only
  rw [s.answer_deliverTo, s.answer_deliverEvent_script aloof.put_get _ rfl]
  rcases heard : answer (s.monitor id event) x with ⟨err | action', x'⟩ <;> rw [heard] at alone ok
  · cases ok
  have alone : s.engine x' = s.engine x := alone
  simp only
  split
  · have inside : event.location.kind ∉ leavingKinds := by
      show event.kind ∉ leavingKinds
      rw [start]
      decide
    rw [alone, aloof.get_put]
    exact ⟨disable h inside, rfl, rfl⟩
  · rw [alone]
    exact ⟨h, rfl, rfl⟩

/-- The callback at the profilers' id is told, whichever it is. -/
theorem own (aloof : s.Aloof) (scripted : f₀.Scripted) (firm : s.Firm f₀ home)
    (h : ToolIdle registry f₀ home deaf (s.engine x)) (event : MonitorEvent) :
    let out := answer
      (((s.engine x).facility.target? event Facility.profilerTool).toList.forM (s.deliverTo event)) x
    ∃ deaf', ToolIdle registry f₀ home deaf' (s.engine out.2) ∧
      Told event ((s.engine x).scene registry) deaf deaf' ((s.engine out.2).scene registry) ∧
      (out.1 = .ok () ∨ deaf' = true) := by
  simp only
  cases found : (s.engine x).facility.target? event Facility.profilerTool with
  | none =>
    refine ⟨deaf, h, .unheard deaf fun left => ?_, .inl rfl⟩
    -- a registry that is not deaf hears of frames that are left
    rw [← Bool.not_eq_false]
    intro hears
    have held := h.1.held hears
    obtain ⟨serial, there, -⟩ := held.ours event.kind (leaving_ours left)
    unfold Facility.target? at found
    rw [if_pos ⟨held.subscribed (leaving_ours left),
      by rw [h.1.clear hears event.location left]; exact Bool.false_ne_true⟩, there] at found
    cases found
  | some target =>
    obtain ⟨tool, hook⟩ := target
    obtain ⟨rfl, there⟩ := Facility.of_target? found
    rw [Option.toList_some, Scripts.answer_forM_one]
    by_cases ours : event.kind ∈ ourKinds
    · cases deaf with
      | true =>
        have silent := h.1.silent rfl
        unfold Facility.target? at found
        rw [silent, EventSet.contains_empty, if_neg fun heard => Bool.false_ne_true heard.1] at found
        cases found
      | false =>
        obtain ⟨serial, known, -⟩ := (h.1.held rfl).ours event.kind ours
        cases known.symm.trans there
        exact deliverTo aloof h event serial
    · have start : event.kind = .start := by
        cases kind : event.kind <;> first | rfl | exact absurd (by rw [kind]; decide) ours
      have theirs := (h.1.side.others _ _ fun own => ours own.2).symm.trans there
      obtain ⟨id, rfl⟩ := scripted _ _ _ theirs
      rw [start] at theirs
      obtain ⟨there, scene, ok⟩ := deliverTo_start aloof h start (firm.start id theirs)
      rw [scene]
      refine ⟨deaf, there, .unheard deaf fun left => ?_, .inl ok⟩
      exact absurd (leaving_ours left) ours

/-- **A monitoring event** is heard of by the profilers, unless they are deaf or a callback before them
fails. -/
theorem announceEvent (aloof : s.Aloof) (scripted : f₀.Scripted) (firm : s.Firm f₀ home)
    (h : ToolIdle registry f₀ home deaf (s.engine x)) (event : MonitorEvent) :
    let out := answer (s.announceEvent event) x
    ∃ deaf', ToolIdle registry f₀ home deaf' (s.engine out.2) ∧
      Told event ((s.engine x).scene registry) deaf deaf' ((s.engine out.2).scene registry) ∧
      (event.kind = .raise → out.1 = .ok () ∨ deaf' = true) := by
  have foreign : ∀ tools : List ToolId, (∀ tool ∈ tools, tool ≠ Facility.profilerTool) →
      ∀ target ∈ tools.filterMap ((s.engine x).facility.target? event),
        target.1 ≠ Facility.profilerTool ∧ f₀.callback? target.1 event.kind = some target.2 := by
    intro tools others target mem
    obtain ⟨listed, there⟩ := Facility.of_mem_targets mem
    have other := others target.1 listed
    exact ⟨other, (h.1.side.others _ _ fun own => other own.1).symm.trans there⟩
  have raising : event.kind = .raise → ∀ tools : List ToolId,
      (∀ tool ∈ tools, tool ≠ Facility.profilerTool) →
      ∀ target ∈ tools.filterMap ((s.engine x).facility.target? event), ∀ id,
        f₀.callback? target.1 event.kind = some (.script id) → s.Monitors event.kind id := by
    intro raise tools others target mem id there
    rw [raise] at there ⊢
    exact firm.raise target.1 id (others _ (Facility.of_mem_targets mem).1) there
  have first_ids : ∀ tool ∈ ([0, 1] : List ToolId), tool ≠ Facility.profilerTool := by
    simp [Facility.profilerTool]
  have last_ids : ∀ tool ∈ ([3, 4, 5] : List ToolId), tool ≠ Facility.profilerTool := by
    simp [Facility.profilerTool]
  simp only
  rw [Scripts.answer_announceEvent, if_pos h.1.side.monitored, Facility.targets_around,
    answer_forM_append]
  obtain ⟨there₁, scene₁, quieter, firm₁⟩ := others aloof scripted h event _
    (foreign [0, 1] first_ids)
  rcases first : answer ((([0, 1] : List ToolId).filterMap
    ((s.engine x).facility.target? event)).forM (s.deliverTo event)) x with ⟨err | _, x₁⟩ <;>
    rw [first] at there₁ scene₁ quieter firm₁
  · refine ⟨deaf, there₁, ?_, fun raise => ?_⟩
    · rw [scene₁]
      refine .unheard deaf fun left => ?_
      have before : ∀ tool ∈ ([0, 1] : List ToolId), tool < Facility.profilerTool := by
        simp [Facility.profilerTool]
      cases firm₁ fun target mem id there =>
        firm.leave target.1 event.kind id (before _ (Facility.of_mem_targets mem).1) left there
    · cases firm₁ (raising raise [0, 1] first_ids)
  · simp only
    rw [answer_forM_append]
    have same : (s.engine x).facility.target? event Facility.profilerTool =
        (s.engine x₁).facility.target? event Facility.profilerTool := by
      have mine : ¬ Facility.profilerTool ≠ Facility.profilerTool := fun other => other rfl
      unfold Facility.target?
      rw [quieter.events _ mine, quieter.disabled _ _ mine, quieter.callback?]
    obtain ⟨deaf', there₂, told, ok⟩ := own aloof scripted firm there₁ event
    rw [same]
    rcases second : answer (((s.engine x₁).facility.target? event Facility.profilerTool).toList.forM
      (s.deliverTo event)) x₁ with ⟨err | _, x₂⟩ <;> rw [second] at there₂ told ok
    · rw [← scene₁]
      exact ⟨deaf', there₂, told, fun _ => ok⟩
    · obtain ⟨there₃, scene₃, -, firm₃⟩ := others aloof scripted there₂ event _
        (foreign [3, 4, 5] last_ids)
      refine ⟨deaf', there₃, ?_, fun raise => .inl (firm₃ (raising raise [3, 4, 5] last_ids))⟩
      rw [scene₃, ← scene₁]
      exact told

/-- **A trace event** is nobody's business. A hook that fails is gone. -/
theorem announceTrace (aloof : s.Aloof) (scripted : ∀ hook, home = some hook → ∃ id, hook = .script id)
    (h : ToolIdle registry f₀ home deaf (s.engine x)) (frame : Frame) (event : TraceEvent) :
    let out := answer (s.announceTrace frame event) x
    ToolIdle registry f₀ home deaf (s.engine out.2) ∧
      (s.engine out.2).scene registry = (s.engine x).scene registry ∧
      ((∀ id, home = some (.script id) → s.Traces event id) → ∃ on, out.1 = .ok on) := by
  have home' : ∀ hook, (s.engine x).traceHook? = some hook → home = some hook := by
    intro hook there
    rcases h.1.side.slot with empty | same
    · cases empty.symm.trans there
    · exact same.symm.trans there
  obtain ⟨x', ⟨⟨on, heard⟩, same⟩ | ⟨⟨err, failed⟩, emptied, id, there, fails⟩⟩ :=
    aloof.announceTrace (fun hook there => scripted hook (home' hook there)) frame event
  · simp only
    rw [heard, same]
    exact ⟨h, rfl, fun _ => ⟨on, rfl⟩⟩
  · simp only
    rw [failed, emptied]
    exact ⟨⟨h.1.withHook, h.2⟩, rfl, fun firm => absurd (firm id (home' _ there)) fails⟩

/-- What is left running after an event was announced. -/
theorem runs_told {post : Scene.Post} {c : List BlockHash} {n : Nat} {deaf' : Bool}
    {event : MonitorEvent} {scene scene' : Scene} (told : Told event scene deaf deaf' scene')
    (runs : scene.Runs post (if deaf then [] else c) n)
    (own : event.kind = .line → event.block.identity ∈ c) :
    scene'.Runs post (if deaf' then [] else c) n := by
  cases told with
  | unheard => exact runs
  | heard => exact Scene.Runs.hearEvent runs event own
  | lost => exact (Scene.Runs.hearEvent runs event own).forgetPending

/-- What is left running after it was announced that a frame is left. -/
theorem runs_left {post : Scene.Post} {c : List BlockHash} {n : Nat} {deaf' : Bool}
    {event : MonitorEvent} {scene scene' : Scene} (told : Told event scene deaf deaf' scene')
    (left : event.kind ∈ leavingKinds)
    (runs : scene.Runs post (if deaf then [] else event.block.identity :: c) n) :
    scene'.Runs post (if deaf' then [] else c) n := by
  cases told with
  | unheard reason =>
    rename_i reason
    rw [reason left] at runs ⊢
    exact runs
  | heard => exact Scene.Runs.hearEvent_left runs left
  | lost => exact (Scene.Runs.hearEvent_left runs left).forgetPending

/-- **Whatever else fails, nothing is left running** at the tool id. -/
theorem clearing (aloof : s.Aloof) (scripted : f₀.Scripted)
    (scripted' : ∀ hook, home = some hook → ∃ id, hook = .script id) (firm : s.Firm f₀ home)
    {post : Scene.Post} (own : ∀ id scope, (post.routines.getD id { slot := id }).scope = some scope →
      scope.registry = registry) :
    Clearing s.host (Leaves s registry (ToolIdle registry f₀ home) post) where
  weaken h sub := weaken h sub
  newFrame h := newFrame (earshot registry f₀ home) aloof.get_put h
  work h units := work (earshot registry f₀ home) aloof.get_put h units
  trace {c n x} h frame event _ := by
    obtain ⟨deaf, there, runs⟩ := h
    obtain ⟨there', scene, -⟩ := announceTrace aloof scripted' there frame event
    exact ⟨deaf, there', scene ▸ runs⟩
  monitor {c n x} h event line := by
    obtain ⟨deaf, there, runs⟩ := h
    obtain ⟨deaf', there', told, -⟩ := announceEvent aloof scripted firm there event
    exact ⟨deaf', there', runs_told told runs line⟩
  exception {c n x e x'} h frame failed := by
    obtain ⟨deaf, there, runs⟩ := h
    obtain ⟨-, -, ok⟩ := announceTrace aloof scripted' there frame .exception
    obtain ⟨on, ok⟩ := ok fun id mine => (firm.trace id mine).2
    have failed : answer (s.announceTrace frame .exception) x = (.error e, x') := failed
    rw [failed] at ok
    cases ok
  raise {c n x e x'} h event raised failed := by
    obtain ⟨deaf, there, runs⟩ := h
    have failed : answer (s.announceEvent event) x = (.error e, x') := failed
    obtain ⟨deaf', there', told, ok⟩ := announceEvent aloof scripted firm there event
    rw [failed] at there' told ok
    rcases ok raised with ok | rfl
    · cases ok
    · exact ⟨true, there', runs_told (c := c) told runs fun line => by rw [raised] at line; cases line⟩
  ends {c n x} frame h event left same := by
    obtain ⟨deaf, there, runs⟩ := h
    have hook : s.host.trace frame .ret = s.announceTrace frame .ret := rfl
    obtain ⟨there', scene, ok⟩ := announceTrace aloof scripted' there frame .ret
    obtain ⟨on, ok⟩ := ok fun id mine => (firm.trace id mine).1
    rw [hook]
    rcases heard : answer (s.announceTrace frame .ret) x with ⟨_ | _, x'⟩ <;>
      rw [heard] at there' scene ok
    · cases ok
    · obtain ⟨deaf', there₂, told, -⟩ := announceEvent aloof scripted firm there' event
      rw [← scene, ← same] at runs
      exact ⟨deaf', there₂, runs_left told left runs⟩
  enter h routine := enter (earshot registry f₀ home) aloof.get_put own h routine

end ToolEar

end LineClock
