import LineClock.Proofs.Engine.Audience
import LineClock.Proofs.Engine.Mirror

/-!
# A machine with a tool that listens

A tool that holds the profilers' id and only answers to events: what it answers may depend on all
that it heard before. The machine notes the tool's calls, and the facility is restarted now and then.
While profilers share the id, the tool is called exactly as it would be called without them.

Main statements: `Listening.announceEvent` and `Listening.announceEvent_alone`.
-/

namespace LineClock

open Machine Engine

/-- A call of a tool's callback. -/
structure Call where
  thread : ThreadKey
  script : ScriptId
  event : MonitorEvent
  deriving DecidableEq

/-- What a tool answers to a call, from the calls before, the last of them first. -/
abbrev Listener := List Call → Call → MonitorAction

/-- The calls after an event, and the facility, where the tool has the id for itself. -/
def Listener.hear (tool : Listener) (thread : ThreadKey) (event : MonitorEvent) (calls : List Call)
    (g : Facility) : List Call × Facility :=
  match g.asks event with
  | none => (calls, g)
  | some id =>
    let call : Call := ⟨thread, id, event⟩
    (call :: calls, g.answered event (tool calls call))

/-- The registry wraps, and everybody who is on does. -/
def Scene.Wraps (s : Scene) : Prop := s.wrap = true ∧ ∀ a ∈ s.here, (s.profiler a.1).wrap = true

instance (s : Scene) : Decidable s.Wraps :=
  inferInstanceAs (Decidable (s.wrap = true ∧ ∀ a ∈ s.here, (s.profiler a.1).wrap = true))

/-- An engine with a tool beside it that listens. -/
structure Listening where
  engine : Engine
  /-- The calls of the tool, the last first. -/
  calls : List Call := []
  /-- How often the facility is restarted before each of the next announcements. -/
  restarts : List Nat := []
  /-- The scene in which each event was announced, the last first. -/
  heard : List Scene := []
  /-- The facility as the profilers found it each time they began to listen. -/
  found : List Facility := []
  /-- The facility as the profilers left it each time they stopped listening. -/
  left : List Facility := []

namespace Listening

variable {registry : RegistryId}

/-- Another engine. If the profilers began or stopped to listen, it is noted how they found or left
the facility. -/
def moveTo (registry : RegistryId) (x : Listening) (e : Engine) : Listening :=
  { x with
    engine := e
    found :=
      if (x.engine.share registry).threads = 0 ∧ 0 < (e.share registry).threads then
        x.engine.facility :: x.found
      else x.found
    left :=
      if 0 < (x.engine.share registry).threads ∧ (e.share registry).threads = 0 then
        e.facility :: x.left
      else x.left }

/-- The facility is restarted as often as it is its turn. -/
def restarted (x : Listening) : Listening :=
  { x with
    engine := { x.engine with facility := Nat.repeat Facility.restart (x.restarts.headD 0) x.engine.facility }
    restarts := x.restarts.tail }

/-- The scripts of the tool. -/
def scripts (registry : RegistryId) (tool : Listener) : Scripts Listening where
  engine x := x.engine
  withEngine x e := x.moveTo registry e
  trace _ frame _ := pure frame.linesOn
  monitor id event := ExceptT.mk do
    let x ← get
    let call : Call := ⟨x.engine.thread, id, event⟩
    set { x with calls := call :: x.calls }
    return .ok (tool x.calls call)

/-- The state with the scene in which the next event is announced. -/
def noted (registry : RegistryId) (x : Listening) : Listening :=
  { x with heard := x.engine.scene registry :: x.heard }

/-- The machine's surroundings. Without profilers wrappers switch nothing. -/
def host (registry : RegistryId) (tool : Listener) (profiled : Bool) : Host Listening :=
  { (scripts registry tool).host with
    monitor := fun event => do
      modify fun x => x.restarted.noted registry
      (scripts registry tool).announceEvent event
    enter := fun routine => do
      modify restarted
      if profiled then (scripts registry tool).host.enter routine
    leave := fun routine => do
      modify restarted
      if profiled then (scripts registry tool).host.leave routine }

variable {x : Listening} {event : MonitorEvent} {tool : Listener} {g : Facility}

/-- While as many threads listen as before, nothing is noted. -/
theorem moveTo_same {e : Engine}
    (same : (e.share registry).threads = (x.engine.share registry).threads) :
    x.moveTo registry e = { x with engine := e } := by
  unfold moveTo
  rw [same, if_neg fun h => Nat.ne_of_gt h.2 h.1, if_neg fun h => Nat.ne_of_gt h.1 h.2]

theorem lawful (x : Listening) :
    (scripts registry tool).withEngine x ((scripts registry tool).engine x) = x :=
  moveTo_same rfl

/-! ## The tool alone -/

/-- What the machine does where nobody shares the id. -/
theorem announceEvent_alone (registry : RegistryId) (tool : Listener)
    (monitored : x.engine.monitored = true)
    (held : ∀ tool kind hook, x.engine.facility.callback? tool kind = some hook →
      tool = Facility.profilerTool ∧ ∃ id, hook = .script id) (event : MonitorEvent) :
    answer ((scripts registry tool).announceEvent event) x =
      (.ok (), { x with
        calls := (tool.hear x.engine.thread event x.calls x.engine.facility).1
        engine := { x.engine with
          facility := (tool.hear x.engine.thread event x.calls x.engine.facility).2 } }) := by
  have others : ∀ tool kind, tool ≠ Facility.profilerTool →
      x.engine.facility.callback? tool kind = none := by
    intro tool kind other
    cases there : x.engine.facility.callback? tool kind with
    | none => rfl
    | some hook => exact absurd (held tool kind hook there).1 other
  have monitored : ((scripts registry tool).engine x).monitored = true := monitored
  have targets : ((scripts registry tool).engine x).facility.targets event = _ :=
    Facility.targets_sole others event
  rw [Scripts.answer_announceEvent, if_pos monitored, targets]
  unfold Listener.hear Facility.asks
  split
  · cases there : x.engine.facility.callback? Facility.profilerTool event.kind with
    | none => rfl
    | some hook =>
      obtain ⟨-, id, rfl⟩ := held _ _ _ there
      rw [Option.map_some, Option.toList_some, Scripts.answer_forM_one, Scripts.answer_deliverTo]
      have delivered : answer ((scripts registry tool).deliverEvent ((scripts registry tool).hopsAt x)
          (.script id) event) x = _ :=
        (scripts registry tool).answer_deliverEvent_script lawful _ rfl
      have answered : answer ((scripts registry tool).monitor id event) x =
        (.ok (tool x.calls ⟨x.engine.thread, id, event⟩),
          { x with calls := ⟨x.engine.thread, id, event⟩ :: x.calls }) := rfl
      rw [delivered, answered]
      simp only
      unfold Facility.answered
      split
      · exact congrArg (Prod.mk _) (moveTo_same rfl)
      · rfl
  · rfl

/-! ## The tool beside profilers -/

/-- What an event leaves while profilers share the id with the tool: the tool heard of it, or not, as
it would have without them. -/
structure Told (registry : RegistryId) (tool : Listener) (event : MonitorEvent) (g : Facility)
    (x x' : Listening) : Prop where
  atTool : AtTool (Mirrors registry (tool.hear x.engine.thread event x.calls g).2) registry x'.engine
  calls : x'.calls = (tool.hear x.engine.thread event x.calls g).1
  dispatch : ∀ th, x'.engine.dispatchAt th registry = x.engine.dispatchAt th registry
  scene : x'.engine.scene registry = x.engine.scene registry ∨
    x'.engine.scene registry = (x.engine.scene registry).hearEvent event
  kept : x' = { x with engine := x'.engine, calls := x'.calls }

/-- An event of which the tool does not hear. -/
theorem Told.unheard {x' : Listening} {e : Engine} (none : g.asks event = none)
    (atTool : AtTool (Mirrors registry g) registry e)
    (dispatch : ∀ th, e.dispatchAt th registry = x.engine.dispatchAt th registry)
    (scene : e.scene registry = x.engine.scene registry ∨
      e.scene registry = (x.engine.scene registry).hearEvent event)
    (same : x' = { x with engine := e }) : Told registry tool event g x x' := by
  have heard : tool.hear x.engine.thread event x.calls g = (x.calls, g) := by
    unfold Listener.hear
    rw [none]
  subst same
  refine ⟨?_, ?_, dispatch, scene, rfl⟩
  · rw [heard]
    exact atTool
  · rw [heard]

/-- An event to which the tool answers. -/
theorem Told.heard {x' : Listening} {e : Engine} {id : ScriptId} (asks : g.asks event = some id)
    (atTool : AtTool (Mirrors registry
      (g.answered event (tool x.calls ⟨x.engine.thread, id, event⟩))) registry e)
    (dispatch : ∀ th, e.dispatchAt th registry = x.engine.dispatchAt th registry)
    (scene : e.scene registry = x.engine.scene registry ∨
      e.scene registry = (x.engine.scene registry).hearEvent event)
    (same : x' = { x with engine := e, calls := ⟨x.engine.thread, id, event⟩ :: x.calls }) :
    Told registry tool event g x x' := by
  have heard : tool.hear x.engine.thread event x.calls g =
      (⟨x.engine.thread, id, event⟩ :: x.calls,
        g.answered event (tool x.calls ⟨x.engine.thread, id, event⟩)) := by
    unfold Listener.hear
    rw [asks]
  subst same
  refine ⟨?_, ?_, dispatch, scene, rfl⟩
  · rw [heard]
    exact atTool
  · rw [heard]

/-- What the tool's callback answers to an event, and the calls that are noted then: the tool does not
hear of the event, and a layer answers in its place that it wants to hear no more, or the tool
answers. -/
inductive Reply (tool : Listener) (event : MonitorEvent) (g : Facility) (thread : ThreadKey)
    (calls : List Call) : MonitorAction → List Call → Prop where
  | layer (unheard : g.asks event = none) (off : g.answered event .disable = g) :
      Reply tool event g thread calls .disable calls
  | tool {id : ScriptId} (asks : g.asks event = some id) :
      Reply tool event g thread calls (tool calls ⟨thread, id, event⟩) (⟨thread, id, event⟩ :: calls)

/-- What the answer leaves. -/
theorem Reply.told {x' : Listening} {e : Engine} {action : MonitorAction} {calls : List Call}
    (reply : Reply tool event g x.engine.thread x.calls action calls)
    (atTool : AtTool (Mirrors registry (g.answered event action)) registry e)
    (dispatch : ∀ th, e.dispatchAt th registry = x.engine.dispatchAt th registry)
    (scene : e.scene registry = x.engine.scene registry ∨
      e.scene registry = (x.engine.scene registry).hearEvent event)
    (same : x' = { x with engine := e, calls := calls }) : Told registry tool event g x x' := by
  cases reply with
  | layer unheard off =>
    rw [off] at atTool
    exact .unheard unheard atTool dispatch scene same
  | tool asks => exact .heard asks atTool dispatch scene same

/-- **The callback of the tool is asked**, be it below layers that the profilers left. -/
theorem deliverEvent_standing {s : ToolShare} {hook : ToolHook} (h : Mirrors registry g x.engine.facility s)
    (unguarded : Unguarded registry x.engine) (monitored : x.engine.monitored = true)
    (tenant : s.tenant x.engine.facility event.kind = some hook)
    (subscribed : (g.eventsOf Facility.profilerTool).contains event.kind = true)
    (off : s.Off x.engine.facility event.location →
      hook.covers x.engine.facility.restarts event.location = true) (tool : Listener) :
    ∃ action calls, Reply tool event g x.engine.thread x.calls action calls ∧
      ∀ hops, answer ((scripts registry tool).deliverEvent hops hook event) x =
        (.ok action, { x with calls }) := by
  obtain ⟨id, own, stands⟩ := h.standing tenant
  have bare := run_uncover unguarded monitored event stands.within
  rw [unguarded.attached, ToolHook.core?_attached, stands.core] at bare
  by_cases covered : hook.covers x.engine.facility.restarts event.location = true
  · rw [if_pos covered] at bare
    have silent : s.Off x.engine.facility event.location := .inr (.inr ⟨hook, tenant, covered⟩)
    exact ⟨.disable, x.calls, .layer (h.asks_off silent) (h.answered_off tenant silent),
      fun hops => (scripts registry tool).answer_deliverEvent_covered lawful hops bare⟩
  · rw [if_neg covered] at bare
    exact ⟨_, _, .tool (h.asks_standing subscribed (fun silent => covered (off silent)) own),
      fun hops => (scripts registry tool).answer_deliverEvent_script lawful hops bare⟩

/-- An event that the tool hears of itself. -/
theorem deliverTo_own (h : AtTool (Mirrors registry g) registry x.engine)
    (apart : ¬ (0 < (x.engine.share registry).threads ∧ event.kind ∈ ourKinds))
    (on : (x.engine.facility.eventsOf Facility.profilerTool).contains event.kind = true)
    (native : ¬ x.engine.facility.isDisabled Facility.profilerTool event.location = true)
    {hook : ToolHook}
    (there : x.engine.facility.callback? Facility.profilerTool event.kind = some hook)
    (tool : Listener) :
    ∃ x', answer ((scripts registry tool).deliverTo event (Facility.profilerTool, hook)) x =
      (.ok (), x') ∧ Told registry tool event g x x' := by
  have tenant : (x.engine.share registry).tenant x.engine.facility event.kind = some hook :=
    (if_neg apart).trans there
  have covers : (x.engine.share registry).Off x.engine.facility event.location →
      hook.covers x.engine.facility.restarts event.location = true := by
    rintro (off | ⟨ours, off⟩ | ⟨hook', there', off⟩)
    · exact absurd off native
    · have none : (x.engine.share registry).threads = 0 :=
        Nat.eq_zero_of_not_pos fun on => apart ⟨on, ours⟩
      rw [ToolShare.stillOff_of_nothing (h.place.idle none).1] at off
      cases off
    · cases there'.symm.trans tenant
      exact off
  obtain ⟨action, calls, reply, delivered⟩ := deliverEvent_standing h.place h.unguarded h.monitored
    tenant ((h.place.subscribed apart).symm.trans on) covers tool
  have told : Told registry tool event g x { x with
      calls
      engine := { x.engine with facility := x.engine.facility.answered event action } } :=
    reply.told (h.withFacility (h.place.own event action)) (fun _ => rfl) (.inl rfl) rfl
  rw [Scripts.answer_deliverTo, delivered]
  refine ⟨_, ?_, told⟩
  unfold Facility.answered
  simp only
  split
  · exact congrArg (Prod.mk _) (moveTo_same rfl)
  · rfl

/-- What goes on from the profilers, if everybody wraps. -/
theorem goesOn (wraps : (x.engine.scene registry).Wraps) (event : MonitorEvent) :
    (recorded registry x.engine event).goesOn registry = true := by
  have scene := scene_hearEvent registry x.engine event
  have bare := Scene.bare_hearEvent (x.engine.scene registry) event
  rw [← scene] at bare
  have active : ((recorded registry x.engine event).dispatchOf registry).active =
    (x.engine.scene registry).here := rfl
  unfold Engine.goesOn
  cases here : (x.engine.scene registry).here with
  | nil =>
    have nobody : ((recorded registry x.engine event).dispatchOf registry).isActive = false :=
      Dispatch.isActive_eq_false_iff.mpr (active.trans here)
    rw [nobody]
    exact wraps.1
  | cons a rest =>
    have somebody : ((recorded registry x.engine event).dispatchOf registry).isActive = true := by
      rw [Dispatch.isActive_iff_ne_nil, active, here]
      exact List.cons_ne_nil a rest
    have same : (((recorded registry x.engine event).scene registry).profiler a.1).bare =
        ((x.engine.scene registry).profiler a.1).bare := by
      rw [← Scene.profiler_bare, ← Scene.profiler_bare]
      exact congrArg (fun s : Scene => s.profiler a.1) bare
    have wrap : ((recorded registry x.engine event).profiler a.1).wrap = true :=
      (congrArg Profiler.wrap same).trans (wraps.2 a (by rw [here]; exact List.mem_cons_self))
    rw [somebody]
    unfold Engine.wantsWrap
    rw [active, here]
    simp [wrap]

/-- An event that the profilers' callback keeps to itself. -/
theorem deliverEvent_kept {serial : Nat} {e : Engine}
    (kept : (takeEvent registry event).run x.engine = (none, e))
    (same : (e.share registry).threads = (x.engine.share registry).threads) (hops : Nat) :
    answer ((scripts registry tool).deliverEvent (hops + 1) (.profiler registry serial) event) x =
      (.ok .goOn, { x with engine := e }) := by
  rw [(scripts registry tool).answer_deliverEvent_kept kept lawful hops serial]
  exact congrArg (Prod.mk _) (moveTo_same same)

/-- The engine after an event was passed on and answered. -/
def absorbed (registry : RegistryId) (e : Engine) (event : MonitorEvent) (action : MonitorAction) :
    Engine :=
  (retooled registry (recorded registry e event) e.hooks e.facility
    (((e.share registry).noticed e.facility.restarts).answered event action)).withDispatch registry
      (e.dispatchOf registry)

section

variable (h : AtTool (Mirrors registry g) registry x.engine)

include h

theorem share_absorbed (action : MonitorAction) :
    ((absorbed registry x.engine event action).share registry).threads =
      (x.engine.share registry).threads := by
  have share : (absorbed registry x.engine event action).share registry =
      ((x.engine.share registry).noticed x.engine.facility.restarts).answered event action :=
    share_answered h.unguarded event x.engine.hooks x.engine.facility _
  rw [share, ToolShare.answered_eq]
  exact ToolShare.threads_noticed _ _

theorem scene_absorbed (action : MonitorAction) :
    (absorbed registry x.engine event action).scene registry =
      (x.engine.scene registry).hearEvent event :=
  scene_answered h.unguarded event x.engine.hooks x.engine.facility _

/-- How the profilers stand when an answer was absorbed. -/
theorem atTool_absorbed (action : MonitorAction) {g' : Facility}
    (place : Mirrors registry g' x.engine.facility
      (((x.engine.share registry).noticed x.engine.facility.restarts).answered event action)) :
    AtTool (Mirrors registry g') registry (absorbed registry x.engine event action) := by
  refine h.answered event x.engine.hooks ?_ place
  rw [ToolShare.answered_eq]
  exact ToolShare.threads_noticed _ _

/-- The registry absorbs the answer of the callback to which it passed an event on. -/
theorem answer_absorbEvent (on : 0 < (x.engine.share registry).threads) (action : MonitorAction) :
    answer (absorbEvent registry event (.ok action))
        ((taken registry x.engine event).waiting registry) =
      (.ok .goOn, absorbed registry x.engine event action) := by
  let e := (taken registry x.engine event).waiting registry
  have h₂ := h.place.noticed
  have u : Unguarded registry e := unguarded_waiting h.unguarded event
  have share : e.share registry = (x.engine.share registry).noticed x.engine.facility.restarts :=
    share_waiting h.unguarded event
  have held : e.facility.Held registry (e.share registry) := by
    rw [share]
    exact (h₂.listening (by rw [ToolShare.threads_noticed]; exact on)).1
  rw [answer_absorbEvent_held u held, share,
    idle_again (e := recorded registry x.engine event) (h.idle x.engine.thread) e
      ⟨_, _, _, x.engine.facility, rfl⟩]
  rfl

end

/-- An event that the profilers pass on to the wrapped callback, which is the tool's, or a layer that
answers in its place. -/
theorem deliverEvent_passed (h : AtTool (Mirrors registry g) registry x.engine)
    (on : 0 < (x.engine.share registry).threads) (ours : event.kind ∈ ourKinds) {wrapped : ToolHook}
    (native : ¬ x.engine.facility.isDisabled Facility.profilerTool event.location = true)
    (next : ((x.engine.share registry).noticed x.engine.facility.restarts).next? event = some wrapped)
    (passed : (takeEvent registry event).run x.engine =
      (some wrapped, (taken registry x.engine event).waiting registry))
    (tool : Listener) (hops serial : Nat) :
    ∃ x', answer ((scripts registry tool).deliverEvent (hops + 1) (.profiler registry serial) event) x =
      (.ok .goOn, x') ∧ Told registry tool event g x x' := by
  let s := (x.engine.share registry).noticed x.engine.facility.restarts
  let e := (taken registry x.engine event).waiting registry
  have h₂ : Mirrors registry g x.engine.facility s := h.place.noticed
  have on₂ : 0 < s.threads := by
    unfold s
    rw [ToolShare.threads_noticed]
    exact on
  have tenant : s.tenant x.engine.facility event.kind = some wrapped :=
    (if_pos ⟨on₂, ours⟩).trans (ToolShare.wrapped_of_next? next)
  have threads : (e.share registry).threads = (x.engine.share registry).threads :=
    (congrArg ToolShare.threads (share_waiting h.unguarded event)).trans (ToolShare.threads_noticed _ _)
  have heard := ToolShare.heard_of_next? next
  have covers : s.Off x.engine.facility event.location →
      wrapped.covers x.engine.facility.restarts event.location = true := by
    rintro (off | ⟨-, off⟩ | ⟨hook', there', off⟩)
    · exact absurd off native
    · rw [← ToolShare.noticed_disabled, ToolShare.noticed_noticed] at off
      exact absurd off heard.2
    · cases there'.symm.trans tenant
      exact off
  have subscribed : (g.eventsOf Facility.profilerTool).contains event.kind = true := by
    rw [← (h₂.listening on₂).2.2.2]
    exact heard.1
  obtain ⟨action, calls, reply, delivered⟩ := deliverEvent_standing (x := { x with engine := e }) h₂
    (unguarded_waiting h.unguarded event) h.monitored tenant subscribed covers tool
  have reply : Reply tool event g x.engine.thread x.calls action calls := reply
  have told : Told registry tool event g x
      { x with engine := absorbed registry x.engine event action, calls } :=
    reply.told (atTool_absorbed h action (h₂.passed on₂ ours (ToolShare.noticed_seen _ _) action))
      (withDispatch_same _ rfl) (.inr (scene_absorbed h action)) rfl
  refine ⟨_, ?_, told⟩
  have passed : (takeEvent registry event).run ((scripts registry tool).engine x) = (some wrapped, e) :=
    passed
  have moved : (scripts registry tool).withEngine x e = { x with engine := e } := moveTo_same threads
  have absorbed' : answer (absorbEvent registry event (.ok action))
      ((scripts registry tool).engine { x with engine := e, calls }) = _ := answer_absorbEvent h on action
  rw [(scripts registry tool).answer_deliverEvent_taken (x := x) lawful hops rfl, passed]
  simp only
  rw [moved, delivered, Scripts.answer_tryRun, absorbed']
  exact congrArg (Prod.mk _) (moveTo_same ((share_absorbed h action).trans threads.symm))

/-- An event that the profilers hear of first. -/
theorem deliverTo_ours (h : AtTool (Mirrors registry g) registry x.engine)
    (wraps : (x.engine.scene registry).Wraps) (on : 0 < (x.engine.share registry).threads)
    (ours : event.kind ∈ ourKinds)
    (native : ¬ x.engine.facility.isDisabled Facility.profilerTool event.location = true)
    (tool : Listener) (serial : Nat) :
    ∃ x', answer ((scripts registry tool).deliverTo event
        (Facility.profilerTool, .profiler registry serial)) x = (.ok (), x') ∧
      Told registry tool event g x x' := by
  have asked := run_takeEvent h.unguarded h.monitored (h.idle x.engine.thread) event
  simp only at asked
  rw [if_pos ⟨goesOn wraps event, h.unguarded.attached⟩] at asked
  suffices delivered : ∃ x', answer ((scripts registry tool).deliverEvent
      ((scripts registry tool).hopsAt x) (.profiler registry serial) event) x = (.ok .goOn, x') ∧
      Told registry tool event g x x' by
    obtain ⟨x', delivered, told⟩ := delivered
    rw [Scripts.answer_deliverTo, delivered]
    exact ⟨x', rfl, told⟩
  cases next : ((x.engine.share registry).noticed x.engine.facility.restarts).next? event with
  | some wrapped =>
    rw [next] at asked
    exact deliverEvent_passed h on ours native next asked tool _ serial
  | none =>
    rw [next] at asked
    have threads := (congrArg ToolShare.threads (share_taken h.unguarded event)).trans
      (ToolShare.threads_noticed _ _)
    have unheard : g.asks event = none := by
      have h₂ := h.place.noticed
      have on₂ : 0 < ((x.engine.share registry).noticed x.engine.facility.restarts).threads := by
        rw [ToolShare.threads_noticed]
        exact on
      unfold ToolShare.next? at next
      split at next
      · exact h₂.asks_absent ((if_pos ⟨on₂, ours⟩).trans next)
      · rename_i silent
        by_cases subscribed : (g.eventsOf Facility.profilerTool).contains event.kind = true
        · refine h₂.asks_off (.inr (.inl ⟨ours, ?_⟩))
          rw [← ToolShare.noticed_disabled, ToolShare.noticed_noticed, ← List.contains_iff_mem]
          rw [(h₂.listening on₂).2.2.2] at silent
          grind
        · exact Facility.asks_unsubscribed (Bool.eq_false_iff.mpr subscribed)
    exact ⟨_, deliverEvent_kept asked threads _, .unheard unheard
      (h.taken event fun place => place.noticed) (fun _ => rfl) (.inr (scene_taken h.unguarded event)) rfl⟩

/-- **The tool hears of every event** as it would have without the profilers. -/
theorem announceEvent (h : AtTool (Mirrors registry g) registry x.engine)
    (wraps : (x.engine.scene registry).Wraps) (tool : Listener) (event : MonitorEvent) :
    ∃ x', answer ((scripts registry tool).announceEvent event) x = (.ok (), x') ∧
      Told registry tool event g x x' := by
  have silent : g.asks event = none → Told registry tool event g x x := fun unheard =>
    .unheard unheard h (fun _ => rfl) (.inl rfl) rfl
  have monitored : ((scripts registry tool).engine x).monitored = true := h.monitored
  have targets : ((scripts registry tool).engine x).facility.targets event = _ :=
    Facility.targets_sole h.place.others event
  rw [Scripts.answer_announceEvent, if_pos monitored, targets]
  by_cases native : x.engine.facility.isDisabled Facility.profilerTool event.location = true
  · rw [if_neg fun heard => heard.2 native]
    exact ⟨x, rfl, silent (h.place.asks_off (.inl native))⟩
  by_cases apart : 0 < (x.engine.share registry).threads ∧ event.kind ∈ ourKinds
  · obtain ⟨on, ours⟩ := apart
    have held := (h.place.listening on).1
    obtain ⟨serial, there, -⟩ := held.ours event.kind ours
    rw [if_pos ⟨held.subscribed ours, native⟩, there, Option.map_some, Option.toList_some,
      Scripts.answer_forM_one]
    exact deliverTo_ours h wraps on ours native tool serial
  · have same := h.place.subscribed apart
    by_cases on : (x.engine.facility.eventsOf Facility.profilerTool).contains event.kind = true
    · rw [if_pos ⟨on, native⟩]
      cases there : x.engine.facility.callback? Facility.profilerTool event.kind with
      | none =>
        exact ⟨x, rfl, silent (h.place.asks_absent ((if_neg apart).trans there))⟩
      | some hook =>
        rw [Option.map_some, Option.toList_some, Scripts.answer_forM_one]
        exact deliverTo_own h apart on native there tool
    · rw [if_neg fun heard => on heard.1]
      rw [same, Bool.not_eq_true] at on
      exact ⟨x, rfl, silent (Facility.asks_unsubscribed on)⟩

end Listening

end LineClock
