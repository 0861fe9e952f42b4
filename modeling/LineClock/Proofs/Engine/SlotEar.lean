import LineClock.Proofs.Engine.Meek
import LineClock.Proofs.Engine.SlotWraps
import LineClock.Proofs.Engine.Standing

/-!
# Listening at the trace slot before hooks that fail

A registry that listens at the trace slot of the running thread before a hook that may fail. When that
hook fails all that is pending is dropped and the machine empties the slot, so the registry is deaf
from then on. Callbacks that fail are nobody's business here, except where an exception is raised: the
machine leaves the frame then without telling the slot.

Main statement: `SlotEar.clearing`.
-/

namespace LineClock

open Machine Engine Earshot

/-- A registry at the trace slot of the running thread, before a script or nothing, or deaf because a
hook failed. The callbacks are those of `f₀`. -/
structure SlotEar (registry : RegistryId) (f₀ : Facility) (deaf : Bool) (e : Engine) : Prop where
  callbacks : ∀ tool kind, e.facility.callback? tool kind = f₀.callback? tool kind
  idle : (e.dispatchOf registry).busy = false
  on : (e.dispatchOf registry).activated = true
  empty : deaf = true → e.traceHook? = none
  stands : deaf = false → ∃ serial, e.traceHook? = some (.profiler registry serial) ∧
    (e.dispatchOf registry).ours = some (.profiler registry serial)
  before : deaf = false → (e.dispatchOf registry).saved = (e.dispatchOf registry).wrapped ∧
    ∀ hook, (e.dispatchOf registry).wrapped = some hook → ∃ id, hook = .script id

namespace SlotEar

variable {registry : RegistryId} {f₀ : Facility} {deaf : Bool} {e : Engine}

theorem earshot (registry : RegistryId) (f₀ : Facility) : Earshot registry (SlotEar registry f₀) where
  withActive {deaf e} h on := by
    have known := withDispatch_dispatchOf registry e { e.dispatchOf registry with active := on }
    refine ⟨h.callbacks, ?_, ?_, h.empty, fun hears => ?_, fun hears => ?_⟩
    · rw [known]
      exact h.idle
    · rw [known]
      exact h.on
    · rw [known]
      exact h.stands hears
    · rw [known]
      exact h.before hears
  passing h clock frames := ⟨h.callbacks, h.idle, h.on, h.empty, h.stands, h.before⟩

/-- The registry as it stands once an event is recorded. -/
theorem heard (h : SlotEar registry f₀ deaf e) (frame : Frame) (event : TraceEvent) :
    SlotEar registry f₀ deaf (heard registry e frame event) := by
  have dispatch := heard_dispatchOf registry e frame event
  rw [cleared_eq] at dispatch
  refine ⟨?_, ?_, ?_, ?_, fun hears => ?_, fun hears => ?_⟩
  · rw [heard_facility]
    exact h.callbacks
  · rw [dispatch]
    exact h.idle
  · rw [dispatch]
    exact h.on
  · rw [heard_traceHook?]
    exact h.empty
  · rw [dispatch, heard_traceHook?]
    exact h.stands hears
  · rw [dispatch]
    exact h.before hears

/-- The hook to which an event went on has answered. -/
theorem absorbTrace_ok (h : SlotEar registry f₀ false e) (frame : Frame) (linesOn : Bool) :
    ∃ e', answer (absorbTrace registry frame (.ok linesOn)) (e.waiting registry) = (.ok true, e') ∧
      SlotEar registry f₀ false e' ∧ e'.scene registry = e.scene registry := by
  obtain ⟨serial, stands, mine⟩ := h.stands rfl
  obtain ⟨same, scripted⟩ := h.before rfl
  let d : Dispatch := { e.dispatchOf registry with busy := true }
  have known : (e.waiting registry).dispatchOf registry = d := withDispatch_dispatchOf registry e d
  obtain ⟨slots, absorbed, there⟩ := answer_absorbTrace_ok (e := e.waiting registry)
    (by rw [known]; exact h.on) (by rw [known]; exact mine) frame (by rw [known]; exact same) linesOn
  have next : successor (.profiler registry serial) (e.waiting registry) d =
    (e.dispatchOf registry).wrapped := if_pos stands
  rw [known, next] at absorbed
  let d' := answered d (e.dispatchOf registry).wrapped linesOn frame.id
  have whole : d' = { e.dispatchOf registry with
      saved := (e.dispatchOf registry).wrapped, muted := d'.muted, busy := false } :=
    answered_eq d (e.dispatchOf registry).wrapped linesOn frame.id
  have again : reslotted registry (e.waiting registry) slots d' = reslotted registry e slots d' :=
    reslotted_reslotted registry e e.slots slots d d'
  rw [again] at absorbed
  have slot : (reslotted registry e slots d').traceHook? = some (.profiler registry serial) :=
    (there e.thread).trans (if_pos rfl)
  refine ⟨_, absorbed, ⟨h.callbacks, ?_, ?_, fun deaf => (by cases deaf), fun _ => ⟨serial, slot, ?_⟩,
    fun _ => ?_⟩, ?_⟩
  · rw [reslotted_dispatchOf, whole]
  · rw [reslotted_dispatchOf, whole]
    exact h.on
  · rw [reslotted_dispatchOf, whole]
    exact mine
  · rw [reslotted_dispatchOf, whole]
    exact ⟨rfl, scripted⟩
  · refine scene_reslotted_same registry e slots ?_
    rw [whole]

/-- The hook to which an event went on has failed, and the slot is emptied. -/
theorem absorbTrace_error (h : SlotEar registry f₀ false e) (frame : Frame) (err : HookError) :
    ∃ e', answer (absorbTrace registry frame (.error err)) (e.waiting registry) = (.error err, e') ∧
      SlotEar registry f₀ true (e'.withHook none) ∧
      (e'.withHook none).scene registry = (e.scene registry).forgetPending := by
  obtain ⟨serial, stands, mine⟩ := h.stands rfl
  let d : Dispatch := { e.dispatchOf registry with busy := true }
  have known : (e.waiting registry).dispatchOf registry = d := withDispatch_dispatchOf registry e d
  have scene : (e.waiting registry).scene registry = e.scene registry :=
    scene_withDispatch_same registry e rfl
  have absorbed := answer_absorbTrace_error (e := e.waiting registry) frame (by rw [known]; exact h.on)
    (by rw [known]; exact mine) err
  rw [known, scene] at absorbed
  let d' : Dispatch := { d with busy := false, wrapped := none, saved := none }
  let e' := (reslotted registry (e.waiting registry) (e.waiting registry).slots d').withProfilers
    (e.scene registry).forgetPending.profilers
  have after : (e'.withHook none).dispatchOf registry = d' :=
    reslotted_dispatchOf registry (e.waiting registry) (e.waiting registry).slots d'
  have bare : (reslotted registry (e.waiting registry) (e.waiting registry).slots d').scene registry =
      e.scene registry := by
    refine (scene_reslotted_same registry (e.waiting registry) _ ?_).trans scene
    rw [known]
  refine ⟨e', absorbed, ⟨h.callbacks, ?_, ?_, fun _ => withHook_traceHook? e' none,
    fun hears => (by cases hears), fun hears => (by cases hears)⟩, ?_⟩
  · rw [after]
  · rw [after]
    exact h.on
  · show ({ (reslotted registry (e.waiting registry) (e.waiting registry).slots d').scene registry with
      profilers := (e.scene registry).forgetPending.profilers } : Scene) = _
    rw [bare]
    rfl

variable {σ : Type} {s : Scripts σ} {x : σ}

/-- **A trace event** is recorded. If the hook before fails, nothing is pending any more and the
registry is deaf. -/
theorem announceTrace (aloof : s.Aloof) (h : SlotEar registry f₀ false (s.engine x)) (frame : Frame)
    (event : TraceEvent) :
    ∃ x', ((∃ on, answer (s.announceTrace frame event) x = (.ok on, x')) ∧
        SlotEar registry f₀ false (s.engine x') ∧
        (s.engine x').scene registry = ((s.engine x).scene registry).hear frame event) ∨
      (∃ err, answer (s.announceTrace frame event) x = (.error err, x')) ∧
        SlotEar registry f₀ true (s.engine x') ∧
        (s.engine x').scene registry =
          (((s.engine x).scene registry).hear frame event).forgetPending := by
  obtain ⟨serial, stands, mine⟩ := h.stands rfl
  obtain ⟨same, scripted⟩ := h.before rfl
  have there := h.heard frame event
  have scene := heard_scene registry (s.engine x) frame event
  rcases takeTrace_cases registry (s.engine x) frame event h.idle with
    kept | ⟨hook, wrapped, -, passed⟩
  · rw [s.announceTrace_kept stands kept]
    refine ⟨_, .inl ⟨⟨_, rfl⟩, ?_⟩⟩
    rw [aloof.get_put]
    exact ⟨there, scene⟩
  · obtain ⟨id, rfl⟩ := scripted hook wrapped
    rw [s.announceTrace_passed stands passed]
    simp only
    rw [Scripts.Aloof.deliverTrace_eq]
    have alone := aloof.trace id frame event
      (s.withEngine x ((Engine.heard registry (s.engine x) frame event).waiting registry))
    rw [aloof.get_put] at alone
    unfold Engine.waiting at alone
    rcases heard : answer (s.trace id frame event) (s.withEngine x
      ((Engine.heard registry (s.engine x) frame event).withDispatch registry
        { (Engine.heard registry (s.engine x) frame event).dispatchOf registry with busy := true }))
      with ⟨err | linesOn, x₂⟩ <;> rw [heard] at alone
    · obtain ⟨e', absorbed, deaf, forgotten⟩ := there.absorbTrace_error frame err
      unfold Engine.waiting at absorbed
      simp only
      rw [Scripts.answer_tryRun, alone, absorbed]
      refine ⟨_, .inr ⟨⟨err, rfl⟩, ?_⟩⟩
      rw [aloof.get_put, aloof.get_put, forgotten, scene]
      exact ⟨deaf, rfl⟩
    · obtain ⟨e', absorbed, hears, same⟩ := there.absorbTrace_ok frame linesOn
      unfold Engine.waiting at absorbed
      simp only
      rw [Scripts.answer_tryRun, alone, absorbed]
      refine ⟨_, .inl ⟨⟨true, rfl⟩, ?_⟩⟩
      rw [aloof.get_put, same, scene]
      exact ⟨hears, rfl⟩

/-- A deaf registry hears of no trace event. -/
theorem announceTrace_deaf (h : SlotEar registry f₀ true (s.engine x)) (frame : Frame)
    (event : TraceEvent) : answer (s.announceTrace frame event) x = (.ok frame.linesOn, x) := by
  rw [Scripts.answer_announceTrace, h.empty rfl]

/-- **A monitoring event** is nobody's business. -/
theorem announceEvent (aloof : s.Aloof) (scripted : f₀.Scripted)
    (h : SlotEar registry f₀ deaf (s.engine x)) (event : MonitorEvent) :
    let out := answer (s.announceEvent event) x
    SlotEar registry f₀ deaf (s.engine out.2) ∧
      (s.engine out.2).scene registry = (s.engine x).scene registry ∧
      ((∀ tool id, f₀.callback? tool event.kind = some (.script id) → s.Monitors event.kind id) →
        out.1 = .ok ()) := by
  simp only
  rw [Scripts.answer_announceEvent]
  split
  · have there : ∀ target ∈ (s.engine x).facility.targets event,
        f₀.callback? target.1 event.kind = some target.2 := by
      intro target mem
      rw [← h.callbacks]
      exact Facility.callback?_of_mem_targets mem
    obtain ⟨firm, f, after, quieter⟩ := aloof.announce (fun _ => True) event
      ((s.engine x).facility.targets event)
      (fun target mem => ⟨trivial, scripted _ _ _ (there target mem)⟩) x
    rw [after]
    refine ⟨⟨fun tool kind => ?_, h.idle, h.on, h.empty, h.stands, h.before⟩, rfl, fun firms => ?_⟩
    · exact (quieter.callback? tool kind).trans (h.callbacks tool kind)
    · refine firm fun target mem id script => firms target.1 id ?_
      rw [there target mem, script]
  · exact ⟨h, rfl, fun _ => rfl⟩

/-- **Whatever fails, nothing is left running** at the trace slot, if no callback fails where an
exception is raised. -/
theorem clearing (aloof : s.Aloof) (scripted : f₀.Scripted) {post : Scene.Post}
    (own : ∀ id scope, (post.routines.getD id { slot := id }).scope = some scope →
      scope.registry = registry)
    (firm : ∀ tool id, f₀.callback? tool .raise = some (.script id) → s.Monitors .raise id) :
    Clearing s.host (Leaves s registry (SlotEar registry f₀) post) where
  weaken h sub := weaken h sub
  newFrame h := newFrame (earshot registry f₀) aloof.get_put h
  work h units := work (earshot registry f₀) aloof.get_put h units
  trace {c n x} h frame event line := by
    obtain ⟨deaf, there, runs⟩ := h
    have told : s.host.trace frame event = s.announceTrace frame event := rfl
    rw [told]
    cases deaf with
    | true =>
      rw [there.announceTrace_deaf]
      exact ⟨true, there, runs⟩
    | false =>
      have runs := Scene.Runs.hear runs frame event line
      rcases there.announceTrace aloof frame event with
        ⟨x', ⟨⟨on, heard⟩, ear, scene⟩ | ⟨⟨err, failed⟩, ear, scene⟩⟩
      · rw [heard]
        exact ⟨false, ear, scene ▸ runs⟩
      · rw [failed]
        exact ⟨true, ear, scene ▸ runs.forgetPending⟩
  monitor {c n x} h event line := by
    obtain ⟨deaf, there, runs⟩ := h
    obtain ⟨ear, scene, -⟩ := there.announceEvent aloof scripted event
    exact ⟨deaf, ear, scene ▸ runs⟩
  exception {c n x e x'} h frame failed := by
    obtain ⟨deaf, there, runs⟩ := h
    have failed : answer (s.announceTrace frame .exception) x = (.error e, x') := failed
    cases deaf with
    | true =>
      rw [there.announceTrace_deaf] at failed
      cases failed
    | false =>
      rcases there.announceTrace aloof frame .exception with
        ⟨x₁, ⟨⟨on, heard⟩, -⟩ | ⟨⟨err, failed'⟩, ear, scene⟩⟩
      · cases heard.symm.trans failed
      · cases failed'.symm.trans failed
        exact ⟨true, ear, scene ▸ Scene.Runs.forgetPending runs⟩
  raise {c n x e x'} h event raised failed := by
    obtain ⟨deaf, there, runs⟩ := h
    obtain ⟨-, -, ok⟩ := there.announceEvent aloof scripted event
    have ok := ok (raised ▸ firm)
    have failed : answer (s.announceEvent event) x = (.error e, x') := failed
    rw [failed] at ok
    cases ok
  ends {c n x} frame h event _ _ := by
    obtain ⟨deaf, there, runs⟩ := h
    have told : s.host.trace frame .ret = s.announceTrace frame .ret := rfl
    -- what is announced to the facility afterwards changes nothing
    have after : ∀ {deaf y}, SlotEar registry f₀ deaf (s.engine y) →
        ((s.engine y).scene registry).Runs post (if deaf then [] else c) n →
        Leaves s registry (SlotEar registry f₀) post c n (answer (s.host.monitor event) y).2 := by
      intro deaf y there runs
      obtain ⟨ear, scene, -⟩ := there.announceEvent aloof scripted event
      exact ⟨deaf, ear, scene ▸ runs⟩
    rw [told]
    cases deaf with
    | true =>
      rw [there.announceTrace_deaf]
      exact after there runs
    | false =>
      rcases there.announceTrace aloof frame .ret with
        ⟨x', ⟨⟨on, heard⟩, ear, scene⟩ | ⟨⟨err, failed⟩, ear, scene⟩⟩
      · rw [heard]
        exact after ear (scene ▸ Scene.Runs.recordExit runs)
      · rw [failed]
        exact ⟨true, ear, scene ▸ Scene.Runs.forgetPending (Scene.Runs.recordExit runs)⟩
  enter h routine := enter (earshot registry f₀) aloof.get_put own h routine

end SlotEar

end LineClock
