import LineClock.Proofs.Engine.Delivery
import LineClock.Proofs.Engine.SlotEvent
import LineClock.Proofs.Engine.Switching

/-!
# A registry alone at the trace slots

How a registry stands that listens through the trace slots while nobody else has hooks: the slot of
a thread holds the profilers' own hook where the registry listens, and nothing elsewhere.
-/

namespace LineClock

open Machine

/-- A thread of a registry that is alone at the trace slots. -/
structure SlotThread (registry : RegistryId) (d : Dispatch) (slot : Option TraceHook) : Prop where
  idle : d.busy = false
  saved : d.saved = none
  wrapped : d.wrapped = none
  muted : d.muted = []
  ours : d.ours = slot
  hook : if d.activated then ∃ serial, slot = some (.profiler registry serial) else slot = none

/-- A registry that is alone at the trace slots. -/
structure SlotListens (registry : RegistryId) (e : Engine) : Prop where
  present : (e.registries.get? registry).isSome
  backend : (e.registry registry).backend = .slot
  silent : ∀ tool kind, e.facility.callback? tool kind = none
  thread : ∀ th, SlotThread registry (e.dispatchAt th registry) (e.slots.get? th)

namespace SlotThread

variable {registry : RegistryId} {d : Dispatch} {slot : Option TraceHook}

/-- Who is on does not matter to the slot. -/
theorem withActive (h : SlotThread registry d slot) (on : List (ProfilerId × Nat)) :
    SlotThread registry { d with active := on } slot :=
  ⟨h.idle, h.saved, h.wrapped, h.muted, h.ours, h.hook⟩

/-- Nothing was muted, so nothing is cleared. -/
theorem cleared (h : SlotThread registry d slot) (frame : Frame) (event : TraceEvent) :
    Engine.cleared frame event d = d := by
  unfold Engine.cleared
  split
  · obtain ⟨active, busy, activated, saved, wrapped, ours, muted⟩ := d
    have empty : muted = [] := h.muted
    subst empty
    rfl
  · rfl

end SlotThread

namespace Engine

/-- No tool hears of an event when there are no callbacks. -/
theorem targets_silent {f : Facility} (h : ∀ tool kind, f.callback? tool kind = none)
    (event : MonitorEvent) : f.targets event = [] := by
  unfold Facility.targets
  rw [List.filterMap_eq_nil_iff]
  intro tool _
  simp [h]

end Engine

namespace SlotListens

open Engine

variable {registry : RegistryId} {e : Engine}

/-- A change on the running thread only. -/
theorem change (h : SlotListens registry e) {e' : Engine} {d : Dispatch} {slot : Option TraceHook}
    (registries : e'.registries = e.registries) (facility : e'.facility = e.facility)
    (dispatch : ∀ th, e'.dispatchAt th registry =
      if th = e.thread then d else e.dispatchAt th registry)
    (slots : ∀ th, e'.slots.get? th = if th = e.thread then slot else e.slots.get? th)
    (thread : SlotThread registry d slot) : SlotListens registry e' := by
  refine ⟨?_, ?_, ?_, fun th => ?_⟩
  · rw [registries]
    exact h.present
  · exact (backend_congr registries registry).trans h.backend
  · rw [facility]
    exact h.silent
  · rw [dispatch, slots]
    split
    · exact thread
    · exact h.thread th

/-- Changing who is on leaves the slots as they are. -/
theorem withActive (h : SlotListens registry e) (on : List (ProfilerId × Nat)) :
    SlotListens registry (e.withDispatch registry { e.dispatchOf registry with active := on }) := by
  refine h.change rfl rfl (withDispatch_dispatchAt registry e _) (fun th => ?_)
    ((h.thread e.thread).withActive on)
  split
  · rename_i here
    rw [here]
    rfl
  · rfl

theorem heard_dispatchAt (h : SlotListens registry e) (frame : Frame) (event : TraceEvent)
    (th : ThreadKey) :
    (Engine.heard registry e frame event).dispatchAt th registry = e.dispatchAt th registry := by
  rw [Engine.heard_dispatchAt]
  split
  · rename_i here
    subst here
    exact (h.thread e.thread).cleared frame event
  · rfl

theorem heard (h : SlotListens registry e) (frame : Frame) (event : TraceEvent) :
    SlotListens registry (heard registry e frame event) := by
  refine ⟨?_, ?_, ?_, fun th => ?_⟩
  · rw [heard_registries]
    exact h.present
  · exact (backend_congr (heard_registries ..) registry).trans h.backend
  · rw [heard_facility]
    exact h.silent
  · rw [h.heard_dispatchAt, heard_slots]
    exact h.thread th

/-! ## Events -/

/-- The profilers' hook keeps every event to itself. -/
theorem takeTrace (h : SlotListens registry e) (frame : Frame) (event : TraceEvent) :
    (takeTrace registry frame event).run e = (none, Engine.heard registry e frame event) := by
  have here : SlotThread registry (e.dispatchOf registry) e.traceHook? := h.thread e.thread
  rw [run_takeTrace, here.idle, here.wrapped]
  simp

/-- A trace event is recorded where the registry listens, and the frame stays as it is. -/
theorem announceTrace (h : SlotListens registry e) (frame : Frame) (event : TraceEvent)
    (on : (e.dispatchOf registry).activated = (e.dispatchOf registry).isActive) :
    ∃ e', answer (Scripts.quiet.announceTrace frame event) e = (.ok frame.linesOn, e') ∧
      SlotListens registry e' ∧ e'.scene registry = (e.scene registry).hear frame event ∧
      ∀ th, e'.dispatchAt th registry = e.dispatchAt th registry := by
  have here : SlotThread registry (e.dispatchOf registry) e.traceHook? := h.thread e.thread
  have hook := here.hook
  split at hook
  · obtain ⟨serial, stands⟩ := hook
    exact ⟨Engine.heard registry e frame event,
      Scripts.quiet.announceTrace_kept stands (h.takeTrace frame event), h.heard frame event,
      heard_scene registry e frame event, h.heard_dispatchAt frame event⟩
  · rename_i off
    have stands : (Scripts.quiet.engine e).traceHook? = none := hook
    have nobody : (e.scene registry).here = [] := by
      rw [on, Dispatch.isActive, Bool.not_eq_true, Bool.not_eq_false', List.isEmpty_iff] at off
      exact off
    refine ⟨e, ?_, h, (Scene.hear_nobody nobody frame event).symm, fun _ => rfl⟩
    rw [Scripts.answer_announceTrace, stands]

/-- A monitoring event is nobody's business. -/
theorem announceEvent (h : SlotListens registry e) (event : MonitorEvent) :
    answer (Scripts.quiet.announceEvent event) e = (.ok (), e) := by
  rw [Scripts.answer_announceEvent]
  have none : (Scripts.quiet.engine e).facility.targets event = [] := targets_silent h.silent event
  rw [none]
  split <;> rfl

/-! ## Switching -/

theorem run_activateSlot (registry : RegistryId) (e : Engine) :
    (activateSlot registry).run e =
      ((), (({ e with hooks := e.hooks + 1 } : Engine).withDispatch registry
        { e.dispatchOf registry with
          saved := e.traceHook?, wrapped := e.traceHook?, muted := []
          ours := some (.profiler registry e.hooks) }).withHook
            (some (.profiler registry e.hooks))) := rfl

theorem run_deactivateSlot (registry : RegistryId) (e : Engine) :
    (deactivateSlot registry).run e =
      ((), (e.withDispatch registry
        { e.dispatchOf registry with saved := none, wrapped := none, ours := none, muted := [] }).withHook
          (e.dispatchOf registry).saved) := by
  unfold deactivateSlot
  rw [run_state_get_bind, run_state_bind (run_modifyDispatch registry e _), run_setTraceHook]

/-- The registry starts to listen on the running thread. -/
theorem activate (h : SlotListens registry e) (off : (e.dispatchOf registry).activated = false) :
    ∃ e', answer (activate registry) e = (.ok (), e') ∧ SlotListens registry e' ∧
      e'.scene registry = e.scene registry ∧
      ∀ th, (e'.dispatchAt th registry).activated =
        if th = e.thread then true else (e.dispatchAt th registry).activated := by
  have here : SlotThread registry (e.dispatchOf registry) e.traceHook? := h.thread e.thread
  have empty := here.hook
  rw [if_neg (by simp [off])] at empty
  let ours : TraceHook := .profiler registry e.hooks
  let d : Dispatch :=
    { e.dispatchOf registry with saved := none, wrapped := none, muted := [], ours := some ours }
  let e₁ := (({ e with hooks := e.hooks + 1 } : Engine).withDispatch registry d).withHook (some ours)
  let e₂ := e₁.withDispatch registry { e₁.dispatchOf registry with activated := true }
  have known : e₁.dispatchOf registry = d := withDispatch_dispatchOf registry _ d
  have dispatch : ∀ th, e₂.dispatchAt th registry =
      if th = e.thread then { d with activated := true } else e.dispatchAt th registry := by
    intro th
    rw [← known]
    exact withDispatch_dispatchAt_twice registry e e₁ rfl
      (withDispatch_dispatchAt registry _ d) _ th
  refine ⟨e₂, ?_, ?_, ?_, ?_⟩
  · have done := run_activateSlot registry e
    rw [empty] at done
    exact answer_activate_slot h.backend done
  · exact h.change rfl rfl dispatch (withHook_slots _ (some ours))
      ⟨here.idle, rfl, rfl, rfl, rfl, e.hooks, rfl⟩
  · have same : e₁.scene registry = e.scene registry :=
      scene_withDispatch_same registry { e with hooks := e.hooks + 1 } (d := d) rfl
    have same' : e₂.scene registry = e₁.scene registry :=
      scene_withDispatch_same registry e₁ rfl
    rw [same', same]
  · intro th
    rw [dispatch]
    split <;> rfl

/-- The registry stops listening on the running thread. -/
theorem deactivate (h : SlotListens registry e) (on : (e.dispatchOf registry).activated = true) :
    ∃ e', answer (deactivate registry) e = (.ok (), e') ∧ SlotListens registry e' ∧
      e'.scene registry = e.scene registry ∧
      ∀ th, (e'.dispatchAt th registry).activated =
        if th = e.thread then false else (e.dispatchAt th registry).activated := by
  have here : SlotThread registry (e.dispatchOf registry) e.traceHook? := h.thread e.thread
  let d : Dispatch := { e.dispatchOf registry with activated := false }
  let e₁ := e.withDispatch registry d
  let d' : Dispatch := { d with saved := none, wrapped := none, ours := none, muted := [] }
  let e₂ := (e₁.withDispatch registry d').withHook none
  have known : e₁.dispatchOf registry = d := withDispatch_dispatchOf registry _ d
  have dispatch : ∀ th, e₂.dispatchAt th registry =
      if th = e.thread then d' else e.dispatchAt th registry := by
    exact withDispatch_dispatchAt_twice registry e e₁ rfl
      (withDispatch_dispatchAt registry e d) d'
  refine ⟨e₂, ?_, ?_, ?_, ?_⟩
  · have saved : (e₁.dispatchOf registry).saved = none := by
      rw [known]
      exact here.saved
    rw [answer_deactivate_slot h.backend on, answer_liftM, run_deactivateSlot, saved, known]
  · exact h.change rfl rfl dispatch (withHook_slots (e₁.withDispatch registry d') none)
      ⟨here.idle, rfl, rfl, rfl, rfl, rfl⟩
  · have same : e₁.scene registry = e.scene registry := scene_withDispatch_same registry e rfl
    have same' : e₂.scene registry = e₁.scene registry :=
      scene_withDispatch_same registry e₁ (by rw [known])
    rw [same', same]
  · intro th
    rw [dispatch]
    split <;> rfl

end SlotListens

end LineClock
