import LineClock.Proofs.Engine.Scene

/-!
# Trace events at the profilers' hook

What becomes of a trace event that reaches the profilers' own hook: it is recorded, and goes on to
the hook that was in the slot before if someone wants that.
-/

namespace LineClock.Engine

open Machine

variable (registry : RegistryId) (e : Engine) (frame : Frame) (event : TraceEvent)

/-- Whether a frame is over after an event. -/
abbrev closes (frame : Frame) (event : TraceEvent) : Prop := event = .ret ∧ ¬ frame.suspended

/-- What the running thread knows of the registry once an event is recorded. -/
def cleared (d : Dispatch) : Dispatch := if closes frame event then d.unmute frame.id else d

/-- The engine once a trace event is recorded. -/
def heard : Engine :=
  let e' := e.withProfilers ((e.scene registry).hear frame event).profilers
  if closes frame event then e'.withDispatch registry ((e.dispatchOf registry).unmute frame.id)
  else e'

theorem cleared_active (d : Dispatch) : (cleared frame event d).active = d.active := by
  unfold cleared
  split <;> rfl

theorem cleared_wrapped (d : Dispatch) : (cleared frame event d).wrapped = d.wrapped := by
  unfold cleared
  split <;> rfl

theorem cleared_eq (d : Dispatch) :
    cleared frame event d = { d with muted := (cleared frame event d).muted } := by
  unfold cleared
  split <;> rfl

/-- The last event of a frame ends its being muted. -/
theorem mem_cleared (d : Dispatch) (id : FrameId) : id ∈ (cleared frame event d).muted ↔
    id ∈ d.muted ∧ ¬ (closes frame event ∧ id = frame.id) := by
  unfold cleared
  split
  · rename_i ended
    unfold Dispatch.unmute
    simp [ended]
  · rename_i goes
    simp [goes]

theorem heard_scene :
    (heard registry e frame event).scene registry = (e.scene registry).hear frame event := by
  unfold heard
  simp only
  split
  · rw [scene_withDispatch_same, scene_hear]
    rfl
  · exact scene_hear registry e frame event

theorem heard_dispatchOf :
    (heard registry e frame event).dispatchOf registry =
      cleared frame event (e.dispatchOf registry) := by
  unfold heard cleared
  simp only
  split
  · rw [withDispatch_dispatchOf]
  · rfl

theorem heard_dispatchAt (th : ThreadKey) :
    (heard registry e frame event).dispatchAt th registry =
      if th = e.thread then cleared frame event (e.dispatchOf registry)
      else e.dispatchAt th registry := by
  unfold heard cleared
  simp only
  split
  · rw [withDispatch_dispatchAt]
    rfl
  · split
    · rename_i h
      rw [h]
      rfl
    · rfl

@[simp] theorem heard_slots : (heard registry e frame event).slots = e.slots := by
  unfold heard
  simp only
  split <;> rfl

@[simp] theorem heard_facility : (heard registry e frame event).facility = e.facility := by
  unfold heard
  simp only
  split <;> rfl

@[simp] theorem heard_registries : (heard registry e frame event).registries = e.registries := by
  unfold heard
  simp only
  split <;> rfl

@[simp] theorem heard_thread : (heard registry e frame event).thread = e.thread := by
  unfold heard
  simp only
  split <;> rfl

@[simp] theorem heard_traceHook? : (heard registry e frame event).traceHook? = e.traceHook? := by
  unfold Engine.traceHook?
  rw [heard_slots, heard_thread]

theorem run_muted :
    (muted registry frame event).run e =
      ((e.dispatchOf registry).muted.contains frame.id,
        if closes frame event then e.withDispatch registry ((e.dispatchOf registry).unmute frame.id)
        else e) := by
  unfold muted
  rw [run_state_get_bind]
  by_cases h : event = .ret ∧ ¬ frame.suspended
  · rw [if_pos h, if_pos h]
    rfl
  · rw [if_neg h, if_neg h]
    rfl

/-- **An event at the profilers' hook** is recorded unless somebody else's hook is running. It goes
on if an active profiler wraps, somebody's hook was in the slot, and it is not a line of a muted
frame. -/
theorem run_takeTrace :
    (takeTrace registry frame event).run e =
      if (e.dispatchOf registry).busy then (none, e)
      else
        let e' := heard registry e frame event
        if ¬ e'.wantsWrap registry ∨
            (event = .line ∧ (e.dispatchOf registry).muted.contains frame.id) then (none, e')
        else
          match (e.dispatchOf registry).wrapped with
          | none => (none, e')
          | some wrapped =>
            (some wrapped,
              e'.withDispatch registry { e'.dispatchOf registry with busy := true }) := by
  unfold takeTrace
  rw [run_state_get_bind]
  have found : (muted registry frame event).run
      (e.withProfilers ((e.scene registry).hear frame event).profilers) =
        ((e.dispatchOf registry).muted.contains frame.id, heard registry e frame event) :=
    run_muted registry _ frame event
  by_cases busy : (e.dispatchOf registry).busy
  · rw [if_pos busy, if_pos busy]
    rfl
  · rw [if_neg busy, if_neg busy, run_state_bind (run_recordTrace registry e frame event),
      run_state_bind found, run_state_get_bind]
    have wrapped : ((heard registry e frame event).dispatchOf registry).wrapped =
        (e.dispatchOf registry).wrapped := by
      rw [heard_dispatchOf, cleared_wrapped]
    rw [wrapped]
    simp only
    split
    · rfl
    · cases (e.dispatchOf registry).wrapped <;> rfl

/-- **What becomes of an event** while nobody else's hook is running: it is recorded and kept, or goes
on to the hook that was there before. -/
theorem takeTrace_cases (idle : (e.dispatchOf registry).busy = false) :
    (takeTrace registry frame event).run e = (none, heard registry e frame event) ∨
      ∃ wrapped, (e.dispatchOf registry).wrapped = some wrapped ∧
        ¬ (event = .line ∧ (e.dispatchOf registry).muted.contains frame.id) ∧
        (takeTrace registry frame event).run e = (some wrapped,
          (heard registry e frame event).withDispatch registry
            { (heard registry e frame event).dispatchOf registry with busy := true }) := by
  rw [run_takeTrace, if_neg (by rw [idle]; exact Bool.false_ne_true)]
  simp only
  by_cases quiet : ¬ (heard registry e frame event).wantsWrap registry ∨
      (event = .line ∧ (e.dispatchOf registry).muted.contains frame.id)
  · rw [if_pos quiet]
    exact .inl rfl
  · rw [if_neg quiet]
    cases (e.dispatchOf registry).wrapped with
    | none => exact .inl rfl
    | some wrapped => exact .inr ⟨wrapped, rfl, fun muted => quiet (.inr muted), rfl⟩

end LineClock.Engine
