import LineClock.Proofs.Engine.Meek
import LineClock.Proofs.Engine.SlotWraps

/-!
# A registry amid meek hooks at the trace slots

How a registry stands that listens through the trace slots when each slot held a meek hook before, or
none: where the registry listens, that hook is saved and the slot holds the profilers' own, and
elsewhere the slot holds what it held before.

Main statements: `SlotAmid.switching`, `SlotAmid.announceTrace` and `SlotAmid.announceEvent`.
-/

namespace LineClock

open Machine Engine

/-- A thread of a registry whose slot held `home` before. -/
structure AmidThread (registry : RegistryId) (home : Option TraceHook) (d : Dispatch)
    (slot : Option TraceHook) : Prop where
  idle : d.busy = false
  listening : d.activated = true →
    d.saved = home ∧ d.wrapped = home ∧
      ∃ serial, d.ours = some (.profiler registry serial) ∧ slot = d.ours
  off : d.activated = false → slot = home

/-- A registry that listens through the trace slots, which held `held` before, and not through the
tool id. Other registries do not listen. -/
structure SlotAmid (registry : RegistryId) (facility : Facility)
    (held : ThreadKey → Option TraceHook) (e : Engine) : Prop where
  backend : (e.registry registry).backend = .slot
  facility : e.facility = facility
  nowhere : (e.share registry).threads = 0
  others : ∀ th other, other ≠ registry → (e.dispatchAt th other).activated = false
  thread : ∀ th, AmidThread registry (held th) (e.dispatchAt th registry) (e.slots.get? th)

namespace AmidThread

variable {registry : RegistryId} {home : Option TraceHook} {d : Dispatch} {slot : Option TraceHook}

/-- Who is on does not matter to the slot, nor which frames are muted. -/
theorem same (h : AmidThread registry home d slot) (on : List (ProfilerId × Nat))
    (muted : List FrameId) : AmidThread registry home { d with active := on, muted } slot :=
  ⟨h.idle, h.listening, h.off⟩

end AmidThread

namespace Engine

/-- What a thread knows of one registry is nothing to another. -/
theorem withDispatch_others {registry other : RegistryId} (h : other ≠ registry) (e : Engine)
    (d : Dispatch) (th : ThreadKey) :
    (e.withDispatch registry d).dispatchAt th other = e.dispatchAt th other := by
  unfold dispatchAt withDispatch
  rw [Assoc.getD_set, if_neg]
  rintro ⟨⟩
  exact h rfl

end Engine

namespace SlotAmid

variable {registry : RegistryId} {facility : Facility} {held : ThreadKey → Option TraceHook}
  {e : Engine}

/-- A change on the running thread only. -/
theorem change (h : SlotAmid registry facility held e) {slots : Assoc ThreadKey TraceHook}
    {d : Dispatch} (elsewhere : ∀ th, th ≠ e.thread → slots.get? th = e.slots.get? th)
    (here : AmidThread registry (held e.thread) d (slots.get? e.thread)) :
    SlotAmid registry facility held (reslotted registry e slots d) := by
  refine ⟨h.backend, h.facility, h.nowhere, fun th other differ => ?_, fun th => ?_⟩
  · exact (congrArg Dispatch.activated (withDispatch_others differ e d th)).trans
      (h.others th other differ)
  · rw [reslotted_dispatchAt]
    by_cases this : th = e.thread
    · rw [if_pos this, this]
      exact here
    · rw [if_neg this]
      have kept : (reslotted registry e slots d).slots.get? th = e.slots.get? th := elsewhere th this
      rw [kept]
      exact h.thread th

theorem here (h : SlotAmid registry facility held e) :
    AmidThread registry (held e.thread) (e.dispatchOf registry) e.traceHook? := h.thread e.thread

theorem withActive (h : SlotAmid registry facility held e) (on : List (ProfilerId × Nat)) :
    SlotAmid registry facility held
      (e.withDispatch registry { e.dispatchOf registry with active := on }) := by
  have kept : SlotAmid registry facility held
      (reslotted registry e e.slots { e.dispatchOf registry with active := on }) :=
    h.change (fun _ _ => rfl) (h.here.same on _)
  exact kept

/-- **Switching profilers** saves the hook that was in the slot and puts it back. -/
theorem switching (registry : RegistryId) (facility : Facility)
    (held : ThreadKey → Option TraceHook) : Switching registry (SlotAmid registry facility held) where
  activate {e} h off := by
    let e₁ : Engine := { e with hooks := e.hooks + 1 }
    have h₁ : SlotAmid registry facility held e₁ := ⟨h.backend, h.facility, h.nowhere, h.others, h.thread⟩
    have slots := withHook_slots e (some (.profiler registry e.hooks))
    refine ⟨_, SlotWraps.answer_activate h.backend, h₁.change (fun th other => ?_) ?_,
      scene_reslotted_same registry e₁ _ rfl, fun th => ?_⟩
    · exact (slots th).trans (if_neg other)
    · refine ⟨h.here.idle, fun _ => ?_, fun on => (by cases on)⟩
      exact ⟨h.here.off off, h.here.off off, e.hooks, rfl, (slots e.thread).trans (if_pos rfl)⟩
    · rw [reslotted_dispatchAt]
      by_cases here : th = e.thread
      · rw [if_pos here, if_pos]
        · rfl
        · exact here
      · rw [if_neg here, if_neg]
        · rfl
        · exact here
  deactivate {e} h on := by
    have slots := withHook_slots e (e.dispatchOf registry).saved
    refine ⟨_, SlotWraps.answer_deactivate h.backend on, h.change (fun th other => ?_) ?_,
      scene_reslotted_same registry e _ rfl, fun th => ?_⟩
    · exact (slots th).trans (if_neg other)
    · refine ⟨h.here.idle, fun on => (by cases on), fun _ => ?_⟩
      exact ((slots e.thread).trans (if_pos rfl)).trans (h.here.listening on).1
    · rw [reslotted_dispatchAt]
      by_cases here : th = e.thread
      · rw [if_pos here, if_pos here]
        rfl
      · rw [if_neg here, if_neg here]
  withActive h on := h.withActive on

/-! ## Events -/

theorem heard (h : SlotAmid registry facility held e) (frame : Frame) (event : TraceEvent) :
    SlotAmid registry facility held (heard registry e frame event) := by
  have others : ∀ th other, other ≠ registry →
      (Engine.heard registry e frame event).dispatchAt th other = e.dispatchAt th other := by
    intro th other differ
    unfold Engine.heard
    simp only
    split
    · exact withDispatch_others differ _ _ th
    · rfl
  refine ⟨?_, ?_, ?_, fun th other differ => ?_, fun th => ?_⟩
  · exact (backend_congr (heard_registries ..) registry).trans h.backend
  · rw [heard_facility]
    exact h.facility
  · exact (congrArg ToolShare.threads (share_congr (heard_registries ..) registry)).trans h.nowhere
  · rw [others th other differ]
    exact h.others th other differ
  · rw [heard_dispatchAt, heard_slots]
    split
    · rename_i this
      rw [this, cleared_eq]
      exact h.here.same _ _
    · exact h.thread th

/-- What else the running thread knows disturbs nobody, nor what is in its slot. -/
theorem undisturbed_reslotted {slots : Assoc ThreadKey TraceHook} {d : Dispatch}
    (active : d.active = (e.dispatchOf registry).active)
    (activated : d.activated = (e.dispatchOf registry).activated) :
    Undisturbed registry e (reslotted registry e slots d) := by
  refine ⟨rfl, fun th => ?_, fun th => ?_⟩
  all_goals
    rw [reslotted_dispatchAt]
    split
    · rename_i this
      rw [this]
      assumption
    · rfl

theorem undisturbed_heard (registry : RegistryId) (e : Engine) (frame : Frame) (event : TraceEvent) :
    Undisturbed registry e (Engine.heard registry e frame event) := by
  refine ⟨heard_thread registry e frame event, fun th => ?_, fun th => ?_⟩
  all_goals
    rw [heard_dispatchAt, cleared_eq]
    split
    · rename_i this
      rw [this]
      rfl
    · rfl

variable {σ : Type} {s : Scripts σ} {x : σ}

/-- After the hook has answered to which an event went on, the slot is as it was. -/
theorem absorbTrace (h : SlotAmid registry facility held e)
    (on : (e.dispatchOf registry).activated = true) (frame : Frame) (linesOn : Bool) :
    ∃ e', answer (Engine.absorbTrace registry frame (.ok linesOn)) (e.waiting registry) =
        (.ok true, e') ∧ SlotAmid registry facility held e' ∧ Undisturbed registry e e' := by
  obtain ⟨saved, wrapped, serial, mine, slot⟩ := h.here.listening on
  let d : Dispatch := { e.dispatchOf registry with busy := true }
  have known : (e.waiting registry).dispatchOf registry = d := withDispatch_dispatchOf registry e d
  have stands : (e.waiting registry).traceHook? = some (.profiler registry serial) :=
    slot.trans mine
  have ours' : ((e.waiting registry).dispatchOf registry).ours = some (.profiler registry serial) := by
    rw [known]
    exact mine
  obtain ⟨slots, absorbed, there⟩ := answer_absorbTrace_ok (by rw [known]; exact on) ours' frame
    (by rw [known]; exact saved.trans wrapped.symm) linesOn
  have next : successor (.profiler registry serial) (e.waiting registry) d = held e.thread :=
    (if_pos stands).trans wrapped
  rw [known, next] at absorbed
  let d' := answered d (held e.thread) linesOn frame.id
  have whole : d' = { e.dispatchOf registry with
      saved := held e.thread, wrapped := held e.thread, muted := d'.muted, busy := false } :=
    answered_eq d (held e.thread) linesOn frame.id
  have again : reslotted registry (e.waiting registry) slots d' = reslotted registry e slots d' :=
    reslotted_reslotted registry e e.slots slots d d'
  have ours : slots.get? e.thread = (e.dispatchOf registry).ours :=
    ((there e.thread).trans (if_pos rfl)).trans mine.symm
  rw [again] at absorbed
  refine ⟨_, absorbed, h.change (fun th other => (there th).trans (if_neg other)) ?_, undisturbed_reslotted ?_ ?_⟩
  · rw [whole]
    exact ⟨rfl, fun _ => ⟨rfl, rfl, serial, mine, ours⟩, fun off => absurd (on.symm.trans off) (by simp)⟩
  · rw [whole]
  · rw [whole]

/-- **A trace event** leaves the slots as they are. -/
theorem announceTrace (meek : s.Meek) (h : SlotAmid registry facility held (s.engine x))
    (scripted : ∀ th hook, held th = some hook → ∃ id, hook = .script id) (frame : Frame)
    (event : TraceEvent) :
    let x' := (answer (s.announceTrace frame event) x).2
    SlotAmid registry facility held (s.engine x') ∧
      Undisturbed registry (s.engine x) (s.engine x') := by
  intro x'
  by_cases on : ((s.engine x).dispatchOf registry).activated
  · obtain ⟨-, wrapped, serial, mine, slot⟩ := h.here.listening on
    have stands : (s.engine x).traceHook? = some (.profiler registry serial) := slot.trans mine
    have there := h.heard frame event
    have calm := undisturbed_heard registry (s.engine x) frame event
    have on' : ((Engine.heard registry (s.engine x) frame event).dispatchOf registry).activated = true :=
      by
        rw [heard_dispatchOf, cleared_eq]
        exact on
    rcases takeTrace_cases registry (s.engine x) frame event h.here.idle with
      kept | ⟨hook, before, -, passed⟩
    · have announced : x' = s.withEngine x (Engine.heard registry (s.engine x) frame event) :=
        congrArg Prod.snd (s.announceTrace_kept stands kept)
      rw [announced, meek.get_put]
      exact ⟨there, calm⟩
    · obtain ⟨id, rfl⟩ := scripted _ hook (wrapped.symm.trans before)
      obtain ⟨linesOn, x₂, heard, same⟩ := meek.deliverTrace
        (s.engine x).registries.entries.length id frame event
        (s.withEngine x ((Engine.heard registry (s.engine x) frame event).waiting registry))
      rw [meek.get_put] at same
      obtain ⟨e', absorbed, amid, calm'⟩ := there.absorbTrace on' frame linesOn
      have announced : x' = s.withEngine x₂ e' := by
        unfold x'
        rw [s.announceTrace_passed stands passed]
        simp only
        unfold Engine.waiting at heard absorbed
        rw [heard, Scripts.answer_tryRun, same]
        unfold Engine.waiting
        rw [absorbed]
      rw [announced, meek.get_put]
      exact ⟨amid, calm.trans calm'⟩
  · rw [Bool.not_eq_true] at on
    have hook : (s.engine x).traceHook? = held (s.engine x).thread := h.here.off on
    have same : s.engine x' = s.engine x :=
      meek.announceTrace_script (fun hook' there => scripted _ hook' (hook.symm.trans there)) frame event
    rw [same]
    exact ⟨h, .refl registry _⟩

/-- **A monitoring event** is nobody's business. -/
theorem announceEvent (meek : s.Meek) (h : SlotAmid registry facility held (s.engine x))
    (scripted : facility.Scripted) (event : MonitorEvent) :
    let x' := (answer (s.announceEvent event) x).2
    SlotAmid registry facility held (s.engine x') ∧
      Undisturbed registry (s.engine x) (s.engine x') := by
  intro x'
  obtain ⟨x₁, heard, same⟩ := meek.announce_scripts (h.facility ▸ scripted) event
  have there : x' = x₁ := congrArg Prod.snd heard
  rw [there, same]
  exact ⟨h, .refl registry _⟩

end SlotAmid

end LineClock
