import LineClock.Proofs.Engine.SlotListens
import LineClock.Proofs.Engine.Switching

/-!
# A registry before another hook at the trace slot

How a registry stands on the running thread when somebody else's hook was in the trace slot before:
while the registry listens, that hook is saved and events go on to it, and the slot holds the
profilers' own. Once a hook failed the machine has emptied the slot, and there is nothing to go on to.

Main statements: `SlotWraps.switching`, `answer_absorbTrace_ok` and `answer_absorbTrace_error`.
-/

namespace LineClock

open Machine Engine

/-- What a thread knows of a registry that listens before a hook, and the slot. The hook is `inner`;
`failed` says whether a hook failed. -/
structure Before (registry : RegistryId) (inner : Option TraceHook) (failed : Bool) (d : Dispatch)
    (slot : Option TraceHook) : Prop where
  saved : d.saved = inner
  wrapped : d.wrapped = inner
  ours : ∃ serial, d.ours = some (.profiler registry serial)
  slot : slot = d.ours ∨ (failed = true ∧ inner = none ∧ slot = none)

/-- A registry before a hook at the trace slot of the running thread, listening or not. -/
structure SlotWraps (registry : RegistryId) (inner : Option TraceHook) (failed : Bool) (e : Engine) :
    Prop where
  present : (e.registries.get? registry).isSome
  backend : (e.registry registry).backend = .slot
  silent : ∀ tool kind, e.facility.callback? tool kind = none
  idle : (e.dispatchOf registry).busy = false
  listening : (e.dispatchOf registry).activated = true →
    Before registry inner failed (e.dispatchOf registry) e.traceHook?
  off : (e.dispatchOf registry).activated = false → e.traceHook? = inner

namespace Engine

/-- The engine with other trace slots, and other knowledge of a registry on the running thread. -/
def reslotted (registry : RegistryId) (e : Engine) (slots : Assoc ThreadKey TraceHook)
    (d : Dispatch) : Engine := { e.withDispatch registry d with slots }

section

variable (registry : RegistryId) (e : Engine) (slots slots' : Assoc ThreadKey TraceHook)
  (d d' : Dispatch)

@[simp] theorem reslotted_dispatchOf : (reslotted registry e slots d).dispatchOf registry = d :=
  withDispatch_dispatchOf registry e d

theorem reslotted_dispatchAt (th : ThreadKey) :
    (reslotted registry e slots d).dispatchAt th registry =
      if th = e.thread then d else e.dispatchAt th registry :=
  withDispatch_dispatchAt registry e d th

/-- Of two changes the last one counts. -/
theorem reslotted_reslotted :
    reslotted registry (reslotted registry e slots d) slots' d' = reslotted registry e slots' d' := by
  unfold reslotted withDispatch
  simp only [Assoc.set_set]

theorem scene_reslotted : (reslotted registry e slots d).scene registry =
    (e.scene registry).switch d.active := scene_withDispatch registry e d

/-- Who is on is all that profilers have to do with in this. -/
theorem scene_reslotted_same {d : Dispatch} (h : d.active = (e.dispatchOf registry).active) :
    (reslotted registry e slots d).scene registry = e.scene registry :=
  scene_withDispatch_same registry e h

end

end Engine

namespace SlotWraps

variable {registry : RegistryId} {inner : Option TraceHook} {failed : Bool} {e : Engine}

/-- A change on the running thread only. -/
theorem change {inner' : Option TraceHook} {failed' : Bool} (h : SlotWraps registry inner failed e)
    (slots : Assoc ThreadKey TraceHook) {d : Dispatch} (idle : d.busy = false)
    (listening : d.activated = true → Before registry inner' failed' d (slots.get? e.thread))
    (off : d.activated = false → slots.get? e.thread = inner') :
    SlotWraps registry inner' failed' (reslotted registry e slots d) := by
  refine ⟨h.present, h.backend, h.silent, ?_, fun on => ?_, fun on => ?_⟩
  · rw [reslotted_dispatchOf]
    exact idle
  · rw [reslotted_dispatchOf] at on ⊢
    exact listening on
  · rw [reslotted_dispatchOf] at on
    exact off on

theorem withActive (h : SlotWraps registry inner failed e) (on : List (ProfilerId × Nat)) :
    SlotWraps registry inner failed
      (e.withDispatch registry { e.dispatchOf registry with active := on }) := by
  refine h.change e.slots h.idle (fun on => ?_) h.off
  obtain ⟨saved, wrapped, ours, slot⟩ := h.listening on
  exact ⟨saved, wrapped, ours, slot⟩

theorem withProfilers (h : SlotWraps registry inner failed e)
    (profilers : Assoc ProfilerId Profiler) :
    SlotWraps registry inner failed (e.withProfilers profilers) :=
  ⟨h.present, h.backend, h.silent, h.idle, h.listening, h.off⟩

/-- A trace event that is recorded leaves the hook where it is. -/
theorem heard (h : SlotWraps registry inner failed e) (frame : Frame) (event : TraceEvent) :
    SlotWraps registry inner failed (heard registry e frame event) := by
  have dispatch := heard_dispatchOf registry e frame event
  rw [cleared_eq] at dispatch
  refine ⟨?_, ?_, ?_, ?_, fun on => ?_, fun on => ?_⟩
  · rw [heard_registries]
    exact h.present
  · exact (backend_congr (heard_registries ..) registry).trans h.backend
  · rw [heard_facility]
    exact h.silent
  · rw [dispatch]
    exact h.idle
  · rw [dispatch] at on ⊢
    rw [heard_traceHook?]
    obtain ⟨saved, wrapped, ours, slot⟩ := h.listening on
    exact ⟨saved, wrapped, ours, slot⟩
  · rw [dispatch] at on
    rw [heard_traceHook?]
    exact h.off on

/-! ## Switching -/

/-- What a thread knows of a registry that just started to listen. -/
def started (registry : RegistryId) (e : Engine) : Dispatch :=
  { e.dispatchOf registry with
    saved := e.traceHook?
    wrapped := e.traceHook?
    ours := some (.profiler registry e.hooks)
    muted := []
    activated := true }

theorem answer_activate (backend : (e.registry registry).backend = .slot) :
    answer (Engine.activate registry) e =
      (.ok (), reslotted registry { e with hooks := e.hooks + 1 }
        (hookAt e.slots e.thread (some (.profiler registry e.hooks))) (started registry e)) := by
  let ours : TraceHook := .profiler registry e.hooks
  let d : Dispatch := { e.dispatchOf registry with
    saved := e.traceHook?, wrapped := e.traceHook?, muted := [], ours := some ours }
  let e₁ := (({ e with hooks := e.hooks + 1 } : Engine).withDispatch registry d).withHook (some ours)
  have known : e₁.dispatchOf registry = d := withDispatch_dispatchOf registry _ d
  have twice : e₁.withDispatch registry { d with activated := true } =
      reslotted registry { e with hooks := e.hooks + 1 } (hookAt e.slots e.thread (some ours))
        { d with activated := true } :=
    reslotted_reslotted registry { e with hooks := e.hooks + 1 } _ _ d _
  have done := answer_activate_slot backend (SlotListens.run_activateSlot registry e)
  refine done.trans ?_
  show (Except.ok (), e₁.withDispatch registry { e₁.dispatchOf registry with activated := true }) = _
  rw [known, twice]
  rfl

/-- What a thread knows of a registry that stopped listening. -/
def stopped (d : Dispatch) : Dispatch :=
  { d with saved := none, wrapped := none, ours := none, muted := [], activated := false }

theorem answer_deactivate (backend : (e.registry registry).backend = .slot)
    (on : (e.dispatchOf registry).activated = true) :
    answer (Engine.deactivate registry) e =
      (.ok (), reslotted registry e (hookAt e.slots e.thread (e.dispatchOf registry).saved)
        (stopped (e.dispatchOf registry))) := by
  let d : Dispatch := { e.dispatchOf registry with activated := false }
  let e₁ := e.withDispatch registry d
  have known : e₁.dispatchOf registry = d := withDispatch_dispatchOf registry e d
  rw [answer_deactivate_slot backend on, answer_liftM, SlotListens.run_deactivateSlot, known]
  exact congrArg (Prod.mk _) (reslotted_reslotted registry e e.slots _ d _)

theorem activate (h : SlotWraps registry inner failed e)
    (off : (e.dispatchOf registry).activated = false) :
    SlotWraps registry inner failed (reslotted registry { e with hooks := e.hooks + 1 }
      (hookAt e.slots e.thread (some (.profiler registry e.hooks))) (started registry e)) := by
  have h' : SlotWraps registry inner failed { e with hooks := e.hooks + 1 } :=
    ⟨h.present, h.backend, h.silent, h.idle, h.listening, h.off⟩
  have there := withHook_traceHook? e (some (.profiler registry e.hooks))
  exact h'.change _ h.idle (fun _ => ⟨h.off off, h.off off, ⟨_, rfl⟩, .inl there⟩)
    fun on => (by cases on)

theorem deactivate (h : SlotWraps registry inner failed e)
    (on : (e.dispatchOf registry).activated = true) :
    SlotWraps registry inner failed (reslotted registry e
      (hookAt e.slots e.thread (e.dispatchOf registry).saved) (stopped (e.dispatchOf registry))) := by
  have there := withHook_traceHook? e (e.dispatchOf registry).saved
  exact h.change _ h.idle (fun on => (by cases on)) fun _ => there.trans (h.listening on).saved

/-- **Switching profilers** leaves the hook where it is, in the slot or saved, and mutes no frame if
none was muted, as `clean` says. -/
theorem switching (registry : RegistryId) (inner : Option TraceHook) (failed : Bool) (clean : Prop) :
    Switching registry fun e =>
      SlotWraps registry inner failed e ∧ (clean → (e.dispatchOf registry).muted = []) where
  activate {e} h off := by
    refine ⟨_, answer_activate h.1.backend, ⟨h.1.activate off, fun _ => ?_⟩,
      scene_reslotted_same registry { e with hooks := e.hooks + 1 } _ rfl, fun th => ?_⟩
    · rw [reslotted_dispatchOf]
      rfl
    · rw [reslotted_dispatchAt]
      by_cases here : th = e.thread
      · rw [if_pos here, if_pos]
        · rfl
        · exact here
      · rw [if_neg here, if_neg]
        · rfl
        · exact here
  deactivate {e} h on := by
    refine ⟨_, answer_deactivate h.1.backend on, ⟨h.1.deactivate on, fun _ => ?_⟩,
      scene_reslotted_same registry e _ rfl, fun th => ?_⟩
    · rw [reslotted_dispatchOf]
      rfl
    · rw [reslotted_dispatchAt]
      by_cases here : th = e.thread
      · rw [if_pos here, if_pos here]
        rfl
      · rw [if_neg here, if_neg here]
  withActive h on := by
    refine ⟨h.1.withActive on, fun was => ?_⟩
    rw [withDispatch_dispatchOf]
    exact h.2 was

/-- What switching a profiler on or off makes of an engine: the counts change at most, or the registry
starts to listen on the running thread, or it stops. -/
inductive Turns (registry : RegistryId) (e : Engine) : Engine → Prop
  | same : Turns registry e e
  | counts (on : List (ProfilerId × Nat)) (listening : (e.dispatchOf registry).activated = true)
    (somebody : on ≠ []) :
    Turns registry e (e.withDispatch registry { e.dispatchOf registry with active := on })
  | starts (on : List (ProfilerId × Nat)) (off : (e.dispatchOf registry).activated = false)
    (somebody : on ≠ []) :
    Turns registry e (reslotted registry { e with hooks := e.hooks + 1 }
      (hookAt e.slots e.thread (some (.profiler registry e.hooks)))
      { started registry e with active := on })
  | stops (listening : (e.dispatchOf registry).activated = true) :
    Turns registry e (reslotted registry e (hookAt e.slots e.thread (e.dispatchOf registry).saved)
      { stopped (e.dispatchOf registry) with active := [] })

theorem Turns.enable (backend : (e.registry registry).backend = .slot)
    (balanced : (e.dispatchOf registry).activated = (e.dispatchOf registry).isActive)
    (p : ProfilerId) : Turns registry e (answer (Engine.enable registry p) e).2 := by
  cases active : (e.dispatchOf registry).isActive with
  | true =>
    rw [answer_enable_active active]
    simp only
    rw [Dispatch.raise_eq]
    exact .counts _ (balanced.trans active) (Dispatch.isActive_iff_ne_nil.mp (Dispatch.isActive_raise _ p))
  | false =>
    let slots := hookAt e.slots e.thread (some (.profiler registry e.hooks))
    let e₁ := reslotted registry { e with hooks := e.hooks + 1 } slots (started registry e)
    have activated : answer (Engine.activate registry) e = (.ok (), e₁) := answer_activate backend
    have known : e₁.dispatchOf registry = started registry e := reslotted_dispatchOf registry _ _ _
    have raised : (answer (Engine.enable registry p) e).2 =
        reslotted registry { e with hooks := e.hooks + 1 } slots ((started registry e).raise p) := by
      rw [answer_enable_first active activated, known]
      exact reslotted_reslotted registry { e with hooks := e.hooks + 1 } slots slots _ _
    rw [raised, Dispatch.raise_eq]
    exact .starts _ (balanced.trans active) (Dispatch.isActive_iff_ne_nil.mp (Dispatch.isActive_raise _ p))

theorem Turns.disable (backend : (e.registry registry).backend = .slot)
    (balanced : (e.dispatchOf registry).activated = (e.dispatchOf registry).isActive)
    (p : ProfilerId) : Turns registry e (answer (Engine.disable registry p) e).2 := by
  cases on : (e.dispatchOf registry).isOn p with
  | false =>
    have nothing : answer (Engine.disable registry p) e = (.ok 0, e) := answer_lower_off on _
    rw [nothing]
    exact .same
  | true =>
    have listening : (e.dispatchOf registry).activated = true :=
      balanced.trans (Dispatch.isActive_of_isOn on)
    let d := (e.dispatchOf registry).lower p ((e.dispatchOf registry).countOf p - 1)
    have lowered : d = { e.dispatchOf registry with active := d.active } := Dispatch.lower_eq _ _ _
    cases active : d.isActive with
    | true =>
      rw [answer_disable_active on active]
      simp only
      rw [Dispatch.lower_eq]
      exact .counts _ listening (Dispatch.isActive_iff_ne_nil.mp active)
    | false =>
      have nobody : d.active = [] := Dispatch.isActive_eq_false_iff.mp active
      rw [nobody] at lowered
      have known : (e.withDispatch registry d).dispatchOf registry = d :=
        withDispatch_dispatchOf registry e d
      have deactivated : answer (Engine.deactivate registry) (e.withDispatch registry d) = _ :=
        answer_deactivate backend (by rw [known, lowered]; exact listening)
      rw [known] at deactivated
      have stops : (answer (Engine.disable registry p) e).2 =
          reslotted registry e (hookAt e.slots e.thread d.saved) (stopped d) := by
        rw [answer_disable_last on active deactivated]
        exact reslotted_reslotted registry e e.slots _ d _
      rw [stops, lowered]
      exact .stops listening

end SlotWraps

/-! ## Answers of the other hook -/

namespace Engine

variable {registry : RegistryId} {e : Engine} {ours : TraceHook}

/-- What a thread knows of a registry whose hook went on to another one that answered: the hook that
is in the slot now is the one to go on to, and the frame may be muted. -/
def answered (d : Dispatch) (inner : Option TraceHook) (linesOn : Bool) (frame : FrameId) : Dispatch :=
  let d := { d with busy := false, wrapped := inner, saved := inner }
  if linesOn then d else d.mute frame

theorem mem_answered (d : Dispatch) (inner : Option TraceHook) (linesOn : Bool) (frame id : FrameId) :
    id ∈ (answered d inner linesOn frame).muted ↔
      id ∈ d.muted ∨ (linesOn = false ∧ id = frame) := by
  unfold answered Dispatch.mute
  cases linesOn with
  | true => simp
  | false =>
    simp only [Bool.false_eq_true, if_false, List.contains_iff_mem]
    split
    · rename_i known
      refine ⟨.inl, ?_⟩
      rintro (mem | ⟨-, rfl⟩)
      · exact mem
      · exact known
    · simp [List.mem_cons, or_comm]

theorem answered_eq (d : Dispatch) (inner : Option TraceHook) (linesOn : Bool) (frame : FrameId) :
    answered d inner linesOn frame =
      { d with
        busy := false
        wrapped := inner
        saved := inner
        muted := (answered d inner linesOn frame).muted } := by
  unfold answered Dispatch.mute
  simp only
  split
  · rfl
  · split <;> rfl

/-- The hook to go on to after an answer: the one that is in the slot, unless that is the
profilers'. -/
def successor (ours : TraceHook) (e : Engine) (d : Dispatch) : Option TraceHook :=
  if e.traceHook? = some ours then d.wrapped else e.traceHook?

/-- The end of absorbing an answer: a frame whose lines are not to be told any more is muted. -/
def muteUnless (registry : RegistryId) (frame : FrameId) (linesOn : Bool) :
    ExceptT HookError (StateM Engine) Bool := do
  unless linesOn do
    modifyDispatch registry fun d => d.mute frame
  return true

/-- The hook in the slot is `inner` now, and the frame is muted if it asked for that. -/
theorem answer_muteUnless (e : Engine) (slots : Assoc ThreadKey TraceHook) (d : Dispatch)
    (inner : Option TraceHook) (frame : FrameId) (linesOn : Bool) :
    answer (muteUnless registry frame linesOn)
        (reslotted registry e slots { d with busy := false, wrapped := inner, saved := inner }) =
      (.ok true, reslotted registry e slots (answered d inner linesOn frame)) := by
  unfold muteUnless
  cases linesOn with
  | true => rfl
  | false =>
    have muted := run_modifyDispatch registry (reslotted registry e slots
      { d with busy := false, wrapped := inner, saved := inner }) fun d => d.mute frame
    rw [reslotted_dispatchOf] at muted
    simp only [Bool.false_eq_true, if_false]
    rw [answer_liftM_bind muted]
    exact congrArg (Prod.mk _) (reslotted_reslotted registry e slots slots _ _)

section

variable (on : (e.dispatchOf registry).activated = true)
  (mine : (e.dispatchOf registry).ours = some ours)

include on mine

/-- Absorbing an answer: if the profilers' hook is not in the slot any more, it is put there again, and
the one that was found is gone on to. -/
theorem answer_absorbTrace (frame : Frame) (linesOn : Bool) :
    answer (absorbTrace registry frame (.ok linesOn)) e =
      answer (do
          unless e.traceHook? = some ours do
            adopt registry e.traceHook?
            setTraceHook (some ours)
          muteUnless registry frame.id linesOn : ExceptT HookError (StateM Engine) Bool)
        (reslotted registry e e.slots { e.dispatchOf registry with busy := false }) := by
  have known := withDispatch_dispatchOf registry e { e.dispatchOf registry with busy := false }
  unfold absorbTrace
  rw [answer_liftM_bind (run_modifyDispatch registry e _), answer_get_bind, known]
  simp only [on, mine]
  rfl

/-- The profilers' hook is in the slot still. -/
theorem answer_absorbTrace_stays (frame : Frame)
    (same : (e.dispatchOf registry).saved = (e.dispatchOf registry).wrapped)
    (stays : e.traceHook? = some ours) (linesOn : Bool) :
    answer (absorbTrace registry frame (.ok linesOn)) e =
      (.ok true, reslotted registry e e.slots
        (answered (e.dispatchOf registry) (e.dispatchOf registry).wrapped linesOn frame.id)) := by
  have whole : ({ e.dispatchOf registry with busy := false } : Dispatch) =
      { e.dispatchOf registry with
        busy := false
        wrapped := (e.dispatchOf registry).wrapped
        saved := (e.dispatchOf registry).wrapped } := by
    generalize e.dispatchOf registry = d at same
    obtain ⟨active, busy, activated, saved, wrapped, ours, muted⟩ := d
    cases same
    rfl
  rw [answer_absorbTrace on mine, if_pos stays, whole]
  exact answer_muteUnless e e.slots _ _ frame.id linesOn

/-- Another hook is in the slot. -/
theorem answer_absorbTrace_moved (frame : Frame) (moved : e.traceHook? ≠ some ours) (linesOn : Bool) :
    answer (absorbTrace registry frame (.ok linesOn)) e =
      (.ok true, reslotted registry e (hookAt e.slots e.thread (some ours))
        (answered (e.dispatchOf registry) e.traceHook? linesOn frame.id)) := by
  have known := reslotted_dispatchOf registry e e.slots { e.dispatchOf registry with busy := false }
  have adopted : (adopt registry e.traceHook?).run
      (reslotted registry e e.slots { e.dispatchOf registry with busy := false }) =
        ((), reslotted registry e e.slots { e.dispatchOf registry with
          busy := false, wrapped := e.traceHook?, saved := e.traceHook? }) := by
    unfold adopt
    rw [run_modifyDispatch, known]
    exact congrArg (Prod.mk ()) (reslotted_reslotted registry e e.slots e.slots _ _)
  have put : (setTraceHook (some ours)).run (reslotted registry e e.slots
      { e.dispatchOf registry with busy := false, wrapped := e.traceHook?, saved := e.traceHook? }) =
        ((), reslotted registry e (hookAt e.slots e.thread (some ours)) { e.dispatchOf registry with
          busy := false, wrapped := e.traceHook?, saved := e.traceHook? }) := rfl
  rw [answer_absorbTrace on mine, if_neg moved, answer_liftM_bind adopted, answer_liftM_bind put]
  exact answer_muteUnless e _ _ _ frame.id linesOn

/-- The profilers' hook stands in the slot again after an answer. -/
theorem answer_absorbTrace_ok (frame : Frame)
    (same : (e.dispatchOf registry).saved = (e.dispatchOf registry).wrapped) (linesOn : Bool) :
    ∃ slots, answer (absorbTrace registry frame (.ok linesOn)) e =
        (.ok true, reslotted registry e slots (answered (e.dispatchOf registry)
          (successor ours e (e.dispatchOf registry)) linesOn frame.id)) ∧
      ∀ th, slots.get? th = if th = e.thread then some ours else e.slots.get? th := by
  unfold successor
  by_cases stays : e.traceHook? = some ours
  · rw [if_pos stays]
    refine ⟨e.slots, answer_absorbTrace_stays on mine frame same stays linesOn, fun th => ?_⟩
    split
    · rename_i here
      rw [here]
      exact stays
    · rfl
  · rw [if_neg stays]
    exact ⟨_, answer_absorbTrace_moved on mine frame stays linesOn, withHook_slots e (some ours)⟩

end

/-- A failure is passed on, and nothing is gone on to any more. -/
theorem answer_absorbTrace_error (frame : Frame) (on : (e.dispatchOf registry).activated = true)
    (mine : (e.dispatchOf registry).ours = some ours) (err : HookError) :
    answer (absorbTrace registry frame (.error err)) e =
      (.error err, (reslotted registry e e.slots
        { e.dispatchOf registry with busy := false, wrapped := none, saved := none }).withProfilers
          (e.scene registry).forgetPending.profilers) := by
  let d : Dispatch := { e.dispatchOf registry with busy := false }
  let e₁ := e.withDispatch registry d
  have known : e₁.dispatchOf registry = d := withDispatch_dispatchOf registry e d
  let e₂ := reslotted registry e e.slots { d with wrapped := none, saved := none }
  have adopted : (adopt registry none).run e₁ = ((), e₂) := by
    show ((), e₁.withDispatch registry { e₁.dispatchOf registry with wrapped := none, saved := none }) = _
    rw [known]
    exact congrArg (Prod.mk ()) (reslotted_reslotted registry e e.slots e.slots d _)
  have forgotten := run_forgetPending registry e₂
  have scene : e₂.scene registry = e.scene registry := scene_reslotted_same registry e e.slots rfl
  rw [scene] at forgotten
  have entered : (modifyDispatch registry fun d => { d with busy := false }).run e = ((), e₁) := rfl
  have on : (e₁.dispatchOf registry).activated = true := (congrArg Dispatch.activated known).trans on
  have mine : (e₁.dispatchOf registry).ours = some ours := (congrArg Dispatch.ours known).trans mine
  unfold absorbTrace
  rw [answer_liftM_bind entered, answer_get_bind]
  simp only [on, mine]
  rw [answer_liftM_bind adopted, answer_liftM_bind forgotten]
  rfl

end Engine

end LineClock
