import LineClock.Proofs.Engine.Delivery
import LineClock.Proofs.Engine.Scene

/-!
# Switching profilers

What switching a profiler on and off does, whatever the way in which the registry listens: it starts
to listen on a thread with the first profiler that is on there and stops with the last one, and in
between only the counts change.

Main statements: `Switching.enable`, `Switching.lower`, `Switching.disable` and `Switching.forget`.
-/

namespace LineClock

open Machine Engine

namespace Engine

/-- A registry listens on the threads on which somebody is on. -/
def Balanced (registry : RegistryId) (e : Engine) : Prop :=
  ∀ th, (e.dispatchAt th registry).activated = (e.dispatchAt th registry).isActive

/-- Whether someone is on is part of the scene. -/
theorem isActive_eq (registry : RegistryId) (e : Engine) (th : ThreadKey) :
    (e.dispatchAt th registry).isActive = !((e.scene registry).active th).isEmpty := rfl

/-- What is done to the running thread leaves the others as they are. -/
theorem Balanced.others {registry : RegistryId} {e : Engine} (h : Balanced registry e) (d : Dispatch)
    (th : ThreadKey) (other : th ≠ e.thread) :
    ((e.withDispatch registry d).dispatchAt th registry).activated =
      ((e.withDispatch registry d).dispatchAt th registry).isActive := by
  rw [withDispatch_dispatchAt, if_neg other]
  exact h th

/-! ## What the operations answer

Each operation goes on to the one below it in one case, and only counts or marks in the others. -/

section

variable {registry : RegistryId} {e e₁ : Engine} {p : ProfilerId} {err : ProfilerError}

/-- Starting to listen is left to the backend, and then the thread is marked. -/
theorem answer_activate_slot (backend : (e.registry registry).backend = .slot)
    (done : (activateSlot registry).run e = ((), e₁)) :
    answer (activate registry) e = (.ok (),
      e₁.withDispatch registry { e₁.dispatchOf registry with activated := true }) := by
  unfold activate
  rw [answer_get_bind, backend]
  simp only
  rw [answer_liftM_bind done, answer_liftM, run_modifyDispatch]

theorem answer_activate_tool (backend : (e.registry registry).backend = .tool)
    (done : answer (activateTool registry) e = (.ok (), e₁)) :
    answer (activate registry) e = (.ok (),
      e₁.withDispatch registry { e₁.dispatchOf registry with activated := true }) := by
  unfold activate
  rw [answer_get_bind, backend]
  simp only
  rw [answer_bind_ok done, answer_liftM, run_modifyDispatch]

/-- Starting to listen fails only where the backend fails. -/
theorem activateTool_of_error (backend : (e.registry registry).backend = .tool)
    (failed : answer (activate registry) e = (.error err, e₁)) :
    answer (activateTool registry) e = (.error err, e₁) := by
  unfold activate at failed
  rw [answer_get_bind, backend] at failed
  simp only at failed
  rw [answer_bind] at failed
  generalize answer (activateTool registry) e = out at failed ⊢
  obtain ⟨_ | _, _⟩ := out <;> cases failed
  rfl

/-- Stopping to listen marks the thread and leaves the rest to the backend. -/
theorem answer_deactivate_slot (backend : (e.registry registry).backend = .slot)
    (on : (e.dispatchOf registry).activated = true) :
    answer (deactivate registry) e = answer (liftM (deactivateSlot registry))
      (e.withDispatch registry { e.dispatchOf registry with activated := false }) := by
  have same : ((e.withDispatch registry { e.dispatchOf registry with activated := false }).registry
    registry).backend = .slot := backend
  unfold deactivate
  rw [answer_get_bind, if_pos on, answer_liftM_bind (run_modifyDispatch registry e _),
    answer_get_bind, same]

theorem answer_deactivate_tool (backend : (e.registry registry).backend = .tool)
    (on : (e.dispatchOf registry).activated = true) :
    answer (deactivate registry) e = answer (deactivateTool registry)
      (e.withDispatch registry { e.dispatchOf registry with activated := false }) := by
  have same : ((e.withDispatch registry { e.dispatchOf registry with activated := false }).registry
    registry).backend = .tool := backend
  unfold deactivate
  rw [answer_get_bind, if_pos on, answer_liftM_bind (run_modifyDispatch registry e _),
    answer_get_bind, same]

/-- A registry that does not listen here has nothing to stop. -/
theorem answer_deactivate_off (off : (e.dispatchOf registry).activated = false) :
    answer (deactivate registry) e = (.ok (), e) := by
  unfold deactivate
  rw [answer_get_bind, off]
  rfl

/-- Where somebody is on already, switching a profiler on only counts. -/
theorem answer_enable_active (active : (e.dispatchOf registry).isActive = true) (p : ProfilerId) :
    answer (enable registry p) e = (.ok (((e.dispatchOf registry).raise p).countOf p),
      e.withDispatch registry ((e.dispatchOf registry).raise p)) := by
  have known := withDispatch_dispatchOf registry e ((e.dispatchOf registry).raise p)
  unfold Engine.enable
  rw [answer_get_bind, if_pos active, answer_liftM_bind (run_modifyDispatch registry e _),
    answer_get_bind, known]
  rfl

/-- Where nobody is on, the registry starts to listen first. -/
theorem answer_enable_first (nobody : (e.dispatchOf registry).isActive = false)
    (activated : answer (activate registry) e = (.ok (), e₁)) (p : ProfilerId) :
    answer (enable registry p) e = (.ok (((e₁.dispatchOf registry).raise p).countOf p),
      e₁.withDispatch registry ((e₁.dispatchOf registry).raise p)) := by
  have known := withDispatch_dispatchOf registry e₁ ((e₁.dispatchOf registry).raise p)
  unfold Engine.enable
  rw [answer_get_bind, nobody, if_neg Bool.false_ne_true, answer_bind_ok activated,
    answer_liftM_bind (run_modifyDispatch registry e₁ _), answer_get_bind, known]
  rfl

/-- Switching on fails only where the registry cannot start to listen. -/
theorem activate_of_error (failed : answer (enable registry p) e = (.error err, e₁)) :
    answer (activate registry) e = (.error err, e₁) := by
  cases active : (e.dispatchOf registry).isActive with
  | true =>
    rw [answer_enable_active active] at failed
    cases failed
  | false =>
    unfold Engine.enable at failed
    rw [answer_get_bind, active, if_neg Bool.false_ne_true, answer_bind] at failed
    generalize answer (activate registry) e = out at failed ⊢
    obtain ⟨_ | _, _⟩ := out <;> cases failed
    rfl

/-- Nothing is done for a profiler that is not on. -/
theorem answer_lower_off (off : (e.dispatchOf registry).isOn p = false) (left : Nat → Nat) :
    answer (lower registry p left) e = (.ok 0, e) := by
  unfold lower
  rw [answer_get_bind, if_neg (Bool.eq_false_iff.mp off)]
  rfl

/-- A profiler that is on is counted down, and if nobody is on then the registry stops to listen. -/
theorem answer_lower_on (on : (e.dispatchOf registry).isOn p = true) (left : Nat → Nat) :
    let n := left ((e.dispatchOf registry).countOf p)
    let d := (e.dispatchOf registry).lower p n
    answer (lower registry p left) e = if d.isActive then (.ok n, e.withDispatch registry d) else
      answer (do deactivate registry; return n) (e.withDispatch registry d) := by
  intro n d
  have known : (e.withDispatch registry d).dispatchOf registry = d :=
    withDispatch_dispatchOf registry e d
  unfold lower
  rw [answer_get_bind, if_pos on, answer_liftM_bind (run_modifyDispatch registry e _),
    answer_get_bind, known]
  by_cases still : d.isActive
  · rw [if_pos still, if_pos still]
    rfl
  · rw [if_neg still, if_neg still]

/-- While somebody is on still, switching a profiler off only counts. -/
theorem answer_lower_active (on : (e.dispatchOf registry).isOn p = true) (left : Nat → Nat)
    (still : ((e.dispatchOf registry).lower p
      (left ((e.dispatchOf registry).countOf p))).isActive = true) :
    answer (lower registry p left) e = (.ok (left ((e.dispatchOf registry).countOf p)),
      e.withDispatch registry
        ((e.dispatchOf registry).lower p (left ((e.dispatchOf registry).countOf p)))) :=
  (answer_lower_on on left).trans (if_pos still)

/-- With the last one that is on, the registry stops to listen. -/
theorem answer_lower_last (on : (e.dispatchOf registry).isOn p = true) (left : Nat → Nat)
    (nobody : ((e.dispatchOf registry).lower p
      (left ((e.dispatchOf registry).countOf p))).isActive = false)
    (deactivated : answer (deactivate registry) (e.withDispatch registry ((e.dispatchOf registry).lower p
      (left ((e.dispatchOf registry).countOf p)))) = (.ok (), e₁)) :
    answer (lower registry p left) e = (.ok (left ((e.dispatchOf registry).countOf p)), e₁) := by
  rw [answer_lower_on on left, nobody, if_neg Bool.false_ne_true, answer_bind_ok deactivated]
  rfl

/-- Switching off fails only where it was the last one, and the registry cannot stop to listen. -/
theorem deactivate_of_error {left : Nat → Nat}
    (failed : answer (lower registry p left) e = (.error err, e₁)) :
    (e.dispatchOf registry).isOn p = true ∧
      ((e.dispatchOf registry).lower p (left ((e.dispatchOf registry).countOf p))).isActive = false ∧
      answer (deactivate registry) (e.withDispatch registry ((e.dispatchOf registry).lower p
        (left ((e.dispatchOf registry).countOf p)))) = (.error err, e₁) := by
  cases on : (e.dispatchOf registry).isOn p with
  | false =>
    rw [answer_lower_off on] at failed
    cases failed
  | true =>
    refine ⟨rfl, ?_⟩
    rw [answer_lower_on on] at failed
    split at failed
    · cases failed
    · rename_i nobody
      refine ⟨(Bool.not_eq_true _).mp nobody, ?_⟩
      rw [answer_bind] at failed
      split at failed
      · cases failed
      · rename_i asked
        cases failed
        exact asked

/-- While somebody is on still, undoing one switching on only counts. -/
theorem answer_disable_active (on : (e.dispatchOf registry).isOn p = true)
    (still : ((e.dispatchOf registry).lower p ((e.dispatchOf registry).countOf p - 1)).isActive =
      true) :
    answer (disable registry p) e = (.ok ((e.dispatchOf registry).countOf p - 1),
      e.withDispatch registry
        ((e.dispatchOf registry).lower p ((e.dispatchOf registry).countOf p - 1))) :=
  answer_lower_active on (fun n => n - 1) still

/-- With the last one that is on, the registry stops to listen. -/
theorem answer_disable_last (on : (e.dispatchOf registry).isOn p = true)
    (nobody : ((e.dispatchOf registry).lower p ((e.dispatchOf registry).countOf p - 1)).isActive =
      false)
    (deactivated : answer (deactivate registry) (e.withDispatch registry
      ((e.dispatchOf registry).lower p ((e.dispatchOf registry).countOf p - 1))) = (.ok (), e₁)) :
    answer (disable registry p) e = (.ok ((e.dispatchOf registry).countOf p - 1), e₁) :=
  answer_lower_last on (fun n => n - 1) nobody deactivated

/-- A registry that is forgotten stops to listen here, with nobody on, and nothing is known of it then. -/
theorem run_forget {out : Except ProfilerError Unit}
    (deactivated : answer (deactivate registry) (e.withDispatch registry
      { e.dispatchOf registry with active := [] }) = (out, e₁)) :
    (forget registry).run e = ((), { e₁ with dispatch := e₁.dispatch.erase (e₁.thread, registry) }) := by
  have asked : (discard <| (deactivate registry).run : StateM Engine Unit).run
      (e.withDispatch registry { e.dispatchOf registry with active := [] }) = ((), e₁) := by
    change ((), (answer (deactivate registry) _).2) = _
    rw [deactivated]
  unfold forget
  rw [run_state_bind (run_modifyDispatch registry e _), run_state_bind asked]
  rfl

end

end Engine

/-- A way in which a registry stands, listening or not, that starting and stopping to listen and
changes of who is on do not break. -/
structure Switching (registry : RegistryId) (L : Engine → Prop) : Prop where
  activate : ∀ {e}, L e → (e.dispatchOf registry).activated = false →
    ∃ e', answer (activate registry) e = (.ok (), e') ∧ L e' ∧
      e'.scene registry = e.scene registry ∧
      ∀ th, (e'.dispatchAt th registry).activated =
        if th = e.thread then true else (e.dispatchAt th registry).activated
  deactivate : ∀ {e}, L e → (e.dispatchOf registry).activated = true →
    ∃ e', answer (deactivate registry) e = (.ok (), e') ∧ L e' ∧
      e'.scene registry = e.scene registry ∧
      ∀ th, (e'.dispatchAt th registry).activated =
        if th = e.thread then false else (e.dispatchAt th registry).activated
  withActive : ∀ {e}, L e → ∀ on : List (ProfilerId × Nat),
    L (e.withDispatch registry { e.dispatchOf registry with active := on })

namespace Switching

variable {registry : RegistryId} {L : Engine → Prop} {e : Engine}

/-- The registry stopped to listen here, with nobody on. -/
theorem emptied {e' : Engine} (off : (e.dispatchOf registry).isActive = false)
    (others : ∀ th, th ≠ e.thread →
      (e.dispatchAt th registry).activated = (e.dispatchAt th registry).isActive)
    (scene : e'.scene registry = e.scene registry)
    (threads : ∀ th, (e'.dispatchAt th registry).activated =
      if th = e.thread then false else (e.dispatchAt th registry).activated) :
    Balanced registry e' := by
  intro th
  rw [threads, isActive_eq, scene]
  split
  · rename_i here
    rw [here]
    exact off.symm
  · rename_i other
    exact others th other

/-- The registry listens here, and somebody is counted as on. -/
theorem raised (sw : Switching registry L) {e' : Engine} (balanced : Balanced registry e)
    (listens : L e') (scene : e'.scene registry = e.scene registry)
    (activated : ∀ th, (e'.dispatchAt th registry).activated =
      if th = e.thread then true else (e.dispatchAt th registry).activated) (p : ProfilerId) :
    let e'' := e'.withDispatch registry ((e'.dispatchOf registry).raise p)
    ((e'.dispatchOf registry).raise p).countOf p = ((e.scene registry).raise p).count p ∧
      L e'' ∧ Balanced registry e'' ∧ e''.scene registry = (e.scene registry).raise p := by
  intro e''
  have thread : e'.thread = e.thread := congrArg Scene.thread scene
  have raise := (e'.dispatchOf registry).raise_eq p
  have scene' : e''.scene registry = (e.scene registry).raise p := by
    have here : (e'.dispatchOf registry).active = (e.scene registry).here :=
      congrArg Scene.here scene
    rw [scene_withDispatch, scene, Dispatch.active_raise, here]
    rfl
  refine ⟨?_, ?_, fun th => ?_, scene'⟩
  · have known := withDispatch_dispatchOf registry e' ((e'.dispatchOf registry).raise p)
    rw [← scene', ← known]
    rfl
  · unfold e''
    rw [raise]
    exact sw.withActive listens _
  · rw [withDispatch_dispatchAt]
    split
    · rename_i here
      rw [Dispatch.isActive_raise, raise]
      exact (activated e'.thread).trans (if_pos thread)
    · rename_i other
      rw [activated, if_neg fun h => other (h.trans thread.symm), isActive_eq, scene]
      exact balanced th

/-- **Switching a profiler on.** -/
theorem enable (sw : Switching registry L) (h : L e) (balanced : Balanced registry e)
    (p : ProfilerId) :
    ∃ e', answer (Engine.enable registry p) e = (.ok (((e.scene registry).raise p).count p), e') ∧
      L e' ∧ Balanced registry e' ∧ e'.scene registry = (e.scene registry).raise p := by
  have here : (e.dispatchOf registry).activated = (e.dispatchOf registry).isActive :=
    balanced e.thread
  cases on : (e.dispatchOf registry).isActive with
  | true =>
    have threads : ∀ th, (e.dispatchAt th registry).activated =
        if th = e.thread then true else (e.dispatchAt th registry).activated := by
      intro th
      split
      · rename_i this
        rw [this]
        exact here.trans on
      · rfl
    obtain ⟨counted, rest⟩ := sw.raised balanced h rfl threads p
    exact ⟨_, counted ▸ answer_enable_active on p, rest⟩
  | false =>
    obtain ⟨e', activated, listens, scene, threads⟩ := sw.activate h (here.trans on)
    obtain ⟨counted, rest⟩ := sw.raised balanced listens scene threads p
    exact ⟨_, counted ▸ answer_enable_first on activated p, rest⟩

/-- **Switching a profiler off**, as far as is asked for. -/
theorem lower (sw : Switching registry L) (h : L e) (balanced : Balanced registry e)
    (p : ProfilerId) (left : Nat → Nat) :
    ∃ e', answer (Engine.lower registry p left) e =
        (.ok (if (e.scene registry).isOn p then left ((e.scene registry).count p) else 0), e') ∧
      L e' ∧ Balanced registry e' ∧ e'.scene registry = (e.scene registry).cut p left := by
  have here : (e.dispatchOf registry).activated = (e.dispatchOf registry).isActive :=
    balanced e.thread
  cases on : (e.dispatchOf registry).isOn p with
  | false =>
    have off : ¬ (e.scene registry).isOn p = true := (Bool.not_eq_true _).mpr on
    refine ⟨e, ?_, h, balanced, (if_neg off).symm⟩
    rw [if_neg off]
    exact answer_lower_off on left
  | true =>
    let n := left ((e.dispatchOf registry).countOf p)
    let d := (e.dispatchOf registry).lower p n
    let e₁ := e.withDispatch registry d
    have lower := (e.dispatchOf registry).lower_eq p n
    have known : e₁.dispatchOf registry = d := withDispatch_dispatchOf registry e d
    have listens : L e₁ := by
      unfold e₁ d
      rw [lower]
      exact sw.withActive h _
    have scene : e₁.scene registry = (e.scene registry).cut p left := by
      rw [scene_withDispatch, Dispatch.active_lower]
      exact (if_pos on).symm
    have counted : (if (e.scene registry).isOn p then left ((e.scene registry).count p) else 0) = n :=
      if_pos on
    have activated : d.activated = true := by
      unfold d
      rw [lower]
      exact here.trans (Dispatch.isActive_of_isOn on)
    have others := balanced.others d
    rw [counted]
    cases still : d.isActive with
    | true =>
      refine ⟨e₁, answer_lower_active on left still, listens, fun th => ?_, scene⟩
      by_cases this : th = e.thread
      · rw [this]
        exact (congrArg Dispatch.activated known).trans
          (activated.trans (still.symm.trans (congrArg Dispatch.isActive known.symm)))
      · exact others th this
    | false =>
      obtain ⟨e₂, deactivated, listens₂, scene₂, threads⟩ :=
        sw.deactivate listens ((congrArg Dispatch.activated known).trans activated)
      exact ⟨e₂, answer_lower_last on left still deactivated, listens₂,
        emptied ((congrArg Dispatch.isActive known).trans still) others scene₂ threads,
        scene₂.trans scene⟩

/-- **Undoing one switching on.** -/
theorem disable (sw : Switching registry L) (h : L e) (balanced : Balanced registry e)
    (p : ProfilerId) :
    ∃ e', answer (Engine.disable registry p) e = (.ok ((e.scene registry).count p - 1), e') ∧
      L e' ∧ Balanced registry e' ∧ e'.scene registry = (e.scene registry).lower p := by
  obtain ⟨e', lowered, rest⟩ := sw.lower h balanced p fun n => n - 1
  refine ⟨e', lowered.trans ?_, rest⟩
  split
  · rfl
  · rename_i off
    rw [Bool.not_eq_true] at off
    have none : (e.scene registry).count p = 0 := Dispatch.countOf_of_not_isOn off
    rw [none]

/-- **Forgetting a registry** switches all its profilers off on the running thread, and then nothing
is known of it there. -/
theorem forget (sw : Switching registry L) (h : L e) (balanced : Balanced registry e) :
    ∃ e', (Engine.forget registry).run e =
        ((), { e' with dispatch := e'.dispatch.erase (e'.thread, registry) }) ∧
      L e' ∧ Balanced registry e' ∧ e'.scene registry = (e.scene registry).switch [] := by
  let d : Dispatch := { e.dispatchOf registry with active := [] }
  let e₁ := e.withDispatch registry d
  have known : e₁.dispatchOf registry = d := withDispatch_dispatchOf registry e d
  have listens : L e₁ := sw.withActive h []
  have scene : e₁.scene registry = (e.scene registry).switch [] := scene_withDispatch registry e d
  have off : (e₁.dispatchOf registry).isActive = false := by
    rw [known]
    rfl
  have others := balanced.others d
  cases on : (e₁.dispatchOf registry).activated with
  | true =>
    obtain ⟨e₂, deactivated, listens₂, scene₂, threads⟩ := sw.deactivate listens on
    exact ⟨e₂, run_forget deactivated, listens₂, emptied off others scene₂ threads,
      scene₂.trans scene⟩
  | false =>
    refine ⟨e₁, run_forget (answer_deactivate_off on), listens, fun th => ?_, scene⟩
    by_cases this : th = e.thread
    · rw [this]
      exact on.trans off.symm
    · exact others th this

/-! ## Scopes -/

variable {σ : Type} {s : Scripts σ} {x : σ}

/-- The scope of a wrapper is entered by switching its profiler on. -/
theorem enter (sw : Switching registry L) (lawful : ∀ x, s.withEngine x (s.engine x) = x)
    (h : L (s.engine x)) (balanced : Balanced registry (s.engine x))
    (sole : ((s.engine x).scene registry).Sole registry) (routine : RoutineId) :
    ∃ e', answer (s.host.enter routine) x = (.ok (), s.withEngine x e') ∧ L e' ∧
      Balanced registry e' ∧
      e'.scene registry = ((s.engine x).scene registry).enterScope routine := by
  have same : (((s.engine x).scene registry).routine routine).scope =
    ((s.engine x).routine routine).scope := rfl
  rw [Scripts.answer_enter]
  unfold Scene.enterScope
  rw [same]
  cases found : ((s.engine x).routine routine).scope with
  | none =>
    refine ⟨s.engine x, ?_, h, balanced, rfl⟩
    rw [lawful]
  | some scope =>
    obtain ⟨e', enabled, rest⟩ := sw.enable h balanced scope.profiler
    refine ⟨e', ?_, rest⟩
    simp only
    rw [sole.wrappers routine scope found, enabled]

/-- The scope of a wrapper is left by switching its profiler off. -/
theorem leave (sw : Switching registry L) (lawful : ∀ x, s.withEngine x (s.engine x) = x)
    (h : L (s.engine x)) (balanced : Balanced registry (s.engine x))
    (sole : ((s.engine x).scene registry).Sole registry) (routine : RoutineId) :
    ∃ e', (s.host.leave routine x).2 = s.withEngine x e' ∧ L e' ∧ Balanced registry e' ∧
      e'.scene registry = ((s.engine x).scene registry).leaveScope routine := by
  have same : (((s.engine x).scene registry).routine routine).scope =
    ((s.engine x).routine routine).scope := rfl
  rw [Scripts.host_leave]
  unfold Scene.leaveScope
  rw [same]
  cases found : ((s.engine x).routine routine).scope with
  | none =>
    refine ⟨s.engine x, ?_, h, balanced, rfl⟩
    exact (lawful x).symm
  | some scope =>
    obtain ⟨e', disabled, rest⟩ := sw.disable h balanced scope.profiler
    refine ⟨e', ?_, rest⟩
    simp only
    rw [sole.wrappers routine scope found, disabled]

end Switching

end LineClock
