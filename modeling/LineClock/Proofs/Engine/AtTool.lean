import LineClock.Proofs.Engine.Switching
import LineClock.Proofs.Engine.Taking

/-!
# Standing at the tool id

A registry that listens through the tool id, together with whatever else is known of the facility
and of what the registry keeps of the id. What is known has to survive taking the id over when the
first thread starts to listen and giving it back after the last one: a `Handover`. Threads in between
are only counted.

Main statements: `Stationed.switching` and `AtTool.switching`.
-/

namespace LineClock

open Machine Engine

/-- A registry at the tool id, with `held` in the trace slots. `P` says how the facility stands and
what the registry keeps of the id. -/
structure Stationed (P : Facility → ToolShare → Prop) (held : ThreadKey → Option TraceHook)
    (registry : RegistryId) (e : Engine) : Prop where
  unguarded : Unguarded registry e
  monitored : e.monitored = true
  slots : ∀ th, e.slots.get? th = held th
  idle : ∀ th, (e.dispatchAt th registry).busy = false
  threads : ∃ ths : List ThreadKey, ths.Nodup ∧
    (∀ th, th ∈ ths ↔ (e.dispatchAt th registry).activated = true) ∧
    ths.length = (e.share registry).threads
  place : P e.facility (e.share registry)

/-- A registry at the tool id, with nothing in the trace slots. -/
abbrev AtTool (P : Facility → ToolShare → Prop) (registry : RegistryId) (e : Engine) : Prop :=
  Stationed P (fun _ => none) registry e

/-- What survives taking the tool id over and giving it back. -/
structure Handover (registry : RegistryId) (P : Facility → ToolShare → Prop) : Prop where
  install : ∀ {e}, Unguarded registry e → P e.facility (e.share registry) →
    (e.share registry).threads = 0 →
    ∃ hooks f s, answer (Engine.install registry) e = (.ok (), retooled registry e hooks f s) ∧
      s.threads = 0 ∧ P f { s with threads := 1 }
  uninstall : ∀ {e}, Unguarded registry e → P e.facility { e.share registry with threads := 1 } →
    (e.share registry).threads = 0 →
    ∃ hooks f s, answer (Engine.uninstall registry) e = (.ok (), retooled registry e hooks f s) ∧
      s.threads = 0 ∧ P f s
  count : ∀ {f s n}, P f s → 0 < s.threads → 0 < n → P f { s with threads := n }

/-- What taking the tool id over on one more thread makes of what is known. -/
structure Takeover (registry : RegistryId) (P Q : Facility → ToolShare → Prop) : Prop where
  install : ∀ {e}, Unguarded registry e → P e.facility (e.share registry) →
    (e.share registry).threads = 0 →
    ∃ hooks f s, answer (Engine.install registry) e = (.ok (), retooled registry e hooks f s) ∧
      s.threads = 0 ∧ Q f { s with threads := 1 }
  count : ∀ {f s}, P f s → 0 < s.threads → Q f { s with threads := s.threads + 1 }

/-- What giving the tool id back on one thread makes of what is known. -/
structure Giveback (registry : RegistryId) (P Q : Facility → ToolShare → Prop) : Prop where
  uninstall : ∀ {e}, Unguarded registry e → P e.facility { e.share registry with threads := 1 } →
    (e.share registry).threads = 0 →
    ∃ hooks f s, answer (Engine.uninstall registry) e = (.ok (), retooled registry e hooks f s) ∧
      s.threads = 0 ∧ Q f s
  count : ∀ {f s}, P f s → 1 < s.threads → Q f { s with threads := s.threads - 1 }

section

variable {registry : RegistryId} {P Q : Facility → ToolShare → Prop} {e : Engine}

/-- A handover, from what the facility and the share are once the callbacks are taken over, and once
they are given back or the id is let go. -/
theorem Handover.intro
    (takes : ∀ {f f' : Facility} {s s' : ToolShare}, P f s → s.threads = 0 →
      Installs registry f s f' s' → P f' { s' with threads := 1 })
    (holder : ∀ {f : Facility} {s : ToolShare}, P f { s with threads := 1 } →
      (f.holder? Facility.profilerTool).isSome)
    (frees : ∀ {f : Facility} {s : ToolShare}, P f { s with threads := 1 } → s.threads = 0 →
      s.owned = true ∨ s.reclaimed = true →
      P (f.free Facility.profilerTool) { s with ours := {}, disabled := [], wrapped := {} })
    (returns : ∀ {f f' : Facility} {s s' : ToolShare}, P f { s with threads := 1 } → s.threads = 0 →
      s.owned = false → s.reclaimed = false → Restores registry f s f' s' → P f' s')
    (count : ∀ {f : Facility} {s : ToolShare} {n : Nat}, P f s → 0 < s.threads → 0 < n →
      P f { s with threads := n }) :
    Handover registry P where
  install h place first := by
    obtain ⟨hooks, f, s, installed, installs⟩ := answer_install h
    exact ⟨hooks, f, s, installed, installs.threads.trans first, takes place first installs⟩
  uninstall {e} h place none := by
    by_cases own : (e.share registry).owned = true ∨ (e.share registry).reclaimed = true
    · exact ⟨_, _, _, answer_uninstall_free h own, none, frees place none own⟩
    · rw [not_or, Bool.not_eq_true, Bool.not_eq_true] at own
      obtain ⟨f, s, removed, restores⟩ := answer_uninstall_back h own.1 own.2 (holder place)
      exact ⟨_, f, s, removed, restores.threads.trans none, returns place none own.1 own.2 restores⟩
  count := count

theorem Handover.takeover (handover : Handover registry P) : Takeover registry P P :=
  ⟨handover.install, fun place some => handover.count place some (Nat.succ_pos _)⟩

theorem Handover.giveback (handover : Handover registry P) : Giveback registry P P :=
  ⟨handover.uninstall, fun place more =>
    handover.count place (Nat.lt_trans Nat.one_pos more) (Nat.sub_pos_of_lt more)⟩

/-- One thread more listens through the tool id. -/
theorem Takeover.activateTool (takeover : Takeover registry P Q) (h : Unguarded registry e)
    (monitored : e.monitored = true) (place : P e.facility (e.share registry)) :
    ∃ hooks f s, answer (Engine.activateTool registry) e = (.ok (), retooled registry e hooks f s) ∧
      s.threads = (e.share registry).threads + 1 ∧ Q f s ∧
      (0 < (e.share registry).threads → f = e.facility) := by
  have found : (reach registry).run e = (true, e) := by
    rw [run_reach h, monitored]
  unfold Engine.activateTool
  rw [answer_liftM_bind found]
  simp only [if_true]
  rw [answer_liftM_bind run_shareOf]
  by_cases first : (e.share registry).threads = 0
  · rw [if_pos first]
    obtain ⟨hooks, f, s, installed, none, place'⟩ := takeover.install h place first
    have hosted : answer (hosted (Engine.install registry)) e = (.ok (), retooled registry e hooks f s) := by
      unfold Engine.hosted
      rw [answer_adapt, installed]
    refine ⟨hooks, f, { s with threads := s.threads + 1 }, ?_, ?_, ?_, fun some => ?_⟩
    · rw [answer_bind_ok hosted, answer_liftM, run_modifyShare_retooled h]
    · rw [none, first]
    · rw [none]
      exact place'
    · exact absurd first (Nat.ne_of_gt some)
  · rw [if_neg first]
    refine ⟨e.hooks, e.facility, { e.share registry with threads := (e.share registry).threads + 1 },
      ?_, rfl, takeover.count place (Nat.pos_of_ne_zero first), fun _ => rfl⟩
    rw [answer_liftM, run_modifyShare h]

/-- One thread less listens through the tool id. -/
theorem Giveback.deactivateTool (giveback : Giveback registry P Q) (h : Unguarded registry e)
    (monitored : e.monitored = true) (some : 0 < (e.share registry).threads)
    (place : P e.facility (e.share registry)) :
    ∃ hooks f s, answer (Engine.deactivateTool registry) e = (.ok (), retooled registry e hooks f s) ∧
      s.threads = (e.share registry).threads - 1 ∧ Q f s ∧
      (1 < (e.share registry).threads → f = e.facility) := by
  have found : (reach registry).run e = (true, e) := by
    rw [run_reach h, monitored]
  let s₁ : ToolShare := { e.share registry with threads := (e.share registry).threads - 1 }
  have h₁ := h.retooled e.hooks e.facility s₁
  have lowered : (modifyShare registry fun s => { s with threads := s.threads - 1 }).run e =
      ((), retooled registry e e.hooks e.facility s₁) := run_modifyShare h _
  have kept : (retooled registry e e.hooks e.facility s₁).share registry = s₁ :=
    share_retooled h _ _ _
  unfold Engine.deactivateTool
  rw [answer_liftM_bind found]
  simp only [if_true]
  rw [answer_liftM_bind lowered, answer_liftM_bind run_shareOf, kept]
  by_cases last : s₁.threads = 0
  · rw [if_pos last]
    have one : (e.share registry).threads = 1 := by
      have : (e.share registry).threads - 1 = 0 := last
      omega
    have place₁ : P e.facility { s₁ with threads := 1 } := by
      have same : ({ s₁ with threads := 1 } : ToolShare) = e.share registry := by
        rw [← one]
      rw [same]
      exact place
    have given := giveback.uninstall h₁
    rw [kept] at given
    obtain ⟨hooks, f, s, removed, none, place'⟩ := given place₁ last
    rw [retooled_retooled] at removed
    refine ⟨hooks, f, s, ?_, ?_, place', fun more => ?_⟩
    · unfold Engine.hosted
      rw [answer_adapt, removed]
    · rw [none, one]
    · exact absurd one (Nat.ne_of_gt more)
  · rw [if_neg last]
    have more : 1 < (e.share registry).threads := by
      have : (e.share registry).threads - 1 ≠ 0 := last
      omega
    exact ⟨e.hooks, e.facility, s₁, rfl, rfl, giveback.count place more, fun _ => rfl⟩

end

namespace Stationed

variable {registry : RegistryId} {P Q : Facility → ToolShare → Prop}
  {held : ThreadKey → Option TraceHook} {e : Engine}

/-- Another share and facility, and another mark on the running thread. -/
theorem change (h : Stationed P held registry e) (hooks : Nat) {f : Facility} {s : ToolShare}
    {d : Dispatch} (idle : d.busy = false)
    (threads : ∃ ths : List ThreadKey, ths.Nodup ∧
      (∀ th, th ∈ ths ↔ if th = e.thread then d.activated = true
        else (e.dispatchAt th registry).activated = true) ∧ ths.length = s.threads)
    (place : Q f s) : Stationed Q held registry ((retooled registry e hooks f s).withDispatch registry d) := by
  have kept : ((retooled registry e hooks f s).withDispatch registry d).share registry = s :=
    share_retooled h.unguarded hooks f s
  have dispatch := withDispatch_dispatchAt registry (retooled registry e hooks f s) d
  refine ⟨?_, h.monitored, h.slots, fun th => ?_, ?_, ?_⟩
  · exact (h.unguarded.retooled hooks f s).same rfl rfl
  · rw [dispatch]
    split
    · exact idle
    · exact h.idle th
  · obtain ⟨ths, distinct, mem, length⟩ := threads
    refine ⟨ths, distinct, fun th => ?_, by rw [kept]; exact length⟩
    rw [mem, dispatch]
    by_cases here : th = e.thread
    · rw [if_pos here, if_pos]
      exact here
    · rw [if_neg here, if_neg]
      · rfl
      · exact here
  · rw [kept]
    exact place

/-- Another share and facility while the same threads listen. -/
theorem retool (h : Stationed P held registry e) (hooks : Nat) {f : Facility} {s : ToolShare}
    (threads : s.threads = (e.share registry).threads) (place : Q f s) :
    Stationed Q held registry (retooled registry e hooks f s) := by
  have kept : (retooled registry e hooks f s).share registry = s :=
    share_retooled h.unguarded hooks f s
  refine ⟨h.unguarded.retooled hooks f s, h.monitored, h.slots, h.idle, ?_, ?_⟩
  · rw [kept, threads]
    exact h.threads
  · rw [kept]
    exact place

/-- Another facility. -/
theorem withFacility (h : Stationed P held registry e) {f : Facility} (place : Q f (e.share registry)) :
    Stationed Q held registry { e with facility := f } := by
  rw [← retooled_share h.unguarded e.hooks f]
  exact h.retool e.hooks rfl place

/-- What is known of the facility and the share, said in another way. -/
theorem mono (h : Stationed P held registry e) (place : Q e.facility (e.share registry)) :
    Stationed Q held registry e :=
  ⟨h.unguarded, h.monitored, h.slots, h.idle, h.threads, place⟩

theorem withProfilers (h : Stationed P held registry e) (profilers : Assoc ProfilerId Profiler) :
    Stationed P held registry (e.withProfilers profilers) :=
  ⟨h.unguarded.same rfl rfl, h.monitored, h.slots, h.idle,
    h.threads, h.place⟩

/-- What it takes to listen on the running thread. The facility changes on the first thread only. -/
theorem activate_eq (takeover : Takeover registry P Q) (h : Stationed P held registry e)
    (off : (e.dispatchOf registry).activated = false) :
    ∃ hooks f s,
      let e' := (retooled registry e hooks f s).withDispatch registry
        { e.dispatchOf registry with activated := true }
      answer (Engine.activate registry) e = (.ok (), e') ∧ Stationed Q held registry e' ∧
        (e'.share registry).threads = (e.share registry).threads + 1 ∧
        (0 < (e.share registry).threads → f = e.facility) := by
  obtain ⟨hooks, f, s, activated, counted, place, kept⟩ :=
    takeover.activateTool h.unguarded h.monitored h.place
  have share : (retooled registry e hooks f s).share registry = s := share_retooled h.unguarded _ _ _
  refine ⟨hooks, f, s, ?_, ?_, (congrArg ToolShare.threads share).trans counted, kept⟩
  · exact answer_activate_tool h.unguarded.backend activated
  · obtain ⟨ths, distinct, mem, length⟩ := h.threads
    have fresh : e.thread ∉ ths := by
      rw [mem]
      exact fun on => Bool.false_ne_true (off.symm.trans on)
    refine h.change hooks (h.idle e.thread) ⟨e.thread :: ths, ?_, fun th => ?_, ?_⟩ place
    · exact List.nodup_cons.mpr ⟨fresh, distinct⟩
    · rw [List.mem_cons, mem]
      split
      · rename_i here
        simp [here]
      · rename_i other
        simp [other]
    · rw [List.length_cons, length, counted]

/-- What it takes to listen no more on the running thread. The facility changes on the last thread
only. -/
theorem deactivate_eq (giveback : Giveback registry P Q) (h : Stationed P held registry e)
    (on : (e.dispatchOf registry).activated = true) :
    ∃ hooks f s,
      let e' := (retooled registry e hooks f s).withDispatch registry
        { e.dispatchOf registry with activated := false }
      answer (Engine.deactivate registry) e = (.ok (), e') ∧ Stationed Q held registry e' ∧
        (e'.share registry).threads = (e.share registry).threads - 1 ∧
        (1 < (e.share registry).threads → f = e.facility) := by
  let d : Dispatch := { e.dispatchOf registry with activated := false }
  let e₁ := e.withDispatch registry d
  have unguarded : Unguarded registry e₁ := h.unguarded.same rfl rfl
  obtain ⟨ths, distinct, mem, length⟩ := h.threads
  have here : e.thread ∈ ths := (mem e.thread).mpr on
  have some : 0 < (e.share registry).threads := by
    rw [← length]
    exact List.length_pos_of_mem here
  obtain ⟨hooks, f, s, deactivated, counted, place, kept⟩ :=
    giveback.deactivateTool unguarded h.monitored some h.place
  have share : (retooled registry e hooks f s).share registry = s := share_retooled h.unguarded _ _ _
  refine ⟨hooks, f, s, ?_, ?_, (congrArg ToolShare.threads share).trans counted, kept⟩
  · rw [answer_deactivate_tool h.unguarded.backend on]
    exact deactivated
  · refine h.change hooks (h.idle e.thread) ⟨ths.erase e.thread, ?_, fun th => ?_, ?_⟩ place
    · exact distinct.erase _
    · rw [distinct.mem_erase_iff, mem]
      split
      · rename_i this
        simp [this]
      · rename_i other
        simp [other]
    · rw [List.length_erase_of_mem here, length, counted]
      rfl

section

variable (hooks : Nat) (f : Facility) (s : ToolShare) (on : Bool)

/-- Whether the registry listens is no part of the scene. -/
theorem scene_marked (h : Unguarded registry e) :
    ((retooled registry e hooks f s).withDispatch registry
      { e.dispatchOf registry with activated := on }).scene registry = e.scene registry := by
  refine (scene_withDispatch_same registry (retooled registry e hooks f s) ?_).trans
    (scene_retooled h hooks f s)
  rfl

/-- Where the registry listens after the running thread was marked. -/
theorem activated_marked (th : ThreadKey) :
    (((retooled registry e hooks f s).withDispatch registry
      { e.dispatchOf registry with activated := on }).dispatchAt th registry).activated =
        if th = e.thread then on else (e.dispatchAt th registry).activated := by
  rw [withDispatch_dispatchAt]
  by_cases here : th = e.thread
  · rw [if_pos here, if_pos]
    exact here
  · rw [if_neg here, if_neg]
    · rfl
    · exact here

end

/-- The registry starts to listen on the running thread. -/
theorem activate (handover : Handover registry P) (h : Stationed P held registry e)
    (off : (e.dispatchOf registry).activated = false) :
    ∃ e', answer (Engine.activate registry) e = (.ok (), e') ∧ Stationed P held registry e' ∧
      e'.scene registry = e.scene registry ∧
      ∀ th, (e'.dispatchAt th registry).activated =
        if th = e.thread then true else (e.dispatchAt th registry).activated := by
  obtain ⟨hooks, f, s, activated, there, -⟩ := h.activate_eq handover.takeover off
  exact ⟨_, activated, there, scene_marked hooks f s true h.unguarded,
    activated_marked hooks f s true⟩

/-- The registry stops listening on the running thread. -/
theorem deactivate (handover : Handover registry P) (h : Stationed P held registry e)
    (on : (e.dispatchOf registry).activated = true) :
    ∃ e', answer (Engine.deactivate registry) e = (.ok (), e') ∧ Stationed P held registry e' ∧
      e'.scene registry = e.scene registry ∧
      ∀ th, (e'.dispatchAt th registry).activated =
        if th = e.thread then false else (e.dispatchAt th registry).activated := by
  obtain ⟨hooks, f, s, deactivated, there, -⟩ := h.deactivate_eq handover.giveback on
  exact ⟨_, deactivated, there, scene_marked hooks f s false h.unguarded,
    activated_marked hooks f s false⟩

/-- Changing who is on leaves the tool id as it is. -/
theorem withActive (h : Stationed P held registry e) (on : List (ProfilerId × Nat)) :
    Stationed P held registry (e.withDispatch registry { e.dispatchOf registry with active := on }) := by
  have same : retooled registry e e.hooks e.facility (e.share registry) = e :=
    retooled_share h.unguarded _ _
  have changed := h.change e.hooks (Q := P) (d := { e.dispatchOf registry with active := on })
    (h.idle e.thread) ?_ h.place
  · rw [same] at changed
    exact changed
  · obtain ⟨ths, distinct, mem, length⟩ := h.threads
    refine ⟨ths, distinct, fun th => ?_, length⟩
    rw [mem]
    split
    · rename_i here
      rw [here]
      rfl
    · rfl

/-- **Switching profilers** keeps what survives a handover. -/
theorem switching (handover : Handover registry P) : Switching registry (Stationed P held registry) :=
  ⟨fun h => h.activate handover, fun h => h.deactivate handover, fun h => h.withActive⟩

/-- What switching a profiler on makes of what is known: nothing unless it is the first here. -/
theorem enabled (takeover : Takeover registry P Q) (h : Stationed P held registry e)
    (balanced : Balanced registry e) (p : ProfilerId) :
    let e' := (answer (Engine.enable registry p) e).2
    e'.facility = e.facility ∧ e'.share registry = e.share registry ∨
      Q e'.facility (e'.share registry) := by
  cases on : (e.dispatchOf registry).isActive with
  | true =>
    rw [answer_enable_active on]
    exact .inl ⟨rfl, rfl⟩
  | false =>
    obtain ⟨hooks, f, s, activated, there, -⟩ := h.activate_eq takeover ((balanced e.thread).trans on)
    rw [answer_enable_first on activated]
    exact .inr there.place

/-- What switching a profiler off makes of what is known: nothing unless it is the last here. -/
theorem disabled (giveback : Giveback registry P Q) (h : Stationed P held registry e)
    (balanced : Balanced registry e) (p : ProfilerId) :
    let e' := (answer (Engine.disable registry p) e).2
    e'.facility = e.facility ∧ e'.share registry = e.share registry ∨
      Q e'.facility (e'.share registry) := by
  cases on : (e.dispatchOf registry).isOn p with
  | false => exact .inl (answer_lower_off on (fun n => n - 1) ▸ ⟨rfl, rfl⟩)
  | true =>
    let d := (e.dispatchOf registry).lower p ((e.dispatchOf registry).countOf p - 1)
    let e₁ := e.withDispatch registry d
    have lower := (e.dispatchOf registry).lower_eq p ((e.dispatchOf registry).countOf p - 1)
    have known : e₁.dispatchOf registry = d := withDispatch_dispatchOf registry e d
    cases still : d.isActive with
    | true =>
      rw [answer_disable_active on still]
      exact .inl ⟨rfl, rfl⟩
    | false =>
      have listens : Stationed P held registry e₁ := by
        unfold e₁ d
        rw [lower]
        exact h.withActive _
      have activated : (e₁.dispatchOf registry).activated = true := by
        rw [known]
        unfold d
        rw [lower]
        exact (balanced e.thread).trans (Dispatch.isActive_of_isOn on)
      obtain ⟨hooks, f, s, deactivated, there, -⟩ := listens.deactivate_eq giveback activated
      rw [answer_disable_last on still deactivated]
      exact .inr there.place

/-- The registry listens on no thread if nobody is on anywhere, and only then. -/
theorem nowhere_iff (h : Stationed P held registry e) (balanced : Balanced registry e) :
    (e.share registry).threads = 0 ↔ ∀ th, (e.scene registry).active th = [] := by
  obtain ⟨ths, -, mem, length⟩ := h.threads
  have listens : ∀ th, th ∈ ths ↔ (e.scene registry).active th ≠ [] := by
    intro th
    rw [mem, balanced th, isActive_eq, Bool.not_eq_true', ← Bool.not_eq_true, List.isEmpty_iff]
  rw [← length, List.length_eq_zero_iff]
  refine ⟨fun nowhere th => ?_, fun nobody => List.eq_nil_iff_forall_not_mem.mpr fun th here => ?_⟩
  · refine Decidable.not_not.mp fun on => ?_
    have here := (listens th).mpr on
    rw [nowhere] at here
    cases here
  · exact (listens th).mp here (nobody th)

/-- Where the registry listens on no thread, nobody is on. -/
theorem nobody (h : Stationed P held registry e) (nowhere : (e.share registry).threads = 0)
    (balanced : Balanced registry e) : (e.scene registry).here = [] :=
  (h.nowhere_iff balanced).mp nowhere e.thread

end Stationed

namespace AtTool

variable {registry : RegistryId} {P : Facility → ToolShare → Prop}

/-- **Switching profilers**, with nothing in the trace slots. -/
theorem switching (handover : Handover registry P) : Switching registry (AtTool P registry) :=
  Stationed.switching handover

/-- A trace event finds no hook. -/
theorem announceTrace {σ : Type} {s : Scripts σ} {x : σ} (h : AtTool P registry (s.engine x))
    (frame : Frame) (event : TraceEvent) :
    answer (s.announceTrace frame event) x = (.ok frame.linesOn, x) := by
  have none : (s.engine x).traceHook? = none := h.slots (s.engine x).thread
  rw [Scripts.answer_announceTrace, none]

end AtTool

end LineClock
