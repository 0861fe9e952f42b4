import LineClock.Proofs.Engine.Switches

/-!
# Giving the id back fails

What a registry leaves at the tool id when a call of the facility is refused while it gives the id
back to the tool that held it before. By then the registry counts the thread no more, so it does not
come back to what was left undone: some of the callbacks stay its own, or the event set does. If the
facility is not even found, the thread stays counted, and the id is never given back.

Main statements: `Guarded.uninstall_fails`, `Guarded.deactivateTool_fails` and `Stranded.switching`.
-/

namespace LineClock

open Machine Engine

namespace Engine.Guarded

variable {registry : RegistryId} {e : Engine} {r : Refusal}

/-- How giving the id back failed: a callback of the registry is still there, or all callbacks were
given back and only the event set was not. -/
inductive Unreturned (registry : RegistryId) (r : Refusal) (e : Engine) (f : Facility) : Prop where
  | callback (call : r.call = .register)
      (same : f.callback? Facility.profilerTool .unwind =
        e.facility.callback? Facility.profilerTool .unwind)
  | events (call : r.call = .setEvents)
      (same : f.eventsOf Facility.profilerTool = e.facility.eventsOf Facility.profilerTool)
      (callbacks : ∀ tool kind, f.callback? tool kind =
        if tool = Facility.profilerTool ∧ kind ∈ ourKinds then
          ((e.share registry).wrapped.get? kind).map (restored registry kind ·
            ((e.share registry).stillOff e.facility.restarts) e.facility.restarts)
        else e.facility.callback? tool kind)

section

variable (g : Guarded registry e) (shared : (e.share registry).owned = false)
  (kept : (e.share registry).reclaimed = false)

include g shared kept

/-- The id of another tool is given back callback by callback. -/
theorem answer_uninstall_shared (r : Refusal) :
    answer (uninstall registry) (e.withRefusals [r]) = answer (do
      ourKinds.forM (giveBack registry ((e.share registry).stillOff e.facility.restarts)
        e.facility.restarts)
      setEvents registry (e.share registry).wrappedEvents : ExceptT HostError (StateM Engine) Unit)
        ((Engine.retooled registry e e.hooks e.facility
          { e.share registry with ours := {}, disabled := [] }).withRefusals [r]) := by
  have share : (shareOf registry).run (e.withRefusals [r]) = (e.share registry, e.withRefusals [r]) :=
    rfl
  have foreign : ¬ ((e.share registry).owned = true ∨ (e.share registry).reclaimed = true) := by
    simp [shared, kept]
  unfold uninstall
  rw [answer_liftM_bind share, answer_liftM_bind (g.run_modifyShare r _), if_neg foreign,
    answer_get_bind]
  rfl

/-- **A callback is refused.** The one for the last kind was not given back. -/
theorem uninstall_struck (once : r.count ≤ 1) (mine : r.call = .register) (some : 0 < r.count)
    (near : r.skip < ourKinds.length) :
    ∃ f e', answer (uninstall registry) (e.withRefusals [r]) = (.error r.error, e') ∧
      Leaves registry e f e' ∧
      f.holder? Facility.profilerTool = e.facility.holder? Facility.profilerTool ∧
      Unreturned registry r e f := by
  let off := (e.share registry).stillOff e.facility.restarts
  have g₁ := g.retooled e.hooks e.facility { e.share registry with ours := {}, disabled := [] }
  obtain ⟨hooks, f, s, hooks', s', r', calm, struck, threads, count⟩ :=
    (registers_giveBack registry off e.facility.restarts).struck_at ourKinds g₁ mine some near
  obtain ⟨f₁, s₂, done, back⟩ := answer_giveBack_all off (ourKinds.take r.skip)
    ((by decide : ourKinds.Nodup).sublist (List.take_sublist _ _)) g₁.unguarded
  obtain ⟨rfl, rfl⟩ := retooled_inj g₁.unguarded (congrArg Prod.snd (calm.symm.trans done))
  have same : s.threads = (e.share registry).threads := by
    rw [back.share, share_retooled g.unguarded]
  have holder : f.holder? Facility.profilerTool = e.facility.holder? Facility.profilerTool := by
    rw [back.facility]
    rfl
  -- the last kind is not reached
  have short : r.skip ≤ 5 := Nat.le_of_lt_succ near
  have last : EventKind.unwind ∉ ourKinds.take r.skip := fun mem =>
    absurd ((List.take_subset_take_left ourKinds short) mem) (by decide)
  have stands : f.callback? Facility.profilerTool .unwind =
      e.facility.callback? Facility.profilerTool .unwind := by
    rw [back.callbacks, if_neg fun h => last h.2]
    rfl
  rw [retooled_retooled] at struck
  rw [g.answer_uninstall_shared shared kept, answer_bind, struck]
  exact ⟨f, _, rfl, .intro hooks' s' r' (by omega) (threads.trans same), holder, .callback mine stands⟩

/-- **No callback is refused.** All are given back, and then the kinds are set. -/
theorem uninstall_through (far : r.call = .register → 0 < r.count → ourKinds.length ≤ r.skip) :
    ∃ hooks f s r', answer (uninstall registry) (e.withRefusals [r]) =
        answer (setEvents registry (e.share registry).wrappedEvents)
          ((Engine.retooled registry e hooks f s).withRefusals [r']) ∧
      r'.call = r.call ∧ r'.count = r.count ∧ s.threads = (e.share registry).threads ∧
      f.holder? Facility.profilerTool = e.facility.holder? Facility.profilerTool ∧
      (r.call = .setEvents → Unreturned registry r e f) := by
  let off := (e.share registry).stillOff e.facility.restarts
  have g₁ := g.retooled e.hooks e.facility { e.share registry with ours := {}, disabled := [] }
  obtain ⟨hooks, f, s, r', calm, through, call, count, -⟩ :=
    (registers_giveBack registry off e.facility.restarts).through_all ourKinds g₁ far
  obtain ⟨f₁, s₂, done, back⟩ := answer_giveBack_all off ourKinds (by decide) g₁.unguarded
  obtain ⟨rfl, rfl⟩ := retooled_inj g₁.unguarded (congrArg Prod.snd (calm.symm.trans done))
  rw [share_retooled g.unguarded] at back
  have same : s.threads = (e.share registry).threads := by
    rw [back.share]
  have holder : f.holder? Facility.profilerTool = e.facility.holder? Facility.profilerTool := by
    rw [back.facility]
    rfl
  have events : f.eventsOf Facility.profilerTool = e.facility.eventsOf Facility.profilerTool := by
    rw [back.facility]
    rfl
  rw [retooled_retooled] at through
  refine ⟨hooks, f, s, r', ?_, call, count, same, holder, fun mine => .events mine events back.callbacks⟩
  rw [g.answer_uninstall_shared shared kept, answer_bind_ok through]

/-- **Giving the id back fails.** -/
theorem uninstall_fails (once : r.count ≤ 1)
    (held : (e.facility.holder? Facility.profilerTool).isSome) {err : HostError} {e' : Engine}
    (failed : answer (uninstall registry) (e.withRefusals [r]) = (.error err, e')) :
    ∃ f, Leaves registry e f e' ∧
      f.holder? Facility.profilerTool = e.facility.holder? Facility.profilerTool ∧
      Unreturned registry r e f := by
  rcases r.within_or_beyond .register ourKinds.length with ⟨mine, some, near⟩ | far
  · obtain ⟨f, e'', struck, left⟩ := g.uninstall_struck shared kept once mine some near
    cases struck.symm.trans failed
    exact ⟨f, left⟩
  · obtain ⟨hooks, f, s, r', through, call, count, threads, holder, unreturned⟩ :=
      g.uninstall_through shared kept far
    rw [through] at failed
    obtain ⟨r'', rfl, ⟨mine, spent⟩ | ⟨free, -⟩⟩ :=
      (g.retooled hooks f s).setEvents_fails (count ▸ once) failed
    · exact ⟨f, .intro hooks s r'' spent threads, holder, unreturned (call.symm.trans mine)⟩
    · cases (Option.isSome_iff_ne_none.mp held) (holder.symm.trans free)

end

/-- **Listening on one thread less fails.** Either the facility was not found, and everything is as it
was, or the last thread was to stop and the id was not given back as a whole. -/
theorem deactivateTool_fails (g : Guarded registry e) (monitored : e.monitored = true)
    (once : r.count ≤ 1) (shared : (e.share registry).owned = false)
    (kept : (e.share registry).reclaimed = false)
    (held : (e.facility.holder? Facility.profilerTool).isSome) {err : ProfilerError} {e' : Engine}
    (failed : answer (deactivateTool registry) (e.withRefusals [r]) = (.error err, e')) :
    (∃ r', r.call = .reach ∧ r'.count = 0 ∧ e' = e.withRefusals [r']) ∨
      ∃ hooks f s r', e' = (Engine.retooled registry e hooks f s).withRefusals [r'] ∧ r'.count = 0 ∧
        (e.share registry).threads - 1 = 0 ∧ s.threads = 0 ∧
        f.holder? Facility.profilerTool = e.facility.holder? Facility.profilerTool ∧
        Unreturned registry r e f := by
  unfold deactivateTool at failed
  rw [answer_liftM_bind (g.run_reach r)] at failed
  by_cases strikes : r.Strikes .reach
  · rw [if_pos strikes] at failed
    exact .inl ⟨_, strikes.1, Refusal.count_next once strikes, (congrArg Prod.snd failed).symm⟩
  · right
    let s₁ : ToolShare := { e.share registry with threads := (e.share registry).threads - 1 }
    have g₁ := g.retooled e.hooks e.facility s₁
    have known : (Engine.retooled registry e e.hooks e.facility s₁).share registry = s₁ :=
      share_retooled g.unguarded _ _ _
    have share : (shareOf registry).run ((Engine.retooled registry e e.hooks e.facility s₁).withRefusals
        [r.next .reach]) = (s₁, (Engine.retooled registry e e.hooks e.facility s₁).withRefusals
          [r.next .reach]) := congrArg (fun s => (s, _)) known
    rw [if_neg strikes, monitored] at failed
    simp only [if_true] at failed
    rw [answer_liftM_bind (g.run_modifyShare _ _), answer_liftM_bind share] at failed
    by_cases last : s₁.threads = 0
    · rw [if_pos last] at failed
      unfold hosted at failed
      rw [answer_adapt] at failed
      cases removed : answer (uninstall registry) ((Engine.retooled registry e e.hooks e.facility
          s₁).withRefusals [r.next .reach]) with
      | mk out e₁ =>
        rw [removed] at failed
        cases out with
        | ok => cases failed
        | error err' =>
          obtain ⟨f, ⟨hooks, s, r', spent, threads⟩, holder, unreturned⟩ := g₁.uninstall_fails
            (by rw [known]; exact shared) (by rw [known]; exact kept)
            (Nat.le_trans Refusal.count_next_le once) held removed
          rw [known] at threads
          rw [retooled_retooled] at failed
          refine ⟨hooks, f, s, r', (congrArg Prod.snd failed).symm, spent, last, threads.trans last,
            holder, ?_⟩
          cases unreturned with
          | callback call same => exact .callback (Refusal.call_next.symm.trans call) same
          | events call same callbacks =>
            rw [known] at callbacks
            exact .events (Refusal.call_next.symm.trans call) same callbacks
    · rw [if_neg last] at failed
      cases failed

end Engine.Guarded

/-! ## A thread that stays counted -/

/-- A registry that counts more threads than it listens on. It never gives the id back. -/
structure Stranded (registry : RegistryId) (f : Facility) (e : Engine) : Prop where
  unguarded : Unguarded registry e
  monitored : e.monitored = true
  facility : e.facility = f
  threads : ∃ ths : List ThreadKey, ths.Nodup ∧
    (∀ th, th ∈ ths ↔ (e.dispatchAt th registry).activated = true) ∧
    ths.length < (e.share registry).threads

namespace Stranded

variable {registry : RegistryId} {f : Facility} {e : Engine}

theorem moveTo (h : Stranded registry f e) (th : ThreadKey) :
    Stranded registry f { e with thread := th } :=
  ⟨h.unguarded.same rfl rfl, h.monitored, h.facility, h.threads⟩

theorem withActive (h : Stranded registry f e) (on : List (ProfilerId × Nat)) :
    Stranded registry f (e.withDispatch registry { e.dispatchOf registry with active := on }) := by
  obtain ⟨ths, distinct, mem, length⟩ := h.threads
  refine ⟨h.unguarded.same rfl rfl, h.monitored, h.facility, ths, distinct, fun th => ?_, length⟩
  rw [mem, withDispatch_dispatchAt]
  split
  · rename_i here
    rw [here]
    rfl
  · rfl

/-- Another count of threads, and another mark on the running thread. -/
theorem change (h : Stranded registry f e) (ths : List ThreadKey) (n : Nat) (on : Bool)
    (distinct : ths.Nodup) (mem : ∀ th, th ∈ ths ↔
      (if th = e.thread then on else (e.dispatchAt th registry).activated) = true)
    (length : ths.length < n) :
    Stranded registry f
      ((retooled registry e e.hooks e.facility { e.share registry with threads := n }).withDispatch
        registry { e.dispatchOf registry with activated := on }) := by
  have share : ((retooled registry e e.hooks e.facility
      { e.share registry with threads := n }).withDispatch registry
        { e.dispatchOf registry with activated := on }).share registry =
      { e.share registry with threads := n } := share_retooled h.unguarded e.hooks e.facility _
  have unguarded : Unguarded registry (retooled registry e e.hooks e.facility
      { e.share registry with threads := n }) := h.unguarded.retooled _ _ _
  refine ⟨unguarded.same rfl rfl, h.monitored, h.facility, ths, distinct, fun th => ?_, ?_⟩
  · rw [mem, Stationed.activated_marked]
  · rw [share]
    exact length

theorem activate (h : Stranded registry f e) (off : (e.dispatchOf registry).activated = false) :
    ∃ e', answer (Engine.activate registry) e = (.ok (), e') ∧ Stranded registry f e' ∧
      e'.scene registry = e.scene registry ∧
      ∀ th, (e'.dispatchAt th registry).activated =
        if th = e.thread then true else (e.dispatchAt th registry).activated := by
  obtain ⟨ths, distinct, mem, length⟩ := h.threads
  have found : (reach registry).run e = (true, e) := by
    rw [run_reach h.unguarded, h.monitored]
  have some : ¬ (e.share registry).threads = 0 := by omega
  have fresh : e.thread ∉ ths := by
    rw [mem]
    exact fun on => Bool.false_ne_true (off.symm.trans on)
  refine ⟨_, ?_, h.change (e.thread :: ths) ((e.share registry).threads + 1) true
    (List.nodup_cons.mpr ⟨fresh, distinct⟩) (fun th => ?_) (Nat.succ_lt_succ length),
    Stationed.scene_marked _ _ _ true h.unguarded, Stationed.activated_marked _ _ _ true⟩
  · unfold Engine.activate activateTool
    rw [answer_get_bind, h.unguarded.backend]
    simp only
    rw [answer_bind, answer_liftM_bind found]
    simp only [if_true]
    rw [answer_liftM_bind run_shareOf, if_neg some, answer_liftM, run_modifyShare h.unguarded]
    rfl
  · rw [List.mem_cons, mem]
    split
    · rename_i here
      simp [here]
    · rename_i other
      simp [other]

theorem deactivate (h : Stranded registry f e) (on : (e.dispatchOf registry).activated = true) :
    ∃ e', answer (Engine.deactivate registry) e = (.ok (), e') ∧ Stranded registry f e' ∧
      e'.scene registry = e.scene registry ∧
      ∀ th, (e'.dispatchAt th registry).activated =
        if th = e.thread then false else (e.dispatchAt th registry).activated := by
  obtain ⟨ths, distinct, mem, length⟩ := h.threads
  let e₁ := e.withDispatch registry { e.dispatchOf registry with activated := false }
  have unguarded : Unguarded registry e₁ := h.unguarded.same rfl rfl
  have found : (reach registry).run e₁ = (true, e₁) := by
    rw [run_reach unguarded]
    exact congrArg (fun b => (b, e₁)) h.monitored
  have here : e.thread ∈ ths := (mem e.thread).mpr on
  have some : 0 < ths.length := List.length_pos_of_mem here
  have more : ¬ (e.share registry).threads - 1 = 0 := by omega
  refine ⟨_, ?_, h.change (ths.erase e.thread) ((e.share registry).threads - 1) false
    (distinct.erase _) (fun th => ?_) ?_, Stationed.scene_marked _ _ _ false h.unguarded,
    Stationed.activated_marked _ _ _ false⟩
  · have counted := run_modifyShare unguarded fun s => { s with threads := s.threads - 1 }
    have known := share_retooled unguarded e₁.hooks e₁.facility
      { e₁.share registry with threads := (e₁.share registry).threads - 1 }
    have more' : ¬ (e₁.share registry).threads - 1 = 0 := more
    rw [answer_deactivate_tool h.unguarded.backend on]
    unfold deactivateTool
    rw [answer_liftM_bind found]
    simp only [if_true]
    rw [answer_liftM_bind counted, answer_liftM_bind run_shareOf, known, if_neg more']
    rfl
  · rw [distinct.mem_erase_iff, mem]
    split
    · rename_i this
      simp [this]
    · rename_i other
      simp [other]
  · rw [List.length_erase_of_mem here]
    omega

/-- **Switching profilers** does not change the facility any more. -/
theorem switching (registry : RegistryId) (f : Facility) : Switching registry (Stranded registry f) :=
  ⟨activate, deactivate, withActive⟩

end Stranded

end LineClock
