import LineClock.Proofs.Engine.Taking

/-!
# Refused calls

A registry whose calls of the facility can be refused, with one refusal to come. A call strikes it,
and then nothing else happens in the call, or the call goes through as if there were no refusal.
Registering callbacks kind by kind goes on until a call is refused.

Main statements: `Guarded.answer_calling`, `Registers.through_all`, `Registers.struck_at` and
`Guarded.setEvents_fails`.
-/

namespace LineClock

open Machine Engine

namespace Refusal

variable {r : Refusal} {call call' : FacilityCall}

/-- A refusal strikes the next call of a kind. -/
def Strikes (r : Refusal) (call : FacilityCall) : Prop := r.call = call ∧ 0 < r.count ∧ r.skip = 0

instance : Decidable (r.Strikes call) := inferInstanceAs (Decidable (_ ∧ _ ∧ _))

/-- What is left of a refusal after a call. -/
def next (r : Refusal) (call : FacilityCall) : Refusal :=
  if r.call = call ∧ 0 < r.count then
    if 0 < r.skip then { r with skip := r.skip - 1 } else { r with count := r.count - 1 }
  else r

theorem consult_single (r : Refusal) (call : FacilityCall) :
    consult call [r] = (if r.Strikes call then some r.error else none, [r.next call]) := by
  unfold consult next
  by_cases open' : r.call = call ∧ 0 < r.count
  · rw [if_pos open', if_pos open']
    by_cases skipped : 0 < r.skip
    · rw [if_pos skipped, if_pos skipped, if_neg fun h => absurd h.2.2 (Nat.ne_of_gt skipped)]
    · rw [if_neg skipped, if_neg skipped,
        if_pos ⟨open'.1, open'.2, Nat.eq_zero_of_not_pos skipped⟩]
  · rw [if_neg open', if_neg open', if_neg fun h => open' ⟨h.1, h.2.1⟩]
    rfl

@[simp] theorem call_next : (r.next call).call = r.call := by
  unfold next
  split
  · split <;> rfl
  · rfl

@[simp] theorem error_next : (r.next call).error = r.error := by
  unfold next
  split
  · split <;> rfl
  · rfl

/-- Calls of another kind do not count. -/
theorem next_of_ne (other : r.call ≠ call) : r.next call = r := if_neg fun h => other h.1

/-- No refusal strikes more often than before. -/
theorem count_next_le : (r.next call).count ≤ r.count := by
  unfold next
  split
  · split
    · exact Nat.le_refl _
    · exact Nat.sub_le _ _
  · exact Nat.le_refl _

/-- A refusal that was to strike once is used up when it struck. -/
theorem count_next (once : r.count ≤ 1) (strikes : r.Strikes call) : (r.next call).count = 0 := by
  obtain ⟨mine, some, now⟩ := strikes
  unfold next
  rw [if_pos ⟨mine, some⟩, if_neg (by omega)]
  exact Nat.sub_eq_zero_of_le once

/-- A refusal that let a call through. -/
theorem next_of_not_strikes (mine : r.call = call) (some : 0 < r.count)
    (spares : ¬ r.Strikes call) : r.next call = { r with skip := r.skip - 1 } ∧ 0 < r.skip := by
  have skipped : 0 < r.skip := Nat.pos_of_ne_zero fun now => spares ⟨mine, some, now⟩
  refine ⟨?_, skipped⟩
  unfold next
  rw [if_pos ⟨mine, some⟩, if_pos skipped]

/-- Either the refusal comes to `n` calls of a kind, or it lets all of them through. -/
theorem within_or_beyond (r : Refusal) (call : FacilityCall) (n : Nat) :
    r.call = call ∧ 0 < r.count ∧ r.skip < n ∨ (r.call = call → 0 < r.count → n ≤ r.skip) := by
  by_cases near : r.call = call ∧ 0 < r.count ∧ r.skip < n
  · exact .inl near
  · exact .inr fun mine some => Nat.le_of_not_lt fun short => near ⟨mine, some, short⟩

theorem not_strikes_of_spent (spent : r.count = 0) : ¬ r.Strikes call := fun h =>
  absurd spent (Nat.ne_of_gt h.2.1)

end Refusal

namespace Engine

/-- The engine with other refusals. -/
def withRefusals (e : Engine) (refusals : List Refusal) : Engine := { e with refusals }

/-- A registry at the tool id whose calls can be refused, on an engine where none is. -/
structure Guarded (registry : RegistryId) (e : Engine) : Prop where
  unguarded : Unguarded registry e
  guarded : (e.registry registry).guarded = true

namespace Guarded

variable {registry : RegistryId} {e : Engine} {r : Refusal}

theorem retooled (g : Guarded registry e) (hooks : Nat) (f : Facility) (s : ToolShare) :
    Guarded registry (retooled registry e hooks f s) := by
  refine ⟨g.unguarded.retooled hooks f s, ?_⟩
  rw [registry_retooled g.unguarded]
  exact g.guarded

/-- When the refusal is used up, no call is refused. -/
theorem spent (g : Guarded registry e) (spent : r.count = 0) :
    Unguarded registry (e.withRefusals [r]) := by
  refine ⟨g.unguarded.present, g.unguarded.backend, fun _ r' mem => ?_, g.unguarded.released⟩
  rw [List.mem_singleton.mp mem]
  exact spent

theorem run_refused (g : Guarded registry e) (r : Refusal) (call : FacilityCall) :
    (refused ((e.withRefusals [r]).registry registry).guarded call).run (e.withRefusals [r]) =
      (if r.Strikes call then some r.error else none, e.withRefusals [r.next call]) := by
  have guarded : ((e.withRefusals [r]).registry registry).guarded = true := g.guarded
  rw [guarded]
  change ((Refusal.consult call [r]).1, e.withRefusals (Refusal.consult call [r]).2) = _
  rw [Refusal.consult_single]

/-- **A call** is refused, or goes through. -/
theorem answer_calling {α : Type} (g : Guarded registry e) (r : Refusal) (call : FacilityCall)
    (act : ExceptT HostError (StateM Engine) α) :
    answer (calling registry call act) (e.withRefusals [r]) =
      if r.Strikes call then (.error r.error, e.withRefusals [r.next call])
      else answer act (e.withRefusals [r.next call]) := by
  unfold calling
  rw [answer_get_bind, answer_liftM_bind (g.run_refused r call)]
  by_cases strikes : r.Strikes call
  · rw [if_pos strikes, if_pos strikes]
    rfl
  · rw [if_neg strikes, if_neg strikes]

/-- What a call leaves that goes through. -/
theorem answer_facility {α : Type} {f : Facility → Except HostError (α × Facility)} {a : α}
    {facility : Facility} (g : Guarded registry e) {call : FacilityCall}
    (spares : ¬ r.Strikes call) (hf : f e.facility = .ok (a, facility)) :
    answer (calling registry call (onFacility f)) (e.withRefusals [r]) =
      (.ok a, (Engine.retooled registry e e.hooks facility (e.share registry)).withRefusals
        [r.next call]) := by
  have done : answer (onFacility f) (e.withRefusals [r.next call]) =
    (.ok a, { e.withRefusals [r.next call] with facility }) := answer_onFacility hf
  rw [g.answer_calling, if_neg spares, done, retooled_share g.unguarded]
  rfl

theorem run_reach (g : Guarded registry e) (r : Refusal) :
    (reach registry).run (e.withRefusals [r]) =
      (if r.Strikes .reach then false else e.monitored, e.withRefusals [r.next .reach]) := by
  unfold reach findsFacility
  rw [run_state_get_bind, run_state_bind (g.run_refused r .reach)]
  by_cases strikes : r.Strikes .reach
  · rw [if_pos strikes, if_pos strikes]
    rfl
  · rw [if_neg strikes, if_neg strikes]
    rfl

theorem run_holder (g : Guarded registry e) (r : Refusal) :
    (holder registry).run (e.withRefusals [r]) =
      (if r.Strikes .holder then none else e.facility.holder? Facility.profilerTool,
        e.withRefusals [r.next .holder]) := by
  unfold holder
  rw [run_state_get_bind, run_state_bind (g.run_refused r .holder)]
  by_cases strikes : r.Strikes .holder
  · rw [if_pos strikes, if_pos strikes]
    rfl
  · rw [if_neg strikes, if_neg strikes]
    rfl

theorem run_modifyShare (g : Guarded registry e) (r : Refusal) (f : ToolShare → ToolShare) :
    (modifyShare registry f).run (e.withRefusals [r]) =
      ((), (Engine.retooled registry e e.hooks e.facility (f (e.share registry))).withRefusals [r]) := by
  have same : (modifyShare registry f).run (e.withRefusals [r]) =
    ((), ((modifyShare registry f).run e).2.withRefusals [r]) := rfl
  rw [same, Engine.run_modifyShare g.unguarded]

theorem run_modifyShare_retooled (g : Guarded registry e) (r : Refusal) (hooks : Nat) (f : Facility)
    (s : ToolShare) (change : ToolShare → ToolShare) :
    (modifyShare registry change).run ((Engine.retooled registry e hooks f s).withRefusals [r]) =
      ((), (Engine.retooled registry e hooks f (change s)).withRefusals [r]) := by
  rw [(g.retooled hooks f s).run_modifyShare, share_retooled g.unguarded, retooled_retooled]
  rfl

end Guarded

/-! ## Registering kind by kind -/

/-- A step for each kind of event that registers a callback. -/
structure Registers (registry : RegistryId)
    (step : EventKind → ExceptT HostError (StateM Engine) Unit) : Prop where
  /-- Without a refusal. -/
  calm : ∀ {e}, Unguarded registry e → ∀ kind, ∃ hooks f s,
    answer (step kind) e = (.ok (), retooled registry e hooks f s)
  /-- The refusal lets the call through. -/
  through : ∀ {e r hooks f s}, Guarded registry e → ¬ r.Strikes .register → ∀ kind,
    answer (step kind) e = (.ok (), retooled registry e hooks f s) →
    answer (step kind) (e.withRefusals [r]) =
      (.ok (), (retooled registry e hooks f s).withRefusals [r.next .register])
  /-- The refusal strikes. -/
  struck : ∀ {e r}, Guarded registry e → r.Strikes .register → ∀ kind, ∃ hooks s,
    answer (step kind) (e.withRefusals [r]) = (.error r.error,
      (retooled registry e hooks e.facility s).withRefusals [r.next .register]) ∧
      s.threads = (e.share registry).threads

namespace Registers

variable {registry : RegistryId} {step : EventKind → ExceptT HostError (StateM Engine) Unit}
  {e : Engine} {r : Refusal}

theorem answer_cons (step : EventKind → ExceptT HostError (StateM Engine) Unit) (kind : EventKind)
    (rest : List EventKind) (e : Engine) :
    answer ((kind :: rest).forM step) e = answer (step kind >>= fun _ => rest.forM step) e := rfl

/-- A refusal that is not reached changes nothing. -/
theorem through_all (steps : Registers registry step) (kinds : List EventKind)
    (g : Guarded registry e) (far : r.call = .register → 0 < r.count → kinds.length ≤ r.skip) :
    ∃ hooks f s r', answer (kinds.forM step) e = (.ok (), retooled registry e hooks f s) ∧
      answer (kinds.forM step) (e.withRefusals [r]) =
        (.ok (), (retooled registry e hooks f s).withRefusals [r']) ∧
      r'.call = r.call ∧ r'.count = r.count ∧ (r.call ≠ .register → r' = r) := by
  induction kinds generalizing e r with
  | nil =>
    refine ⟨e.hooks, e.facility, e.share registry, r, ?_, ?_, rfl, rfl, fun _ => rfl⟩
    · rw [retooled_share g.unguarded]
      rfl
    · rw [retooled_share g.unguarded]
      rfl
  | cons kind rest ih =>
    obtain ⟨hooks, f, s, first⟩ := steps.calm g.unguarded kind
    have spares : ¬ r.Strikes .register := by
      rintro ⟨mine, some, now⟩
      have enough := far mine some
      rw [now] at enough
      exact absurd enough (Nat.not_succ_le_zero _)
    have left : (r.next .register).count = r.count ∧
        (r.call = .register → 0 < r.count → rest.length ≤ (r.next .register).skip) := by
      by_cases mine : r.call = .register ∧ 0 < r.count
      · obtain ⟨next, -⟩ := Refusal.next_of_not_strikes mine.1 mine.2 spares
        rw [next]
        refine ⟨rfl, fun _ _ => ?_⟩
        have enough := far mine.1 mine.2
        rw [List.length_cons] at enough
        exact Nat.le_sub_of_add_le enough
      · have next : r.next .register = r := if_neg mine
        rw [next]
        exact ⟨rfl, fun h some => absurd ⟨h, some⟩ mine⟩
    obtain ⟨hooks', f', s', r', calm, through, call, count, same⟩ :=
      ih (r := r.next .register) (g.retooled hooks f s) (by
        rw [Refusal.call_next, left.1]
        exact left.2)
    refine ⟨hooks', f', s', r', ?_, ?_, call.trans Refusal.call_next, count.trans left.1,
      fun other => ?_⟩
    · rw [answer_cons, answer_bind_ok first, calm, retooled_retooled]
    · rw [answer_cons, answer_bind_ok (steps.through g spares kind first), through,
        retooled_retooled]
    · rw [same (fun h => other (Refusal.call_next.symm.trans h)), Refusal.next_of_ne other]

/-- **The kinds before the refusal** are done when it strikes, and the others are not. -/
theorem struck_at (steps : Registers registry step) (kinds : List EventKind)
    (g : Guarded registry e) (mine : r.call = .register) (some : 0 < r.count)
    (near : r.skip < kinds.length) :
    ∃ hooks f s hooks' s' r', answer ((kinds.take r.skip).forM step) e =
        (.ok (), retooled registry e hooks f s) ∧
      answer (kinds.forM step) (e.withRefusals [r]) =
        (.error r.error, (retooled registry e hooks' f s').withRefusals [r']) ∧
      s'.threads = s.threads ∧ r'.count = r.count - 1 := by
  induction kinds generalizing e r with
  | nil => cases near
  | cons kind rest ih =>
    rcases Nat.eq_zero_or_pos r.skip with now | later
    · obtain ⟨hooks', s', failed, threads⟩ := steps.struck g ⟨mine, some, now⟩ kind
      refine ⟨e.hooks, e.facility, e.share registry, hooks', s', r.next .register, ?_, ?_, threads,
        ?_⟩
      · rw [now, retooled_share g.unguarded]
        rfl
      · rw [answer_cons, answer_bind, failed]
      · unfold Refusal.next
        rw [if_pos ⟨mine, some⟩, if_neg (by omega)]
    · have spares : ¬ r.Strikes .register := fun h => absurd h.2.2 (Nat.ne_of_gt later)
      obtain ⟨next, -⟩ := Refusal.next_of_not_strikes mine some spares
      obtain ⟨hooks, f, s, first⟩ := steps.calm g.unguarded kind
      have through := steps.through g spares kind first
      rw [next] at through
      have near' : r.skip - 1 < rest.length := by
        rw [List.length_cons] at near
        omega
      obtain ⟨hooks₁, f₁, s₁, hooks', s', r', calm, failed, threads, count⟩ :=
        ih (r := { r with skip := r.skip - 1 }) (g.retooled hooks f s) mine some near'
      rw [retooled_retooled] at calm failed
      refine ⟨hooks₁, f₁, s₁, hooks', s', r', ?_, ?_, threads, count⟩
      · obtain ⟨n, there⟩ : ∃ n, r.skip = n + 1 := ⟨r.skip - 1, by omega⟩
        have before : r.skip - 1 = n := by omega
        rw [there, List.take_succ_cons, answer_cons, answer_bind_ok first, ← before]
        exact calm
      · rw [answer_cons, answer_bind_ok through, failed]

end Registers

variable {registry : RegistryId}

/-- Taking over registers a callback. -/
theorem registers_takeOver (registry : RegistryId) : Registers registry (takeOver registry) where
  calm h kind := ⟨_, _, _, answer_takeOver h kind⟩
  through {e r hooks f s} g spares kind done := by
    let e₁ : Engine := { e with hooks := e.hooks + 1 }
    have g₁ : Guarded registry e₁ := ⟨g.unguarded.same rfl rfl, g.guarded⟩
    have serial : (newSerial).run (e.withRefusals [r]) = (e.hooks, e₁.withRefusals [r]) := rfl
    have put : answer (register registry kind (some (.profiler registry e.hooks)))
        (e₁.withRefusals [r]) = (.ok (e.facility.callback? Facility.profilerTool kind),
          (retooled registry e₁ e₁.hooks
            (e.facility.withCallback kind (some (.profiler registry e.hooks)))
            (e₁.share registry)).withRefusals [r.next .register]) :=
      g₁.answer_facility spares (Facility.register_eq e.facility kind _)
    rw [answer_takeOver g.unguarded] at done
    have there := congrArg (fun out => out.2.withRefusals [r.next .register]) done
    refine Eq.trans ?_ (congrArg (fun e => (Except.ok (), e)) there)
    unfold takeOver
    rw [answer_liftM_bind serial, answer_bind_ok put, answer_liftM,
      g₁.run_modifyShare_retooled]
    rfl
  struck {e r} g strikes kind := by
    let e₁ : Engine := { e with hooks := e.hooks + 1 }
    have g₁ : Guarded registry e₁ := ⟨g.unguarded.same rfl rfl, g.guarded⟩
    have serial : (newSerial).run (e.withRefusals [r]) = (e.hooks, e₁.withRefusals [r]) := rfl
    have refused : answer (register registry kind (some (.profiler registry e.hooks)))
        (e₁.withRefusals [r]) = (.error r.error, e₁.withRefusals [r.next .register]) := by
      unfold register
      rw [g₁.answer_calling, if_pos strikes]
    refine ⟨e.hooks + 1, e.share registry, ?_, rfl⟩
    unfold takeOver
    rw [answer_liftM_bind serial, answer_bind, refused, retooled_share g.unguarded]

/-- Giving back registers a callback. -/
theorem registers_giveBack (registry : RegistryId) (off : List Location) (restarts : Nat) :
    Registers registry (giveBack registry off restarts) := by
  have given : ∀ {e : Engine}, Unguarded registry e → ∀ kind,
      answer (giveBack registry off restarts kind) e = (.ok (), retooled registry e e.hooks
        (e.facility.withCallback kind (((e.share registry).wrapped.get? kind).map
          (restored registry kind · off restarts)))
        { e.share registry with wrapped := (e.share registry).wrapped.erase kind }) := by
    intro e h kind
    unfold giveBack
    rw [answer_liftM_bind run_shareOf, answer_liftM_bind (run_modifyShare h _), answer_discard,
      answer_register h]
  have share : ∀ {e : Engine} {r}, (shareOf registry).run (e.withRefusals [r]) =
    (e.share registry, e.withRefusals [r]) := rfl
  refine ⟨fun h kind => ⟨_, _, _, given h kind⟩, fun {e r hooks f s} g spares kind done => ?_,
    fun {e r} g strikes kind => ?_⟩
  · have there := congrArg (fun out => out.2.withRefusals [r.next .register])
      ((given g.unguarded kind).symm.trans done)
    refine Eq.trans ?_ (congrArg (fun e => (Except.ok (), e)) there)
    let s₁ : ToolShare :=
      { e.share registry with wrapped := (e.share registry).wrapped.erase kind }
    have put := (g.retooled e.hooks e.facility s₁).answer_facility spares
      (f := fun f => f.register Facility.profilerTool kind (((e.share registry).wrapped.get? kind).map
        (restored registry kind · off restarts))) (Facility.register_eq e.facility kind _)
    rw [share_retooled g.unguarded, retooled_retooled] at put
    unfold giveBack
    rw [answer_liftM_bind share, answer_liftM_bind (g.run_modifyShare r _), answer_discard]
    unfold register
    rw [put]
    rfl
  · refine ⟨e.hooks, { e.share registry with wrapped := (e.share registry).wrapped.erase kind }, ?_,
      rfl⟩
    unfold giveBack register
    rw [answer_liftM_bind share, answer_liftM_bind (g.run_modifyShare r _), answer_discard,
      (g.retooled _ _ _).answer_calling, if_pos strikes]

/-! ## What a refused call leaves -/

/-- What a refused call leaves of an engine: the facility `f`, and a registry that counts as many
threads as before. No other call is refused then. -/
inductive Leaves (registry : RegistryId) (e : Engine) (f : Facility) : Engine → Prop where
  | intro (hooks : Nat) (s : ToolShare) (r : Refusal) (spent : r.count = 0)
      (threads : s.threads = (e.share registry).threads) :
      Leaves registry e f ((retooled registry e hooks f s).withRefusals [r])

namespace Leaves

variable {registry : RegistryId} {e e' : Engine} {r : Refusal} {f f₁ : Facility}

/-- Nothing was done before. -/
theorem same (g : Guarded registry e) (spent : r.count = 0) :
    Leaves registry e e.facility (e.withRefusals [r]) := by
  have left : Leaves registry e e.facility _ := .intro e.hooks (e.share registry) r spent rfl
  rw [retooled_share g.unguarded] at left
  exact left

/-- What was done before does not matter. -/
theorem of_retooled {hooks : Nat} {s₁ : ToolShare}
    (left : Leaves registry (retooled registry e hooks f₁ s₁) f e') (g : Guarded registry e)
    (threads : s₁.threads = (e.share registry).threads) : Leaves registry e f e' := by
  obtain ⟨hooks', s, r, spent, kept⟩ := left
  rw [share_retooled g.unguarded] at kept
  rw [retooled_retooled]
  exact .intro hooks' s r spent (kept.trans threads)

end Leaves

/-- Setting the kinds of an id that nobody holds fails by itself. -/
theorem setEvents_loose {f : Facility} (free : f.holder? Facility.profilerTool = none)
    (events : EventSet) :
    f.setEvents Facility.profilerTool events = .error (.toolNotInUse Facility.profilerTool) := by
  have inside : Facility.check Facility.profilerTool = .ok () := rfl
  unfold Facility.setEvents
  rw [inside, free]
  rfl

/-- **Setting the kinds fails** if the call is refused, or if nobody holds the id. -/
theorem Guarded.setEvents_fails {registry : RegistryId} {e e' : Engine} {r : Refusal}
    (g : Guarded registry e) (once : r.count ≤ 1) {events : EventSet} {err : HostError}
    (failed : answer (setEvents registry events) (e.withRefusals [r]) = (.error err, e')) :
    ∃ r', e' = e.withRefusals [r'] ∧
      (r.call = .setEvents ∧ r'.count = 0 ∨
        e.facility.holder? Facility.profilerTool = none ∧ r'.count ≤ r.count) := by
  unfold setEvents at failed
  rw [g.answer_calling] at failed
  refine ⟨r.next .setEvents, ?_⟩
  by_cases strikes : r.Strikes .setEvents
  · rw [if_pos strikes] at failed
    exact ⟨(congrArg Prod.snd failed).symm, .inl ⟨strikes.1, Refusal.count_next once strikes⟩⟩
  · rw [if_neg strikes] at failed
    cases there : e.facility.holder? Facility.profilerTool with
    | some name =>
      have set := Facility.setEvents_held (Option.isSome_iff_exists.mpr ⟨name, there⟩) events
      have done : answer (onFacility fun f => (f.setEvents Facility.profilerTool events).map fun f =>
          ((), f)) (e.withRefusals [r.next .setEvents]) = (.ok (), _) :=
        answer_onFacility (congrArg (Except.map fun f => ((), f)) set)
      cases done.symm.trans failed
    | none =>
      have refused : answer (onFacility fun f => (f.setEvents Facility.profilerTool events).map fun f =>
          ((), f)) (e.withRefusals [r.next .setEvents]) = (.error _, _) :=
        answer_onFacility_error (congrArg (Except.map fun f => ((), f)) (setEvents_loose there events))
      exact ⟨(congrArg Prod.snd (refused.symm.trans failed)).symm, .inr ⟨rfl, Refusal.count_next_le⟩⟩

end Engine

end LineClock
