import LineClock.Proofs.Engine.Switches

/-!
# Installing that fails

What a registry leaves at the tool id when a call of the facility is refused while it installs its
callbacks. Nothing is undone: what was done before the refusal stays. So the id is as it was if the
refusal came before the first change, and only then.

Main statements: `Guarded.claimOrShare`, `Guarded.taking_fails`, `Guarded.install_fails` and
`Guarded.enable_fails`.
-/

namespace LineClock

open Machine Engine

/-- No callback of a registry stands under the profilers' id. -/
def Facility.Foreign (registry : RegistryId) (f : Facility) : Prop :=
  ∀ kind serial, f.callback? Facility.profilerTool kind ≠ some (.profiler registry serial)

/-- A callback of the registry is no part of a facility like one where it had none. -/
theorem Facility.Foreign.not_alike {registry : RegistryId} {f f' : Facility} (foreign : f.Foreign registry)
    {kind : EventKind} {serial : Nat}
    (ours : f'.callback? Facility.profilerTool kind = some (.profiler registry serial)) :
    ¬ f.Alike f' := fun alike =>
  foreign kind serial ((alike.callbacks _ _).symm.trans ours)

/-- A refusal strikes before anything was changed at the id: the id is not reached, not claimed, its
kinds are not read, or the first callback is not registered while another tool holds the id. A claim
that is refused because the id is in use is taken for a tool that came first. -/
def Refusal.Early (r : Refusal) (f : Facility) : Prop :=
  match r.call with
  | .reach | .getEvents => True
  | .claim => ∀ tool, r.error ≠ .toolInUse tool
  | .register => r.skip = 0 ∧ (f.holder? Facility.profilerTool).isSome
  | .holder | .setEvents => False

theorem Refusal.early_register {r : Refusal} {f : Facility} (mine : r.call = .register) :
    r.Early f ↔ r.skip = 0 ∧ (f.holder? Facility.profilerTool).isSome := by
  unfold Early
  rw [mine]

/-- What comes before the first callback does not change whether a refusal strikes early. -/
theorem Refusal.early_next {r : Refusal} {call : FacilityCall} {f : Facility} (other : call ≠ .register) :
    (r.next call).Early f ↔ r.Early f := by
  by_cases mine : r.call = call
  · unfold Early
    rw [Refusal.call_next, Refusal.error_next, mine]
    cases call with
    | register => exact absurd rfl other
    | reach | getEvents | claim | holder | setEvents => exact Iff.rfl
  · rw [Refusal.next_of_ne mine]

theorem Refusal.not_early_setEvents {r : Refusal} {f : Facility} (mine : r.call = .setEvents) :
    ¬ r.Early f := by
  unfold Early
  rw [mine]
  exact id

namespace Engine.Guarded

variable {registry : RegistryId} {e : Engine} {r : Refusal}

/-! ## Claiming -/

/-- The facility when the id was claimed for the profilers. -/
def claimed (f : Facility) : Facility :=
  { f with holders := f.holders.set Facility.profilerTool toolName }

/-- How claiming or sharing the id ends, where `r` is left of the refusal. -/
inductive Claims (registry : RegistryId) (r : Refusal) (e : Engine) :
    Except HostError Bool × Engine → Prop where
  | shared (held : (e.facility.holder? Facility.profilerTool).isSome) :
      Claims registry r e (.ok false, e.withRefusals [r])
  | owned (free : e.facility.holder? Facility.profilerTool = none) :
      Claims registry r e (.ok true,
        (Engine.retooled registry e e.hooks (claimed e.facility) (e.share registry)).withRefusals [r])
  | mistaken (free : e.facility.holder? Facility.profilerTool = none) (call : r.call = .claim)
      (spent : r.count = 0) (tool : UInt8) (used : r.error = .toolInUse tool) :
      Claims registry r e (.ok false, e.withRefusals [r])
  | refused (free : e.facility.holder? Facility.profilerTool = none) (call : r.call = .claim)
      (spent : r.count = 0) (err : HostError) (other : ∀ tool, r.error ≠ .toolInUse tool) :
      Claims registry r e (.error err, e.withRefusals [r])

/-- A claim fails by itself if the id is held. -/
theorem answer_claim_held (g : Guarded registry e) (spares : ¬ r.Strikes .claim)
    (held : (e.facility.holder? Facility.profilerTool).isSome) :
    answer (claim registry) (e.withRefusals [r]) =
      (.error (.toolInUse Facility.profilerTool), e.withRefusals [r.next .claim]) := by
  have inside : Facility.check Facility.profilerTool = .ok () := rfl
  obtain ⟨name, there⟩ := Option.isSome_iff_exists.mp held
  have used : e.facility.claim Facility.profilerTool toolName =
      .error (.toolInUse Facility.profilerTool) := by
    unfold Facility.claim
    rw [inside, there]
    rfl
  unfold claim
  rw [g.answer_calling, if_neg spares]
  exact answer_onFacility_error (congrArg (Except.map fun f => ((), f)) used)

theorem answer_claim_free (g : Guarded registry e) (spares : ¬ r.Strikes .claim)
    (free : e.facility.holder? Facility.profilerTool = none) :
    answer (claim registry) (e.withRefusals [r]) = (.ok (),
      (Engine.retooled registry e e.hooks (claimed e.facility) (e.share registry)).withRefusals
        [r.next .claim]) := by
  refine g.answer_facility spares ?_
  rw [Facility.claim_free free]
  rfl

/-- **Claiming or sharing** the id. -/
theorem claimOrShare (g : Guarded registry e) (once : r.count ≤ 1) :
    ∃ r', r'.count ≤ r.count ∧ (r'.Early e.facility ↔ r.Early e.facility) ∧
      Claims registry r' e (answer (Engine.claimOrShare registry) (e.withRefusals [r])) := by
  let r₁ := r.next .holder
  let r₂ := r₁.next .claim
  have count₂ : r₂.count ≤ r.count := Nat.le_trans Refusal.count_next_le Refusal.count_next_le
  have early₁ : r₁.Early e.facility ↔ r.Early e.facility := Refusal.early_next (by decide)
  have early₂ : r₂.Early e.facility ↔ r.Early e.facility :=
    (Refusal.early_next (by decide)).trans early₁
  cases held : e.facility.holder? Facility.profilerTool with
  | some name =>
    have isHeld : (e.facility.holder? Facility.profilerTool).isSome := by rw [held]; rfl
    by_cases struck : r.Strikes .holder
    · -- the id seems to be free, and the claim fails by itself
      have spares : ¬ r₁.Strikes .claim :=
        Refusal.not_strikes_of_spent (Refusal.count_next once struck)
      refine ⟨r₂, count₂, early₂, ?_⟩
      unfold Engine.claimOrShare
      rw [answer_liftM_bind (g.run_holder r), if_pos struck]
      change Claims registry r₂ e (answer (tryCatch (do claim registry; return true) _) _)
      rw [answer_tryCatch, answer_bind, g.answer_claim_held spares isHeld]
      exact .shared isHeld
    · refine ⟨r₁, Refusal.count_next_le, early₁, ?_⟩
      unfold Engine.claimOrShare
      rw [answer_liftM_bind (g.run_holder r), if_neg struck, held]
      exact .shared isHeld
  | none =>
    have found : (holder registry).run (e.withRefusals [r]) = (none, e.withRefusals [r₁]) := by
      rw [g.run_holder, held, ite_self]
    refine ⟨r₂, count₂, early₂, ?_⟩
    unfold Engine.claimOrShare
    rw [answer_liftM_bind found]
    change Claims registry r₂ e (answer (tryCatch (do claim registry; return true) _) _)
    rw [answer_tryCatch, answer_bind]
    by_cases struck : r₁.Strikes .claim
    · have call : r₂.call = .claim := Refusal.call_next.trans struck.1
      have spent : r₂.count = 0 :=
        Refusal.count_next (Nat.le_trans Refusal.count_next_le once) struck
      have refused : answer (claim registry) (e.withRefusals [r₁]) =
          (.error r₂.error, e.withRefusals [r₂]) := by
        have same : r₂.error = r₁.error := Refusal.error_next
        unfold claim
        rw [g.answer_calling, if_pos struck, same]
      rw [refused]
      cases error : r₂.error with
      | toolInUse tool => exact .mistaken held call spent tool error
      | toolNotInUse tool | invalidTool tool =>
        refine .refused held call spent _ fun other used => ?_
        cases error.symm.trans used
    · rw [g.answer_claim_free struck held]
      exact .owned held

/-! ## Taking over -/

/-- Where no callback was taken over, the facility is as it was. -/
theorem alike_of_taken_nil {f f' : Facility} {s s' : ToolShare}
    (taken : Taken registry [] f s f' s') : f.Alike f' := by
  refine ⟨?_, fun tool kind => taken.others tool kind fun h => (by cases h.2), ?_⟩
  · rw [taken.facility]
    rfl
  · rw [taken.facility]
    rfl

/-- The refusals for which taking over can fail. -/
def Blamed (r : Refusal) (f : Facility) : Prop :=
  r.call = .register ∨ r.call = .setEvents ∨
    r.call = .claim ∧ f.holder? Facility.profilerTool = none

/-- What taking over makes of the facility `f₀` when it fails: the callbacks stand that were taken over
before the refusal. -/
structure Halfway (registry : RegistryId) (r : Refusal) (f₀ f : Facility) : Prop where
  holder : f.holder? Facility.profilerTool = f₀.holder? Facility.profilerTool
  blamed : Blamed r f₀
  first : r.call = .register ∧ r.skip = 0 → f₀.Alike f
  later : ¬ (r.call = .register ∧ r.skip = 0) →
    ∃ serial, f.callback? Facility.profilerTool .line = some (.profiler registry serial)

/-- Of an id that was held, the facility is as it was if the first callback was refused. -/
theorem Halfway.alike_iff_early {f₀ f : Facility} (halfway : Halfway registry r f₀ f)
    (held : (f₀.holder? Facility.profilerTool).isSome) (foreign : f₀.Foreign registry) :
    f₀.Alike f ↔ r.Early f₀ := by
  by_cases now : r.call = .register ∧ r.skip = 0
  · exact iff_of_true (halfway.first now) ((Refusal.early_register now.1).mpr ⟨now.2, held⟩)
  · obtain ⟨serial, ours⟩ := halfway.later now
    refine iff_of_false (foreign.not_alike ours) fun early => ?_
    rcases halfway.blamed with mine | mine | ⟨-, free⟩
    · exact now ⟨mine, ((Refusal.early_register mine).mp early).1⟩
    · exact Refusal.not_early_setEvents mine early
    · cases (Option.isSome_iff_ne_none.mp held) free

/-- The registry forgets what it kept, and takes over callback after callback. -/
theorem answer_taking (g : Guarded registry e) (r : Refusal) (prior : EventSet) :
    answer (taking registry prior) (e.withRefusals [r]) = answer (do
        ourKinds.forM (takeOver registry)
        let restarts := (← get).facility.restarts
        (modifyShare registry fun s =>
          { s with wrappedEvents := prior, seenRestart := restarts } : StateM Engine Unit)
        setEvents registry (prior.union ourEvents) : ExceptT HostError (StateM Engine) Unit)
      ((Engine.retooled registry e e.hooks e.facility (emptied (e.share registry))).withRefusals [r]) := by
  unfold taking
  rw [answer_liftM_bind (g.run_modifyShare r _)]
  rfl

/-- **A callback is refused.** Those for the kinds before it were taken over. -/
theorem taking_struck (g : Guarded registry e) (once : r.count ≤ 1) (mine : r.call = .register)
    (some : 0 < r.count) (near : r.skip < ourKinds.length) (prior : EventSet) :
    ∃ f e', answer (taking registry prior) (e.withRefusals [r]) = (.error r.error, e') ∧
      Leaves registry e f e' ∧ Halfway registry r e.facility f := by
  have g₁ := g.retooled e.hooks e.facility (emptied (e.share registry))
  obtain ⟨hooks, f, s, hooks', s', r', calm, struck, threads, count⟩ :=
    (registers_takeOver registry).struck_at ourKinds g₁ mine some near
  obtain ⟨_, f₁, s₂, done, taken⟩ := answer_takeOver_all (ourKinds.take r.skip)
    ((by decide : ourKinds.Nodup).sublist (List.take_sublist _ _)) g₁.unguarded
  obtain ⟨rfl, rfl⟩ := retooled_inj g₁.unguarded (congrArg Prod.snd (calm.symm.trans done))
  rw [share_retooled g.unguarded] at taken
  rw [retooled_retooled] at struck
  have kept : s.threads = (e.share registry).threads := by
    rw [taken.share]
    rfl
  have holder : f.holder? Facility.profilerTool = e.facility.holder? Facility.profilerTool := by
    rw [taken.facility]
    rfl
  rw [g.answer_taking, answer_bind, struck]
  refine ⟨f, _, rfl, .intro hooks' s' r' (by omega) (threads.trans kept), holder, .inl mine,
    fun first => ?_, fun later => ?_⟩
  · rw [first.2] at taken
    exact alike_of_taken_nil taken
  · have line : EventKind.line ∈ ourKinds.take r.skip := by
      obtain ⟨n, there⟩ : ∃ n, r.skip = n + 1 :=
        Nat.exists_eq_succ_of_ne_zero fun now => later ⟨mine, now⟩
      rw [there]
      exact List.mem_cons_self
    obtain ⟨serial, ours, -⟩ := taken.ours .line line
    exact ⟨serial, ours⟩

/-- **No callback is refused.** All are taken over, and then the kinds are set. -/
theorem taking_through (g : Guarded registry e)
    (far : r.call = .register → 0 < r.count → ourKinds.length ≤ r.skip) (prior : EventSet) :
    ∃ hooks f s r', answer (taking registry prior) (e.withRefusals [r]) =
        answer (setEvents registry (prior.union ourEvents))
          ((Engine.retooled registry e hooks f s).withRefusals [r']) ∧
      r'.call = r.call ∧ r'.count = r.count ∧ s.threads = (e.share registry).threads ∧
      f.holder? Facility.profilerTool = e.facility.holder? Facility.profilerTool ∧
      ∃ serial, f.callback? Facility.profilerTool .line = some (.profiler registry serial) := by
  have g₁ := g.retooled e.hooks e.facility (emptied (e.share registry))
  obtain ⟨hooks, f, s, r', calm, through, call, count, -⟩ :=
    (registers_takeOver registry).through_all ourKinds g₁ far
  obtain ⟨_, f₁, s₂, done, taken⟩ := answer_takeOver_all ourKinds (by decide) g₁.unguarded
  obtain ⟨rfl, rfl⟩ := retooled_inj g₁.unguarded (congrArg Prod.snd (calm.symm.trans done))
  rw [share_retooled g.unguarded] at taken
  rw [retooled_retooled] at through
  have kept : s.threads = (e.share registry).threads := by
    rw [taken.share]
    rfl
  have holder : f.holder? Facility.profilerTool = e.facility.holder? Facility.profilerTool := by
    rw [taken.facility]
    rfl
  obtain ⟨serial, ours, -⟩ := taken.ours .line (by decide)
  refine ⟨hooks, f, { s with wrappedEvents := prior, seenRestart := f.restarts }, r', ?_, call, count,
    kept, holder, serial, ours⟩
  rw [g.answer_taking, answer_bind_ok through, answer_get_bind,
    answer_liftM_bind (g.run_modifyShare_retooled r' hooks f s _)]
  rfl

/-- **Taking over that fails** leaves the callbacks that were taken over before. -/
theorem taking_fails (g : Guarded registry e) (once : r.count ≤ 1)
    (held : (e.facility.holder? Facility.profilerTool).isSome ∨ r.call = .claim ∧ r.count = 0)
    {prior : EventSet} {err : HostError} {e' : Engine}
    (failed : answer (taking registry prior) (e.withRefusals [r]) = (.error err, e')) :
    ∃ f, Leaves registry e f e' ∧ Halfway registry r e.facility f := by
  rcases r.within_or_beyond .register ourKinds.length with ⟨mine, some, near⟩ | far
  · obtain ⟨f, e'', struck, left, halfway⟩ := g.taking_struck once mine some near prior
    cases struck.symm.trans failed
    exact ⟨f, left, halfway⟩
  · obtain ⟨hooks, f, s, r', through, call, count, threads, holder, ours⟩ := g.taking_through far prior
    rw [through] at failed
    obtain ⟨r'', rfl, why⟩ := (g.retooled hooks f s).setEvents_fails (count ▸ once) failed
    have spent : r''.count = 0 ∧ r.call ≠ .register ∧ Blamed r e.facility := by
      rcases why with ⟨mine, spent⟩ | ⟨free, fewer⟩
      · rw [call] at mine
        refine ⟨spent, ?_, .inr (.inl mine)⟩
        rw [mine]
        decide
      · have free := holder.symm.trans free
        obtain ⟨mine, spent⟩ := held.resolve_left (Option.not_isSome_iff_eq_none.mpr free)
        refine ⟨by omega, ?_, .inr (.inr ⟨mine, free⟩)⟩
        rw [mine]
        decide
    obtain ⟨spent, other, blamed⟩ := spent
    exact ⟨f, .intro hooks s r'' spent threads, holder, blamed, fun h => absurd h.1 other, fun _ => ours⟩

/-! ## Installing -/

/-- Of an id that is shared the kinds are read first. -/
theorem answer_installing_shared (g : Guarded registry e) (r : Refusal) :
    let e₁ := Engine.retooled registry e e.hooks e.facility { e.share registry with owned := false }
    answer (installing registry false) (e.withRefusals [r]) =
      if r.Strikes .getEvents then (.error r.error, e₁.withRefusals [r.next .getEvents])
      else answer (taking registry (e.facility.eventsOf Facility.profilerTool))
        (e₁.withRefusals [r.next .getEvents]) := by
  intro e₁
  have g₁ : Guarded registry e₁ := g.retooled _ _ _
  have asked : answer (installing registry false) (e.withRefusals [r]) =
      answer (getEvents registry >>= taking registry) (e₁.withRefusals [r]) := by
    unfold installing
    rw [answer_liftM_bind (g.run_modifyShare r _)]
    rfl
  have read : answer (onFacility fun f => (f.getEvents Facility.profilerTool).map fun s => (s, f))
      (e₁.withRefusals [r.next .getEvents]) =
        (.ok (e.facility.eventsOf Facility.profilerTool), e₁.withRefusals [r.next .getEvents]) :=
    answer_onFacility rfl
  rw [asked, answer_bind]
  unfold getEvents
  rw [g₁.answer_calling]
  by_cases strikes : r.Strikes .getEvents
  · rw [if_pos strikes, if_pos strikes]
  · rw [if_neg strikes, if_neg strikes, read]

theorem answer_installing_owned (g : Guarded registry e) (r : Refusal) (f : Facility) :
    answer (installing registry true)
        ((Engine.retooled registry e e.hooks f (e.share registry)).withRefusals [r]) =
      answer (taking registry .empty) ((Engine.retooled registry e e.hooks f
        { e.share registry with owned := true }).withRefusals [r]) := by
  unfold installing
  rw [answer_liftM_bind (g.run_modifyShare_retooled r _ _ _ _)]
  rfl

/-- What becomes of the facility `f₀` when installing fails: it is as it was if the refusal came before
the first change, and only then. Another tool keeps the id in any case. -/
structure Aborted (r : Refusal) (f₀ f : Facility) : Prop where
  holder : (f₀.holder? Facility.profilerTool).isSome →
    f.holder? Facility.profilerTool = f₀.holder? Facility.profilerTool
  alike : f₀.Alike f ↔ r.Early f₀

/-- **Installing fails at an id that is shared.** -/
theorem installing_shared_fails (g : Guarded registry e) (once : r.count ≤ 1)
    (held : (e.facility.holder? Facility.profilerTool).isSome) (foreign : e.facility.Foreign registry)
    {err : HostError} {e' : Engine}
    (failed : answer (installing registry false) (e.withRefusals [r]) = (.error err, e')) :
    ∃ f, Leaves registry e f e' ∧ Aborted r e.facility f := by
  have g₁ := g.retooled e.hooks e.facility { e.share registry with owned := false }
  rw [g.answer_installing_shared] at failed
  by_cases strikes : r.Strikes .getEvents
  · rw [if_pos strikes] at failed
    cases failed
    refine ⟨e.facility, (Leaves.same g₁ (Refusal.count_next once strikes)).of_retooled g rfl,
      fun _ => rfl, iff_of_true (.refl _) ?_⟩
    unfold Refusal.Early
    rw [strikes.1]
    trivial
  · rw [if_neg strikes] at failed
    obtain ⟨f, left, halfway⟩ :=
      g₁.taking_fails (Nat.le_trans Refusal.count_next_le once) (.inl held) failed
    exact ⟨f, left.of_retooled g rfl, fun _ => halfway.holder,
      (halfway.alike_iff_early held foreign).trans (Refusal.early_next (by decide))⟩

/-- **Installing fails at an id that was claimed.** It is never let go. -/
theorem installing_owned_fails (g : Guarded registry e) (once : r.count ≤ 1)
    (free : e.facility.holder? Facility.profilerTool = none) {err : HostError} {e' : Engine}
    (failed : answer (installing registry true) ((Engine.retooled registry e e.hooks
      (claimed e.facility) (e.share registry)).withRefusals [r]) = (.error err, e')) :
    ∃ f, Leaves registry e f e' ∧ Aborted r e.facility f := by
  have g₁ := g.retooled e.hooks (claimed e.facility) { e.share registry with owned := true }
  have taken : (claimed e.facility).holder? Facility.profilerTool = some toolName :=
    Assoc.get?_set_self _ _ _
  rw [g.answer_installing_owned] at failed
  obtain ⟨f, left, halfway⟩ :=
    g₁.taking_fails once (.inl (Option.isSome_iff_exists.mpr ⟨toolName, taken⟩)) failed
  refine ⟨f, left.of_retooled g rfl, fun held => ?_, iff_of_false (fun alike => ?_) fun early => ?_⟩
  · cases (Option.isSome_iff_ne_none.mp held) free
  · cases (halfway.holder.trans taken).symm.trans (alike.holder.trans free)
  · rcases halfway.blamed with mine | mine | ⟨-, free⟩
    · cases (Option.isSome_iff_ne_none.mp ((Refusal.early_register mine).mp early).2) free
    · exact Refusal.not_early_setEvents mine early
    · cases taken.symm.trans free

/-- **Installing fails at an id that was taken for another tool's.** The callbacks are left behind. -/
theorem installing_mistaken_fails (g : Guarded registry e) (call : r.call = .claim)
    (spent : r.count = 0) {tool : UInt8} (used : r.error = .toolInUse tool)
    (foreign : e.facility.Foreign registry) {err : HostError} {e' : Engine}
    (failed : answer (installing registry false) (e.withRefusals [r]) = (.error err, e')) :
    ∃ f, Leaves registry e f e' ∧ Aborted r e.facility f := by
  have g₁ := g.retooled e.hooks e.facility { e.share registry with owned := false }
  have same : r.next .getEvents = r := Refusal.next_of_ne (by rw [call]; decide)
  rw [g.answer_installing_shared, if_neg (Refusal.not_strikes_of_spent spent), same] at failed
  obtain ⟨f, left, halfway⟩ :=
    g₁.taking_fails (spent ▸ Nat.zero_le 1) (.inr ⟨call, spent⟩) failed
  obtain ⟨serial, ours⟩ := halfway.later fun h => by cases call.symm.trans h.1
  refine ⟨f, left.of_retooled g rfl, fun _ => halfway.holder,
    iff_of_false (foreign.not_alike ours) fun early => ?_⟩
  unfold Refusal.Early at early
  rw [call] at early
  exact early tool used

/-- **Installing that fails** leaves the id as it was if the refusal came before the first change, and
only then. -/
theorem install_fails (g : Guarded registry e) (once : r.count ≤ 1)
    (foreign : e.facility.Foreign registry) {err : HostError} {e' : Engine}
    (failed : answer (install registry) (e.withRefusals [r]) = (.error err, e')) :
    ∃ f, Leaves registry e f e' ∧ Aborted r e.facility f := by
  obtain ⟨r₁, count, early, claims⟩ := g.claimOrShare once
  have once₁ : r₁.count ≤ 1 := Nat.le_trans count once
  have aborted : ∃ f, Leaves registry e f e' ∧ Aborted r₁ e.facility f := by
    rw [install_eq, answer_bind] at failed
    generalize answer (Engine.claimOrShare registry) (e.withRefusals [r]) = out at claims failed
    cases claims with
    | shared held => exact g.installing_shared_fails once₁ held foreign failed
    | owned free => exact g.installing_owned_fails once₁ free failed
    | mistaken _ call spent _ used => exact g.installing_mistaken_fails call spent used foreign failed
    | refused _ call spent _ other =>
      cases failed
      refine ⟨e.facility, .same g spent, fun _ => rfl, iff_of_true (.refl _) ?_⟩
      unfold Refusal.Early
      rw [call]
      exact other
  obtain ⟨f, left, aborted⟩ := aborted
  exact ⟨f, left, aborted.holder, aborted.alike.trans early⟩

/-! ## Switching on -/

/-- **Switching on that fails**, on the thread that was to listen first or on another one. -/
theorem enable_fails (g : Guarded registry e) (monitored : e.monitored = true) (once : r.count ≤ 1)
    (foreign : e.facility.Foreign registry) {p : ProfilerId} {err : ProfilerError} {e' : Engine}
    (failed : answer (enable registry p) (e.withRefusals [r]) = (.error err, e')) :
    ∃ f, Leaves registry e f e' ∧ Aborted r e.facility f := by
  have backend : ((e.withRefusals [r]).registry registry).backend = .tool := g.unguarded.backend
  have asked := activateTool_of_error backend (activate_of_error failed)
  unfold activateTool at asked
  rw [answer_liftM_bind (g.run_reach r)] at asked
  by_cases strikes : r.Strikes .reach
  · rw [if_pos strikes] at asked
    cases asked
    refine ⟨e.facility, .same g (Refusal.count_next once strikes), fun _ => rfl,
      iff_of_true (.refl _) ?_⟩
    unfold Refusal.Early
    rw [strikes.1]
    trivial
  · have share : (shareOf registry).run (e.withRefusals [r.next .reach]) =
      (e.share registry, e.withRefusals [r.next .reach]) := rfl
    rw [if_neg strikes, monitored] at asked
    simp only [if_true] at asked
    rw [answer_liftM_bind share] at asked
    by_cases first : (e.share registry).threads = 0
    · rw [if_pos first, answer_bind] at asked
      unfold hosted at asked
      rw [answer_adapt] at asked
      cases installed : answer (install registry) (e.withRefusals [r.next .reach]) with
      | mk out e₁ =>
        rw [installed] at asked
        cases out with
        | error err' =>
          obtain ⟨f, left, aborted⟩ :=
            g.install_fails (Nat.le_trans Refusal.count_next_le once) foreign installed
          cases asked
          exact ⟨f, left, aborted.holder, aborted.alike.trans (Refusal.early_next (by decide))⟩
        | ok => cases asked
    · rw [if_neg first] at asked
      cases asked

end Engine.Guarded

/-- A registry at the tool id with a facility that refuses at most one call, now or later. -/
structure Refusable (registry : RegistryId) (r : Refusal) (e : Engine) : Prop where
  present : (e.registries.get? registry).isSome
  backend : (e.registry registry).backend = .tool
  guarded : (e.registry registry).guarded = true
  released : (e.registry registry).released = false
  monitored : e.monitored = true
  refusals : e.refusals = [r]
  once : r.count ≤ 1

namespace Refusable

variable {registry : RegistryId} {r : Refusal} {e : Engine}

theorem guarded_calm (h : Refusable registry r e) : Engine.Guarded registry (e.withRefusals []) :=
  ⟨⟨h.present, h.backend, fun _ _ none => (by cases none), h.released⟩, h.guarded⟩

theorem eq_withRefusals (h : Refusable registry r e) : (e.withRefusals []).withRefusals [r] = e := by
  have same : (e.withRefusals []).withRefusals [r] = e.withRefusals e.refusals := by
    rw [h.refusals]
    rfl
  exact same

end Refusable

end LineClock
