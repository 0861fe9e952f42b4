import LineClock.Proofs.Engine.Refusing
import LineClock.Proofs.Engine.Sparing

/-!
# Layers over callbacks

A registry that gives the profilers' id back puts a layer over each callback that it had wrapped, if
locations of the kind are still off for the tool. Nobody looks whether the callback is covered by a
layer already. Apart from that, nothing that is done with profilers makes a callback stand for a kind
that did not stand for it before.

Main statements: `Familiar.notes`, `Familiar.enable`, `uninstall_covers`, `Recedes.lower` and
`Recedes.hands`.
-/

namespace LineClock

open Machine

namespace ToolHook

/-- A callback stands beneath a number of layers, the outermost of which is another. -/
def Beneath (own : ToolHook) : Nat → ToolHook → Prop
  | 0, hook => hook = own
  | n + 1, .replay wrapped _ _ _ => own.Beneath n wrapped
  | _ + 1, _ => False

instance (own : ToolHook) : (n : Nat) → (hook : ToolHook) → Decidable (own.Beneath n hook)
  | 0, hook => inferInstanceAs (Decidable (hook = own))
  | n + 1, .replay wrapped _ _ _ => instDecidableBeneath own n wrapped
  | _ + 1, .script _ | _ + 1, .profiler _ _ => inferInstanceAs (Decidable False)

/-- A callback of profilers. -/
def Ours : ToolHook → Prop
  | .profiler _ _ => True
  | _ => False

/-- One layer more than another callback. -/
def Covers (wrapped : ToolHook) : ToolHook → Prop
  | .replay below _ _ _ => below = wrapped
  | _ => False

theorem Beneath.cover {own wrapped hook : ToolHook} {n : Nat} (h : own.Beneath n wrapped)
    (covers : wrapped.Covers hook) : own.Beneath (n + 1) hook := by
  cases hook with
  | script | profiler => cases covers
  | replay below locations version owner =>
    cases covers
    exact h

/-- A callback that is no layer itself stands beneath one number of them. -/
theorem Beneath.script_unique {id : ScriptId} {m n : Nat} {hook : ToolHook}
    (h : (script id).Beneath m hook) (h' : (script id).Beneath n hook) : m = n := by
  induction m generalizing n hook with
  | zero =>
    cases h
    cases n with
    | zero => rfl
    | succ n => cases h'
  | succ m ih =>
    cases hook with
    | script | profiler => cases h
    | replay wrapped _ _ _ =>
      cases n with
      | zero => cases h'
      | succ n => exact congrArg (· + 1) (ih h h')

end ToolHook

namespace Engine

/-! ## Callbacks that stand -/

/-- A callback stands for a kind: it is registered under the profilers' id, or a registry keeps it,
as its own or as the one that it wrapped. -/
def Stands (e : Engine) (kind : EventKind) (hook : ToolHook) : Prop :=
  e.facility.callback? Facility.profilerTool kind = some hook ∨
    ∃ registry, (e.share registry).wrapped.get? kind = some hook ∨
      (e.share registry).ours.get? kind = some hook

/-- Locations of a kind are off for the tool that shares the id with a registry. -/
def KeepsOff (e : Engine) (registry : RegistryId) (kind : EventKind) : Prop :=
  ∃ location ∈ (e.share registry).stillOff e.facility.restarts, location.kind = kind

instance (e : Engine) (registry : RegistryId) (kind : EventKind) :
    Decidable (e.KeepsOff registry kind) :=
  inferInstanceAs (Decidable (∃ location ∈ _, _))

/-- A registry that nobody listens with any more kept locations of a kind off, and does so no more. -/
def HandedBack (registry : RegistryId) (kind : EventKind) (e e' : Engine) : Prop :=
  (e'.share registry).threads = 0 ∧ e.KeepsOff registry kind ∧ ¬ e'.KeepsOff registry kind

/-- Locations of a kind are handed back. -/
def HandsBack (kind : EventKind) (e e' : Engine) : Prop :=
  ∃ registry ∈ e.registries.keys, HandedBack registry kind e e'

instance (kind : EventKind) (e e' : Engine) : Decidable (HandsBack kind e e') :=
  inferInstanceAs (Decidable (∃ registry ∈ _, _ ∧ _ ∧ ¬ _))

variable {e e' : Engine} {registry : RegistryId} {kind : EventKind} {hook : ToolHook}

theorem Drops.erase (s : ToolShare) (kind : EventKind) :
    Drops s { s with wrapped := s.wrapped.erase kind } := by
  refine fun kind' hook => ⟨fun there => ?_, id⟩
  have there : (s.wrapped.erase kind).get? kind' = some hook := there
  rw [Assoc.get?_erase] at there
  split at there
  · cases there
  · exact there

theorem share_modifyShare (registry : RegistryId) (f : ToolShare → ToolShare) (e : Engine)
    (r : RegistryId) : ((modifyShare registry f).run e).2.share r =
      if registry = r ∧ registry ∈ e.registries.keys then f (e.share r) else e.share r := by
  have read : ((modifyShare registry f).run e).2.share r =
    ((e.registries.modify registry fun s => { s with share := f s.share }).getD r default).share := rfl
  rw [read, Assoc.getD_modify]
  simp only [Assoc.isSome_get?_iff]
  split <;> rfl

/-- What is kept of the id is as it was, or was changed. -/
theorem share_modifyShare_cases (registry : RegistryId) (f : ToolShare → ToolShare) (e : Engine)
    (r : RegistryId) : ((modifyShare registry f).run e).2.share r = e.share r ∨
      r = registry ∧ ((modifyShare registry f).run e).2.share r = f (e.share r) := by
  rw [share_modifyShare]
  split
  · rename_i here
    exact .inr ⟨here.1.symm, rfl⟩
  · exact .inl rfl

/-- A registry that is not there keeps nothing off. -/
theorem KeepsOff.present (h : e.KeepsOff registry kind) : registry ∈ e.registries.keys := by
  refine Decidable.byContradiction fun absent => ?_
  have blank : e.share registry = {} :=
    congrArg Registry.share (Assoc.getD_of_get?_none ((Assoc.get?_eq_none_iff _ _).mpr absent) default)
  obtain ⟨location, off, -⟩ := h
  rw [blank] at off
  have nothing : ({} : ToolShare).stillOff e.facility.restarts = [] := ite_self _
  rw [nothing] at off
  cases off

/-- A registry that is told to keep nothing off does so. -/
theorem not_keepsOff_modifyShare (registry : RegistryId) (e : Engine) {f : ToolShare → ToolShare}
    (nothing : ∀ s restarts, (f s).stillOff restarts = []) (kind : EventKind) :
    ¬ ((modifyShare registry f).run e).2.KeepsOff registry kind := by
  intro still
  have present : registry ∈ e.registries.keys := Assoc.keys_modify e.registries registry _ ▸ still.present
  obtain ⟨location, off, -⟩ := still
  rw [share_modifyShare, if_pos ⟨rfl, present⟩, nothing] at off
  cases off

/-! ## Calls of the facility -/

/-- A call of the facility is refused, or goes through. -/
theorem answer_calling_cases {α : Type} (registry : RegistryId) (call : FacilityCall)
    (act : ExceptT HostError (StateM Engine) α) (e : Engine) : ∃ refusals,
    (∃ err, answer (calling registry call act) e = (.error err, e.withRefusals refusals)) ∨
      answer (calling registry call act) e = answer act (e.withRefusals refusals) := by
  unfold calling
  rw [answer_get_bind]
  cases guarded : (e.registry registry).guarded with
  | false => exact ⟨e.refusals, .inr rfl⟩
  | true =>
    refine ⟨(Refusal.consult call e.refusals).2, ?_⟩
    have asked : (refused true call).run e = ((Refusal.consult call e.refusals).1,
        e.withRefusals (Refusal.consult call e.refusals).2) := rfl
    rw [answer_liftM_bind asked]
    cases (Refusal.consult call e.refusals).1 with
    | some err => exact .inl ⟨err, rfl⟩
    | none => exact .inr rfl

/-- A callback is registered, or the call is refused. -/
theorem answer_register_cases (registry : RegistryId) (kind : EventKind) (hook : Option ToolHook)
    (e : Engine) : ∃ refusals,
    (∃ err, answer (register registry kind hook) e = (.error err, e.withRefusals refusals)) ∨
      answer (register registry kind hook) e = (.ok (e.facility.callback? Facility.profilerTool kind),
        { e with refusals, facility := e.facility.withCallback kind hook }) := by
  obtain ⟨refusals, failed | done⟩ := answer_calling_cases registry .register
    (onFacility fun f => f.register Facility.profilerTool kind hook) e
  · exact ⟨refusals, .inl failed⟩
  · refine ⟨refusals, .inr (done.trans ?_)⟩
    cases hook <;> rfl

/-- What becomes of callbacks where profilers are at work: each stood before, or is one of theirs, or
has a layer more than one that stood before, where locations of its kind are handed back. -/
def Hands (e e' : Engine) : Prop :=
  ∀ kind hook, e'.Stands kind hook → e.Stands kind hook ∨ hook.Ours ∨
    HandsBack kind e e' ∧ ∃ wrapped, e.Stands kind wrapped ∧ wrapped.Covers hook

/-! ## What profilers do before they give the id back -/

/-- Profilers' own apart, every callback that stands stood before. -/
def Familiar (e e' : Engine) : Prop :=
  ∀ kind hook, e'.Stands kind hook → e.Stands kind hook ∨ hook.Ours

namespace Familiar

instance : IsPreorder Engine Familiar where
  refl _ _ _ := .inl
  trans _ _ _ h h' kind hook there := (h' kind hook there).elim (h kind hook) .inr

theorem of_same (callbacks : e'.facility.callbacks = e.facility.callbacks)
    (shares : ∀ registry, e'.share registry = e.share registry) : Familiar e e' := by
  intro kind hook there
  unfold Stands Facility.callback? at there ⊢
  rw [callbacks] at there
  simp only [shares] at there
  exact .inl there

theorem of_registries (callbacks : e'.facility.callbacks = e.facility.callbacks)
    (registries : e'.registries = e.registries) : Familiar e e' :=
  of_same callbacks (share_congr registries)

/-- What a registry keeps changes, and what it keeps then stood before. -/
theorem share (registry : RegistryId) (h : Familiar e e') {f : ToolShare → ToolShare}
    (known : ∀ kind hook, ((f (e'.share registry)).wrapped.get? kind = some hook ∨
      (f (e'.share registry)).ours.get? kind = some hook) → e.Stands kind hook ∨ hook.Ours) :
    Familiar e ((modifyShare registry f).run e').2 := by
  rintro kind hook (there | ⟨r, kept⟩)
  · exact h kind hook (.inl there)
  · rcases share_modifyShare_cases registry f e' r with same | ⟨rfl, changed⟩
    · rw [same] at kept
      exact h kind hook (.inr ⟨r, kept⟩)
    · rw [changed] at kept
      exact known kind hook kept

/-- A callback is registered that stood before. -/
theorem register (registry : RegistryId) (known : e.Stands kind hook ∨ hook.Ours) :
    Familiar e (answer (register registry kind (some hook)) e).2 ∧ ∀ found,
      (answer (Engine.register registry kind (some hook)) e).1 = .ok (some found) →
        e.Stands kind found := by
  obtain ⟨refusals, ⟨err, failed⟩ | done⟩ := answer_register_cases registry kind (some hook) e
  · rw [failed]
    exact ⟨of_registries rfl rfl, nofun⟩
  · rw [done]
    refine ⟨?_, fun found there => .inl (Except.ok.inj there)⟩
    rintro kind' hook' (there | kept)
    · have there : (e.facility.withCallback kind (some hook)).callback? Facility.profilerTool kind' =
        some hook' := there
      rw [Facility.callback?_withCallback] at there
      split at there
      · rename_i here
        cases there
        exact here.2 ▸ known
      · exact .inl (.inl there)
    · exact .inl (.inr kept)

theorem takeOver (registry : RegistryId) (kind : EventKind) :
    Leads Familiar (takeOver registry kind).run := by
  intro e
  let e₁ : Engine := { e with hooks := e.hooks + 1 }
  let ours : ToolHook := .profiler registry e.hooks
  have started : newSerial.run e = (e.hooks, e₁) := rfl
  have known : e₁.Stands kind ours ∨ ours.Ours := .inr trivial
  obtain ⟨put, stood⟩ := register registry known
  show Familiar e (answer (Engine.takeOver registry kind) e).2
  unfold Engine.takeOver
  rw [answer_liftM_bind started, answer_bind]
  rcases registered : answer (Engine.register registry kind (some ours)) e₁ with ⟨_ | previous, e₂⟩
  · rw [registered] at put
    exact put
  · -- What is noted is the callback that the registration found, and the one that it put there.
    rw [registered] at put stood
    have put : Familiar e e₂ := put
    simp only [answer_liftM]
    refine share registry put fun kind' hook' kept => ?_
    have before : ∀ hook', (e₂.share registry).wrapped.get? kind' = some hook' ∨
        (e₂.share registry).ours.get? kind' = some hook' → e.Stands kind' hook' ∨ hook'.Ours :=
      fun hook' kept => put kind' hook' (.inr ⟨registry, kept⟩)
    rcases kept with wrapped | mine
    · cases previous with
      | none => exact before hook' (.inl wrapped)
      | some found =>
        have wrapped : ((e₂.share registry).wrapped.set kind found).get? kind' = some hook' := wrapped
        rcases Assoc.of_get?_set wrapped with ⟨rfl, rfl⟩ | wrapped
        · exact .inl (stood found rfl)
        · exact before hook' (.inl wrapped)
    · have mine : ((e₂.share registry).ours.set kind ours).get? kind' = some hook' := mine
      rcases Assoc.of_get?_set mine with ⟨rfl, rfl⟩ | mine
      · exact .inr trivial
      · exact before hook' (.inr mine)

theorem reinstate (registry : RegistryId) (kind : EventKind) :
    Leads Familiar (reinstate registry kind) := by
  intro e
  unfold Engine.reinstate
  rw [run_state_bind run_shareOf]
  cases mine : (e.share registry).ours.get? kind with
  | none => exact Std.Refl.refl e
  | some ours =>
    have known : e.Stands kind ours ∨ ours.Ours := .inl (.inr ⟨registry, .inr mine⟩)
    obtain ⟨put, stood⟩ := register registry known
    simp only
    rcases registered : answer (Engine.register registry kind (some ours)) e with ⟨was, e₁⟩
    rw [registered] at put stood
    have registered : (Engine.register registry kind (some ours)).run.run e = (was, e₁) := registered
    rw [run_state_bind registered]
    have before : ∀ kind' hook', (e₁.share registry).wrapped.get? kind' = some hook' ∨
        (e₁.share registry).ours.get? kind' = some hook' → e.Stands kind' hook' ∨ hook'.Ours :=
      fun kind' hook' kept => put kind' hook' (.inr ⟨registry, kept⟩)
    -- The call was refused, nothing was there, or another callback was.
    rcases was with err | _ | current
    · exact put
    · refine share registry put fun kind' hook' kept => before kind' hook' ?_
      exact kept.imp (Drops.erase _ kind kind' hook').1 (Drops.erase _ kind kind' hook').2
    · simp only
      split
      · refine share registry put fun kind' hook' kept => ?_
        rcases kept with wrapped | mine
        · have wrapped : ((e₁.share registry).wrapped.set kind current).get? kind' = some hook' :=
            wrapped
          rcases Assoc.of_get?_set wrapped with ⟨rfl, rfl⟩ | wrapped
          · exact .inl (stood current rfl)
          · exact before kind' hook' (.inl wrapped)
        · exact before kind' hook' (.inr mine)
      · exact put

/-- **Listening** brings no callback but profilers' own. -/
theorem listens : Listens Familiar where
  aside _ _ _ _ := of_registries rfl rfl
  dispatch _ _ _ _ := of_registries rfl rfl
  share registry _ drops e := share registry (Std.Refl.refl e) fun kind hook kept =>
    .inl (.inr ⟨registry, kept.imp (drops _ kind hook).1 (drops _ kind hook).2⟩)
  claimed _ _ _ _ done := of_registries (by rw [Facility.of_claim done]) rfl
  subscribed _ _ _ _ done := of_registries (by rw [Facility.of_setEvents done]) rfl
  takeOver := takeOver
  reinstate := reinstate

/-- **Recording** brings no callback but profilers' own. -/
theorem notes : Notes Familiar where
  listens := listens
  recordLine registry block line e := by
    rw [run_recordLine]
    exact of_registries rfl rfl
  recordExit registry block e := by
    rw [run_recordExit]
    exact of_registries rfl rfl
  forgetPending registry e := by
    unfold forgetPending
    rw [run_forEachActive registry e _ fun _ => rfl]
    exact of_registries rfl rfl

/-- **Getting routines to profilers** has nothing to do with callbacks. -/
theorem enlists : Enlists Familiar where
  aside _ facility shares := of_same (congrArg Facility.callbacks facility) shares
  newProfiler _ _ _ _ _ := of_registries rfl rfl
  watch _ _ _ := of_registries rfl rfl
  enlist _ _ _ := of_registries rfl rfl

theorem enable (registry : RegistryId) (p : ProfilerId) : Leads Familiar (enable registry p).run :=
  Leads.enable (fun _ _ => of_registries rfl rfl) (listens.activate registry) p

theorem hands (h : Familiar e e') : Hands e e' := fun kind hook there =>
  (h kind hook there).imp_right .inl

end Familiar

/-! ## Giving the id back -/

/-- Locations of the kind are off, and a callback is given back with a layer. -/
theorem restored_covers {off : List Location} (registry : RegistryId) (wrapped : ToolHook) (restarts : Nat)
    (some : ∃ location ∈ off, location.kind = kind) :
    wrapped.Covers (restored registry kind wrapped off restarts) := by
  obtain ⟨location, mem, same⟩ := some
  have mem : location ∈ off.filter fun l => l.kind = kind :=
    List.mem_filter.mpr ⟨mem, decide_eq_true same⟩
  unfold restored
  split
  · rename_i none
    rw [none] at mem
    cases mem
  · rfl

/-- A callback is given back as it is, or with a layer where locations of its kind are off. -/
theorem restored_cases (registry : RegistryId) (kind : EventKind) (wrapped : ToolHook)
    (off : List Location) (restarts : Nat) :
    restored registry kind wrapped off restarts = wrapped ∨
      (∃ location ∈ off, location.kind = kind) ∧
        wrapped.Covers (restored registry kind wrapped off restarts) := by
  by_cases some : ∃ location ∈ off, location.kind = kind
  · exact .inr ⟨some, restored_covers registry wrapped restarts some⟩
  · have none : (off.filter fun l => l.kind = kind) = [] :=
      List.filter_eq_nil_iff.mpr fun location mem same => some ⟨location, mem, of_decide_eq_true same⟩
    unfold restored
    rw [none]
    exact .inl rfl

/-- A layer comes over whatever was wrapped, a layer of an earlier time as well. -/
theorem uninstall_covers (unguarded : Unguarded registry e) (shared : (e.share registry).owned = false)
    (kept : (e.share registry).reclaimed = false)
    (held : (e.facility.holder? Facility.profilerTool).isSome) (listened : kind ∈ ourKinds)
    {wrapped : ToolHook} (stood : (e.share registry).wrapped.get? kind = some wrapped)
    (off : e.KeepsOff registry kind) : ∃ hook,
    (answer (uninstall registry) e).2.facility.callback? Facility.profilerTool kind = some hook ∧
      wrapped.Covers hook := by
  obtain ⟨f, s, done, back⟩ := answer_uninstall_back unguarded shared kept held
  refine ⟨_, ?_, restored_covers registry wrapped e.facility.restarts off⟩
  rw [done]
  exact (back.callbacks _ kind).trans ((if_pos ⟨rfl, listened⟩).trans (by rw [stood]; rfl))

/-- What registries keep of the tool id becomes less: no callback, no kind that is off and no thread
comes to it. -/
structure Wanes (e e' : Engine) : Prop where
  restarts : e'.facility.restarts = e.facility.restarts
  drops : ∀ registry, Drops (e.share registry) (e'.share registry)
  off : ∀ registry kind, e'.KeepsOff registry kind → e.KeepsOff registry kind
  idle : ∀ registry, (e.share registry).threads = 0 → (e'.share registry).threads = 0

namespace Wanes

instance : IsPreorder Engine Wanes where
  refl _ := ⟨rfl, fun _ _ _ => ⟨id, id⟩, fun _ _ => id, fun _ => id⟩
  trans _ _ _ h h' := ⟨h'.restarts.trans h.restarts,
    fun r kind hook => ⟨(h.drops r kind hook).1 ∘ (h'.drops r kind hook).1,
      (h.drops r kind hook).2 ∘ (h'.drops r kind hook).2⟩,
    fun r kind => h.off r kind ∘ h'.off r kind, fun r => h'.idle r ∘ h.idle r⟩

theorem of_registries (restarts : e'.facility.restarts = e.facility.restarts)
    (registries : e'.registries = e.registries) : Wanes e e' := by
  have shares := share_congr registries
  refine ⟨restarts, fun r _ _ => ?_, fun r kind => ?_, fun r => ?_⟩
  · rw [shares]
    exact ⟨id, id⟩
  · unfold KeepsOff
    rw [shares, restarts]
    exact id
  · rw [shares]
    exact id

theorem modifyShare (registry : RegistryId) {f : ToolShare → ToolShare} (drops : ∀ s, Drops s (f s))
    (off : ∀ s restarts, ∀ l ∈ (f s).stillOff restarts, l ∈ s.stillOff restarts)
    (idle : ∀ s, s.threads = 0 → (f s).threads = 0) : Leads Wanes (modifyShare registry f) := by
  intro e
  refine ⟨rfl, fun r => ?_, fun r kind => ?_, fun r => ?_⟩ <;>
    rcases share_modifyShare_cases registry f e r with same | ⟨rfl, changed⟩
  · exact .of_same (congrArg ToolShare.wrapped same) (congrArg ToolShare.ours same)
  · exact changed ▸ drops _
  · unfold KeepsOff
    rw [same]
    exact id
  · rintro ⟨location, mem, same⟩
    rw [changed] at mem
    exact ⟨location, off _ _ location mem, same⟩
  · exact same ▸ id
  · exact changed ▸ idle _

end Wanes

/-- What one registry does that gives callbacks back. -/
structure GivesBack (registry : RegistryId) (off : List Location) (restarts : Nat) (e e' : Engine) :
    Prop where
  wanes : Wanes e e'
  callbacks : ∀ kind hook, e'.facility.callback? Facility.profilerTool kind = some hook →
    e.facility.callback? Facility.profilerTool kind = some hook ∨
      ∃ wrapped, (e.share registry).wrapped.get? kind = some wrapped ∧
        hook = restored registry kind wrapped off restarts

namespace GivesBack

variable {off : List Location} {restarts : Nat}

instance : IsPreorder Engine (GivesBack registry off restarts) where
  refl e := ⟨Std.Refl.refl e, fun _ _ => .inl⟩
  trans _ _ _ h h' := by
    refine ⟨IsTrans.trans _ _ _ h.wanes h'.wanes, fun kind hook there => ?_⟩
    rcases h'.callbacks kind hook there with there | ⟨wrapped, kept, rfl⟩
    · exact h.callbacks kind hook there
    · exact .inr ⟨wrapped, (h.wanes.drops registry kind wrapped).1 kept, rfl⟩

theorem of_same (restarts' : e'.facility.restarts = e.facility.restarts)
    (callbacks : e'.facility.callbacks = e.facility.callbacks)
    (registries : e'.registries = e.registries) : GivesBack registry off restarts e e' := by
  refine ⟨.of_registries restarts' registries, fun kind hook there => .inl ?_⟩
  unfold Facility.callback? at there ⊢
  exact callbacks ▸ there

theorem giveBack (kind : EventKind) :
    Leads (GivesBack registry off restarts) (giveBack registry off restarts kind).run := by
  intro e
  let erase : ToolShare → ToolShare := fun s => { s with wrapped := s.wrapped.erase kind }
  let e₁ := ((modifyShare registry erase).run e).2
  have wanes : Wanes e e₁ :=
    Wanes.modifyShare registry (.erase · kind) (fun _ _ _ => id) (fun _ => id) e
  have erased : (modifyShare registry erase).run e = ((), e₁) := rfl
  show GivesBack registry off restarts e (answer (Engine.giveBack registry off restarts kind) e).2
  unfold Engine.giveBack
  rw [answer_liftM_bind run_shareOf]
  simp only
  rw [answer_liftM_bind erased, answer_discard]
  obtain ⟨refusals, ⟨err, failed⟩ | done⟩ := answer_register_cases registry kind
    (((e.share registry).wrapped.get? kind).map (restored registry kind · off restarts)) e₁
  · rw [failed]
    exact ⟨IsTrans.trans _ _ _ wanes (.of_registries rfl rfl), fun _ _ => .inl⟩
  · rw [done]
    refine ⟨IsTrans.trans _ _ _ wanes (.of_registries rfl rfl), fun kind' hook there => ?_⟩
    have there : (e.facility.withCallback kind (((e.share registry).wrapped.get? kind).map
      (restored registry kind · off restarts))).callback? Facility.profilerTool kind' = some hook := there
    rw [Facility.callback?_withCallback] at there
    split at there
    · rename_i here
      obtain ⟨wrapped, kept, rfl⟩ := Option.map_eq_some_iff.mp there
      rw [here.2]
      exact .inr ⟨wrapped, kept, rfl⟩
    · exact .inl there

theorem setEvents (events : EventSet) :
    Leads (GivesBack registry off restarts) (setEvents registry events).run := by
  refine Asides.calling (fun _ _ _ _ => of_same rfl rfl rfl) registry _
    (Leads.onFacility fun e _ facility done => ?_)
  obtain ⟨f, set, ⟨⟩⟩ := of_map_ok done
  rw [Facility.of_setEvents set]
  exact of_same rfl rfl rfl

/-- All callbacks are given back, and the event set. -/
theorem all (registry : RegistryId) (off : List Location) (restarts : Nat) (events : EventSet) :
    Leads (GivesBack registry off restarts) (do
      ourKinds.forM (Engine.giveBack registry off restarts)
      Engine.setEvents registry events : ExceptT HostError (StateM Engine) Unit).run :=
  (Leads.tryForM giveBack ourKinds).tryBind fun _ => setEvents events

end GivesBack

/-- Profilers step back: what registries keep becomes less, and every callback that is registered
under the profilers' id was there before, or is one that a registry had wrapped, with a layer if the
registry hands locations back. -/
structure Recedes (e e' : Engine) : Prop where
  wanes : Wanes e e'
  callbacks : ∀ kind hook, e'.facility.callback? Facility.profilerTool kind = some hook →
    e.facility.callback? Facility.profilerTool kind = some hook ∨
      ∃ registry wrapped, (e.share registry).wrapped.get? kind = some wrapped ∧
        (hook = wrapped ∨ HandedBack registry kind e e' ∧ wrapped.Covers hook)

namespace Recedes

instance : IsPreorder Engine Recedes where
  refl e := ⟨Std.Refl.refl e, fun _ _ => .inl⟩
  trans e e' e'' h h' := by
    refine ⟨IsTrans.trans _ _ _ h.wanes h'.wanes, fun kind hook there => ?_⟩
    rcases h'.callbacks kind hook there with there | ⟨r, wrapped, kept, given⟩
    · refine (h.callbacks kind hook there).imp_right ?_
      rintro ⟨r, wrapped, kept, given⟩
      refine ⟨r, wrapped, kept, given.imp_right fun ⟨⟨idle, off, on⟩, covers⟩ => ⟨?_, covers⟩⟩
      exact ⟨h'.wanes.idle r idle, off, fun still => on (h'.wanes.off r kind still)⟩
    · refine .inr ⟨r, wrapped, (h.wanes.drops r kind wrapped).1 kept, given.imp_right ?_⟩
      exact fun ⟨⟨idle, off, on⟩, covers⟩ => ⟨⟨idle, h.wanes.off r kind off, on⟩, covers⟩

theorem of_wanes (wanes : Wanes e e') (callbacks : e'.facility.callbacks = e.facility.callbacks) :
    Recedes e e' := by
  refine ⟨wanes, fun kind hook there => .inl ?_⟩
  unfold Facility.callback? at there ⊢
  exact callbacks ▸ there

theorem of_same (facility : e'.facility = e.facility) (registries : e'.registries = e.registries) :
    Recedes e e' :=
  of_wanes (.of_registries (congrArg Facility.restarts facility) registries)
    (congrArg Facility.callbacks facility)

theorem modifyShare (registry : RegistryId) {f : ToolShare → ToolShare} (drops : ∀ s, Drops s (f s))
    (off : ∀ s restarts, ∀ l ∈ (f s).stillOff restarts, l ∈ s.stillOff restarts)
    (idle : ∀ s, s.threads = 0 → (f s).threads = 0) : Leads Recedes (modifyShare registry f) :=
  fun e => of_wanes (Wanes.modifyShare registry drops off idle e) rfl

/-- An id that the profilers hold is let go. -/
theorem frees (registry : RegistryId) : Leads Recedes (do
    liftM (Engine.modifyShare registry fun s => { s with wrapped := {} })
    modify fun e => { e with facility := e.facility.free Facility.profilerTool } :
      ExceptT HostError (StateM Engine) Unit).run := by
  have drop : Leads Recedes (Engine.modifyShare registry fun s => { s with wrapped := {} }) :=
    modifyShare registry (fun _ _ _ => ⟨nofun, id⟩) (fun _ _ _ => id) fun _ => id
  refine drop.lift.tryBind fun _ => Leads.lift (Leads.modify fun e => ?_)
  refine ⟨.of_registries rfl rfl, fun kind hook there => ?_⟩
  have none := (Facility.callback?_free e.facility Facility.profilerTool kind).trans (if_pos rfl)
  cases none.symm.trans there

/-- **Giving the id back** puts a layer over what a registry had wrapped, if locations are off. -/
theorem uninstall (nobody : (e.share registry).threads = 0) :
    Recedes e (answer (uninstall registry) e).2 := by
  let clear : ToolShare → ToolShare := fun s => { s with ours := {}, disabled := [] }
  have nothing : ∀ s restarts, (clear s).stillOff restarts = [] := fun _ _ => ite_self []
  have drops : ∀ s, Drops s (clear s) := fun _ _ _ => ⟨id, nofun⟩
  have wanes := Wanes.modifyShare registry drops
    (fun s restarts l mem => by rw [nothing] at mem; cases mem) (fun _ => id) e
  have facility : ((Engine.modifyShare registry clear).run e).2.facility = e.facility := rfl
  have on := not_keepsOff_modifyShare registry e nothing
  unfold Engine.uninstall
  rw [answer_liftM_bind run_shareOf]
  rcases cleared : (Engine.modifyShare registry clear).run e with ⟨⟨⟩, e₁⟩
  rw [cleared] at wanes facility on
  rw [answer_liftM_bind cleared]
  split
  · -- The id is the registry's own: it is let go, and no callback with it stays.
    exact IsTrans.trans _ _ _ (of_wanes wanes (congrArg Facility.callbacks facility)) (frees registry e₁)
  · rw [answer_get_bind]
    have back := GivesBack.all registry ((e.share registry).stillOff e₁.facility.restarts)
      e₁.facility.restarts (e.share registry).wrappedEvents e₁
    refine ⟨IsTrans.trans _ _ _ wanes back.wanes, fun kind hook there => ?_⟩
    rcases back.callbacks kind hook there with there | ⟨wrapped, kept, rfl⟩
    · exact .inl (facility ▸ there)
    · -- The locations were read before they were cleared, so these are the ones that were off in `e`.
      refine .inr ⟨registry, wrapped, (wanes.drops registry kind wrapped).1 kept, ?_⟩
      rcases restored_cases registry kind wrapped ((e.share registry).stillOff e₁.facility.restarts)
        e₁.facility.restarts with same | ⟨off, covers⟩
      · exact .inl same
      · rw [facility] at off
        exact .inr ⟨⟨back.wanes.idle registry (wanes.idle registry nobody), off,
          fun still => on kind (back.wanes.off registry kind still)⟩, covers⟩

theorem deactivateTool (registry : RegistryId) : Leads Recedes (deactivateTool registry).run := by
  have asides : Asides Recedes := fun _ _ _ _ => of_same rfl rfl
  have count : Leads Recedes (Engine.modifyShare registry fun s => { s with threads := s.threads - 1 }) :=
    modifyShare registry (fun _ _ _ => ⟨id, id⟩) (fun _ _ _ => id) fun s none => by
      show s.threads - 1 = 0
      rw [none]
  have last : Leads Recedes (do
      if (← Engine.shareOf registry).threads = 0 then
        hosted (Engine.uninstall registry) : ExceptT ProfilerError (StateM Engine) Unit).run := by
    intro e
    show Recedes e (answer (do
      if (← Engine.shareOf registry).threads = 0 then
        hosted (Engine.uninstall registry) : ExceptT ProfilerError (StateM Engine) Unit) e).2
    rw [answer_liftM_bind run_shareOf]
    split
    · rename_i nobody
      have removed := uninstall nobody
      unfold hosted
      rw [answer_adapt]
      rcases there : answer (Engine.uninstall registry) e with ⟨_ | _, e'⟩ <;>
        (rw [there] at removed; exact removed)
    · exact Std.Refl.refl e
  refine (asides.reach registry).lift.tryBind fun found => ?_
  split
  · exact count.lift.tryBind fun _ => last
  · exact (Leads.throw _).tryBind fun _ => count.lift.tryBind fun _ => last

/-- **Stopping to listen** puts up no callback but what registries had wrapped. -/
theorem deactivate (registry : RegistryId) : Leads Recedes (deactivate registry).run :=
  Leads.deactivate (fun _ _ => of_same rfl rfl)
    (Asides.setTraceHook fun _ _ _ _ => of_same rfl rfl) (deactivateTool registry)

theorem lower (registry : RegistryId) (p : ProfilerId) (left : Nat → Nat) :
    Leads Recedes (lower registry p left).run :=
  Leads.lower (fun _ _ => of_same rfl rfl) (deactivate registry) p left

theorem forget (registry : RegistryId) : Leads Recedes (forget registry) :=
  Leads.forget (fun _ _ => of_same rfl rfl) (deactivate registry)

theorem endThread : Leads Recedes endThread :=
  Leads.endThread forget (Asides.setTraceHook (fun _ _ _ _ => of_same rfl rfl) none)

theorem hands (h : Recedes e e') : Hands e e' := by
  rintro kind hook (there | ⟨registry, kept⟩)
  · rcases h.callbacks kind hook there with there | ⟨registry, wrapped, kept, rfl | ⟨handed, covers⟩⟩
    · exact .inl (.inl there)
    · exact .inl (.inr ⟨registry, .inl kept⟩)
    · exact .inr (.inr ⟨⟨registry, handed.2.1.present, handed⟩, wrapped, .inr ⟨registry, .inl kept⟩,
        covers⟩)
  · exact .inl (.inr ⟨registry, kept.imp (h.wanes.drops registry kind hook).1
      (h.wanes.drops registry kind hook).2⟩)

end Recedes

end Engine

end LineClock
