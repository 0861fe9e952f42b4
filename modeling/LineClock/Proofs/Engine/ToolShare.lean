import LineClock.Proofs.Engine.Delivery
import LineClock.Proofs.Engine.Scene

/-!
# Operations on the tool id

What the operations of a registry on the profilers' tool id leave, when none of them is refused.
Each changes the facility, the share of the registry and the number of hooks, and nothing else.
-/

namespace LineClock

open Machine

/-- Refusals that are used up strike nobody. -/
theorem Refusal.consult_spent {call : FacilityCall} {l : List Refusal} (spent : ∀ r ∈ l, r.count = 0) :
    Refusal.consult call l = (none, l) := by
  induction l with
  | nil => rfl
  | cons r rest ih =>
    have none : ¬ (r.call = call ∧ 0 < r.count) := by
      rintro ⟨-, some⟩
      exact absurd (spent r List.mem_cons_self) (Nat.ne_of_gt some)
    unfold Refusal.consult
    rw [if_neg none, ih fun r mem => spent r (List.mem_cons_of_mem _ mem)]

namespace Facility

variable {f : Facility} {tool : ToolId} {location : Location}

theorem isDisabled_iff : f.isDisabled tool location = true ↔ (tool, location) ∈ f.disabled :=
  List.contains_iff_mem

/-- Switching a location off changes nothing else. -/
theorem disable_eq (f : Facility) (tool : ToolId) (location : Location) :
    f.disable tool location = { f with disabled := (f.disable tool location).disabled } := by
  unfold disable
  split <;> rfl

theorem mem_disabled_disable {d : ToolId × Location} :
    d ∈ (f.disable tool location).disabled ↔ d = (tool, location) ∨ d ∈ f.disabled := by
  unfold disable
  split
  · rename_i off
    refine (or_iff_right_of_imp ?_).symm
    rintro rfl
    exact isDisabled_iff.mp off
  · exact List.mem_cons

theorem isDisabled_disable (f : Facility) (t : ToolId) (l : Location) :
    (f.disable t l).isDisabled tool location = true ↔
      t = tool ∧ l = location ∨ f.isDisabled tool location = true := by
  rw [isDisabled_iff, isDisabled_iff, mem_disabled_disable, Prod.mk.injEq, eq_comm,
    eq_comm (a := location)]

end Facility

namespace Engine

/-- The engine with another facility, share of a registry and number of hooks. -/
def retooled (registry : RegistryId) (e : Engine) (hooks : Nat) (facility : Facility)
    (share : ToolShare) : Engine :=
  { e with hooks, facility, registries := e.registries.modify registry fun r => { r with share } }

/-- What a registry keeps of the tool id. -/
def share (registry : RegistryId) (e : Engine) : ToolShare := (e.registry registry).share

theorem share_congr {e e' : Engine} (same : e'.registries = e.registries) (registry : RegistryId) :
    e'.share registry = e.share registry :=
  congrArg Registry.share (registry_congr same registry)

/-- A registry that is there and in use, listens through the tool id, and whose calls are not
refused. -/
structure Unguarded (registry : RegistryId) (e : Engine) : Prop where
  present : (e.registries.get? registry).isSome
  backend : (e.registry registry).backend = .tool
  unrefused : (e.registry registry).guarded = true → ∀ r ∈ e.refusals, r.count = 0
  released : (e.registry registry).released = false

variable {registry : RegistryId} {e : Engine}

/-- A registry in use is attached. -/
theorem Unguarded.attached (h : Unguarded registry e) : e.isAttached registry = true := by
  unfold Engine.isAttached
  rw [h.released]
  rfl

/-- Only the registries and the refusals count. -/
theorem Unguarded.same {e' : Engine} (h : Unguarded registry e) (same : e'.registries = e.registries)
    (refusals : e'.refusals = e.refusals) : Unguarded registry e' := by
  have registry' := registry_congr same registry
  refine ⟨?_, ?_, ?_, ?_⟩
  · rw [same]
    exact h.present
  · rw [registry']
    exact h.backend
  · rw [registry', refusals]
    exact h.unrefused
  · rw [registry']
    exact h.released

theorem Unguarded.registry_eq (h : Unguarded registry e) :
    e.registries.get? registry = some (e.registry registry) := by
  obtain ⟨r, there⟩ := Option.isSome_iff_exists.mp h.present
  rw [show e.registry registry = r from Assoc.getD_of_get? there default]
  exact there

section

variable (h : Unguarded registry e) (hooks : Nat) (facility : Facility) (s : ToolShare)

include h

theorem registry_retooled :
    (retooled registry e hooks facility s).registry registry =
      { e.registry registry with share := s } := by
  unfold Engine.registry retooled
  simp only [Assoc.getD, Assoc.get?_modify, if_true]
  rw [h.registry_eq]
  rfl

theorem share_retooled : (retooled registry e hooks facility s).share registry = s := by
  unfold share
  rw [registry_retooled h]

theorem Unguarded.retooled : Unguarded registry (retooled registry e hooks facility s) := by
  refine ⟨?_, ?_, ?_, ?_⟩
  · change ((e.registries.modify registry _).get? registry).isSome
    rw [Assoc.get?_modify, if_pos rfl, h.registry_eq]
    rfl
  · rw [registry_retooled h]
    exact h.backend
  · rw [registry_retooled h]
    exact h.unrefused
  · rw [registry_retooled h]
    exact h.released

/-- Tool operations do not change what profilers have to do with. -/
theorem scene_retooled : (retooled registry e hooks facility s).scene registry = e.scene registry := by
  unfold scene
  rw [registry_retooled h]
  rfl

end

/-- Of two changes the last one counts. -/
theorem retooled_retooled (hooks hooks' : Nat) (f f' : Facility) (s s' : ToolShare) :
    retooled registry (retooled registry e hooks f s) hooks' f' s' =
      retooled registry e hooks' f' s' := by
  unfold retooled
  rw [Assoc.modify_modify]

/-- A change determines the facility and the share that it leaves. -/
theorem retooled_inj (h : Unguarded registry e) {hooks hooks' : Nat} {f f' : Facility}
    {s s' : ToolShare}
    (same : retooled registry e hooks f s = retooled registry e hooks' f' s') : f = f' ∧ s = s' := by
  have facility := congrArg Engine.facility same
  have share := congrArg (Engine.share registry) same
  rw [share_retooled h, share_retooled h] at share
  exact ⟨facility, share⟩

theorem retooled_share (h : Unguarded registry e) (hooks : Nat) (f : Facility) :
    retooled registry e hooks f (e.share registry) = { e with hooks, facility := f } := by
  unfold retooled
  rw [Assoc.modify_same]
  intro r there
  rw [h.registry_eq, Option.some.injEq] at there
  rw [← there]
  rfl

/-! ## Operations -/

theorem run_modifyShare (h : Unguarded registry e) (f : ToolShare → ToolShare) :
    (modifyShare registry f).run e =
      ((), retooled registry e e.hooks e.facility (f (e.share registry))) := by
  have same : e.registries.modify registry (fun r => { r with share := f r.share }) =
      e.registries.modify registry fun r => { r with share := f (e.share registry) } := by
    unfold Assoc.modify
    rw [h.registry_eq]
    rfl
  change ((), ({ e with registries := e.registries.modify registry _ } : Engine)) = _
  rw [same]
  rfl

theorem run_modifyShare_retooled (h : Unguarded registry e) (hooks : Nat) (facility : Facility)
    (s : ToolShare) (f : ToolShare → ToolShare) :
    (modifyShare registry f).run (retooled registry e hooks facility s) =
      ((), retooled registry e hooks facility (f s)) := by
  rw [run_modifyShare (h.retooled hooks facility s), share_retooled h, retooled_retooled]
  rfl

theorem run_shareOf : (shareOf registry).run e = (e.share registry, e) := rfl

/-- No call is refused. -/
theorem run_refused (h : Unguarded registry e) (call : FacilityCall) :
    (refused (e.registry registry).guarded call).run e = (none, e) := by
  unfold refused
  cases guarded : (e.registry registry).guarded with
  | false => rfl
  | true =>
    change ((Refusal.consult call e.refusals).1,
      ({ e with refusals := (Refusal.consult call e.refusals).2 } : Engine)) = _
    rw [Refusal.consult_spent (h.unrefused guarded)]

theorem run_reach (h : Unguarded registry e) : (reach registry).run e = (e.monitored, e) := by
  unfold reach findsFacility
  rw [run_state_get_bind, run_state_bind (run_refused h .reach)]
  rfl

theorem run_holder (h : Unguarded registry e) :
    (holder registry).run e = (e.facility.holder? Facility.profilerTool, e) := by
  unfold holder
  rw [run_state_get_bind, run_state_bind (run_refused h .holder)]
  rfl

theorem answer_calling {α : Type} (h : Unguarded registry e) (call : FacilityCall)
    (act : ExceptT HostError (StateM Engine) α) : answer (calling registry call act) e = answer act e := by
  unfold calling
  rw [answer_get_bind, answer_liftM_bind (run_refused h call)]

theorem answer_onFacility {α : Type} {f : Facility → Except HostError (α × Facility)} {a : α}
    {facility : Facility} (h : f e.facility = .ok (a, facility)) :
    answer (onFacility f) e = (.ok a, { e with facility }) := by
  unfold onFacility
  rw [answer_get_bind, h]
  rfl

theorem answer_onFacility_error {α : Type} {f : Facility → Except HostError (α × Facility)}
    {err : HostError} (h : f e.facility = .error err) :
    answer (onFacility f) e = (.error err, e) := by
  unfold onFacility
  rw [answer_get_bind, h]
  rfl

/-- An operation on the facility that is neither refused nor fails. -/
theorem answer_facility {α : Type} {f : Facility → Except HostError (α × Facility)} {a : α}
    {facility : Facility} (h : Unguarded registry e) (call : FacilityCall)
    (hf : f e.facility = .ok (a, facility)) :
    answer (calling registry call (onFacility f)) e =
      (.ok a, retooled registry e e.hooks facility (e.share registry)) := by
  rw [answer_calling h, answer_onFacility hf, retooled_share h]

end Engine

end LineClock
