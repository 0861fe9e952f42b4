import LineClock.Proofs.Engine.Passing
import LineClock.Proofs.Engine.Taking

/-!
# A registry alone at the tool id

How a registry stands that listens through the profilers' tool id while nobody else uses the
facility: as long as it listens on some thread it holds the id with callbacks of its own for all its
kinds, and otherwise nobody holds the id.
-/

namespace LineClock

open Machine Engine

/-- A facility that no one but a registry uses, which holds the tool id or not. -/
structure Facility.Alone (registry : RegistryId) (f : Facility) (on : Bool) : Prop where
  disabled : f.disabled = []
  others : ∀ tool kind, tool ≠ Facility.profilerTool → f.callback? tool kind = none
  holder : (f.holder? Facility.profilerTool).isSome = on
  ours : ∀ kind, if on = true ∧ kind ∈ ourKinds then
      ∃ serial, f.callback? Facility.profilerTool kind = some (.profiler registry serial)
    else f.callback? Facility.profilerTool kind = none
  events : on = true → f.eventsOf Facility.profilerTool = ourEvents

/-- A share of the tool id that took nothing over. -/
structure ToolShare.Own (s : ToolShare) (on : Bool) : Prop where
  owned : on = true → s.owned = true
  wrapped : ∀ kind, s.wrapped.get? kind = none

/-- A registry that is alone at the tool id. -/
structure ToolListens (registry : RegistryId) (e : Engine) : Prop where
  unguarded : Unguarded registry e
  monitored : e.monitored = true
  slots : ∀ th, e.slots.get? th = none
  idle : ∀ th, (e.dispatchAt th registry).busy = false
  threads : ∃ ths : List ThreadKey, ths.Nodup ∧
    (∀ th, th ∈ ths ↔ (e.dispatchAt th registry).activated = true) ∧
    ths.length = (e.share registry).threads
  own : (e.share registry).Own (0 < (e.share registry).threads)
  alone : e.facility.Alone registry (0 < (e.share registry).threads)

namespace Facility

variable {registry : RegistryId} {f : Facility}

/-- After the id was let go, nothing of its holder is left there. -/
theorem free_alone (h : f.Alone registry true) : (f.free profilerTool).Alone registry false := by
  refine ⟨?_, fun tool kind other => ?_, ?_, fun kind => ?_, fun h => by cases h⟩
  · change f.disabled.filter _ = []
    rw [h.disabled]
    rfl
  · rw [callback?_free, if_neg other]
    exact h.others tool kind other
  · rw [holder?_free]
    rfl
  · rw [if_neg (by simp), callback?_free, if_pos rfl]

/-- Who hears of an event: the registry, if the event is of one of its kinds. -/
theorem targets_alone {on : Bool} (h : f.Alone registry on) (event : MonitorEvent) :
    (∃ serial, on = true ∧ event.kind ∈ ourKinds ∧
      f.targets event = [(profilerTool, .profiler registry serial)]) ∨
    (¬ (on = true ∧ event.kind ∈ ourKinds) ∧ f.targets event = []) := by
  have enabled : f.isDisabled profilerTool event.location = false := by
    unfold isDisabled
    rw [h.disabled]
    rfl
  have ours := h.ours event.kind
  rw [targets_sole h.others, enabled]
  split at ours
  · rename_i listens
    obtain ⟨serial, there⟩ := ours
    have subscribed : (f.eventsOf profilerTool).contains event.kind = true := by
      rw [h.events listens.1, contains_ourEvents]
      exact List.contains_iff_mem.mpr listens.2
    refine .inl ⟨serial, listens.1, listens.2, ?_⟩
    rw [if_pos ⟨subscribed, Bool.false_ne_true⟩, there]
    rfl
  · rename_i silent
    refine .inr ⟨silent, ?_⟩
    rw [ours]
    exact ite_self _

end Facility

namespace Engine

variable {registry : RegistryId} {e : Engine}

/-! ## Taking the id and giving it back -/

/-- Taking an id that nobody holds. -/
theorem Installs.alone {f f' : Facility} {s s' : ToolShare} (h : Installs registry f s f' s')
    (alone : f.Alone registry false) : f'.Alone registry true ∧ s'.Own true := by
  have free : f.holder? Facility.profilerTool = none :=
    Option.isSome_eq_false_iff.mp alone.holder |> Option.isNone_iff_eq_none.mp
  have none : ∀ kind, f.callback? Facility.profilerTool kind = none := by
    intro kind
    have ours := alone.ours kind
    rw [if_neg (by simp)] at ours
    exact ours
  refine ⟨⟨h.disabled.trans alone.disabled, fun tool kind other => ?_, ?_, fun kind => ?_,
    fun _ => ?_⟩, fun _ => ?_, fun kind => ?_⟩
  · exact (h.others tool kind fun h => other h.1).trans (alone.others tool kind other)
  · rw [h.holder]
    rfl
  · split
    · rename_i listens
      obtain ⟨serial, there, -⟩ := h.ours kind listens.2
      exact ⟨serial, there⟩
    · rename_i silent
      exact (h.others _ _ fun h => silent ⟨rfl, h.2⟩).trans (none kind)
  · rw [h.events, h.wrappedEvents, free]
    rfl
  · rw [h.owned, free]
    rfl
  · rw [h.wrapped, none, ite_self]

/-- How a registry alone stands is kept when the id is taken and when it is given back. -/
theorem handover (registry : RegistryId) : Handover registry fun f s =>
    s.Own (0 < s.threads) ∧ f.Alone registry (0 < s.threads) where
  install h place first := by
    obtain ⟨-, alone⟩ := place
    rw [first] at alone
    obtain ⟨hooks, f, s, installed, installs⟩ := answer_install h
    obtain ⟨alone', own⟩ := installs.alone alone
    exact ⟨hooks, f, s, installed, installs.threads.trans first, ⟨own.owned, own.wrapped⟩, alone'⟩
  uninstall h place none := by
    obtain ⟨own, alone⟩ := place
    refine ⟨_, _, _, answer_uninstall_free h (.inl (own.owned rfl)), none, ?_⟩
    simp only [none]
    exact ⟨⟨fun h => (nomatch h), fun _ => rfl⟩, Facility.free_alone alone⟩
  count {f s n} place some given := by
    obtain ⟨own, alone⟩ := place
    have before : decide (0 < s.threads) = true := decide_eq_true some
    have after : decide (0 < n) = true := decide_eq_true given
    rw [before] at own alone
    simp only [after]
    exact ⟨⟨own.owned, own.wrapped⟩, alone⟩

end Engine

namespace ToolListens

variable {registry : RegistryId} {e : Engine}

theorem atTool (h : ToolListens registry e) : AtTool (fun f s =>
    s.Own (0 < s.threads) ∧ f.Alone registry (0 < s.threads)) registry e :=
  ⟨h.unguarded, h.monitored, h.slots, h.idle, h.threads, h.own, h.alone⟩

theorem of_atTool (h : AtTool (fun f s =>
    s.Own (0 < s.threads) ∧ f.Alone registry (0 < s.threads)) registry e) : ToolListens registry e :=
  ⟨h.unguarded, h.monitored, h.slots, h.idle, h.threads, h.place.1, h.place.2⟩

/-- Switching profilers leaves a registry alone at the tool id. -/
theorem switching (registry : RegistryId) : Switching registry (ToolListens registry) where
  activate h off := by
    obtain ⟨e', activated, listens, rest⟩ := h.atTool.activate (handover registry) off
    exact ⟨e', activated, of_atTool listens, rest⟩
  deactivate h on := by
    obtain ⟨e', deactivated, listens, rest⟩ := h.atTool.deactivate (handover registry) on
    exact ⟨e', deactivated, of_atTool listens, rest⟩
  withActive h on := of_atTool (h.atTool.withActive on)

/-! ## Events -/

theorem withProfilers (h : ToolListens registry e) (profilers : Assoc ProfilerId Profiler) :
    ToolListens registry (e.withProfilers profilers) :=
  ⟨h.unguarded.same rfl rfl, h.monitored, h.slots, h.idle,
    h.threads, h.own, h.alone⟩

/-- A share that differs in what it remembers of the wrapped tool. -/
theorem withShare (h : ToolListens registry e) {s : ToolShare}
    (threads : s.threads = (e.share registry).threads) (owned : s.owned = (e.share registry).owned)
    (wrapped : s.wrapped = (e.share registry).wrapped) :
    ToolListens registry (retooled registry e e.hooks e.facility s) := by
  have kept := share_retooled h.unguarded e.hooks e.facility s
  refine ⟨h.unguarded.retooled _ _ _, h.monitored, h.slots, h.idle, ?_, ?_, ?_⟩
  · rw [kept, threads]
    exact h.threads
  · rw [kept, threads]
    refine ⟨fun some => ?_, fun kind => ?_⟩
    · rw [owned]
      exact h.own.owned some
    · rw [wrapped]
      exact h.own.wrapped kind
  · rw [kept, threads]
    exact h.alone

/-- The profilers' callback keeps every event to itself: nothing was taken over. -/
theorem takeEvent (h : ToolListens registry e) (event : MonitorEvent) :
    ∃ e', (takeEvent registry event).run e = (none, e') ∧ ToolListens registry e' ∧
      e'.scene registry = (e.scene registry).hearEvent event ∧
      ∀ th, e'.dispatchAt th registry = e.dispatchAt th registry := by
  have heard := h.withProfilers ((e.scene registry).hearEvent event).profilers
  have scene := scene_hearEvent registry e event
  let s := (e.share registry).noticed e.facility.restarts
  have same := (e.share registry).noticed_eq e.facility.restarts
  have next : s.next? event = none := by
    cases found : s.next? event with
    | none => rfl
    | some hook =>
      have there := ToolShare.wrapped_of_next? found
      have none : s.wrapped.get? event.kind = none := by
        unfold s
        rw [same]
        exact h.own.wrapped event.kind
      cases none.symm.trans there
  rw [run_takeEvent h.unguarded h.monitored (h.idle e.thread)]
  simp only
  split
  · refine ⟨retooled registry (recorded registry e event) e.hooks e.facility s, ?_,
      heard.withShare ?_ ?_ ?_, (scene_retooled heard.unguarded _ _ _).trans scene, fun _ => rfl⟩
    · have next : ((e.share registry).noticed e.facility.restarts).next? event = none := next
      rw [next]
    all_goals
      unfold s
      rw [same]
      rfl
  · exact ⟨_, rfl, heard, scene, fun _ => rfl⟩

/-- A monitoring event is recorded where the registry listens. -/
theorem announceEvent (h : ToolListens registry e) (event : MonitorEvent)
    (balanced : Balanced registry e) :
    ∃ e', answer (Scripts.quiet.announceEvent event) e = (.ok (), e') ∧
      ToolListens registry e' ∧ e'.scene registry = (e.scene registry).hearEvent event ∧
      ∀ th, e'.dispatchAt th registry = e.dispatchAt th registry := by
  have monitored : (Scripts.quiet.engine e).monitored = true := h.monitored
  rw [Scripts.answer_announceEvent, if_pos monitored]
  rcases Facility.targets_alone h.alone event with ⟨serial, -, -, targets⟩ | ⟨silent, targets⟩
  · obtain ⟨e', taken, listens, scene, dispatch⟩ := h.takeEvent event
    refine ⟨e', ?_, listens, scene, dispatch⟩
    have targets : (Scripts.quiet.engine e).facility.targets event =
      [(Facility.profilerTool, .profiler registry serial)] := targets
    rw [targets, Scripts.answer_forM_one, Scripts.answer_deliverTo, Scripts.hopsAt,
      Scripts.quiet.answer_deliverEvent_kept taken fun _ => rfl]
    rfl
  · have targets : (Scripts.quiet.engine e).facility.targets event = [] := targets
    rw [targets]
    refine ⟨e, rfl, h, ?_, fun _ => rfl⟩
    by_cases ours : event.kind ∈ ourKinds
    · have nowhere : (e.share registry).threads = 0 :=
        Nat.eq_zero_of_not_pos fun somewhere => silent ⟨decide_eq_true somewhere, ours⟩
      exact (Scene.hearEvent_nobody (h.atTool.nobody nowhere balanced) event).symm
    · exact (Scene.hearEvent_other _ ours).symm

end ToolListens

end LineClock
