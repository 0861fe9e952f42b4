import LineClock.Proofs.Engine.Absorbing
import LineClock.Proofs.Engine.Meek
import LineClock.Proofs.Engine.SlotAmid

/-!
# A registry amid meek hooks at the tool id

How a registry stands that listens through the profilers' tool id when the id was held by a tool with
meek callbacks before, or by nobody: while it listens on some thread, the id is that of the tool with
the callbacks and kinds of the profilers in their place, and otherwise it is as it was.

Main statements: `Hosted.handover`, `ToolAmid.switching`, `ToolAmid.announceEvent` and, on when the
facility changes at all, `ToolAmid.enable_facility` and its companions.
-/

namespace LineClock

open Machine Engine

namespace Facility

/-- Two facilities with the same holder, kinds and callbacks, as far as the profilers' id and the
callbacks of others are concerned. -/
structure Alike (f f' : Facility) : Prop where
  holder : f'.holder? profilerTool = f.holder? profilerTool
  callbacks : ∀ tool kind, f'.callback? tool kind = f.callback? tool kind
  events : f'.eventsOf profilerTool = f.eventsOf profilerTool

/-- If nobody holds the profilers' id, nothing is registered there. -/
def Vacant (f : Facility) : Prop :=
  f.holder? profilerTool = none →
    (∀ kind, f.callback? profilerTool kind = none) ∧ f.eventsOf profilerTool = .empty

theorem Alike.refl (f : Facility) : f.Alike f := ⟨rfl, fun _ _ => rfl, rfl⟩

theorem eventsOf_free (f : Facility) : (f.free profilerTool).eventsOf profilerTool = .empty := by
  have read : (f.free profilerTool).eventsOf profilerTool =
    (f.events.erase profilerTool).getD profilerTool .empty := rfl
  rw [read, Assoc.getD, Assoc.get?_erase, if_pos rfl]
  rfl

end Facility

/-- How the facility stands that was `f₀` before any profiler was switched on, and what the registry
keeps of it. -/
structure Hosted (registry : RegistryId) (f₀ f : Facility) (s : ToolShare) : Prop where
  off : s.threads = 0 → f₀.Alike f
  on : 0 < s.threads → ∃ f₁, f₀.Alike f₁ ∧ Installs registry f₁ s f s

namespace Hosted

variable {registry : RegistryId} {f₀ f : Facility} {s : ToolShare}

/-- While some thread listens, the registry holds the id. -/
theorem held (h : Hosted registry f₀ f s) (on : 0 < s.threads) : f.Held registry s := by
  obtain ⟨f₁, -, installs⟩ := h.on on
  refine ⟨?_, installs.ours, installs.events⟩
  rw [installs.holder]
  rfl

/-- What is taken over from a facility. -/
theorem installed {f₁ : Facility} {s₁ : ToolShare} (alike : f₀.Alike f₁)
    (installs : Installs registry f₁ s₁ f s) : Hosted registry f₀ f { s with threads := 1 } :=
  ⟨fun none => (by cases none), fun _ => ⟨f₁, alike, installs.holder, installs.others,
    installs.events, installs.disabled, installs.restarts, installs.ours, rfl, installs.owned,
    installs.reclaimed, installs.wrapped, installs.wrappedEvents, installs.off, installs.seen⟩⟩

/-- An id that was claimed is free again. -/
theorem alike_free {f₁ : Facility} {s₁ : ToolShare} (vacant : f₀.Vacant) (alike : f₀.Alike f₁)
    (installs : Installs registry f₁ s₁ f s) (none : f₁.holder? Facility.profilerTool = none) :
    f₀.Alike (f.free Facility.profilerTool) := by
  have free := alike.holder.symm.trans none
  obtain ⟨bare, silent⟩ := vacant free
  refine ⟨?_, fun tool kind => ?_, ?_⟩
  · rw [Facility.holder?_free, free]
  · rw [Facility.callback?_free]
    split
    · rename_i here
      rw [here, bare]
    · rename_i other
      rw [installs.others tool kind fun h => other h.1, alike.callbacks]
  · rw [Facility.eventsOf_free, silent]

/-- The callbacks of an id that was shared are back when each of them was given back. -/
theorem callbacks_back {f₁ f' : Facility} {s₁ : ToolShare} (alike : f₀.Alike f₁)
    (installs : Installs registry f₁ s₁ f s)
    (given : ∀ tool kind, f'.callback? tool kind =
      if tool = Facility.profilerTool ∧ kind ∈ ourKinds then
        (s.wrapped.get? kind).map (restored registry kind · (s.stillOff f.restarts) f.restarts)
      else f.callback? tool kind) (tool : ToolId) (kind : EventKind) :
    f'.callback? tool kind = f₀.callback? tool kind := by
  have nowhere := ToolShare.stillOff_of_nothing installs.off f.restarts
  rw [given, nowhere, ← alike.callbacks]
  split
  · rename_i ours
    rw [installs.wrapped, if_pos ours.2, ours.1]
    cases f₁.callback? Facility.profilerTool kind <;> rfl
  · rename_i other
    exact installs.others tool kind other

/-- An id that is shared is held by the tool that held it before. -/
theorem holder_kept {f₁ : Facility} {s₁ : ToolShare} (alike : f₀.Alike f₁)
    (installs : Installs registry f₁ s₁ f s)
    (held : (f₁.holder? Facility.profilerTool).isSome) :
    f.holder? Facility.profilerTool = f₀.holder? Facility.profilerTool := by
  obtain ⟨name, there⟩ := Option.isSome_iff_exists.mp held
  rw [installs.holder, ← alike.holder, there]
  rfl

/-- An id that was shared has the callbacks and kinds again that were taken over. -/
theorem alike_back {f₁ f' : Facility} {s₁ s' : ToolShare} (alike : f₀.Alike f₁)
    (installs : Installs registry f₁ s₁ f s) (restores : Restores registry f s f' s')
    (held : (f₁.holder? Facility.profilerTool).isSome) : f₀.Alike f' := by
  refine ⟨restores.holder.trans (holder_kept alike installs held),
    callbacks_back alike installs restores.callbacks, ?_⟩
  rw [restores.events, installs.wrappedEvents, if_pos held, alike.events]

/-- Who listens is only counted. -/
theorem counted (h : Hosted registry f₀ f s) (some : 0 < s.threads) {n : Nat} (given : 0 < n) :
    Hosted registry f₀ f { s with threads := n } := by
  obtain ⟨f₁, alike, installs⟩ := h.on some
  exact ⟨fun none => absurd none (Nat.ne_of_gt given), fun _ => ⟨f₁, alike, installs.holder,
    installs.others, installs.events, installs.disabled, installs.restarts, installs.ours, rfl,
    installs.owned, installs.reclaimed, installs.wrapped, installs.wrappedEvents, installs.off,
    installs.seen⟩⟩

/-- An id that is let go was nobody's. -/
theorem freed (vacant : f₀.Vacant) (h : Hosted registry f₀ f { s with threads := 1 })
    (none : s.threads = 0) (own : s.owned = true ∨ s.reclaimed = true) :
    Hosted registry f₀ (f.free Facility.profilerTool)
      { s with ours := {}, disabled := [], wrapped := {} } := by
  obtain ⟨f₁, alike, installs⟩ := h.on Nat.one_pos
  have reclaimed : s.reclaimed = false := installs.reclaimed
  have owned : s.owned = (f₁.holder? Facility.profilerTool).isNone := installs.owned
  have free : (f₁.holder? Facility.profilerTool).isNone = true := by
    rw [← owned]
    exact own.resolve_right fun taken => by cases reclaimed.symm.trans taken
  exact ⟨fun _ => alike_free vacant alike installs (Option.isNone_iff_eq_none.mp free),
    fun on => absurd none (Nat.ne_of_gt on)⟩

/-- An id that is given back was somebody's. -/
theorem returned {f' : Facility} {s' : ToolShare} (h : Hosted registry f₀ f { s with threads := 1 })
    (none : s.threads = 0) (shared : s.owned = false) (restores : Restores registry f s f' s') :
    Hosted registry f₀ f' s' := by
  obtain ⟨f₁, alike, installs⟩ := h.on Nat.one_pos
  have owned : s.owned = (f₁.holder? Facility.profilerTool).isNone := installs.owned
  have held := Option.isNone_eq_false_iff.mp (owned.symm.trans shared)
  have restores' : Restores registry f { s with threads := 1 } f' { s' with threads := 1 } :=
    ⟨restores.holder, restores.events, restores.disabled, restores.restarts, restores.callbacks, rfl,
      restores.wrapped, restores.off, restores.seen⟩
  exact ⟨fun _ => alike_back alike installs restores' held,
    fun on => absurd (restores.threads.trans none) (Nat.ne_of_gt on)⟩

/-- **The id is as it was** when it is given back, if nothing was registered there without a
holder. -/
theorem handover (registry : RegistryId) {f₀ : Facility} (vacant : f₀.Vacant) :
    Handover registry (Hosted registry f₀) :=
  .intro (fun h first installs => installed (h.off first) installs)
    (fun h => (h.held Nat.one_pos).holder) (fun h none own => h.freed vacant none own)
    (fun h none shared _ restores => h.returned none shared restores)
    fun h some given => h.counted some given

end Hosted

/-- A registry that listens through the tool id of a facility that was `f₀` before. Other registries
do not listen. -/
structure ToolAmid (registry : RegistryId) (f₀ : Facility) (held : ThreadKey → Option TraceHook)
    (e : Engine) : Prop where
  stationed : Stationed (Hosted registry f₀) held registry e
  others : ∀ th other, other ≠ registry → (e.dispatchAt th other).activated = false

namespace ToolAmid

variable {registry : RegistryId} {f₀ : Facility} {held : ThreadKey → Option TraceHook} {e : Engine}

/-- **Switching profilers** takes the id over and gives it back. -/
theorem switching (registry : RegistryId) (vacant : f₀.Vacant)
    (held : ThreadKey → Option TraceHook) : Switching registry (ToolAmid registry f₀ held) where
  activate {e} h off := by
    obtain ⟨hooks, f, s, activated, there, -⟩ :=
      h.stationed.activate_eq (Hosted.handover registry vacant).takeover off
    refine ⟨_, activated, ⟨there, fun th other differ => ?_⟩,
      Stationed.scene_marked hooks f s true h.stationed.unguarded,
      Stationed.activated_marked hooks f s true⟩
    rw [withDispatch_others differ]
    exact h.others th other differ
  deactivate {e} h on := by
    obtain ⟨hooks, f, s, deactivated, there, -⟩ :=
      h.stationed.deactivate_eq (Hosted.handover registry vacant).giveback on
    refine ⟨_, deactivated, ⟨there, fun th other differ => ?_⟩,
      Stationed.scene_marked hooks f s false h.stationed.unguarded,
      Stationed.activated_marked hooks f s false⟩
    rw [withDispatch_others differ]
    exact h.others th other differ
  withActive {e} h on := by
    refine ⟨h.stationed.withActive on, fun th other differ => ?_⟩
    rw [withDispatch_others differ]
    exact h.others th other differ

/-! ## Events -/

/-- Going on with an event at an id that is held changes nothing but that the registry is idle
again. -/
theorem absorbEvent_goOn (h : Unguarded registry e)
    (own : e.facility.Held registry (e.share registry)) (event : MonitorEvent) :
    answer (absorbEvent registry event (.ok .goOn)) e =
      (.ok .goOn, e.withDispatch registry { e.dispatchOf registry with busy := false }) := by
  unfold absorbEvent
  rw [answer_liftM_bind (run_absorbTool_held h own)]
  rfl

/-- Nothing was restarted since the id was taken over. -/
theorem noticed (h : ToolAmid registry f₀ held e) (on : 0 < (e.share registry).threads) :
    (e.share registry).noticed e.facility.restarts = e.share registry := by
  obtain ⟨f₁, -, installs⟩ := h.stationed.place.on on
  exact if_pos (installs.seen.trans installs.restarts.symm)

/-- What is taken over are scripts. -/
theorem next_script (h : ToolAmid registry f₀ held e) (scripted : f₀.Scripted)
    (on : 0 < (e.share registry).threads) {event : MonitorEvent} {hook : ToolHook}
    (next : (e.share registry).next? event = some hook) : ∃ id, hook = .script id := by
  obtain ⟨f₁, alike, installs⟩ := h.stationed.place.on on
  have wrapped := ToolShare.wrapped_of_next? next
  rw [installs.wrapped] at wrapped
  split at wrapped
  · rw [alike.callbacks] at wrapped
    exact scripted _ _ hook wrapped
  · cases wrapped

/-- What recording an event leaves, also after the registry was busy for a while. -/
theorem heard (h : ToolAmid registry f₀ held e) {e' : Engine} (event : MonitorEvent)
    (back : e' = recorded registry e event ∨
      e' = (recorded registry e event).withDispatch registry (e.dispatchOf registry)) :
    ToolAmid registry f₀ held e' ∧ Undisturbed registry e e' ∧ e'.facility = e.facility ∧
      e'.share registry = e.share registry := by
  have there := h.stationed.withProfilers ((e.scene registry).hearEvent event).profilers
  rcases back with rfl | rfl
  · exact ⟨⟨there, h.others⟩, ⟨rfl, fun _ => rfl, fun _ => rfl⟩, rfl, rfl⟩
  · refine ⟨⟨there.withActive (e.dispatchOf registry).active, fun th other differ => ?_⟩,
      ⟨rfl, fun th => ?_, fun th => ?_⟩, rfl, rfl⟩
    · rw [withDispatch_others differ]
      exact h.others th other differ
    · exact congrArg Dispatch.active (withDispatch_same (e := recorded registry e event) _ rfl th)
    · exact congrArg Dispatch.activated (withDispatch_same (e := recorded registry e event) _ rfl th)

variable {σ : Type} {s : Scripts σ} {x : σ}

/-- What becomes of an event at the profilers' callback: it is recorded, and may go on to a
script. -/
theorem takeEvent (h : ToolAmid registry f₀ held e) (scripted : f₀.Scripted)
    (on : 0 < (e.share registry).threads) (event : MonitorEvent) :
    (takeEvent registry event).run e = (none, recorded registry e event) ∨
      ∃ id, (takeEvent registry event).run e =
        (some (.script id), (recorded registry e event).waiting registry) := by
  have idle : (e.dispatchOf registry).busy = false := h.stationed.idle e.thread
  have unguarded : Unguarded registry (recorded registry e event) := h.stationed.unguarded.same rfl rfl
  have same : retooled registry (recorded registry e event) e.hooks e.facility (e.share registry) =
    recorded registry e event := retooled_share unguarded e.hooks e.facility
  rw [run_takeEvent h.stationed.unguarded h.stationed.monitored idle event, h.noticed on]
  simp only
  rw [same]
  split
  · cases next : (e.share registry).next? event with
    | none => exact .inl rfl
    | some hook =>
      obtain ⟨id, rfl⟩ := h.next_script scripted on next
      exact .inr ⟨id, rfl⟩
  · exact .inl rfl

/-- A registry that was busy and is idle again. -/
theorem waited (idle : (e.dispatchOf registry).busy = false) {e₁ : Engine}
    (same : e₁.dispatchOf registry = e.dispatchOf registry) :
    (e₁.waiting registry).withDispatch registry
        { (e₁.waiting registry).dispatchOf registry with busy := false } =
      e₁.withDispatch registry (e.dispatchOf registry) := by
  have known : (e₁.waiting registry).dispatchOf registry =
      { e.dispatchOf registry with busy := true } := by
    rw [← same]
    exact withDispatch_dispatchOf registry e₁ _
  have whole : ({ e.dispatchOf registry with busy := false } : Dispatch) = e.dispatchOf registry := by
    rw [← idle]
  rw [known, whole]
  exact reslotted_reslotted registry e₁ e₁.slots e₁.slots _ _

/-- The profilers' callback hears of an event. -/
theorem deliverEvent (meek : s.Meek) (h : ToolAmid registry f₀ held (s.engine x))
    (scripted : f₀.Scripted) (on : 0 < ((s.engine x).share registry).threads)
    (event : MonitorEvent) (hops serial : Nat) :
    ∃ x', answer (s.deliverEvent (hops + 1) (.profiler registry serial) event) x =
        (.ok .goOn, x') ∧
      (s.engine x' = recorded registry (s.engine x) event ∨
        s.engine x' = (recorded registry (s.engine x) event).withDispatch registry
          ((s.engine x).dispatchOf registry)) := by
  obtain ⟨e₁, he₁⟩ : ∃ e₁, e₁ = recorded registry (s.engine x) event := ⟨_, rfl⟩
  have bare : (uncover event (.profiler registry serial)).run (s.engine x) =
    (some (.profiler registry serial), s.engine x) := rfl
  rw [s.answer_deliverEvent_taken meek.put_get hops bare, ← he₁]
  rcases h.takeEvent scripted on event with taken | ⟨id, taken⟩
  · rw [taken, ← he₁]
    exact ⟨_, rfl, .inl (meek.get_put _ _)⟩
  · rw [taken, ← he₁]
    let y := s.withEngine x (e₁.waiting registry)
    have bare' : (uncover event (.script id)).run (s.engine y) = (some (.script id), s.engine y) :=
      rfl
    obtain ⟨x₁, heard, unmoved⟩ := meek.monitor id event y
    have there : s.engine x₁ = e₁.waiting registry := unmoved.trans (meek.get_put _ _)
    have unguarded : Unguarded registry (e₁.waiting registry) := by
      rw [he₁]
      exact h.stationed.unguarded.same rfl rfl
    have own : (e₁.waiting registry).facility.Held registry ((e₁.waiting registry).share registry) := by
      rw [he₁]
      exact h.stationed.place.held on
    have absorbed := absorbEvent_goOn unguarded own event
    simp only
    rw [s.answer_deliverEvent_script meek.put_get hops bare', heard, Scripts.answer_tryRun, there,
      absorbed]
    refine ⟨_, rfl, .inr ?_⟩
    rw [meek.get_put, he₁]
    exact waited (h.stationed.idle (s.engine x).thread) rfl

/-- **A monitoring event** leaves the facility as it is. -/
theorem announceEvent (meek : s.Meek) (h : ToolAmid registry f₀ held (s.engine x))
    (scripted : f₀.Scripted) (event : MonitorEvent) :
    let x' := (answer (s.announceEvent event) x).2
    ToolAmid registry f₀ held (s.engine x') ∧ Undisturbed registry (s.engine x) (s.engine x') ∧
      (s.engine x').facility = (s.engine x).facility := by
  intro x'
  rcases Nat.eq_zero_or_pos ((s.engine x).share registry).threads with off | on
  · have alike := h.stationed.place.off off
    have scripted' : (s.engine x).facility.Scripted := fun tool kind hook there =>
      scripted tool kind hook ((alike.callbacks tool kind).symm.trans there)
    obtain ⟨x₁, heard, same⟩ := meek.announce_scripts scripted' event
    have there : x' = x₁ := congrArg Prod.snd heard
    rw [there, same]
    exact ⟨h, .refl registry _, rfl⟩
  · let Kept (y : σ) : Prop := ToolAmid registry f₀ held (s.engine y) ∧
      Undisturbed registry (s.engine x) (s.engine y) ∧
      (s.engine y).facility = (s.engine x).facility ∧
      (s.engine y).share registry = (s.engine x).share registry
    have monitored : (s.engine x).monitored = true := h.stationed.monitored
    -- the targets were found before any of them heard of the event
    obtain ⟨x₁, heard, amid, calm, facility, -⟩ : ∃ x₁,
        answer (((s.engine x).facility.targets event).forM (s.deliverTo event)) x = (.ok (), x₁) ∧
          Kept x₁ := by
      refine answer_forM_kept ?_ ⟨h, .refl registry _, rfl, rfl⟩
      rintro ⟨tool, hook⟩ mem y ⟨amid, calm, facility, share⟩
      have there := Facility.callback?_of_mem_targets mem
      obtain ⟨f₁, alike, installs⟩ := h.stationed.place.on on
      by_cases ours : tool = Facility.profilerTool ∧ event.kind ∈ ourKinds
      · obtain ⟨rfl, mine⟩ := ours
        obtain ⟨serial, stands, -⟩ := installs.ours event.kind mine
        cases stands.symm.trans there
        obtain ⟨y', heard, back⟩ := amid.deliverEvent meek scripted (share ▸ on) event
          (s.engine y).registries.entries.length serial
        obtain ⟨amid', calm', facility', share'⟩ := amid.heard event back
        refine ⟨y', ?_, amid', calm.trans calm', facility'.trans facility, share'.trans share⟩
        rw [Scripts.answer_deliverTo, Scripts.hopsAt, heard]
        rfl
      · rw [installs.others tool event.kind ours, alike.callbacks] at there
        obtain ⟨id, rfl⟩ := scripted tool event.kind hook there
        obtain ⟨y', heard, same⟩ := meek.deliverTo event tool id y
        refine ⟨y', heard, ?_⟩
        unfold Kept
        rw [same]
        exact ⟨amid, calm, facility, share⟩
    have announced : x' = x₁ := by
      unfold x'
      rw [Scripts.answer_announceEvent, if_pos monitored, heard]
    rw [announced]
    exact ⟨amid, calm, facility⟩

/-- **A trace event** changes nothing. -/
theorem announceTrace (meek : s.Meek) (h : ToolAmid registry f₀ held (s.engine x))
    (scripted : ∀ th hook, held th = some hook → ∃ id, hook = .script id) (frame : Frame)
    (event : TraceEvent) :
    s.engine (answer (s.announceTrace frame event) x).2 = s.engine x :=
  meek.announceTrace_script
    (fun hook there => scripted _ hook ((h.stationed.slots _).symm.trans there)) frame event

end ToolAmid

/-! ## When the facility changes -/

/-- From one engine to another no more threads listen, and the facility changed only if the last one
stopped. -/
structure Receding (registry : RegistryId) (e e' : Engine) : Prop where
  threads : (e'.share registry).threads ≤ (e.share registry).threads
  facility : e'.facility = e.facility ∨
    0 < (e.share registry).threads ∧ (e'.share registry).threads = 0

namespace Receding

variable {registry : RegistryId} {e e' e'' : Engine}

theorem of_same (share : e'.share registry = e.share registry) (facility : e'.facility = e.facility) :
    Receding registry e e' :=
  ⟨Nat.le_of_eq (congrArg ToolShare.threads share), .inl facility⟩

theorem trans (h : Receding registry e e') (h' : Receding registry e' e'') :
    Receding registry e e'' := by
  refine ⟨Nat.le_trans h'.threads h.threads, ?_⟩
  have less := h.threads
  have less' := h'.threads
  rcases h'.facility with same' | ⟨some', none'⟩
  · rcases h.facility with same | ⟨some, none⟩
    · exact .inl (same'.trans same)
    · exact .inr ⟨some, by omega⟩
  · exact .inr ⟨by omega, none'⟩

end Receding

namespace ToolAmid

variable {registry : RegistryId} {f₀ : Facility} {held : ThreadKey → Option TraceHook} {e : Engine}

/-- Stopping to listen on the running thread. -/
theorem receding_deactivate (vacant : f₀.Vacant) (h : ToolAmid registry f₀ held e)
    (on : (e.dispatchOf registry).activated = true) :
    ∃ e', answer (deactivate registry) e = (.ok (), e') ∧ Receding registry e e' := by
  obtain ⟨hooks, f, s, deactivated, -, counted, kept⟩ :=
    h.stationed.deactivate_eq (Hosted.handover registry vacant).giveback on
  obtain ⟨ths, -, mem, length⟩ := h.stationed.threads
  have some : 0 < (e.share registry).threads := by
    rw [← length]
    exact List.length_pos_of_mem ((mem e.thread).mpr on)
  refine ⟨_, deactivated, counted ▸ Nat.sub_le _ _, ?_⟩
  rcases Nat.lt_or_ge 1 (e.share registry).threads with more | one
  · exact .inl (kept more)
  · exact .inr ⟨some, by rw [counted]; omega⟩

/-- **Switching a profiler on** changes the facility on the first thread only. -/
theorem enable_facility (vacant : f₀.Vacant) (h : ToolAmid registry f₀ held e)
    (balanced : Balanced registry e) (p : ProfilerId) :
    let e' := (answer (enable registry p) e).2
    e'.facility = e.facility ∨
      (e.share registry).threads = 0 ∧ 0 < (e'.share registry).threads := by
  cases on : (e.dispatchOf registry).isActive with
  | true =>
    rw [answer_enable_active on]
    exact .inl rfl
  | false =>
    obtain ⟨hooks, f, s, activated, -, counted, kept⟩ :=
      h.stationed.activate_eq (Hosted.handover registry vacant).takeover ((balanced e.thread).trans on)
    rw [answer_enable_first on activated]
    rcases Nat.eq_zero_or_pos (e.share registry).threads with none | some
    · refine .inr ⟨none, ?_⟩
      rw [none] at counted
      exact Nat.lt_of_lt_of_eq Nat.one_pos counted.symm
    · exact .inl (kept some)

/-- **Switching a profiler off** changes the facility on the last thread only. -/
theorem receding_lower (vacant : f₀.Vacant) (h : ToolAmid registry f₀ held e)
    (balanced : Balanced registry e) (p : ProfilerId) (left : Nat → Nat) :
    Receding registry e (answer (lower registry p left) e).2 := by
  cases on : (e.dispatchOf registry).isOn p with
  | false =>
    rw [answer_lower_off on]
    exact .of_same rfl rfl
  | true =>
    let d := (e.dispatchOf registry).lower p (left ((e.dispatchOf registry).countOf p))
    let e₁ := e.withDispatch registry d
    cases still : d.isActive with
    | true =>
      rw [answer_lower_active on left still]
      exact .of_same rfl rfl
    | false =>
      have amid : ToolAmid registry f₀ held e₁ := by
        unfold e₁ d
        rw [Dispatch.lower_eq]
        exact (switching registry vacant held).withActive h _
      have listens : (e₁.dispatchOf registry).activated = true := by
        rw [withDispatch_dispatchOf]
        unfold d
        rw [Dispatch.lower_eq]
        exact (balanced e.thread).trans (Dispatch.isActive_of_isOn on)
      obtain ⟨e₂, deactivated, recedes⟩ := amid.receding_deactivate vacant listens
      have first : Receding registry e e₁ := .of_same rfl rfl
      rw [answer_lower_last on left still deactivated]
      exact first.trans recedes

/-- **Forgetting the registry** on a thread changes the facility on the last one only. -/
theorem receding_forget (vacant : f₀.Vacant) (h : ToolAmid registry f₀ held e) :
    Receding registry e ((forget registry).run e).2 := by
  let e₁ := e.withDispatch registry { e.dispatchOf registry with active := [] }
  have known : e₁.dispatchOf registry = { e.dispatchOf registry with active := [] } :=
    withDispatch_dispatchOf registry e _
  have amid : ToolAmid registry f₀ held e₁ := (switching registry vacant held).withActive h []
  cases on : (e₁.dispatchOf registry).activated with
  | true =>
    obtain ⟨e₂, deactivated, recedes⟩ := amid.receding_deactivate vacant on
    have first : Receding registry e e₁ := .of_same rfl rfl
    rw [run_forget deactivated]
    exact (first.trans recedes).trans (.of_same rfl rfl)
  | false =>
    rw [run_forget (answer_deactivate_off on)]
    exact .of_same rfl rfl

end ToolAmid

end LineClock
