import LineClock.Proofs.Engine.Pile
import LineClock.Proofs.Engine.SlotPile
import LineClock.Proofs.Engine.Tidings
import LineClock.Proofs.Engine.ToolAmid

/-!
# Registries one before the other at the tool id

How several registries stand that share the profilers' tool id on one thread: each has taken over the
callbacks of the one that began before it, the first one those of the tool that holds the id, and the
callbacks of the last one are registered.

Main statements: `ToolPile.piling` for switching, and `Moored.takes` and `Moored.absorbs` for what a
registry does before and after an event went on.
-/

namespace LineClock

open Machine Engine

/-! ## Changes of one registry -/

namespace Engine

variable {r r' : RegistryId} {e : Engine}

theorem registry_retooled_other (differ : r' ≠ r) (e : Engine) (hooks : Nat) (f : Facility)
    (s : ToolShare) : (retooled r e hooks f s).registry r' = e.registry r' := by
  unfold Engine.registry retooled Assoc.getD
  simp only
  rw [Assoc.get?_modify, if_neg (Ne.symm differ)]

theorem Unguarded.retooled_other (h : Unguarded r' e) (differ : r' ≠ r) (hooks : Nat) (f : Facility)
    (s : ToolShare) : Unguarded r' (Engine.retooled r e hooks f s) := by
  have same := registry_retooled_other differ e hooks f s
  refine ⟨?_, ?_, ?_, ?_⟩
  · show ((e.registries.modify r _).get? r').isSome
    rw [Assoc.get?_modify, if_neg (Ne.symm differ)]
    exact h.present
  · rw [same]
    exact h.backend
  · rw [same]
    exact h.unrefused
  · rw [same]
    exact h.released

end Engine

/-- The way from an engine to one with the facility `f`, where a registry keeps `s` of the tool id and
the running thread knows `d` of it. -/
structure Tooled (r : RegistryId) (f : Facility) (s : ToolShare) (d : Dispatch) (e e' : Engine) : Prop
    extends Abides e e' where
  monitored : e'.monitored = e.monitored
  slot : e'.traceHook? = e.traceHook?
  facility : e'.facility = f
  share : e'.share r = s
  shares : ∀ r', r' ≠ r → e'.share r' = e.share r'
  unguarded : ∀ r', Unguarded r' e → Unguarded r' e'
  others : ∀ r', r' ≠ r → e'.dispatchOf r' = e.dispatchOf r'
  own : e'.dispatchOf r = d

namespace Tooled

variable {r : RegistryId} {f f' : Facility} {s s' : ToolShare} {d d' : Dispatch} {e e' e'' : Engine}

theorem trans (h : Tooled r f s d e e') (h' : Tooled r f' s' d' e' e'') :
    Tooled r f' s' d' e e'' :=
  ⟨h.toAbides.trans h'.toAbides, h'.monitored.trans h.monitored, h'.slot.trans h.slot, h'.facility,
    h'.share, fun r' differ => (h'.shares r' differ).trans (h.shares r' differ),
    fun r' there => h'.unguarded r' (h.unguarded r' there),
    fun r' differ => (h'.others r' differ).trans (h.others r' differ), h'.own⟩

theorem retooled (h : Unguarded r e) (hooks : Nat) (f : Facility) (s : ToolShare) :
    Tooled r f s (e.dispatchOf r) e (retooled r e hooks f s) := by
  refine ⟨⟨rfl, rfl, rfl, rfl, rfl⟩, rfl, rfl, rfl, share_retooled h hooks f s,
    fun r' differ => ?_, fun r' there => ?_, fun _ _ => rfl, rfl⟩
  · exact congrArg Registry.share (registry_retooled_other differ e hooks f s)
  · by_cases here : r' = r
    · rw [here]
      exact h.retooled hooks f s
    · exact there.retooled_other here hooks f s

theorem withDispatch (r : RegistryId) (e : Engine) (d : Dispatch) :
    Tooled r e.facility (e.share r) d e (e.withDispatch r d) :=
  ⟨⟨rfl, rfl, rfl, rfl, rfl⟩, rfl, rfl, rfl, rfl, fun _ _ => rfl, fun _ there => there.same rfl rfl,
    fun _ differ => withDispatch_others differ e d e.thread, withDispatch_dispatchOf r e d⟩

theorem put (h : Unguarded r e) (hooks : Nat) (f : Facility) (s : ToolShare) (d : Dispatch) :
    Tooled r f s d e ((Engine.retooled r e hooks f s).withDispatch r d) := by
  have kept := withDispatch r (Engine.retooled r e hooks f s) d
  rw [share_retooled h] at kept
  exact (retooled h hooks f s).trans kept

theorem recorded (r : RegistryId) (e : Engine) (event : MonitorEvent) :
    Tooled r e.facility (e.share r) (e.dispatchOf r) e (recorded r e event) :=
  ⟨⟨rfl, rfl, rfl, rfl, rfl⟩, rfl, rfl, rfl, rfl, fun _ _ => rfl, fun _ there => there.same rfl rfl,
    fun _ _ => rfl, rfl⟩

/-- Only what is kept of the id changed. -/
theorem switched {on : List (ProfilerId × Nat)} {listens : Bool} (h : Tooled r f s d e e')
    (same : e'.profilers = e.profilers) (known : d = { e.dispatchOf r with activated := listens })
    (active : (e.dispatchOf r).active = on) : Switched r on listens e e' := by
  have own := h.own
  rw [known] at own
  refine ⟨h.toAbides, same, h.others, ?_, ?_, ?_, fun none => ?_⟩
  all_goals rw [own]
  · exact active
  · exact none

end Tooled

/-! ## One registry before callbacks -/

/-- What a registry keeps that took the callbacks `inner` and the kinds `events` over and registered
the callbacks `hooks`, on one thread. No location is off, and nothing was restarted since. -/
structure Moored (r : RegistryId) (inner hooks : EventKind → Option ToolHook) (events : EventSet)
    (restarts : Nat) (s : ToolShare) : Prop where
  own : ∀ kind ∈ ourKinds, ∃ serial, hooks kind = some (.profiler r serial)
  ours : ∀ kind ∈ ourKinds, s.ours.get? kind = hooks kind
  wrapped : ∀ kind ∈ ourKinds, s.wrapped.get? kind = inner kind
  wrappedEvents : s.wrappedEvents = events
  threads : s.threads = 1
  shared : s.owned = false
  kept : s.reclaimed = false
  off : s.disabled = []
  seen : s.seenRestart = restarts

/-- The callbacks to go on to instead of `inner` when `found` are registered where `hooks` were: those
of them that are others. -/
def succeeding (inner hooks found : EventKind → Option ToolHook) (kind : EventKind) : Option ToolHook :=
  if found kind = hooks kind then inner kind else found kind

theorem succeeding_own {inner hooks found : EventKind → Option ToolHook} {kind : EventKind}
    (own : found kind = hooks kind) : succeeding inner hooks found kind = inner kind := if_pos own

theorem succeeding_other {inner hooks found : EventKind → Option ToolHook} {kind : EventKind}
    (other : found kind ≠ hooks kind) : succeeding inner hooks found kind = found kind := if_neg other

/-- Two facilities that differ in callbacks for the profilers' kinds at most. -/
structure Recalled (f f' : Facility) : Prop where
  holder : f'.holder? Facility.profilerTool = f.holder? Facility.profilerTool
  events : f'.eventsOf Facility.profilerTool = f.eventsOf Facility.profilerTool
  others : ∀ tool kind, ¬ (tool = Facility.profilerTool ∧ kind ∈ ourKinds) →
    f'.callback? tool kind = f.callback? tool kind
  disabled : f'.disabled = f.disabled
  restarts : f'.restarts = f.restarts

theorem Recalled.refl (f : Facility) : Recalled f f := ⟨rfl, rfl, fun _ _ _ => rfl, rfl, rfl⟩

theorem Recalled.trans {f f' f'' : Facility} (h : Recalled f f') (h' : Recalled f' f'') :
    Recalled f f'' :=
  ⟨h'.holder.trans h.holder, h'.events.trans h.events,
    fun tool kind out => (h'.others tool kind out).trans (h.others tool kind out),
    h'.disabled.trans h.disabled, h'.restarts.trans h.restarts⟩

namespace Moored

variable {r : RegistryId} {inner hooks : EventKind → Option ToolHook} {events : EventSet}
  {restarts : Nat} {s : ToolShare} {e : Engine} {event : MonitorEvent}

theorem armed (h : Moored r inner hooks events restarts s) : s.Armed r := by
  intro kind mem
  obtain ⟨serial, there⟩ := h.own kind mem
  exact ⟨serial, (h.ours kind mem).trans there⟩

/-- Only the callbacks for the profilers' kinds matter. -/
theorem before (h : Moored r inner hooks events restarts s) {inner' : EventKind → Option ToolHook}
    (same : ∀ kind ∈ ourKinds, inner kind = inner' kind) : Moored r inner' hooks events restarts s :=
  ⟨h.own, h.ours, fun kind mem => (h.wrapped kind mem).trans (same kind mem), h.wrappedEvents,
    h.threads, h.shared, h.kept, h.off, h.seen⟩

/-- No callback is that of two registries. -/
theorem apart {r' : RegistryId} {inner' hooks' : EventKind → Option ToolHook} {events' : EventSet}
    {restarts' : Nat} {s' : ToolShare} (h : Moored r inner hooks events restarts s)
    (h' : Moored r' inner' hooks' events' restarts' s') (differ : r ≠ r') {kind : EventKind}
    (mem : kind ∈ ourKinds) : hooks kind ≠ hooks' kind := by
  intro same
  obtain ⟨serial, mine⟩ := h.own kind mem
  obtain ⟨serial', mine'⟩ := h'.own kind mem
  rw [mine, mine'] at same
  cases same
  exact differ rfl

/-- The callback that hears of an event next. -/
theorem next? (h : Moored r inner hooks events restarts s) (mem : event.kind ∈ ourKinds) :
    s.next? event = if events.contains event.kind then inner event.kind else none := by
  unfold ToolShare.next?
  rw [h.off, h.wrappedEvents, h.wrapped _ mem]
  simp

/-- **An event is recorded**, and goes on if the callbacks that were taken over would hear of it. -/
theorem takes (h : Moored r inner hooks events e.facility.restarts (e.share r))
    (unguarded : Unguarded r e) (monitored : e.monitored = true)
    (idle : (e.dispatchOf r).busy = false) (somebody : (e.dispatchOf r).active ≠ [])
    (once : ((e.dispatchOf r).active.map Prod.fst).Nodup)
    (wraps : ∀ p, (e.dispatchOf r).isOn p = true → (e.profiler p).wrap = true)
    (mem : event.kind ∈ ourKinds) :
    let next := if events.contains event.kind then inner event.kind else none
    ∃ e₁, (takeEvent r event).run e = (next, e₁) ∧
      Tooled r e.facility (e.share r)
        (if next.isSome then { e.dispatchOf r with busy := true } else e.dispatchOf r) e e₁ ∧
      Books event.tidings (e.dispatchOf r).isOn e e₁ := by
  intro next
  have books := books_recorded once event
  have there := Tooled.recorded r e event
  have wants : (recorded r e event).goesOn r = true := by
    have active : ((recorded r e event).dispatchOf r).isActive = true :=
      Dispatch.isActive_iff_ne_nil.mpr somebody
    unfold goesOn
    rw [if_pos active]
    exact wantsWrap_of_all there.own somebody fun p on => (books.wrap p).trans (wraps p on)
  have noticed : (e.share r).noticed e.facility.restarts = e.share r := if_pos h.seen
  have same : retooled r (recorded r e event) e.hooks e.facility (e.share r) = recorded r e event :=
    retooled_share (e := recorded r e event) (unguarded.same rfl rfl) e.hooks e.facility
  have taken := run_takeEvent unguarded monitored idle event
  simp only at taken
  rw [noticed, same, if_pos ⟨wants, unguarded.attached⟩, h.next? mem] at taken
  have here : next = if events.contains event.kind then inner event.kind else none := rfl
  rw [← here] at taken
  cases some : next with
  | none =>
    rw [some] at taken
    exact ⟨_, taken, there, books⟩
  | some hook =>
    rw [some] at taken
    have waits := Tooled.withDispatch r (recorded r e event) { e.dispatchOf r with busy := true }
    exact ⟨_, taken, there.trans waits, books.same rfl⟩

/-- When the wrapped callback has answered, the registry goes on to the callbacks that are registered
now, as far as they are not its own, and its own are registered again. -/
theorem absorbs (h : Moored r inner hooks events restarts (e.share r)) (event : MonitorEvent) (unguarded : Unguarded r e)
    (held : (e.facility.holder? Facility.profilerTool).isSome)
    (widened : e.facility.eventsOf Facility.profilerTool = events.union ourEvents) {d : Dispatch}
    (idle : d.busy = false) (known : e.dispatchOf r = { d with busy := true }) :
    ∃ e' f s, answer (absorbEvent r event (.ok .goOn)) e = (.ok .goOn, e') ∧ Tooled r f s d e e' ∧
      e'.profilers = e.profilers ∧
      Moored r (succeeding inner hooks (e.facility.callback? Facility.profilerTool)) hooks events
        restarts s ∧
      Recalled e.facility f ∧
      ∀ kind ∈ ourKinds, f.callback? Facility.profilerTool kind = hooks kind := by
  obtain ⟨f, s, absorbed, absorbs⟩ := answer_absorbEvent unguarded h.armed event .goOn
  have share := absorbs.share
  rw [since_held held] at share
  have ours : s.ours = (e.share r).ours := by rw [share]
  have sets : s.wrappedEvents = events := by
    rw [absorbs.events, since_held held, h.wrappedEvents, widened]
    exact if_pos rfl
  have unmoved : s.answered event .goOn = s := if_neg fun off => by cases off.1
  have again : ({ e.dispatchOf r with busy := false } : Dispatch) = d := by
    rw [known]
    obtain ⟨active, busy, activated, saved, wrapped, ours, muted⟩ := d
    cases idle
    rfl
  have registered : ∀ kind ∈ ourKinds, f.callback? Facility.profilerTool kind = hooks kind := by
    intro kind mem
    obtain ⟨serial, there, mine⟩ := absorbs.held.ours kind mem
    rw [there, ← mine, ours, h.ours kind mem]
  rw [unmoved, again] at absorbed
  refine ⟨_, f, s, absorbed, Tooled.put unguarded e.hooks f s d, rfl, ?_, ⟨absorbs.holder held, ?_,
    absorbs.others, absorbs.disabled, absorbs.restarts⟩, registered⟩
  · refine ⟨h.own, fun kind mem => ?_, fun kind mem => ?_, sets, ?_, ?_, ?_, ?_, ?_⟩
    · rw [ours]
      exact h.ours kind mem
    · rw [absorbs.wrapped, since_held held, h.ours kind mem, h.wrapped kind mem]
      by_cases own : e.facility.callback? Facility.profilerTool kind = hooks kind
      · rw [succeeding_own own, if_neg fun other => other.2 own]
      · rw [succeeding_other own, if_pos ⟨mem, own⟩]
    · rw [share]
      exact h.threads
    · rw [share]
      exact h.shared
    · rw [share]
      exact h.kept
    · rw [share]
      exact h.off
    · rw [share]
      exact h.seen
  · rw [absorbs.held.events, sets, widened]

end Moored

/-- **A registry that hears of nothing** lets an event pass, as long as it took nothing over. -/
theorem Deaf.takeEvent {r : RegistryId} {e : Engine} (deaf : Deaf (e.dispatchOf r))
    (unguarded : Unguarded r e) (monitored : e.monitored = true)
    (seen : (e.share r).seenRestart = e.facility.restarts) (event : MonitorEvent)
    (nothing : (e.dispatchOf r).busy = false → (e.share r).wrapped.get? event.kind = none) :
    (takeEvent r event).run e = (none, e) := by
  cases busy : (e.dispatchOf r).busy with
  | true => exact run_takeEvent_busy busy event
  | false =>
    have nobody : (e.scene r).here = [] := by
      rcases deaf with waits | nobody
      · rw [busy] at waits
        cases waits
      · exact nobody
    have unheard : recorded r e event = e := by
      unfold recorded
      rw [Scene.hearEvent_nobody nobody]
      rfl
    have next : (e.share r).next? event = none := by
      unfold ToolShare.next?
      rw [nothing busy]
      exact ite_self _
    have noticed : (e.share r).noticed e.facility.restarts = e.share r := if_pos seen
    have taken := run_takeEvent unguarded monitored busy event
    simp only at taken
    rw [unheard, noticed, next, retooled_share unguarded] at taken
    refine taken.trans ?_
    exact ite_self _

/-! ## A pile of registries -/

namespace Engine

variable {r : RegistryId} {f₁ : Facility} {s₁ : ToolShare}

/-- The id is taken over on the first thread. -/
theorem takesOver (r : RegistryId) (f₁ : Facility) :
    Takeover r (fun f s => f = f₁ ∧ s.threads = 0)
      fun f s => ∃ s₁ s', Installs r f₁ s₁ f s' ∧ s = { s' with threads := 1 } where
  install h place first := by
    obtain ⟨rfl, -⟩ := place
    obtain ⟨hooks, f, s, done, installs⟩ := answer_install h
    exact ⟨hooks, f, s, done, installs.threads.trans first, _, s, installs, rfl⟩
  count place some := absurd place.2 (Nat.ne_of_gt some)

/-- The id is given back on the last thread, if it was shared. -/
theorem givesBack (one : s₁.threads = 1) (shared : s₁.owned = false) (kept : s₁.reclaimed = false)
    (held : (f₁.holder? Facility.profilerTool).isSome) :
    Giveback r (fun f s => f = f₁ ∧ s = s₁) (Restores r f₁ { s₁ with threads := 0 }) where
  uninstall {e} h place none := by
    obtain ⟨rfl, known⟩ := place
    have share : e.share r = { s₁ with threads := 0 } := by
      rw [← known]
      exact congrArg (fun n => ({ e.share r with threads := n } : ToolShare)) none
    have owned : (e.share r).owned = false := by
      rw [share]
      exact shared
    have reclaimed : (e.share r).reclaimed = false := by
      rw [share]
      exact kept
    obtain ⟨f, s, done, restores⟩ := answer_uninstall_back h owned reclaimed held
    rw [share] at restores
    exact ⟨_, f, s, done, restores.threads, restores⟩
  count place more := absurd (place.2 ▸ one) (Nat.ne_of_gt more)

end Engine

/-- The kinds to which the profilers' id subscribes where registries listen above a tool. -/
def subscribed (f₀ : Facility) (pile : List RegistryId) : EventSet :=
  match pile with
  | [] => f₀.eventsOf Facility.profilerTool
  | _ :: _ => (f₀.eventsOf Facility.profilerTool).union ourEvents

/-- One registry more subscribes to the kinds of all. -/
theorem subscribed_cons (f₀ : Facility) (r : RegistryId) (pile : List RegistryId) :
    subscribed f₀ (r :: pile) = (subscribed f₀ pile).union ourEvents := by
  cases pile with
  | nil => rfl
  | cons r' rest => exact (widened_again _).symm

/-- `hooks` are the callbacks of the first registry of a pile. Each of them took over those of the
next one, and the last one took over `bottom`. The facility was `f₀` before. -/
def Tiered (e : Engine) (f₀ : Facility) (bottom : EventKind → Option ToolHook) :
    List RegistryId → (EventKind → Option ToolHook) → Prop
  | [], hooks => ∀ kind ∈ ourKinds, hooks kind = bottom kind
  | r :: rest, hooks => ∃ inner, Moored r inner hooks (subscribed f₀ rest) f₀.restarts (e.share r) ∧
      Tiered e f₀ bottom rest inner

/-- What other registries keep does not matter, nor do callbacks for other kinds. -/
theorem Tiered.congr {e e' : Engine} {f₀ : Facility} {bottom : EventKind → Option ToolHook}
    {pile : List RegistryId} (shares : ∀ r ∈ pile, e'.share r = e.share r) :
    ∀ {hooks hooks'}, Tiered e f₀ bottom pile hooks → (∀ kind ∈ ourKinds, hooks' kind = hooks kind) →
      Tiered e' f₀ bottom pile hooks' := by
  induction pile with
  | nil => exact fun h same kind mem => (same kind mem).trans (h kind mem)
  | cons r rest ih =>
    rintro hooks hooks' ⟨inner, moored, below⟩ same
    refine ⟨inner, ?_, ih (fun r' mem => shares r' (List.mem_cons_of_mem _ mem)) below fun _ _ => rfl⟩
    rw [shares r List.mem_cons_self]
    refine ⟨fun kind mem => ?_, fun kind mem => ?_, moored.wrapped, moored.wrappedEvents,
      moored.threads, moored.shared, moored.kept, moored.off, moored.seen⟩
    · rw [same kind mem]
      exact moored.own kind mem
    · rw [same kind mem]
      exact moored.ours kind mem

/-- How a facility stands that was `f₀` before the registries of a pile began to listen, but for the
callbacks for their kinds. -/
structure Borrowed (f₀ : Facility) (pile : List RegistryId) (f : Facility) : Prop where
  holder : f.holder? Facility.profilerTool = f₀.holder? Facility.profilerTool
  events : f.eventsOf Facility.profilerTool = subscribed f₀ pile
  others : ∀ tool kind, ¬ (tool = Facility.profilerTool ∧ kind ∈ ourKinds) →
    f.callback? tool kind = f₀.callback? tool kind
  disabled : f.disabled = f₀.disabled
  restarts : f.restarts = f₀.restarts

theorem Borrowed.recalled {f₀ f f' : Facility} {pile : List RegistryId} (h : Borrowed f₀ pile f)
    (recalled : Recalled f f') : Borrowed f₀ pile f' :=
  ⟨recalled.holder.trans h.holder, recalled.events.trans h.events,
    fun tool kind out => (recalled.others tool kind out).trans (h.others tool kind out),
    recalled.disabled.trans h.disabled, recalled.restarts.trans h.restarts⟩

/-- The callbacks below a pile: those that were there before, or, once the pile is `torn`, callbacks
of one of its registries. -/
def Ground (rs : List RegistryId) (f₀ : Facility) (torn : Prop) (bottom : EventKind → Option ToolHook) :
    Prop :=
  (∀ kind ∈ ourKinds, bottom kind = f₀.callback? Facility.profilerTool kind) ∨
    torn ∧ ∃ r ∈ rs, ∀ kind ∈ ourKinds, ∃ serial, bottom kind = some (.profiler r serial)

/-- What a registry keeps of the id that does not listen. Once the pile is torn it may be asked like
the others, which knows about restarts. -/
structure Vacated (f₀ : Facility) (torn : Prop) (s : ToolShare) : Prop where
  threads : s.threads = 0
  wrapped : ∀ kind ∈ ourKinds, s.wrapped.get? kind = none
  seen : torn → s.seenRestart = f₀.restarts

theorem Ground.mono {rs : List RegistryId} {f₀ : Facility} {torn torn' : Prop}
    {bottom bottom' : EventKind → Option ToolHook} (ground : Ground rs f₀ torn bottom)
    (worn : torn → torn') (same : ∀ kind ∈ ourKinds, bottom' kind = bottom kind) :
    Ground rs f₀ torn' bottom' := by
  refine ground.imp (fun there kind mem => (same kind mem).trans (there kind mem)) ?_
  rintro ⟨h, r, within, mine⟩
  refine ⟨worn h, r, within, fun kind mem => ?_⟩
  rw [same kind mem]
  exact mine kind mem

theorem Vacated.mono {f₀ : Facility} {torn torn' : Prop} {s : ToolShare} (h : Vacated f₀ torn s)
    (back : torn' → torn) : Vacated f₀ torn' s :=
  ⟨h.threads, h.wrapped, fun there => h.seen (back there)⟩

/-- Registries at the tool id of a facility that was `f₀` before, those that listen in a pile. -/
structure ToolPile (rs : List RegistryId) (f₀ : Facility) (torn : Prop) (pile : List RegistryId)
    (e : Engine) : Prop where
  unguarded : ∀ r ∈ rs, Unguarded r e
  monitored : e.monitored = true
  bare : e.traceHook? = none
  borrowed : Borrowed f₀ pile e.facility
  tiered : ∃ bottom, Ground rs f₀ torn bottom ∧
    Tiered e f₀ bottom pile (e.facility.callback? Facility.profilerTool)
  idle : ∀ r ∈ rs, r ∉ pile → Vacated f₀ torn (e.share r)
  once : pile.Nodup

namespace ToolPile

variable {rs pile : List RegistryId} {f₀ : Facility} {torn : Prop} {e : Engine} {r : RegistryId}

/-- A registry takes the id over from those that listen already. -/
theorem activate (h : ToolPile rs f₀ torn pile e)
    (held : (f₀.holder? Facility.profilerTool).isSome) (mem : r ∈ rs) (absent : r ∉ pile) :
    ∃ e', answer (Engine.activate r) e = (.ok (), e') ∧ ToolPile rs f₀ torn (r :: pile) e' ∧
      Switched r (e.dispatchOf r).active true e e' := by
  have unguarded := h.unguarded r mem
  have none := (h.idle r mem absent).threads
  obtain ⟨hooks, f, s, taken, -, ⟨s₁, s', installs, rfl⟩, -⟩ :=
    (takesOver r e.facility).activateTool unguarded h.monitored ⟨rfl, none⟩
  have change := Tooled.put unguarded hooks f { s' with threads := 1 }
    { e.dispatchOf r with activated := true }
  have holder : (e.facility.holder? Facility.profilerTool).isSome := by
    rw [h.borrowed.holder]
    exact held
  have activated : answer (Engine.activate r) e = (.ok (),
      (retooled r e hooks f { s' with threads := 1 }).withDispatch r
        { e.dispatchOf r with activated := true }) :=
    answer_activate_tool unguarded.backend taken
  have events : s'.wrappedEvents = subscribed f₀ pile := by
    rw [installs.wrappedEvents, if_pos holder, h.borrowed.events]
  refine ⟨_, activated, ⟨fun r' mem' => change.unguarded r' (h.unguarded r' mem'),
    change.monitored.trans h.monitored, change.slot.trans h.bare, ?_, ?_, fun r' mem' out => ?_,
    List.nodup_cons.mpr ⟨absent, h.once⟩⟩, change.switched rfl rfl rfl⟩
  · rw [change.facility]
    refine ⟨?_, ?_, fun tool kind out => (installs.others tool kind out).trans
      (h.borrowed.others tool kind out), installs.disabled.trans h.borrowed.disabled,
      installs.restarts.trans h.borrowed.restarts⟩
    · rw [installs.holder, h.borrowed.holder]
      obtain ⟨name, there⟩ := Option.isSome_iff_exists.mp held
      rw [there]
      rfl
    · rw [installs.events, events, subscribed_cons]
  · obtain ⟨bottom, ground, tiered⟩ := h.tiered
    refine ⟨bottom, ground, e.facility.callback? Facility.profilerTool, ?_, tiered.congr ?_ ?_⟩
    · rw [change.facility, change.share]
      refine ⟨fun kind mem => ?_, fun kind mem => ?_, fun kind mem => ?_, events, rfl, ?_,
        installs.reclaimed, installs.off, installs.seen.trans h.borrowed.restarts⟩
      · obtain ⟨serial, there, -⟩ := installs.ours kind mem
        exact ⟨serial, there⟩
      · obtain ⟨serial, there, known⟩ := installs.ours kind mem
        exact known.trans there.symm
      · exact (installs.wrapped kind).trans (if_pos mem)
      · refine installs.owned.trans ?_
        cases there : e.facility.holder? Facility.profilerTool with
        | none =>
          rw [there] at holder
          cases holder
        | some name => rfl
    · exact fun r' there => change.shares r' fun same => absent (same ▸ there)
    · exact fun _ _ => rfl
  · rw [List.mem_cons, not_or] at out
    rw [change.shares r' out.1]
    exact h.idle r' mem' out.2

/-- A registry gives the id back to those below it. -/
theorem deactivate (h : ToolPile rs f₀ torn (r :: pile) e)
    (held : (f₀.holder? Facility.profilerTool).isSome) (mem : r ∈ rs)
    (on : (e.dispatchOf r).activated = true) :
    ∃ e', answer (Engine.deactivate r) e = (.ok (), e') ∧ ToolPile rs f₀ torn pile e' ∧
      Switched r (e.dispatchOf r).active false e e' := by
  have unguarded := h.unguarded r mem
  obtain ⟨absent, once⟩ := List.nodup_cons.mp h.once
  obtain ⟨bottom, ground, inner, moored, below⟩ := h.tiered
  have holder : (e.facility.holder? Facility.profilerTool).isSome := by
    rw [h.borrowed.holder]
    exact held
  let e₁ := e.withDispatch r { e.dispatchOf r with activated := false }
  have unguarded₁ : Unguarded r e₁ := unguarded.same rfl rfl
  have marked : Tooled r e.facility (e.share r) { e.dispatchOf r with activated := false } e e₁ :=
    Tooled.withDispatch r e _
  obtain ⟨hooks, f, s, given, -, restores, -⟩ :=
    (givesBack moored.threads moored.shared moored.kept holder).deactivateTool unguarded₁
      h.monitored (Nat.lt_of_lt_of_eq Nat.one_pos moored.threads.symm) ⟨rfl, rfl⟩
  have change := marked.trans (Tooled.retooled unguarded₁ hooks f s)
  rw [marked.own] at change
  have back : ∀ kind ∈ ourKinds, f.callback? Facility.profilerTool kind = inner kind := by
    intro kind mem
    have nowhere : ({ e.share r with threads := 0 } : ToolShare).stillOff e.facility.restarts = [] :=
      ToolShare.stillOff_of_nothing moored.off _
    have wrapped : ({ e.share r with threads := 0 } : ToolShare).wrapped.get? kind = inner kind :=
      moored.wrapped kind mem
    rw [restores.callbacks, if_pos ⟨rfl, mem⟩, nowhere, wrapped]
    cases inner kind <;> rfl
  refine ⟨_, (answer_deactivate_tool unguarded.backend on).trans given,
    ⟨fun r' mem' => change.unguarded r' (h.unguarded r' mem'), change.monitored.trans h.monitored,
      change.slot.trans h.bare, ?_, ⟨bottom, ground, below.congr ?_ ?_⟩, fun r' mem' out => ?_,
      once⟩, change.switched rfl rfl rfl⟩
  · rw [change.facility]
    refine ⟨restores.holder.trans h.borrowed.holder, restores.events.trans moored.wrappedEvents,
      fun tool kind out => ?_, restores.disabled.trans h.borrowed.disabled,
      restores.restarts.trans h.borrowed.restarts⟩
    rw [restores.callbacks, if_neg out]
    exact h.borrowed.others tool kind out
  · exact fun r' there => change.shares r' fun same => absent (same ▸ there)
  · rw [change.facility]
    exact back
  · by_cases here : r' = r
    · rw [here, change.share]
      exact ⟨restores.threads, fun kind mem => (restores.wrapped kind).trans (if_pos mem),
        fun _ => restores.seen.trans moored.seen⟩
    · rw [change.shares r' here]
      exact h.idle r' mem' fun there => (List.mem_cons.mp there).elim here out

/-- **Switching profilers** takes the id over and gives it back. -/
theorem piling (rs : List RegistryId) (torn : Prop)
    (held : (f₀.holder? Facility.profilerTool).isSome) : Piling rs (ToolPile rs f₀ torn) where
  activate h mem absent := h.activate held mem absent
  deactivate h mem on := h.deactivate held mem on
  counts r on h := by
    obtain ⟨bottom, ground, tiered⟩ := h.tiered
    refine ⟨fun r' mem => (h.unguarded r' mem).same rfl rfl, h.monitored, h.bare, h.borrowed,
      ⟨bottom, ground, ?_⟩, h.idle, h.once⟩
    refine tiered.congr ?_ ?_
    · exact fun _ _ => rfl
    · exact fun _ _ => rfl

end ToolPile

end LineClock
