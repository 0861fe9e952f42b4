import LineClock.Proofs.Engine.Absorbing
import LineClock.Proofs.Engine.Passing

/-!
# The facility as a tool would have it

A tool holds the profilers' id, and only answers to events. While profilers share the id, the
locations that the tool switched off are kept in three places: the facility's own list, the share of
the registry, and the layers that were left over the tool's callbacks. A facility and a share
`Mirrors` the facility that the tool would have without profilers when the three places taken together
are its list, and nothing else differs that the tool could notice.

Main statements: `Mirrors.handover`, `Mirrors.own` and `Mirrors.passed`.
-/

namespace LineClock

open Machine Engine

/-! ## Layers -/

namespace ToolHook

/-- The hook below all layers. -/
def core : ToolHook → ToolHook
  | .replay wrapped _ _ _ => wrapped.core
  | hook => hook

/-- Whether a layer answers at a location after a number of restarts. -/
def covers (restarts : Nat) (location : Location) : ToolHook → Bool
  | .replay wrapped locations version _ =>
    decide (restarts = version) && locations.contains (location.block, location.offset) ||
      wrapped.covers restarts location
  | _ => false

/-- No layer is younger than the last restart. -/
def Past (restarts : Nat) : ToolHook → Prop
  | .replay wrapped _ version _ => version ≤ restarts ∧ wrapped.Past restarts
  | _ => True

variable {registry : RegistryId} {restarts : Nat} {hook : ToolHook}

theorem core?_attached (event : MonitorEvent) (restarts : Nat) (hook : ToolHook) :
    hook.core? event true restarts =
      if hook.covers restarts event.location then none else some hook.core := by
  induction hook with
  | script | profiler => rfl
  | replay wrapped locations version owner ih =>
    have place : (event.location.block, event.location.offset) = (event.block.id, event.offset) := rfl
    unfold core? covers core
    rw [ih, place]
    generalize locations.contains (event.block.id, event.offset) = there
    generalize wrapped.covers restarts event.location = below
    by_cases fresh : restarts = version
    · cases there <;> cases below <;> simp [fresh]
    · cases below <;> simp [fresh]

/-- After a restart no layer answers. -/
theorem covers_restart (past : hook.Past restarts) (location : Location) :
    hook.covers (restarts + 1) location = false := by
  induction hook with
  | script | profiler => rfl
  | replay wrapped locations version owner ih =>
    have younger : ¬ restarts + 1 = version := by
      have := past.1
      omega
    unfold covers
    simp [younger, ih past.2]

theorem Past.restart (past : hook.Past restarts) : hook.Past (restarts + 1) := by
  induction hook with
  | script | profiler => trivial
  | replay wrapped locations version owner ih => exact ⟨Nat.le_succ_of_le past.1, ih past.2⟩

/-- A hook that stands for a script: below its layers is that script. -/
structure StandsFor (registry : RegistryId) (restarts : Nat) (id : ScriptId) (hook : ToolHook) :
    Prop where
  within : hook.Within registry
  core : hook.core = .script id
  past : hook.Past restarts

theorem StandsFor.script (registry : RegistryId) (restarts : Nat) (id : ScriptId) :
    StandsFor registry restarts id (.script id) := ⟨trivial, rfl, trivial⟩

end ToolHook

namespace Engine

variable {registry : RegistryId} {kind : EventKind} {hook : ToolHook} {off : List Location}
  {restarts : Nat}

/-- A callback that is given back stands for the same script. -/
theorem standsFor_restored {id : ScriptId} (h : hook.StandsFor registry restarts id)
    (kind : EventKind) (off : List Location) :
    (restored registry kind hook off restarts).StandsFor registry restarts id := by
  unfold restored
  split
  · exact h
  · exact ⟨⟨rfl, h.within⟩, h.core, Nat.le_refl _, h.past⟩

/-- A callback that is given back is silent where it was, and where its tool wants to hear no
more. -/
theorem covers_restored (location : Location) (same : location.kind = kind) :
    (restored registry kind hook off restarts).covers restarts location =
      (off.contains location || hook.covers restarts location) := by
  have given : ((off.filter fun l => l.kind = kind).map fun l => (l.block, l.offset)).contains
      (location.block, location.offset) = off.contains location := by
    rw [Bool.eq_iff_iff, List.contains_iff_mem, List.contains_iff_mem]
    simp only [List.mem_map, List.mem_filter, decide_eq_true_eq, Prod.mk.injEq]
    constructor
    · rintro ⟨⟨block, offset, kind'⟩, ⟨mem, rfl⟩, rfl, rfl⟩
      obtain ⟨block', offset', kind''⟩ := location
      cases same
      exact mem
    · exact fun mem => ⟨location, ⟨mem, same⟩, rfl, rfl⟩
  rw [← given]
  unfold restored
  cases list : off.filter fun l => l.kind = kind with
  | nil => simp
  | cons first rest => simp [ToolHook.covers]

end Engine

/-! ## What the tool would have -/

namespace ToolShare

/-- The callback that stands for the tool: the wrapped one where the profilers put theirs, and the
registered one elsewhere. -/
def tenant (s : ToolShare) (f : Facility) (kind : EventKind) : Option ToolHook :=
  if 0 < s.threads ∧ kind ∈ ourKinds then s.wrapped.get? kind
  else f.callback? Facility.profilerTool kind

/-- The tool does not hear of a location any more. -/
def Off (s : ToolShare) (f : Facility) (location : Location) : Prop :=
  f.isDisabled Facility.profilerTool location ∨
    (location.kind ∈ ourKinds ∧ location ∈ s.stillOff f.restarts) ∨
    ∃ hook, s.tenant f location.kind = some hook ∧ hook.covers f.restarts location

theorem noticed_disabled (s : ToolShare) (restarts : Nat) :
    (s.noticed restarts).disabled = s.stillOff restarts := by
  unfold noticed stillOff
  split <;> rfl

theorem noticed_seen (s : ToolShare) (restarts : Nat) : (s.noticed restarts).seenRestart = restarts := by
  unfold noticed
  split
  · assumption
  · rfl

/-- To notice a restart switches nothing off or on. -/
theorem stillOff_noticed (s : ToolShare) (restarts : Nat) :
    (s.noticed restarts).stillOff restarts = s.stillOff restarts := by
  rw [← s.noticed_disabled restarts]
  exact if_pos (s.noticed_seen restarts)

theorem stillOff_answered (s : ToolShare) (event : MonitorEvent) (action : MonitorAction)
    {restarts : Nat} {location : Location} (off : location ∈ s.stillOff restarts) :
    location ∈ (s.answered event action).stillOff restarts := by
  have seen : (s.answered event action).seenRestart = s.seenRestart := by rw [s.answered_eq]
  unfold stillOff at off ⊢
  rw [seen]
  split
  · rename_i same
    rw [if_pos same] at off
    exact (s.mem_answered event action location).mpr (.inl off)
  · rename_i other
    rw [if_neg other] at off
    exact off

/-- A restart is noticed once. -/
theorem noticed_noticed (s : ToolShare) (restarts : Nat) :
    (s.noticed restarts).noticed restarts = s.noticed restarts := if_pos (s.noticed_seen restarts)

section

variable {registry : RegistryId} {f f' : Facility} {s s' : ToolShare}

/-- What stands for the tool is taken over with the callbacks. -/
theorem tenant_installs (installs : Installs registry f s f' s') (first : s.threads = 0)
    (kind : EventKind) : ({ s' with threads := 1 } : ToolShare).tenant f' kind = s.tenant f kind := by
  have alone : ¬ (0 < s.threads ∧ kind ∈ ourKinds) := fun h => absurd first (Nat.ne_of_gt h.1)
  unfold tenant
  rw [if_neg alone]
  by_cases ours : kind ∈ ourKinds
  · rw [if_pos ⟨Nat.one_pos, ours⟩]
    exact (installs.wrapped kind).trans (if_pos ours)
  · rw [if_neg fun h => ours h.2]
    exact installs.others _ _ fun h => ours h.2

/-- What stands for the tool is given back with the callbacks, under a layer where it is silent. -/
theorem tenant_restores (restores : Restores registry f s f' s') (none : s.threads = 0)
    (kind : EventKind) :
    s'.tenant f' kind = (({ s with threads := 1 } : ToolShare).tenant f kind).map fun hook =>
      if kind ∈ ourKinds then restored registry kind hook (s.stillOff f.restarts) f.restarts
      else hook := by
  have alone : ¬ (0 < s'.threads ∧ kind ∈ ourKinds) := fun h =>
    absurd (restores.threads.trans none) (Nat.ne_of_gt h.1)
  unfold tenant
  rw [if_neg alone, restores.callbacks]
  by_cases ours : kind ∈ ourKinds
  · simp [ours]
  · simp [ours]

/-- How many threads listen makes no difference to what stands for the tool. -/
theorem tenant_count (some : 0 < s.threads) {n : Nat} (given : 0 < n) (kind : EventKind) :
    ({ s with threads := n } : ToolShare).tenant f kind = s.tenant f kind := by
  unfold tenant
  simp [some, given]

end

end ToolShare

namespace Facility

/-- The facility after an answer to an event that it delivered. -/
def answered (f : Facility) (event : MonitorEvent) (action : MonitorAction) : Facility :=
  if action = .disable ∧ event.kind.canDisable then f.disable profilerTool event.location else f

theorem answered_eq (f : Facility) (event : MonitorEvent) (action : MonitorAction) :
    f.answered event action = { f with disabled := (f.answered event action).disabled } := by
  unfold answered
  split
  · exact f.disable_eq _ _
  · rfl

theorem isDisabled_congr (f : Facility) {f' : Facility} (same : f'.disabled = f.disabled)
    (location : Location) :
    f'.isDisabled profilerTool location = f.isDisabled profilerTool location := by
  unfold isDisabled
  rw [same]

theorem isDisabled_answered (f : Facility) (event : MonitorEvent) (action : MonitorAction)
    (location : Location) : (f.answered event action).isDisabled profilerTool location ↔
      f.isDisabled profilerTool location ∨
        (action = .disable ∧ event.kind.canDisable = true) ∧ location = event.location := by
  unfold answered
  by_cases off : action = .disable ∧ event.kind.canDisable = true
  · rw [if_pos off, isDisabled_disable, and_iff_right rfl, and_iff_right off, or_comm,
      eq_comm (a := location)]
  · rw [if_neg off, or_iff_left fun switched => off switched.1]

/-- The script that hears of an event, if the id is held by a tool that only answers. -/
def asks (f : Facility) (event : MonitorEvent) : Option ScriptId :=
  if (f.eventsOf profilerTool).contains event.kind ∧ ¬ f.isDisabled profilerTool event.location then
    match f.callback? profilerTool event.kind with
    | some (.script id) => some id
    | _ => none
  else none

theorem asks_unsubscribed {f : Facility} {event : MonitorEvent}
    (h : (f.eventsOf profilerTool).contains event.kind = false) : f.asks event = none := by
  unfold asks
  simp [h]

end Facility

/-- A facility and a share that mirror `g`, the facility as the tool would have it. -/
structure Mirrors (registry : RegistryId) (g f : Facility) (s : ToolShare) : Prop where
  holder : f.holder? Facility.profilerTool = g.holder? Facility.profilerTool
  held : (g.holder? Facility.profilerTool).isSome
  restarts : f.restarts = g.restarts
  seen : s.seenRestart ≤ f.restarts
  others : ∀ tool kind, tool ≠ Facility.profilerTool → f.callback? tool kind = none
  absent : ∀ kind, g.callback? Facility.profilerTool kind = none → s.tenant f kind = none
  present : ∀ kind found, g.callback? Facility.profilerTool kind = some found →
    ∃ id hook, found = .script id ∧ s.tenant f kind = some hook ∧
      hook.StandsFor registry f.restarts id
  off : ∀ location, (g.callback? Facility.profilerTool location.kind).isSome →
    (g.isDisabled Facility.profilerTool location ↔ s.Off f location)
  idle : s.threads = 0 → s.disabled = [] ∧
    f.eventsOf Facility.profilerTool = g.eventsOf Facility.profilerTool
  listening : 0 < s.threads → f.Held registry s ∧ s.owned = false ∧ s.reclaimed = false ∧
    s.wrappedEvents = g.eventsOf Facility.profilerTool

namespace Mirrors

variable {registry : RegistryId} {g f f' : Facility} {s s' : ToolShare}

/-- The callback that stands for the tool's own. -/
theorem standing (h : Mirrors registry g f s) {kind : EventKind} {hook : ToolHook}
    (there : s.tenant f kind = some hook) :
    ∃ id, g.callback? Facility.profilerTool kind = some (.script id) ∧
      hook.StandsFor registry f.restarts id := by
  cases own : g.callback? Facility.profilerTool kind with
  | none =>
    rw [h.absent kind own] at there
    cases there
  | some found =>
    obtain ⟨id, hook', rfl, there', stands⟩ := h.present kind found own
    cases there.symm.trans there'
    exact ⟨id, rfl, stands⟩

/-- What the registry noticed makes no difference to the tool. -/
theorem noticed (h : Mirrors registry g f s) : Mirrors registry g f (s.noticed f.restarts) := by
  have tenant : ∀ kind, (s.noticed f.restarts).tenant f kind = s.tenant f kind := by
    intro kind
    rw [s.noticed_eq]
    rfl
  have still := s.stillOff_noticed f.restarts
  have threads : (s.noticed f.restarts).threads = s.threads := by rw [s.noticed_eq]
  refine ⟨h.holder, h.held, h.restarts, Nat.le_of_eq (s.noticed_seen _), h.others, fun kind own => ?_,
    fun kind found own => ?_, fun location own => ?_, fun none => ?_, fun on => ?_⟩
  · rw [tenant]
    exact h.absent kind own
  · rw [tenant]
    exact h.present kind found own
  · rw [h.off location own]
    unfold ToolShare.Off
    rw [still, tenant]
  · rw [threads] at none
    refine ⟨?_, (h.idle none).2⟩
    rw [s.noticed_disabled, ToolShare.stillOff_of_nothing (h.idle none).1]
  · rw [threads] at on
    obtain ⟨held, owned, reclaimed, events⟩ := h.listening on
    rw [s.noticed_eq]
    exact ⟨⟨held.holder, held.ours, held.events⟩, owned, reclaimed, events⟩

/-- An answer to an event that the tool heard of itself. -/
theorem own (h : Mirrors registry g f s) (event : MonitorEvent) (action : MonitorAction) :
    Mirrors registry (g.answered event action) (f.answered event action) s := by
  have hg := g.answered_eq event action
  have hf := f.answered_eq event action
  have off : ∀ location, (g.callback? Facility.profilerTool location.kind).isSome →
      ((g.answered event action).isDisabled Facility.profilerTool location ↔
        s.Off (f.answered event action) location) := by
    intro location own
    have before := h.off location own
    have tenant : s.tenant (f.answered event action) location.kind = s.tenant f location.kind := by
      rw [hf]
      rfl
    have restarts : (f.answered event action).restarts = f.restarts := by rw [hf]
    unfold ToolShare.Off at before ⊢
    rw [tenant, restarts, Facility.isDisabled_answered, Facility.isDisabled_answered, before]
    exact or_right_comm
  rw [hg, hf] at off ⊢
  exact ⟨h.holder, h.held, h.restarts, h.seen, h.others, h.absent, h.present, off, h.idle, fun on =>
    ⟨⟨(h.listening on).1.holder, (h.listening on).1.ours, (h.listening on).1.events⟩,
      (h.listening on).2⟩⟩

/-- An answer to an event that the profilers passed on. -/
theorem passed (h : Mirrors registry g f s) {event : MonitorEvent} (on : 0 < s.threads)
    (ours : event.kind ∈ ourKinds) (seen : s.seenRestart = f.restarts) (action : MonitorAction) :
    Mirrors registry (g.answered event action) f (s.answered event action) := by
  have hg := g.answered_eq event action
  have hs := s.answered_eq event action
  have off : ∀ location, (g.callback? Facility.profilerTool location.kind).isSome →
      ((g.answered event action).isDisabled Facility.profilerTool location ↔
        (s.answered event action).Off f location) := by
    intro location own
    have before := h.off location own
    have tenant : (s.answered event action).tenant f location.kind = s.tenant f location.kind := by
      rw [hs]
      rfl
    have still : location ∈ (s.answered event action).stillOff f.restarts ↔
        location ∈ s.stillOff f.restarts ∨
          (action = .disable ∧ event.kind.canDisable = true) ∧ location = event.location := by
      have seen' : (s.answered event action).seenRestart = f.restarts := by
        rw [hs]
        exact seen
      rw [ToolShare.stillOff_of_seen seen, ToolShare.stillOff_of_seen seen']
      exact s.mem_answered event action location
    have same : location = event.location → location.kind ∈ ourKinds := by
      rintro rfl
      exact ours
    unfold ToolShare.Off at before ⊢
    rw [tenant, still, Facility.isDisabled_answered, before]
    grind
  rw [hg, hs] at off ⊢
  exact ⟨h.holder, h.held, h.restarts, h.seen, h.others, h.absent, h.present, off,
    fun none => absurd none (Nat.ne_of_gt on), fun on =>
    ⟨⟨(h.listening on).1.holder, (h.listening on).1.ours, (h.listening on).1.events⟩,
      (h.listening on).2⟩⟩

/-- A restart switches everything on again, wherever it was switched off. -/
theorem restart (h : Mirrors registry g f s) : Mirrors registry g.restart f.restart s := by
  have restarts : f.restart.restarts = f.restarts + 1 := rfl
  have tenant : ∀ kind, s.tenant f.restart kind = s.tenant f kind := fun _ => rfl
  refine ⟨h.holder, h.held, congrArg (· + 1) h.restarts, Nat.le_succ_of_le h.seen, h.others, h.absent,
    fun kind found own => ?_, fun location own => ?_, h.idle, fun on =>
    ⟨⟨(h.listening on).1.holder, (h.listening on).1.ours, (h.listening on).1.events⟩,
      (h.listening on).2⟩⟩
  · obtain ⟨id, hook, rfl, there, stands⟩ := h.present kind found own
    exact ⟨id, hook, rfl, there, stands.within, stands.core, stands.past.restart⟩
  · have native : g.restart.isDisabled Facility.profilerTool location = false := rfl
    have bare : f.restart.isDisabled Facility.profilerTool location = false := rfl
    have older : ¬ s.seenRestart = f.restarts + 1 := by
      have := h.seen
      omega
    have none : s.stillOff (f.restarts + 1) = [] := if_neg older
    rw [native]
    unfold ToolShare.Off
    rw [bare, restarts, tenant, none]
    constructor
    · exact fun off => absurd off Bool.false_ne_true
    · rintro (off | ⟨-, mem⟩ | ⟨hook, there, off⟩)
      · exact off
      · cases mem
      · obtain ⟨id, -, stands⟩ := h.standing there
        rw [ToolHook.covers_restart stands.past] at off
        exact off

/-- Where the profilers put no callback, the tool's kinds are subscribed to. -/
theorem subscribed (h : Mirrors registry g f s) {kind : EventKind}
    (apart : ¬ (0 < s.threads ∧ kind ∈ ourKinds)) :
    (f.eventsOf Facility.profilerTool).contains kind =
      (g.eventsOf Facility.profilerTool).contains kind := by
  by_cases on : 0 < s.threads
  · obtain ⟨held, -, -, events⟩ := h.listening on
    have other : kind ∉ ourKinds := fun ours => apart ⟨on, ours⟩
    rw [held.events, events]
    exact contains_widened_other _ other
  · rw [(h.idle (Nat.eq_zero_of_not_pos on)).2]

/-! ## Who hears of an event -/

section

variable {event : MonitorEvent}

theorem asks_off (h : Mirrors registry g f s) (off : s.Off f event.location) :
    g.asks event = none := by
  unfold Facility.asks
  cases own : g.callback? Facility.profilerTool event.kind with
  | none => exact ite_self _
  | some hook =>
    have there : (g.callback? Facility.profilerTool event.location.kind).isSome :=
      Option.isSome_iff_exists.mpr ⟨hook, own⟩
    rw [if_neg fun on => on.2 ((h.off _ there).mpr off)]

theorem asks_absent (h : Mirrors registry g f s) (none : s.tenant f event.kind = none) :
    g.asks event = Option.none := by
  unfold Facility.asks
  cases own : g.callback? Facility.profilerTool event.kind with
  | none => exact ite_self _
  | some hook =>
    obtain ⟨id, hook', -, there, -⟩ := h.present _ _ own
    cases none.symm.trans there

theorem asks_standing (h : Mirrors registry g f s)
    (on : (g.eventsOf Facility.profilerTool).contains event.kind = true)
    (heard : ¬ s.Off f event.location) {id : ScriptId}
    (own : g.callback? Facility.profilerTool event.kind = some (.script id)) :
    g.asks event = some id := by
  have there : (g.callback? Facility.profilerTool event.location.kind).isSome :=
    Option.isSome_iff_exists.mpr ⟨_, own⟩
  unfold Facility.asks
  rw [if_pos ⟨on, fun off => heard ((h.off _ there).mp off)⟩, own]

end

/-- Where the tool does not hear of an event any more, switching it off once more changes nothing. -/
theorem answered_off (h : Mirrors registry g f s) {event : MonitorEvent} {hook : ToolHook}
    (there : s.tenant f event.kind = some hook) (off : s.Off f event.location) :
    g.answered event .disable = g := by
  obtain ⟨id, own, -⟩ := h.standing there
  have own : (g.callback? Facility.profilerTool event.location.kind).isSome :=
    Option.isSome_iff_exists.mpr ⟨_, own⟩
  unfold Facility.answered Facility.disable
  rw [if_pos ((h.off _ own).mpr off)]
  exact ite_self g

/-- The tool does not notice that the profilers take its id over. -/
theorem installed (h : Mirrors registry g f s) (first : s.threads = 0)
    (installs : Installs registry f s f' s') :
    Mirrors registry g f' { s' with threads := 1 } := by
  have tenant := ToolShare.tenant_installs installs first
  obtain ⟨name, named⟩ := Option.isSome_iff_exists.mp h.held
  rw [← h.holder] at named
  have holder : f'.holder? Facility.profilerTool = f.holder? Facility.profilerTool := by
    rw [installs.holder, named]
    rfl
  refine ⟨holder.trans h.holder, h.held, installs.restarts.trans h.restarts,
    Nat.le_of_eq (installs.seen.trans installs.restarts.symm), fun tool kind other => ?_,
    fun kind own => ?_, fun kind found own => ?_, fun location own => ?_, fun none => (by cases none),
    fun _ => ⟨⟨?_, installs.ours, installs.events⟩, ?_, installs.reclaimed, ?_⟩⟩
  · rw [installs.others _ _ fun h => other h.1]
    exact h.others tool kind other
  · rw [tenant]
    exact h.absent kind own
  · rw [tenant, installs.restarts]
    exact h.present kind found own
  · have before := ToolShare.stillOff_of_nothing (h.idle first).1 f.restarts
    have after : ({ s' with threads := 1 } : ToolShare).stillOff f.restarts = [] :=
      ToolShare.stillOff_of_nothing installs.off f.restarts
    rw [h.off location own]
    unfold ToolShare.Off
    rw [f.isDisabled_congr installs.disabled, before, tenant, installs.restarts, after]
  · rw [holder, named]
    rfl
  · show s'.owned = false
    rw [installs.owned, named]
    rfl
  · show s'.wrappedEvents = _
    rw [installs.wrappedEvents, named]
    exact (h.idle first).2

/-- Nor that they give it back. -/
theorem restored (h : Mirrors registry g f { s with threads := 1 }) (none : s.threads = 0)
    (restores : Restores registry f s f' s') : Mirrors registry g f' s' := by
  have tenant := ToolShare.tenant_restores restores none
  have off : s'.threads = 0 := restores.threads.trans none
  refine ⟨restores.holder.trans h.holder, h.held, restores.restarts.trans h.restarts, ?_,
    fun tool kind other => ?_, fun kind own => ?_, fun kind found own => ?_, fun location own => ?_,
    fun _ => ⟨restores.off, restores.events.trans (h.listening Nat.one_pos).2.2.2⟩,
    fun on => absurd off (Nat.ne_of_gt on)⟩
  · rw [restores.seen, restores.restarts]
    exact h.seen
  · rw [restores.callbacks, if_neg fun h => other h.1]
    exact h.others tool kind other
  · rw [tenant, h.absent kind own]
    rfl
  · obtain ⟨id, hook, rfl, there, stands⟩ := h.present kind found own
    rw [restores.restarts]
    refine ⟨id, _, rfl, by rw [tenant, there]; rfl, ?_⟩
    split
    · exact standsFor_restored stands kind _
    · exact stands
  · have nothing := ToolShare.stillOff_of_nothing restores.off f.restarts
    have still : ({ s with threads := 1 } : ToolShare).stillOff f.restarts = s.stillOff f.restarts := rfl
    obtain ⟨found, there⟩ := Option.isSome_iff_exists.mp own
    obtain ⟨id, hook, rfl, there, -⟩ := h.present _ found there
    rw [h.off location own]
    unfold ToolShare.Off
    rw [f.isDisabled_congr restores.disabled, restores.restarts, nothing, still, tenant, there]
    -- what was switched off in the share is switched off by the layer
    by_cases ours : location.kind ∈ ourKinds
    · simp [ours, covers_restored location rfl]
    · simp [ours]

/-- **The tool notices neither that the profilers take its id over nor that they give it back.** -/
theorem handover (registry : RegistryId) (g : Facility) : Handover registry (Mirrors registry g) :=
  .intro (fun h first installs => h.installed first installs)
    (fun h => (h.listening Nat.one_pos).1.holder)
    (fun {_ s} h _ own => by
      obtain ⟨-, owned, reclaimed, -⟩ := h.listening Nat.one_pos
      have owned : s.owned = false := owned
      have reclaimed : s.reclaimed = false := reclaimed
      simp [owned, reclaimed] at own)
    (fun h none _ _ restores => h.restored none restores)
    fun {f s n} h some given => by
      have tenant := fun kind => ToolShare.tenant_count (f := f) some given kind
      refine ⟨h.holder, h.held, h.restarts, h.seen, h.others, fun kind own => ?_,
        fun kind found own => ?_, fun location own => ?_, fun none => absurd none (Nat.ne_of_gt given),
        fun _ => ?_⟩
      · rw [tenant]
        exact h.absent kind own
      · rw [tenant]
        exact h.present kind found own
      · rw [h.off location own]
        unfold ToolShare.Off
        rw [tenant]
        rfl
      · obtain ⟨held, rest⟩ := h.listening some
        exact ⟨⟨held.holder, held.ours, held.events⟩, rest⟩

end Mirrors

namespace Engine

variable {registry : RegistryId} {e : Engine}

/-- An answer of a callback that left the id alone. -/
theorem answer_absorbEvent_held (h : Unguarded registry e)
    (held : e.facility.Held registry (e.share registry)) (event : MonitorEvent)
    (action : MonitorAction) :
    answer (absorbEvent registry event (.ok action)) e =
      (.ok .goOn, (retooled registry e e.hooks e.facility ((e.share registry).answered event action)
        ).withDispatch registry { e.dispatchOf registry with busy := false }) := by
  unfold absorbEvent
  rw [answer_liftM_bind (run_absorbTool_held h held)]
  simp only
  unfold ToolShare.answered
  by_cases off : action = .disable ∧ event.kind.canDisable = true
  · rw [if_pos off, if_pos off, answer_liftM_bind (run_modifyShare h _)]
    rfl
  · rw [if_neg off, if_neg off, retooled_share h]
    rfl

end Engine

end LineClock
