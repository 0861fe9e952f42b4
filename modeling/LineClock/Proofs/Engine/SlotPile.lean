import LineClock.Proofs.Engine.Pile
import LineClock.Proofs.Engine.Tidings

/-!
# Registries one before the other at the trace slot

How several registries stand that listen through the trace slot of one thread: each has saved the
hook of the one that began before it, the first one the hook that was there before, and the slot
holds the hook of the last one.

Main statements: `SlotPile.piling` for switching, and `Perched.takes` and `Perched.absorbs` for what
a registry does before and after an event went on.
-/

namespace LineClock

open Machine Engine

/-! ## Changes on the running thread -/

/-- The way from an engine to one where the running thread knows `d` of a registry and has `slot` in
its slot. -/
structure Slotted (r : RegistryId) (d : Dispatch) (slot : Option TraceHook) (e e' : Engine) : Prop
    extends Abides e e' where
  registries : e'.registries = e.registries
  facility : e'.facility = e.facility
  others : ∀ r', r' ≠ r → e'.dispatchOf r' = e.dispatchOf r'
  own : e'.dispatchOf r = d
  slot : e'.traceHook? = slot

namespace Slotted

variable {r : RegistryId} {d d' : Dispatch} {slot slot' : Option TraceHook} {e e' e'' : Engine}

theorem trans (h : Slotted r d slot e e') (h' : Slotted r d' slot' e' e'') :
    Slotted r d' slot' e e'' :=
  ⟨h.toAbides.trans h'.toAbides, h'.registries.trans h.registries, h'.facility.trans h.facility,
    fun r' differ => (h'.others r' differ).trans (h.others r' differ), h'.own, h'.slot⟩

theorem reslotted (r : RegistryId) (e : Engine) (slots : Assoc ThreadKey TraceHook) (d : Dispatch) :
    Slotted r d (slots.get? e.thread) e (reslotted r e slots d) :=
  ⟨⟨rfl, rfl, rfl, rfl, rfl⟩, rfl, rfl, fun _ differ => withDispatch_others differ e d e.thread,
    reslotted_dispatchOf r e slots d, rfl⟩

theorem withDispatch (r : RegistryId) (e : Engine) (d : Dispatch) :
    Slotted r d e.traceHook? e (e.withDispatch r d) := reslotted r e e.slots d

/-- Knowledge of a registry that is put back. -/
theorem same (known : e.dispatchOf r = d) : Slotted r d e.traceHook? e e :=
  ⟨.refl e, rfl, rfl, fun _ _ => rfl, known, rfl⟩

/-- Where no frame is muted, recording an event leaves what the thread knows. -/
theorem heard (clean : (e.dispatchOf r).muted = []) (frame : Frame) (event : TraceEvent) :
    Slotted r (e.dispatchOf r) e.traceHook? e (heard r e frame event) := by
  have unmuted : (e.dispatchOf r).unmute frame.id = e.dispatchOf r := by
    generalize e.dispatchOf r = d at clean
    obtain ⟨active, busy, activated, saved, wrapped, ours, muted⟩ := d
    cases clean
    rfl
  unfold Engine.heard
  simp only
  rw [unmuted]
  split
  · exact ⟨⟨rfl, rfl, rfl, rfl, rfl⟩, rfl, rfl,
      fun _ differ => withDispatch_others differ _ _ e.thread, withDispatch_dispatchOf r _ _, rfl⟩
  · exact ⟨⟨rfl, rfl, rfl, rfl, rfl⟩, rfl, rfl, fun _ _ => rfl, rfl, rfl⟩

end Slotted

/-! ## One registry before a hook -/

/-- What a thread knows of a registry that listens with `hook` before the hook `inner`. -/
structure Perched (r : RegistryId) (inner hook : TraceHook) (d : Dispatch) : Prop where
  own : ∃ serial, hook = .profiler r serial
  ours : d.ours = some hook
  saved : d.saved = some inner
  wrapped : d.wrapped = some inner

/-- The same with another hook to go on to. -/
def Dispatch.before (d : Dispatch) (inner : TraceHook) : Dispatch :=
  { d with saved := some inner, wrapped := some inner }

/-- A registry that hears of nothing now: it waits for another hook, or nobody is on. -/
def Deaf (d : Dispatch) : Prop := d.busy = true ∨ d.active = []

namespace Perched

variable {r : RegistryId} {inner hook : TraceHook} {d : Dispatch} {e : Engine}

theorem before (h : Perched r inner hook d) (inner' : TraceHook) :
    Perched r inner' hook (d.before inner') := ⟨h.own, h.ours, rfl, rfl⟩

/-- Who is on is not among it. -/
theorem withActive (h : Perched r inner hook d) (on : List (ProfilerId × Nat)) :
    Perched r inner hook { d with active := on } := ⟨h.own, h.ours, h.saved, h.wrapped⟩

/-- An event is recorded and goes on. -/
theorem takes (h : Perched r inner hook (e.dispatchOf r)) (idle : (e.dispatchOf r).busy = false)
    (clean : (e.dispatchOf r).muted = []) (somebody : (e.dispatchOf r).active ≠ [])
    (once : ((e.dispatchOf r).active.map Prod.fst).Nodup)
    (wraps : ∀ p, (e.dispatchOf r).isOn p = true → (e.profiler p).wrap = true) (frame : Frame)
    (event : TraceEvent) :
    ∃ e₁, (takeTrace r frame event).run e = (some inner, e₁) ∧
      Slotted r { e.dispatchOf r with busy := true } e.traceHook? e e₁ ∧
      Books (event.tidings frame) (e.dispatchOf r).isOn e e₁ := by
  have there := Slotted.heard clean frame event
  have books := books_heard once frame event
  have wants : (Engine.heard r e frame event).wantsWrap r = true :=
    wantsWrap_of_all there.own somebody fun p on => (books.wrap p).trans (wraps p on)
  have taken := run_takeTrace r e frame event
  rw [idle, clean, h.wrapped] at taken
  simp only [Bool.false_eq_true, if_false, wants, not_true, List.contains_nil, and_false,
    or_false, there.own] at taken
  have busy := Slotted.withDispatch r (Engine.heard r e frame event)
    { e.dispatchOf r with busy := true }
  rw [there.slot] at busy
  exact ⟨_, taken, there.trans busy, books.same rfl⟩

/-- When the other hook has answered, the registry is before the hook that is in the slot, if that is
not its own, and has the slot again. -/
theorem absorbs (h : Perched r inner hook d) (idle : d.busy = false) (on : d.activated = true)
    (known : e.dispatchOf r = { d with busy := true }) {found : TraceHook}
    (slot : e.traceHook? = some found) (frame : Frame) :
    ∃ e', answer (absorbTrace r frame (.ok true)) e = (.ok true, e') ∧
      Slotted r (d.before (if found = hook then inner else found)) (some hook) e e' ∧
      e'.profilers = e.profilers := by
  have mine : (e.dispatchOf r).ours = some hook := by
    rw [known]
    exact h.ours
  have same : (e.dispatchOf r).saved = (e.dispatchOf r).wrapped := by
    rw [known]
    exact h.saved.trans h.wrapped.symm
  have active : (e.dispatchOf r).activated = true := by
    rw [known]
    exact on
  obtain ⟨slots, absorbed, there⟩ := answer_absorbTrace_ok active mine frame same true
  have next : successor hook e (e.dispatchOf r) = some (if found = hook then inner else found) := by
    unfold successor
    rw [slot, known]
    by_cases own : found = hook
    · rw [if_pos own, if_pos (congrArg some own)]
      exact h.wrapped
    · rw [if_neg own, if_neg fun same => own (Option.some.inj same)]
  have whole : answered (e.dispatchOf r) (successor hook e (e.dispatchOf r)) true frame.id =
      d.before (if found = hook then inner else found) := by
    rw [next, known]
    generalize (if found = hook then inner else found) = inner'
    obtain ⟨active, busy, activated, saved, wrapped, ours, muted⟩ := d
    cases idle
    rfl
  rw [whole] at absorbed
  have kept := Slotted.reslotted r e slots (d.before (if found = hook then inner else found))
  rw [there, if_pos rfl] at kept
  exact ⟨_, absorbed, kept, rfl⟩

end Perched

/-- **A registry that hears of nothing** lets an event pass. -/
theorem Deaf.takes {r : RegistryId} {e : Engine} (deaf : Deaf (e.dispatchOf r))
    (clean : (e.dispatchOf r).muted = []) (frame : Frame) (event : TraceEvent) :
    ∃ e₁, (takeTrace r frame event).run e = (none, e₁) ∧
      Slotted r (e.dispatchOf r) e.traceHook? e e₁ ∧ e₁.profilers = e.profilers := by
  have taken := run_takeTrace r e frame event
  cases busy : (e.dispatchOf r).busy with
  | true =>
    rw [busy] at taken
    exact ⟨e, taken, .same rfl, rfl⟩
  | false =>
    have nobody : (e.dispatchOf r).active = [] := by
      rcases deaf with waits | nobody
      · rw [busy] at waits
        cases waits
      · exact nobody
    have there := Slotted.heard clean frame event
    have none : ¬ (Engine.heard r e frame event).wantsWrap r = true := by
      unfold wantsWrap
      rw [there.own, nobody]
      exact Bool.false_ne_true
    have same : (Engine.heard r e frame event).profilers = e.profilers := by
      have scene := heard_scene r e frame event
      rw [Scene.hear_nobody (s := e.scene r) nobody] at scene
      exact congrArg Scene.profilers scene
    rw [busy] at taken
    simp only [Bool.false_eq_true, if_false, none, not_false_eq_true, true_or, if_true] at taken
    exact ⟨_, taken, there, same⟩

/-! ## A pile of registries -/

/-- `hook` is that of the first registry of a pile. Each of them listens before the next one, and the
last one before `bottom`. -/
def Stacked (e : Engine) (bottom : TraceHook) : List RegistryId → TraceHook → Prop
  | [], hook => hook = bottom
  | r :: rest, hook => ∃ inner, Perched r inner hook (e.dispatchOf r) ∧ Stacked e bottom rest inner

/-- What the thread knows of other registries does not matter. -/
theorem Stacked.congr {e e' : Engine} {bottom : TraceHook} {pile : List RegistryId} :
    ∀ {hook}, Stacked e bottom pile hook → (∀ r ∈ pile, ∀ inner hook,
      Perched r inner hook (e.dispatchOf r) → Perched r inner hook (e'.dispatchOf r)) →
        Stacked e' bottom pile hook := by
  induction pile with
  | nil => exact fun h _ => h
  | cons r rest ih =>
    rintro hook ⟨inner, perched, below⟩ kept
    exact ⟨inner, kept r List.mem_cons_self inner hook perched,
      ih below fun r' mem => kept r' (List.mem_cons_of_mem _ mem)⟩

/-- Registries at the trace slot, those that listen in a pile above a hook for which `B` holds.
Nothing else changed of how registries and the facility were. -/
structure SlotPile (registries : Assoc RegistryId Registry) (facility : Facility)
    (B : TraceHook → Prop) (pile : List RegistryId) (e : Engine) : Prop where
  registries : e.registries = registries
  facility : e.facility = facility
  stacked : ∃ bottom hook, B bottom ∧ e.traceHook? = some hook ∧ Stacked e bottom pile hook
  once : pile.Nodup

namespace SlotPile

variable {registries : Assoc RegistryId Registry} {facility : Facility} {B : TraceHook → Prop}
  {rs pile : List RegistryId} {e : Engine} {r : RegistryId}

theorem backend_eq (h : SlotPile registries facility B pile e) (r : RegistryId) :
    (e.registry r).backend = (registries.getD r default).backend :=
  congrArg (fun registries => (Assoc.getD registries r default).backend) h.registries

/-- **Switching profilers** puts hooks on the pile and takes them away. -/
theorem piling (backend : ∀ r ∈ rs, (registries.getD r default).backend = .slot) :
    Piling rs (SlotPile registries facility B) where
  activate {pile e r} h mem absent := by
    obtain ⟨bottom, hook, below, slot, stacked⟩ := h.stacked
    have slots := withHook_slots e (some (.profiler r e.hooks)) e.thread
    rw [if_pos rfl] at slots
    have known : (e.registry r).backend = .slot := (h.backend_eq r).trans (backend r mem)
    have change : Slotted r (SlotWraps.started r e) (some (.profiler r e.hooks)) e
        (reslotted r { e with hooks := e.hooks + 1 }
          (hookAt e.slots e.thread (some (.profiler r e.hooks))) (SlotWraps.started r e)) := by
      have put := Slotted.reslotted r { e with hooks := e.hooks + 1 }
        (hookAt e.slots e.thread (some (.profiler r e.hooks))) (SlotWraps.started r e)
      have there : (hookAt e.slots e.thread (some (.profiler r e.hooks))).get? e.thread =
        some (.profiler r e.hooks) := slots
      rw [there] at put
      exact ⟨⟨rfl, rfl, rfl, rfl, rfl⟩, rfl, rfl, put.others, put.own, put.slot⟩
    refine ⟨_, SlotWraps.answer_activate known, ⟨change.registries.trans h.registries,
      change.facility.trans h.facility, ⟨bottom, .profiler r e.hooks, below, change.slot, hook, ?_, ?_⟩,
      List.nodup_cons.mpr ⟨absent, h.once⟩⟩, ?_⟩
    · rw [change.own]
      exact ⟨⟨e.hooks, rfl⟩, rfl, slot, slot⟩
    · refine stacked.congr fun r' mem inner hook perched => ?_
      rw [change.others r' fun same => absent (same ▸ mem)]
      exact perched
    · refine ⟨change.toAbides, rfl, change.others, ?_, ?_, ?_, fun _ => ?_⟩
      all_goals rw [change.own]; rfl
  deactivate {pile e r} h mem on := by
    obtain ⟨bottom, hook, below, slot, inner, perched, stacked⟩ := h.stacked
    obtain ⟨absent, once⟩ := List.nodup_cons.mp h.once
    have known : (e.registry r).backend = .slot := (h.backend_eq r).trans (backend r mem)
    have slots := withHook_slots e (some inner) e.thread
    rw [if_pos rfl] at slots
    have done := SlotWraps.answer_deactivate known on
    rw [perched.saved] at done
    have change := Slotted.reslotted r e (hookAt e.slots e.thread (some inner))
      (SlotWraps.stopped (e.dispatchOf r))
    have there : (hookAt e.slots e.thread (some inner)).get? e.thread = some inner := slots
    rw [there] at change
    refine ⟨_, done, ⟨change.registries.trans h.registries, change.facility.trans h.facility,
      ⟨bottom, inner, below, change.slot, ?_⟩, once⟩, ?_⟩
    · refine stacked.congr fun r' mem inner hook perched => ?_
      rw [change.others r' fun same => absent (same ▸ mem)]
      exact perched
    · refine ⟨change.toAbides, rfl, change.others, ?_, ?_, ?_, fun _ => ?_⟩
      all_goals rw [change.own]; rfl
  counts {pile e} r on h := by
    obtain ⟨bottom, hook, below, slot, stacked⟩ := h.stacked
    have change := Slotted.withDispatch r e { e.dispatchOf r with active := on }
    refine ⟨h.registries, h.facility, ⟨bottom, hook, below, slot, ?_⟩, h.once⟩
    refine stacked.congr fun r' _ inner hook perched => ?_
    by_cases here : r' = r
    · rw [here] at perched ⊢
      rw [change.own]
      exact perched.withActive on
    · rw [change.others r' here]
      exact perched

end SlotPile

end LineClock
