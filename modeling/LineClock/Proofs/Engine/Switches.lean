import LineClock.Proofs.Engine.Refusing
import LineClock.Proofs.Engine.ToolAmid

/-!
# Switching on several threads

Profilers of a registry are switched on and off on any threads in any order, with nothing else in
between. What switching keeps is kept all along, and when nobody is on in the end, the facility is as
it was before nobody was.

Main statements: `Switching.switches` and `Stationed.switches_alike`.
-/

namespace LineClock

open Machine Engine

namespace Facility.Alike

variable {f f' f'' : Facility}

theorem symm (h : f.Alike f') : f'.Alike f :=
  ⟨h.holder.symm, fun tool kind => (h.callbacks tool kind).symm, h.events.symm⟩

theorem trans (h : f.Alike f') (h' : f'.Alike f'') : f.Alike f'' :=
  ⟨h'.holder.trans h.holder, fun tool kind => (h'.callbacks tool kind).trans (h.callbacks tool kind),
    h'.events.trans h.events⟩

end Facility.Alike

/-- Switching a profiler on or off on a thread. -/
structure Switch where
  thread : ThreadKey
  profiler : ProfilerId
  on : Bool

namespace Engine

/-- Switch a profiler on its thread. -/
def switch (registry : RegistryId) (w : Switch) : StateM Engine (Except ProfilerError Nat) := do
  modify fun e => { e with thread := w.thread }
  if w.on then (enable registry w.profiler).run else (disable registry w.profiler).run

/-- The engine after profilers were switched. -/
def switches (registry : RegistryId) : List Switch → Engine → Engine
  | [], e => e
  | w :: rest, e => switches registry rest ((switch registry w).run e).2

/-- No profiler of a registry is on anywhere. -/
def Nobody (registry : RegistryId) (e : Engine) : Prop :=
  ∀ th, (e.dispatchAt th registry).isActive = false

end Engine

/-- **What switching keeps** is kept however profilers are switched. -/
theorem Switching.switches {registry : RegistryId} {L : Engine → Prop} (sw : Switching registry L)
    (moves : ∀ {e}, L e → ∀ th, L { e with thread := th }) {e : Engine} (h : L e)
    (balanced : Balanced registry e) (l : List Switch) :
    L (switches registry l e) ∧ Balanced registry (Engine.switches registry l e) := by
  induction l generalizing e with
  | nil => exact ⟨h, balanced⟩
  | cons w rest ih =>
    have there : L { e with thread := w.thread } := moves h w.thread
    have balanced' : Balanced registry { e with thread := w.thread } := balanced
    have ran : ((switch registry w).run e).2 =
        if w.on then (answer (Engine.enable registry w.profiler) { e with thread := w.thread }).2
        else (answer (Engine.disable registry w.profiler) { e with thread := w.thread }).2 := by
      unfold switch
      rw [run_state_modify_bind]
      cases w.on <;> rfl
    unfold Engine.switches
    rw [ran]
    by_cases on : w.on
    · obtain ⟨e', enabled, h', b', -⟩ := sw.enable there balanced' w.profiler
      rw [if_pos on, enabled]
      exact ih h' b'
    · obtain ⟨e', disabled, h', b', -⟩ := sw.disable there balanced' w.profiler
      rw [if_neg on, disabled]
      exact ih h' b'

namespace Stationed

variable {registry : RegistryId} {held : ThreadKey → Option TraceHook} {e : Engine} {f₀ : Facility}

theorem moveTo {P : Facility → ToolShare → Prop} (h : Stationed P held registry e) (th : ThreadKey) :
    Stationed P held registry { e with thread := th } :=
  ⟨h.unguarded.same rfl rfl, h.monitored, h.slots, h.idle, h.threads, h.place⟩

/-- **Whoever was switched on and off**, the facility is as before when nobody is on. -/
theorem switches_alike (vacant : f₀.Vacant) (h : Stationed (Hosted registry f₀) held registry e)
    (balanced : Balanced registry e) (l : List Switch)
    (nobody : Nobody registry (Engine.switches registry l e)) :
    f₀.Alike (Engine.switches registry l e).facility := by
  obtain ⟨there, balanced'⟩ :=
    (switching (Hosted.handover registry vacant)).switches (fun h => h.moveTo) h balanced l
  refine there.place.off ((there.nowhere_iff balanced').mpr fun th => ?_)
  have off := nobody th
  rw [isActive_eq, Bool.not_eq_false', List.isEmpty_iff] at off
  exact off

/-- A registry that listens on no thread stands at the facility as it is. -/
theorem of_nobody (unguarded : Unguarded registry e) (monitored : e.monitored = true)
    (idle : ∀ th, (e.dispatchAt th registry).busy = false)
    (off : ∀ th, (e.dispatchAt th registry).activated = false)
    (nowhere : (e.share registry).threads = 0) :
    Stationed (Hosted registry e.facility) (fun th => e.slots.get? th) registry e := by
  refine ⟨unguarded, monitored, fun _ => rfl, idle, ⟨[], List.nodup_nil, fun th => ?_, nowhere.symm⟩,
    fun _ => .refl _, fun on => absurd nowhere (Nat.ne_of_gt on)⟩
  rw [off th]
  simp

end Stationed

end LineClock
