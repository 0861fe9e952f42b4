import LineClock.Proofs.Engine.Audience
import LineClock.Proofs.Engine.Relaying
import LineClock.Proofs.Machine.Rapport

/-!
# What profilers record before a hook

Profilers took the trace slot over from a hook. On a second machine the slot was empty when they were
switched on. Until a hook fails the profilers record the same on both: a hook may leave the slot, put
another one there or switch off line events of a frame, and the profilers hear of every event still.

Main statement: `Hears.rapport`.
-/

namespace LineClock

open Machine Engine

/-- A hook has failed. -/
def Hooked.Failed (x : Hooked) : Prop := x.failed = true

/-- A machine where profilers took the slot over from a hook, none of which has failed yet, and one
where the slot was empty. -/
structure Hears (registry : RegistryId) (crew : Crew) (x : Hooked) (e : Engine) : Prop where
  led : crew.Led
  relaying : ∃ inner, Relaying registry inner crew x
  fine : x.failed = false
  seen : e.Seen .slot registry (x.engine.scene registry)

variable {registry : RegistryId} {crew : Crew} {x : Hooked} {e : Engine} {hooks : Hooks}

namespace Hooked

theorem Failed.same {x y : Hooked} (h : x.Failed) (same : y.failed = x.failed) : y.Failed := same.trans h

/-- That a hook has failed is not taken back. -/
theorem Failed.lasts (hooks : Hooks) : (scripts hooks).Lasts (fun _ _ => True) Failed where
  covers := .any
  put h _ _ := h
  trace {x} h id frame event := by
    have failed : (answer ((scripts hooks).trace id frame event) x).2.failed =
      (x.failed || (hooks x.visits ⟨id, { frame with linesOn := true }, event⟩).error.isSome) := rfl
    have h : x.failed = true := h
    unfold Failed
    rw [failed, h, Bool.true_or]
  monitor h _ _ := h

theorem Failed.keeps (hooks : Hooks) : Keeps Failed (host hooks true) where
  newFrame x h := by
    rw [Hooked.host_newFrame]
    exact h.same rfl
  work n x h := by
    rw [Hooked.host_work]
    exact h.same rfl
  trace frame event _ h := (Failed.lasts hooks).bears.announceTrace frame event h
  monitor event _ h := (Failed.lasts hooks).announceEvent event h
  enter routine _ h := (Failed.lasts hooks).bears.enter routine h
  leave routine _ h := (Failed.lasts hooks).bears.leave routine h

end Hooked

namespace Hears

theorem silent (h : Hears registry crew x e) :
    ∀ tool kind, x.engine.facility.callback? tool kind = none := by
  obtain ⟨inner, relaying⟩ := h.relaying
  exact relaying.stands.silent

/-- A trace event is recorded on both, or a hook fails. -/
theorem trace (h : Hears registry crew x e) (hooks : Hooks) {frame : Frame}
    (lit : frame.linesOn = true) (event : TraceEvent) :
    (answer ((Hooked.host hooks true).trace frame event) x).2.Failed ∨
      ∃ x' e', answer ((Hooked.host hooks true).trace frame event) x = (.ok true, x') ∧
        answer (Scripts.quiet.host.trace frame event) e = (.ok true, e') ∧
        Hears registry crew x' e' := by
  obtain ⟨inner, relaying⟩ := h.relaying
  obtain ⟨x', answered, takes, relaying'⟩ := relaying.announceTrace h.led hooks lit event
  have answered : answer ((Hooked.host hooks true).trace frame event) x = _ := answered
  rw [answered]
  cases failed : x'.failed with
  | true => exact .inl failed
  | false =>
    obtain ⟨e', told, seen⟩ := h.seen.trace frame event
    have scene := takes.scene failed
    refine .inr ⟨x', e', ?_, lit ▸ told, h.led, ⟨_, relaying'⟩, failed, scene ▸ seen⟩
    -- had a hook failed, it would have been noted
    have fine := takes.failed.symm.trans failed
    rw [h.fine, Bool.false_or] at fine
    unfold Heard.failed at fine
    split at fine
    · rename_i mutes ok
      rw [ok]
      rfl
    · cases fine

/-- Until a hook fails, a later moment or more frames. -/
theorem setup (h : Hears registry crew x e) (clock : Counter) (frames : Nat) {e' : Engine} {s : Scene}
    (scene : ({ x.engine with clock, frames } : Engine).scene registry = s)
    (seen : e'.Seen .slot registry s) :
    Hears registry crew { x with engine := { x.engine with clock, frames } } e' := by
  obtain ⟨inner, relaying⟩ := h.relaying
  exact ⟨h.led, ⟨inner, relaying.passing clock frames⟩, h.fine, scene ▸ seen⟩

theorem newFrame (h : Hears registry crew x e) (hooks : Hooks) :
    ((Hooked.host hooks true).newFrame x).1 = (Scripts.quiet.host.newFrame e).1 ∧
      Hears registry crew ((Hooked.host hooks true).newFrame x).2
        (Scripts.quiet.host.newFrame e).2 := by
  obtain ⟨id, seen⟩ := h.seen.newFrame
  rw [Hooked.host_newFrame]
  exact ⟨id.symm, h.setup _ _ rfl seen⟩

theorem work (h : Hears registry crew x e) (hooks : Hooks) (n : UInt8) :
    Hears registry crew ((Hooked.host hooks true).work n x).2 (Scripts.quiet.host.work n e).2 := by
  have seen := h.seen.work n
  have scene := scene_withClock registry x.engine
    (x.engine.clock.satAdd (n.toUInt64 * Scripts.ticksPerUnit))
  rw [Hooked.host_work]
  exact h.setup _ _ scene seen

/-- The scope of a routine is entered on both. -/
theorem enter (h : Hears registry crew x e) (hooks : Hooks) (routine : RoutineId) :
    ∃ x' e', answer ((Hooked.host hooks true).enter routine) x = (.ok (), x') ∧
      answer (Scripts.quiet.host.enter routine) e = (.ok (), e') ∧
      Hears registry (crew.within routine) x' e' := by
  obtain ⟨inner, relaying⟩ := h.relaying
  obtain ⟨d, entered, relaying', scene, -⟩ := relaying.enter h.led hooks routine
  obtain ⟨e', entered', seen⟩ := h.seen.enter routine
  exact ⟨_, e', entered, entered', h.led.within routine, ⟨inner, relaying'⟩, h.fine, scene ▸ seen⟩

/-- The scope of a routine is left on both. -/
theorem leave {routine : RoutineId} (h : Hears registry (crew.within routine) x e) (led : crew.Led)
    (hooks : Hooks) :
    Hears registry crew ((Hooked.host hooks true).leave routine x).2
      (Scripts.quiet.host.leave routine e).2 := by
  obtain ⟨inner, relaying⟩ := h.relaying
  obtain ⟨d, left, relaying', scene, -⟩ := relaying.leave led hooks
  have left : ((Hooked.host hooks true).leave routine x).2 = _ := left
  have seen := h.seen.leave routine
  rw [left]
  exact ⟨led, ⟨inner, relaying'⟩, h.fine, scene ▸ seen⟩

/-- **The profilers record the same on both machines until a hook fails.** -/
theorem rapport (registry : RegistryId) (hooks : Hooks) :
    Rapport Hooked.Failed (Hears registry) (Hooked.host hooks true) Scripts.quiet.host where
  keeps := Hooked.Failed.keeps hooks
  code {_ x e} h routine := by
    have same : x.engine.codeOf routine = e.codeOf routine :=
      congrArg (fun s : Scene => s.codeOf routine) h.seen.scene.symm
    exact same
  newFrame h := h.newFrame hooks
  work h n := h.work hooks n
  trace h frame event lit := h.trace hooks lit event
  monitor {_ x e} h event := by
    obtain ⟨e', told, seen⟩ := h.seen.monitor event
    exact .inr ⟨x, e', Hooked.announceEvent hooks h.silent event, told, h.led, h.relaying, h.fine, seen⟩
  enter {crew x e} h routine := by
    obtain ⟨x', e', entered, entered', hears⟩ := h.enter hooks routine
    exact .inr ⟨crew.within routine, x', e', entered, entered', hears, fun hears =>
      hears.leave h.led hooks⟩

end Hears

end LineClock
