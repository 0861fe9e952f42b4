import LineClock.Proofs.Engine.Absorbing
import LineClock.Proofs.Engine.Passing

/-!
# A tool that tampers with its id

A tool whose callbacks stand under the profilers' id may do anything to that id while one of them
runs: register callbacks, subscribe, let the id go and claim it again, restart events. How the
profilers stand there is kept all the same, and no event is kept from them, as long as the machine
itself had no location switched off for the id when they began to listen.

Main statements: `Tenanted.handover` and `Tampered.announceEvent`.
-/

namespace LineClock

open Machine Engine

/-! ## Tampering -/

/-- What a callback can do to the id it is registered under. -/
inductive Tamper (registry : RegistryId) where
  | register (kind : EventKind) (hook : Option { hook : ToolHook // hook.Within registry })
  | setEvents (events : EventSet)
  | free
  | claim (name : String)
  | restart

namespace Facility

variable {registry : RegistryId} {f f' : Facility}

/-- Callbacks are registered under the profilers' id alone, and all belong to scripts and to one
registry. -/
structure Tame (registry : RegistryId) (f : Facility) : Prop where
  others : ∀ tool kind, tool ≠ profilerTool → f.callback? tool kind = none
  within : ∀ kind hook, f.callback? profilerTool kind = some hook → hook.Within registry

/-- No location of a kind that profilers listen to is switched off for their id. -/
def Clear (f : Facility) : Prop :=
  ∀ d ∈ f.disabled, ¬ (d.1 = profilerTool ∧ d.2.kind ∈ ourKinds)

instance : Decidable f.Clear :=
  inferInstanceAs (Decidable (∀ d ∈ f.disabled, ¬ (d.1 = profilerTool ∧ d.2.kind ∈ ourKinds)))

theorem Tame.callbacks (h : f.Tame registry) (same : f'.callbacks = f.callbacks) :
    f'.Tame registry := by
  have read : ∀ tool kind, f'.callback? tool kind = f.callback? tool kind := by
    intro tool kind
    unfold callback?
    rw [same]
  refine ⟨fun tool kind other => ?_, fun kind hook there => ?_⟩
  · rw [read]
    exact h.others tool kind other
  · rw [read] at there
    exact h.within kind hook there

theorem Clear.fewer (h : f.Clear) (fewer : ∀ d ∈ f'.disabled, d ∈ f.disabled) : f'.Clear :=
  fun d mem => h d (fewer d mem)

theorem Clear.isDisabled (h : f.Clear) {location : Location} (ours : location.kind ∈ ourKinds) :
    f.isDisabled profilerTool location = false := by
  rw [← Bool.not_eq_true]
  intro off
  exact h _ (List.contains_iff_mem.mp off) ⟨rfl, ours⟩

/-- Switching off a location of another kind. -/
theorem Clear.disable (h : f.Clear) {location : Location} (other : location.kind ∉ ourKinds) :
    (f.disable profilerTool location).Clear := by
  intro d mem
  rcases mem_disabled_disable.mp mem with rfl | mem
  · exact fun h => other h.2
  · exact h d mem

end Facility

namespace Tamper

variable {registry : RegistryId} {f : Facility}

/-- An operation on the id. -/
def act (f : Facility) : Tamper registry → Except HostError Facility
  | .register kind hook =>
    (f.register Facility.profilerTool kind (hook.map Subtype.val)).map Prod.snd
  | .setEvents events => f.setEvents Facility.profilerTool events
  | .free => .ok (f.free Facility.profilerTool)
  | .claim name => f.claim Facility.profilerTool name
  | .restart => .ok f.restart

/-- The facility after an operation; one that is refused changes nothing. -/
def apply (f : Facility) (t : Tamper registry) : Facility :=
  match t.act f with
  | .ok f' => f'
  | .error _ => f

theorem act_setEvents (events : EventSet) :
    (Tamper.setEvents events : Tamper registry).act f =
      if (f.holder? Facility.profilerTool).isNone then .error (.toolNotInUse Facility.profilerTool)
      else .ok { f with events := f.events.set Facility.profilerTool events } := by
  show f.setEvents Facility.profilerTool events = _
  have inside : Facility.check Facility.profilerTool = .ok () := rfl
  unfold Facility.setEvents
  rw [inside]
  cases (f.holder? Facility.profilerTool).isNone <;> rfl

theorem act_claim (name : String) :
    (Tamper.claim name : Tamper registry).act f =
      if (f.holder? Facility.profilerTool).isSome then .error (.toolInUse Facility.profilerTool)
      else .ok { f with holders := f.holders.set Facility.profilerTool name } := by
  show f.claim Facility.profilerTool name = _
  have inside : Facility.check Facility.profilerTool = .ok () := rfl
  unfold Facility.claim
  rw [inside]
  cases (f.holder? Facility.profilerTool).isSome <;> rfl

/-- Tampering with the id leaves the other ids alone. -/
theorem tame_apply (h : f.Tame registry) (t : Tamper registry) : (t.apply f).Tame registry := by
  unfold apply
  cases t with
  | register kind hook =>
    show (f.withCallback kind (hook.map Subtype.val)).Tame registry
    refine ⟨fun tool kind' other => ?_, fun kind' found there => ?_⟩
    · rw [Facility.callback?_withCallback, if_neg fun h => other h.1]
      exact h.others tool kind' other
    · rw [Facility.callback?_withCallback] at there
      split at there
      · obtain ⟨given, -, rfl⟩ := Option.map_eq_some_iff.mp there
        exact given.2
      · exact h.within kind' found there
  | setEvents events =>
    rw [act_setEvents]
    cases (f.holder? Facility.profilerTool).isNone <;> exact h.callbacks rfl
  | free =>
    refine ⟨fun tool kind other => ?_, fun kind hook there => ?_⟩
    · exact (Facility.callback?_free f tool kind).trans ((if_neg other).trans (h.others tool kind other))
    · have none := (Facility.callback?_free f Facility.profilerTool kind).trans (if_pos rfl)
      cases none.symm.trans there
  | claim name =>
    rw [act_claim]
    cases (f.holder? Facility.profilerTool).isSome <;> exact h.callbacks rfl
  | restart => exact h.callbacks rfl

/-- Tampering with the id switches no location off. -/
theorem mem_disabled_apply (t : Tamper registry) {d : ToolId × Location}
    (h : d ∈ (t.apply f).disabled) : d ∈ f.disabled := by
  unfold apply at h
  cases t with
  | register kind hook => exact h
  | setEvents events =>
    rw [act_setEvents] at h
    cases held : (f.holder? Facility.profilerTool).isNone <;> rw [held] at h <;> exact h
  | free => exact Facility.mem_disabled_free h
  | claim name =>
    rw [act_claim] at h
    cases held : (f.holder? Facility.profilerTool).isSome <;> rw [held] at h <;> exact h
  | restart => cases h

/-- The facility after several operations. -/
def all (f : Facility) (ts : List (Tamper registry)) : Facility := ts.foldl apply f

theorem tame_all (ts : List (Tamper registry)) (h : f.Tame registry) : (all f ts).Tame registry := by
  induction ts generalizing f with
  | nil => exact h
  | cons t rest ih => exact ih (tame_apply h t)

theorem mem_disabled_all (ts : List (Tamper registry)) {d : ToolId × Location}
    (h : d ∈ (all f ts).disabled) : d ∈ f.disabled := by
  induction ts generalizing f with
  | nil => exact h
  | cons t rest ih => exact mem_disabled_apply t (ih h)

end Tamper

/-! ## How the profilers stand -/

/-- The profilers' id with a tool's callbacks, while a registry listens there or not. -/
structure Tenanted (registry : RegistryId) (f : Facility) (s : ToolShare) : Prop where
  tame : f.Tame registry
  wrapped : ∀ kind hook, s.wrapped.get? kind = some hook → kind ∈ ourKinds ∧ hook.Within registry
  nothing : s.threads = 0 → ∀ kind, s.wrapped.get? kind = none
  held : 0 < s.threads → f.Held registry s

namespace Tenanted

variable {registry : RegistryId} {f f' : Facility} {s s' : ToolShare}

/-- A share that differs in what it noticed. -/
theorem noticed (h : Tenanted registry f s) (restarts : Nat) :
    Tenanted registry f (s.noticed restarts) := by
  rw [s.noticed_eq]
  exact ⟨h.tame, h.wrapped, h.nothing, fun on => ⟨(h.held on).holder, (h.held on).ours,
    (h.held on).events⟩⟩

/-- The id with a location switched off. -/
theorem disable (h : Tenanted registry f s) (location : Location) :
    Tenanted registry (f.disable Facility.profilerTool location) s := by
  rw [Facility.disable_eq]
  exact ⟨h.tame.callbacks rfl, h.wrapped, h.nothing, fun on => ⟨(h.held on).holder,
    (h.held on).ours, (h.held on).events⟩⟩

/-- What a callback did while the profilers do not listen. -/
theorem own (h : Tenanted registry f s) (tame : f'.Tame registry) (off : s.threads = 0) :
    Tenanted registry f' s :=
  ⟨tame, h.wrapped, h.nothing, fun on => absurd off (Nat.ne_of_gt on)⟩

/-- A share that keeps another answer. -/
theorem answered (h : Tenanted registry f s) (event : MonitorEvent) (action : MonitorAction) :
    Tenanted registry f (s.answered event action) := by
  rw [s.answered_eq]
  exact ⟨h.tame, h.wrapped, h.nothing, fun on => ⟨(h.held on).holder, (h.held on).ours,
    (h.held on).events⟩⟩

/-- What a tool left there is absorbed. -/
theorem absorbs (h : Tenanted registry f s) (on : 0 < s.threads) {f₁ : Facility}
    (tame : f₁.Tame registry) (absorbs : Absorbs registry f₁ s f' s') : Tenanted registry f' s' := by
  refine ⟨⟨fun tool kind other => ?_, fun kind hook there => ?_⟩, fun kind hook there => ?_,
    fun off => ?_, fun _ => absorbs.held⟩
  · rw [absorbs.others tool kind fun h => other h.1]
    exact tame.others tool kind other
  · by_cases ours : kind ∈ ourKinds
    · obtain ⟨serial, mine, -⟩ := absorbs.held.ours kind ours
      cases mine.symm.trans there
      rfl
    · rw [absorbs.others _ _ fun h => ours h.2] at there
      exact tame.within kind hook there
  · rcases absorbs.of_wrapped there with before | ⟨mem, found⟩
    · exact h.wrapped kind hook before
    · exact ⟨mem, tame.within kind hook found⟩
  · rw [absorbs.threads] at off
    omega

/-- What is taken over from a tool stands under the id. -/
theorem installed (h : Tenanted registry f s) (installs : Installs registry f s f' s') :
    Tenanted registry f' { s' with threads := 1 } := by
  refine ⟨⟨fun tool kind other => ?_, fun kind hook found => ?_⟩, fun kind hook found => ?_,
    fun none => (by cases none), fun _ => ⟨?_, installs.ours, installs.events⟩⟩
  · exact (installs.others tool kind fun h => other h.1).trans (h.tame.others tool kind other)
  · by_cases ours : kind ∈ ourKinds
    · obtain ⟨serial, mine, -⟩ := installs.ours kind ours
      cases mine.symm.trans found
      rfl
    · rw [installs.others _ _ fun h => ours h.2] at found
      exact h.tame.within kind hook found
  · have found : s'.wrapped.get? kind = some hook := found
    rw [installs.wrapped] at found
    split at found
    · rename_i ours
      exact ⟨ours, h.tame.within kind hook found⟩
    · cases found
  · rw [installs.holder]
    rfl

/-- Where the id is let go nothing of the registry is left. -/
theorem freed (h : Tenanted registry f { s with threads := 1 }) (none : s.threads = 0) :
    Tenanted registry (f.free Facility.profilerTool)
      { s with ours := {}, disabled := [], wrapped := {} } := by
  refine ⟨⟨fun tool kind other => ?_, fun kind hook found => ?_⟩, fun kind hook found => (by cases found),
    fun _ _ => rfl, fun on => absurd none (Nat.ne_of_gt on)⟩
  · rw [Facility.callback?_free, if_neg other]
    exact h.tame.others tool kind other
  · rw [Facility.callback?_free, if_pos rfl] at found
    cases found

/-- Callbacks that are given back stand under the id, and the registry keeps none. -/
theorem returned (h : Tenanted registry f { s with threads := 1 }) (none : s.threads = 0)
    (restores : Restores registry f s f' s') : Tenanted registry f' s' := by
  have empty : ∀ kind, s'.wrapped.get? kind = Option.none := by
    intro kind
    rw [restores.wrapped]
    split
    · rfl
    · rename_i other
      cases known : s.wrapped.get? kind with
      | none => rfl
      | some hook => exact absurd (h.wrapped kind hook known).1 other
  refine ⟨⟨fun tool kind other => ?_, fun kind hook found => ?_⟩, fun kind hook found => ?_,
    fun _ => empty, fun on => absurd (restores.threads.trans none) (Nat.ne_of_gt on)⟩
  · rw [restores.callbacks, if_neg fun h => other h.1]
    exact h.tame.others tool kind other
  · rw [restores.callbacks] at found
    split at found
    · obtain ⟨wrapped, known, rfl⟩ := Option.map_eq_some_iff.mp found
      have inside := (h.wrapped kind wrapped known).2
      unfold restored
      split
      · exact inside
      · exact ⟨rfl, inside⟩
    · exact h.tame.within kind hook found
  · cases (empty kind).symm.trans found

/-- **Standing under the id is kept** when it is taken and when it is given back, and so is that
nothing is switched off there. -/
theorem handover (registry : RegistryId) (c : Prop) :
    Handover registry fun f s => Tenanted registry f s ∧ (c → f.Clear) :=
  .intro
    (fun h _ installs =>
      ⟨h.1.installed installs, fun given => (h.2 given).fewer fun _ mem => installs.disabled ▸ mem⟩)
    (fun h => (h.1.held Nat.one_pos).holder)
    (fun h none _ =>
      ⟨h.1.freed none, fun given => (h.2 given).fewer fun _ => Facility.mem_disabled_free⟩)
    (fun h none _ _ restores =>
      ⟨h.1.returned none restores, fun given => (h.2 given).fewer fun _ mem => restores.disabled ▸ mem⟩)
    fun h some given =>
      ⟨⟨h.1.tame, h.1.wrapped, fun none => absurd none (Nat.ne_of_gt given), fun _ =>
        ⟨(h.1.held some).holder, (h.1.held some).ours, (h.1.held some).events⟩⟩, h.2⟩

end Tenanted

end LineClock
