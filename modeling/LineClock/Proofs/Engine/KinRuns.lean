import LineClock.Proofs.Engine.Kin
import LineClock.Proofs.Machine.Simulation

/-!
# Runs of kin

On quiet engines with kin scenes, kin routines have the same outcome, and the scenes are kin
afterwards. Blocks on both sides differ in whom they call, so the machine is followed once more here,
with activations that differ in that.

Main statements: `KinRuns.calls` and `KinRuns.step`.
-/

namespace LineClock

open Machine Engine

/-- The activation with other callees in its block. -/
def Activation.relink (a : Activation) (callees : List RoutineId) : Activation :=
  { a with frame := { a.frame with block := a.frame.block.relink callees } }

/-- Activations that a profiler cannot tell apart. -/
def Activation.Kin (p : ProfilerId) (table : Assoc RoutineId Routine) (a a' : Activation) : Prop :=
  ∃ callees, List.Forall₂ (LineClock.Kin p table) a.frame.block.callees callees ∧
    a' = a.relink callees

theorem Activation.Kin.mono {p : ProfilerId} {table table' : Assoc RoutineId Routine}
    {a a' : Activation} (h : a.Kin p table a') (kept : Grows table table') : a.Kin p table' a' := by
  obtain ⟨callees, kin, rfl⟩ := h
  exact ⟨callees, kin.imp fun _ _ kin => kin.mono kept, rfl⟩

/-- Quiet engines with level scenes. -/
def Engine.Level (b : Backend) (registry : RegistryId) (p : ProfilerId)
    (table : Assoc RoutineId Routine) (e d : Engine) : Prop :=
  ∃ s t, e.Seen b registry s ∧ d.Seen b registry t ∧ s.Level p table t

namespace KinRuns

variable {b : Backend} {registry : RegistryId} {p : ProfilerId} {table : Assoc RoutineId Routine}
  {call call' : RoutineId → Exec Engine Unit} {budget : Nat}

/-- Activations that a profiler cannot tell apart, of which line events are delivered, on such
engines. -/
def Beside (b : Backend) (registry : RegistryId) (p : ProfilerId) (table : Assoc RoutineId Routine)
    (a : Activation) (e : Engine) (a' : Activation) (d : Engine) : Prop :=
  a.Kin p table a' ∧ a.frame.linesOn = true ∧ e.Level b registry p table d

/-- A frame runs, or steps of it failed and it is gone. -/
def Running {α : Type} (b : Backend) (registry : RegistryId) (p : ProfilerId)
    (table : Assoc RoutineId Routine) :
    Except ExecError α → Activation → Engine → Activation → Engine → Prop
  | .ok _ => Beside b registry p table
  | .error _ => fun _ e _ d => e.Level b registry p table d

/-- Kin are called with the same outcome, and leave the engines level. -/
def Calls (b : Backend) (registry : RegistryId) (p : ProfilerId) (table : Assoc RoutineId Routine)
    (call call' : RoutineId → Exec Engine Unit) : Prop :=
  ∀ r r' e d, LineClock.Kin p table r r' → e.Level b registry p table d →
    ((call r).out e).1 = ((call' r').out d).1 ∧
      ((call r).out e).2.Level b registry p table ((call' r').out d).2

/-- Steps of kin on both sides, none of which is lost. -/
abbrev InStep {α : Type} (Pre : Activation → Engine → Activation → Engine → Prop) (x y : Act Engine α)
    (Post : Except ExecError α → Activation → Engine → Activation → Engine → Prop) : Prop :=
  Together (fun _ => False) Pre x y Post

theorem stays {α : Type} (x : Act Engine α) : Stays (fun _ => False) x := fun _ _ h => h

/-! ## Announcements -/

theorem startLine : InStep (Beside b registry p table) (startLine Scripts.quiet.host)
    (startLine Scripts.quiet.host) fun _ => Beside b registry p table := by
  rintro a e _ d ⟨⟨callees, kin, rfl⟩, on, s, t, seen, seen', level⟩
  have audience := Seen.audience b registry
  obtain ⟨e', done, next⟩ := audience.startLine (v := ⟨s, []⟩) seen on
  obtain ⟨d', done', next'⟩ :=
    audience.startLine (v := ⟨t, []⟩) (a := a.relink callees) seen' on
  rw [done, done']
  exact .inr ⟨rfl, ⟨callees, kin, rfl⟩, on, _, _, next, next',
    level.recordLine _ _⟩

theorem depart (flow : Flow) : InStep (Beside b registry p table)
    (depart Scripts.quiet.host flow) (depart Scripts.quiet.host flow)
    fun _ => Beside b registry p table := by
  rintro a e _ d ⟨⟨callees, kin, rfl⟩, on, s, t, seen, seen', level⟩
  have audience := Seen.audience b registry
  obtain ⟨e', done, next⟩ := audience.depart (v := ⟨s, []⟩) seen on flow
  obtain ⟨d', done', next'⟩ :=
    audience.depart (v := ⟨t, []⟩) (a := a.relink callees) seen' on flow
  rw [done, done']
  exact .inr ⟨rfl, ⟨callees, kin, rfl⟩, on, _, _, next, next',
    level.recordExit _⟩

theorem unwind (error : ExecError) : InStep (Beside b registry p table)
    (unwind Scripts.quiet.host error) (unwind Scripts.quiet.host error)
    (Running b registry p table) := by
  rintro a e _ d ⟨⟨callees, kin, rfl⟩, on, s, t, seen, seen', level⟩
  have audience := Seen.audience b registry
  obtain ⟨e', done, next⟩ := audience.unwind (v := ⟨s, []⟩) seen on error
  obtain ⟨d', done', next'⟩ :=
    audience.unwind (v := ⟨t, []⟩) (a := a.relink callees) seen' on error
  rw [done, done']
  exact .inr ⟨rfl, _, _, next, next', level.recordExit _⟩

theorem enterFrame : InStep (Beside b registry p table) (enterFrame Scripts.quiet.host)
    (enterFrame Scripts.quiet.host) (Running b registry p table) := by
  rintro a e _ d ⟨⟨callees, kin, rfl⟩, on, s, t, seen, seen', level⟩
  have audience := Seen.audience b registry
  obtain ⟨e', done, next⟩ := audience.enterFrame (v := ⟨s, []⟩) seen on
  obtain ⟨d', done', next'⟩ :=
    audience.enterFrame (v := ⟨t, []⟩) (a := a.relink callees) seen' on
  rw [done, done']
  exact .inr ⟨rfl, ⟨callees, kin, rfl⟩, on, _, _, next, next', level⟩

/-! ## Units -/

theorem endLoop_relink (target : UInt8) (a : Activation) (callees : List RoutineId) :
    endLoop target (a.relink callees) =
      ((endLoop target a).1.relink callees, (endLoop target a).2) := by
  obtain ⟨frame, next, loops, started⟩ := a
  rcases loops with _ | ⟨n, outer⟩
  · rfl
  · simp only [endLoop, Activation.relink]
    split <;> rfl

/-- Changes of an activation that have no part in its frame's block. -/
theorem moved {f : Activation → Activation}
    (linked : ∀ a callees, f (a.relink callees) = (f a).relink callees)
    (block : ∀ a, (f a).frame.block = a.frame.block)
    (on : ∀ a, (f a).frame.linesOn = a.frame.linesOn) :
    InStep (Beside b registry p table) (modify f) (modify f) fun _ => Beside b registry p table := by
  refine Together.modify ?_
  rintro a e _ d ⟨⟨callees, kin, rfl⟩, lit, level⟩
  refine ⟨⟨callees, ?_, linked a callees⟩, (on a).trans lit, level⟩
  rw [block]
  exact kin

/-- Work is left to the host. -/
theorem out_perform_work (host : Host Engine) (call : RoutineId → Exec Engine Unit) (line : UInt32)
    (n : UInt8) (a : Activation) (e : Engine) :
    (Machine.perform host call ⟨line, .work n⟩).out a e = ((.ok (.goOn false), a), (host.work n e).2) :=
  rfl

theorem perform (hc : Calls b registry p table call call') (instr : Instr) :
    InStep (Beside b registry p table) (perform Scripts.quiet.host call instr)
      (perform Scripts.quiet.host call' instr) fun _ => Beside b registry p table := by
  rintro a e _ d ⟨⟨callees, kin, rfl⟩, on, level⟩
  obtain ⟨line, op⟩ := instr
  cases op with
  | nop | loopStart | yield | raise | ret => exact .inr ⟨rfl, ⟨callees, kin, rfl⟩, on, level⟩
  | loopEnd target =>
    right
    unfold Machine.perform
    simp only [Act.out_bind, Act.out_get, Act.out_set, Act.out_pure, endLoop_relink]
    have frame := Simulation.endLoop_frame target a
    refine ⟨trivial, ⟨callees, ?_, rfl⟩, ?_, level⟩
    · rw [frame]
      exact kin
    · rw [frame]
      exact on
  | work n =>
    obtain ⟨s, t, seen, seen', level⟩ := level
    rw [out_perform_work, out_perform_work]
    exact .inr ⟨rfl, ⟨callees, kin, rfl⟩, on, _, _, seen.work n, seen'.work n, level.spend _⟩
  | call index =>
    have linked : (a.relink callees).frame.block.callees = callees := rfl
    have name : (a.relink callees).frame.block.name = a.frame.block.name := rfl
    rw [out_perform_call, out_perform_call, linked, name]
    have both := forall₂_getElem? kin index.toNat
    generalize a.frame.block.callees[index.toNat]? = x at both ⊢
    generalize callees[index.toNat]? = y at both ⊢
    cases both with
    | none => exact .inr ⟨rfl, ⟨callees, kin, rfl⟩, on, level⟩
    | @some r r' both =>
      obtain ⟨same, level'⟩ := hc r r' e d both level
      simp only
      rcases hco : (call r).out e with ⟨o, e'⟩
      rcases hco' : (call' r').out d with ⟨o', d'⟩
      rw [hco, hco'] at same level'
      simp only at same level'
      subst same
      right
      cases o <;> exact ⟨rfl, ⟨callees, kin, rfl⟩, on, level'⟩

theorem execute (hc : Calls b registry p table call call') : ∀ budget last,
    InStep (Beside b registry p table) (execute Scripts.quiet.host call budget last)
      (execute Scripts.quiet.host call' budget last) fun _ => Beside b registry p table
  | 0, _ => Together.failed fun _ _ _ _ h => h
  | budget + 1, last => by
    refine Together.reading ?_
    rintro a e _ d ⟨⟨callees, kin, rfl⟩, on, level⟩
    have unit : (a.relink callees).frame.block.instrs[(a.relink callees).next]? =
      a.frame.block.instrs[a.next]? := rfl
    simp only [unit]
    cases a.frame.block.instrs[a.next]? with
    | none => exact .inr ⟨rfl, ⟨callees, kin, rfl⟩, on, level⟩
    | some instr =>
      have rest : InStep (Beside b registry p table) (proceed Scripts.quiet.host call budget instr)
          (proceed Scripts.quiet.host call' budget instr) fun _ => Beside b registry p table := by
        refine Together.bind (moved (fun _ _ => rfl) (fun _ => rfl) fun _ => rfl) (fun _ => ?_)
          (fun _ _ _ _ _ h => h) fun _ => stays _
        refine Together.bind (perform hc instr) (fun o => ?_) (fun _ _ _ _ _ h => h) fun _ => stays _
        cases o with
        | stop flow => exact Together.done fun _ _ _ _ h => h
        | goOn jumped => exact execute hc budget _
      have arrives : InStep (Beside b registry p table) (arrive instr) (arrive instr)
          fun _ => Beside b registry p table := moved (fun _ _ => rfl) (fun _ => rfl) fun _ => rfl
      by_cases again : last = some instr.line
      · simp only [again, ne_eq, not_true_eq_false, if_false]
        exact Together.bind arrives (fun _ => rest) (fun _ _ _ _ _ h => h) (fun _ => stays _)
          a e _ d ⟨⟨callees, kin, rfl⟩, on, level⟩
      · simp only [again, ne_eq, not_false_eq_true, if_true]
        exact Together.bind arrives
          (fun _ => Together.bind startLine (fun _ => rest) (fun _ _ _ _ _ h => h) fun _ => stays _)
          (fun _ _ _ _ _ h => h) (fun _ => stays _) a e _ d ⟨⟨callees, kin, rfl⟩, on, level⟩

/-! ## Frames -/

theorem resume (hc : Calls b registry p table call call') :
    InStep (Beside b registry p table) (resume Scripts.quiet.host call budget)
      (resume Scripts.quiet.host call' budget) (Running b registry p table) := by
  have leaves (flow : Flow) : InStep (Beside b registry p table)
      (do Machine.depart Scripts.quiet.host flow; pure flow)
      (do Machine.depart Scripts.quiet.host flow; pure flow) (Running b registry p table) := by
    refine Together.bind (depart flow) (fun _ => ?_) (fun _ _ _ _ _ h => h.2.2) fun _ => stays _
    exact Together.done fun _ _ _ _ h => h
  have body : InStep (Beside b registry p table)
      (tryCatch (Machine.execute Scripts.quiet.host call budget none)
        (Machine.unwind Scripts.quiet.host))
      (tryCatch (Machine.execute Scripts.quiet.host call' budget none)
        (Machine.unwind Scripts.quiet.host)) (Running b registry p table) :=
    Together.tryCatch (execute hc budget none) unwind (fun _ _ _ _ _ h => h) fun _ => stays _
  refine Together.bind enterFrame (fun _ => ?_) (fun _ _ _ _ _ h => h) fun _ => stays _
  exact Together.bind body leaves (fun _ _ _ _ _ h => h) fun _ => stays _

/-- How things stand when a frame was resumed within its scope. -/
def Resumed (b : Backend) (registry : RegistryId) (p : ProfilerId) (table : Assoc RoutineId Routine) :
    Except ExecError (Flow × Activation) × Engine → Except ExecError (Flow × Activation) × Engine → Prop
  | (.ok (flow, a), e), (.ok (flow', a'), d) => flow = flow' ∧ Beside b registry p table a e a' d
  | (.error error, e), (.error error', d) => error = error' ∧ e.Level b registry p table d
  | _, _ => False

theorem resumeScoped (hc : Calls b registry p table call call') (budget : Nat) {r r' : RoutineId}
    (kin : LineClock.Kin p table r r') {a a' : Activation} {e d : Engine}
    (beside : Beside b registry p table a e a' d) :
    Resumed b registry p table ((resumeScoped Scripts.quiet.host call budget r a).out e)
      ((resumeScoped Scripts.quiet.host call' budget r' a').out d) := by
  obtain ⟨same, on, s, t, seen, seen', level⟩ := beside
  have leave : ∀ {e d : Engine}, e.Level b registry p table d →
      (Scripts.quiet.host.leave r e).2.Level b registry p table (Scripts.quiet.host.leave r' d).2 := by
    rintro e d ⟨s, t, seen, seen', level⟩
    exact ⟨_, _, seen.leave r, seen'.leave r', level.leaveScope kin⟩
  obtain ⟨e₁, entered, next⟩ := seen.enter r
  obtain ⟨d₁, entered', next'⟩ := seen'.enter r'
  have begun : e₁.Level b registry p table d₁ := ⟨_, _, next, next', level.enterScope kin⟩
  rw [out_resumeScoped, out_resumeScoped, entered, entered']
  simp only
  rcases resume hc a e₁ a' d₁ ⟨same, on, begun⟩ with lost | ⟨agree, after⟩
  · exact lost.elim
  · rcases hr : (Machine.resume Scripts.quiet.host call budget).out a e₁ with ⟨⟨o, a₂⟩, e₂⟩
    rcases hr' : (Machine.resume Scripts.quiet.host call' budget).out a' d₁ with ⟨⟨o', a₂'⟩, d₂⟩
    rw [hr, hr'] at agree after
    simp only at agree after
    subst agree
    rcases o with error | flow
    · exact ⟨rfl, leave after⟩
    · exact ⟨rfl, after.1, after.2.1, leave after.2.2⟩

theorem drain (hc : Calls b registry p table call call') {r r' : RoutineId}
    (kin : LineClock.Kin p table r r') (rounds : Nat) :
    ∀ (a a' : Activation) (e d : Engine), Beside b registry p table a e a' d →
      ((drain Scripts.quiet.host call budget r rounds a).out e).1 =
          ((drain Scripts.quiet.host call' budget r' rounds a').out d).1 ∧
        ((drain Scripts.quiet.host call budget r rounds a).out e).2.Level b registry p table
          ((drain Scripts.quiet.host call' budget r' rounds a').out d).2 := by
  induction rounds with
  | zero => exact fun a a' e d beside => ⟨rfl, beside.2.2⟩
  | succ rounds ih =>
    intro a a' e d beside
    have resumed := resumeScoped hc budget kin beside
    rw [out_drain_succ, out_drain_succ]
    rcases ho : (Machine.resumeScoped Scripts.quiet.host call budget r a).out e with ⟨o, e'⟩
    rcases ho' : (Machine.resumeScoped Scripts.quiet.host call' budget r' a').out d with ⟨o', d'⟩
    rw [ho, ho'] at resumed
    rcases o with error | ⟨flow, a₁⟩ <;> rcases o' with error' | ⟨flow', a₁'⟩
    case error.error =>
      obtain ⟨rfl, level⟩ := resumed
      exact ⟨rfl, level⟩
    case ok.ok =>
      obtain ⟨rfl, beside'⟩ := resumed
      cases flow with
      | returned => exact ⟨rfl, beside'.2.2⟩
      | yielded => exact ih a₁ a₁' e' d' beside'
    all_goals exact resumed.elim

/-! ## Calls -/

/-- The frames of kin begin alike. -/
theorem fresh {e d : Engine} (level : e.Level b registry p table d) {r r' : RoutineId}
    (kin : LineClock.Kin p table r r') :
    (Scripts.quiet.host.newFrame e).1 = (Scripts.quiet.host.newFrame d).1 ∧
      Beside b registry p table
        (fresh (Scripts.quiet.host.newFrame e).1 (Scripts.quiet.host.code e r))
        (Scripts.quiet.host.newFrame e).2
        (Machine.fresh (Scripts.quiet.host.newFrame d).1 (Scripts.quiet.host.code d r'))
        (Scripts.quiet.host.newFrame d).2 := by
  obtain ⟨s, t, seen, seen', level⟩ := level
  have audience := Seen.audience b registry
  obtain ⟨id, next⟩ := seen.newFrame
  obtain ⟨id', next'⟩ := seen'.newFrame
  have blocks : Block.Kin p table (Scripts.quiet.host.code e r) (Scripts.quiet.host.code d r') := by
    rw [audience.code (v := ⟨s, []⟩) seen, audience.code (v := ⟨t, []⟩) seen', ← level.table]
    exact level.kin.codeOf (level.table ▸ kin)
  have same : (Scripts.quiet.host.newFrame e).1 = (Scripts.quiet.host.newFrame d).1 := by
    rw [id, id', level.kin.frames]
  refine ⟨same, ?_, rfl, _, _, next, next', level.addFrame⟩
  obtain ⟨callees, kin, code⟩ := blocks
  refine ⟨callees, kin, ?_⟩
  rw [code, ← same]
  rfl

theorem invoke (budget depth : Nat) : Calls b registry p table
    (invoke Scripts.quiet.host budget depth) (invoke Scripts.quiet.host budget depth) := by
  induction depth with
  | zero => exact fun r r' e d _ level => ⟨rfl, level⟩
  | succ depth ih =>
    intro r r' e d kin level
    rw [out_invoke_succ, out_invoke_succ]
    exact drain ih kin budget _ _ _ _ (fresh level kin).2

/-- **A call from outside** of kin has the same outcome, and leaves the engines level. -/
theorem calls (budget : Nat) : Calls b registry p table
    (Machine.call Scripts.quiet.host budget) (Machine.call Scripts.quiet.host budget) :=
  invoke budget maxDepth

/-- **A frame that is resumed from outside** is left in the same way on both sides. -/
theorem step (budget : Nat) {r r' : RoutineId} (kin : LineClock.Kin p table r r')
    {a a' : Activation} {e d : Engine} (beside : Beside b registry p table a e a' d) :
    Resumed b registry p table ((step Scripts.quiet.host budget r a).out e)
      ((step Scripts.quiet.host budget r' a').out d) :=
  resumeScoped (invoke budget _) budget kin beside

end KinRuns

end LineClock
