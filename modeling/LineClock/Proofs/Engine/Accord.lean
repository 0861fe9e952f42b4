import LineClock.Proofs.Engine.Audience
import LineClock.Proofs.Machine.Simulation

/-!
# Two audiences

Two hosts with an audience do the same whenever their views are related by a `Steady` relation: it
fixes the code and survives whatever a run changes in both views. What the relation says may depend
on the frames that are open, so an `Accord` has a part for each situation: between frames, while a
frame waits and while it runs.

Main statement: `Accord.Steady.simulation`.
-/

namespace LineClock

open Machine Engine

variable {γ σ τ : Type}

/-! ## Lit frames -/

/-- Frames of which both sides deliver line events. -/
def Lit (f : Twin) : Prop := f.left = true ∧ f.right = true

/-- Activations of such a frame are the same. -/
theorem Lit.eq {a b : Activation} (same : Same a b) (lit : Lit (twin a b)) :
    a = b ∧ a.frame.linesOn = true := by
  obtain ⟨on, rfl⟩ := same
  obtain ⟨left, right⟩ := lit
  obtain ⟨⟨id, block, line, offset, linesOn, suspended⟩, next, loops, started⟩ := a
  simp only [twin, withLines] at left right
  subst left right
  exact ⟨rfl, rfl⟩

variable {P : FrameId → Block → σ → τ → Prop}

/-- Activations of which line events are delivered, on both sides. -/
theorem Lit.alongside {a : Activation} {s : σ} {t : τ} (on : a.frame.linesOn = true)
    (h : P a.frame.id a.frame.block s t) :
    Alongside (fun f s t => P f.id f.block s t ∧ Lit f) a s a t := by
  refine ⟨⟨true, ?_⟩, h, on, on⟩
  rw [← on]
  rfl

/-- Steps that are the same for frames that both sides deliver line events of. -/
theorem Lit.together {α : Type} {x : Act σ α} {y : Act τ α}
    {Post : Except ExecError α → Activation → σ → Activation → τ → Prop}
    (h : ∀ a s t, a.frame.linesOn = true → P a.frame.id a.frame.block s t →
      (x.out a s).1.1 = (y.out a t).1.1 ∧
        Post (x.out a s).1.1 (x.out a s).1.2 (x.out a s).2 (y.out a t).1.2 (y.out a t).2) :
    Together (fun _ => False) (Alongside fun f s t => P f.id f.block s t ∧ Lit f) x y Post := by
  rintro a s c t ⟨same, related, lit⟩
  obtain ⟨rfl, on⟩ := lit.eq same
  exact .inr (h a s t on related)

/-! ## Relations of views -/

/-- How two views belong together. -/
structure Accord (γ : Type) where
  /-- Between frames. -/
  Out : γ → View → View → Prop
  /-- While a frame of a block waits to be resumed. -/
  Idle : γ → FrameId → Block → View → View → Prop
  /-- While a frame of a block runs. -/
  Run : γ → FrameId → Block → View → View → Prop

namespace Accord

/-- A relation of views that a run on both sides does not break. -/
structure Steady (A : Accord γ) : Prop where
  code : ∀ {c v w}, A.Out c v w → ∀ routine, v.scene.codeOf routine = w.scene.codeOf routine
  newFrame : ∀ {c v w}, A.Out c v w → v.scene.frames = w.scene.frames ∧
    ∀ block, A.Idle c v.scene.frames block (v.on Scene.addFrame) (w.on Scene.addFrame)
  rest : ∀ {c id block v w}, A.Idle c id block v w → A.Out c v w
  enter : ∀ {c id block v w}, A.Idle c id block v w → ∀ routine, ∃ c',
    A.Idle c' id block (v.on fun s => s.enterScope routine) (w.on fun s => s.enterScope routine) ∧
      (∀ {id block v w}, A.Idle c' id block v w →
        A.Idle c id block (v.on fun s => s.leaveScope routine) (w.on fun s => s.leaveScope routine)) ∧
      ∀ {v w}, A.Out c' v w →
        A.Out c (v.on fun s => s.leaveScope routine) (w.on fun s => s.leaveScope routine)
  enterFrame : ∀ {c v w} {frame : Frame}, A.Idle c frame.id frame.block v w →
    A.Run c frame.id frame.block (v.enterFrame frame) (w.enterFrame frame)
  startLine : ∀ {c v w} {frame : Frame}, A.Run c frame.id frame.block v w →
    A.Run c frame.id frame.block (v.startLine frame) (w.startLine frame)
  work : ∀ {c id block v w}, A.Run c id block v w → ∀ ticks,
    A.Run c id block (v.on fun s => s.spend ticks) (w.on fun s => s.spend ticks)
  call : ∀ {c id block v w}, A.Run c id block v w →
    ∃ c', A.Out c' v w ∧ ∀ {v w}, A.Out c' v w → A.Run c id block v w
  depart : ∀ {c v w} {frame : Frame}, A.Run c frame.id frame.block v w → ∀ flow,
    A.Idle c frame.id frame.block (v.depart frame flow) (w.depart frame flow)
  unwind : ∀ {c v w} {frame : Frame}, A.Run c frame.id frame.block v w →
    A.Out c (v.unwind frame) (w.unwind frame)

/-- States whose views are related. -/
def Both (Sees : σ → View → Prop) (Sees' : τ → View → Prop) (R : View → View → Prop) (x : σ)
    (y : τ) : Prop :=
  ∃ v w, Sees x v ∧ Sees' y w ∧ R v w

/-- States belong together when their views do. -/
def bond (A : Accord γ) (Sees : σ → View → Prop) (Sees' : τ → View → Prop) : Bond γ σ τ where
  Lost _ := False
  Out c := Both Sees Sees' (A.Out c)
  Idle c f x y := Both Sees Sees' (A.Idle c f.id f.block) x y ∧ Lit f
  Run c f x y := Both Sees Sees' (A.Run c f.id f.block) x y ∧ Lit f

variable {A : Accord γ} {b b' : Backend} {h : Host σ} {k : Host τ} {Sees : σ → View → Prop}
  {Sees' : τ → View → Prop}

theorem alongside_idle {c : γ} {a : Activation} {x : σ} {y : τ} (on : a.frame.linesOn = true)
    (idle : Both Sees Sees' (A.Idle c a.frame.id a.frame.block) x y) :
    Alongside ((A.bond Sees Sees').Idle c) a x a y :=
  Lit.alongside (P := fun id block => Both Sees Sees' (A.Idle c id block)) on idle

theorem alongside_run {c : γ} {a : Activation} {x : σ} {y : τ} (on : a.frame.linesOn = true)
    (run : Both Sees Sees' (A.Run c a.frame.id a.frame.block) x y) :
    Alongside ((A.bond Sees Sees').Run c) a x a y :=
  Lit.alongside (P := fun id block => Both Sees Sees' (A.Run c id block)) on run

/-- **The machine does the same** on hosts whose views are in a steady relation. -/
theorem Steady.simulation (steady : A.Steady) (left : Audience b h Sees)
    (right : Audience b' k Sees') : Simulation (A.bond Sees Sees') h k where
  keeps := Keeps.never _
  code c x y routine out := by
    obtain ⟨v, w, sees, sees', out⟩ := out
    rw [left.code sees, right.code sees']
    exact steady.code out routine
  newFrame c x y block out := by
    obtain ⟨v, w, sees, sees', out⟩ := out
    obtain ⟨id, next⟩ := left.newFrame sees
    obtain ⟨id', next'⟩ := right.newFrame sees'
    obtain ⟨frames, idle⟩ := steady.newFrame out
    rw [id, id']
    exact ⟨frames, ⟨_, _, next, next', idle block⟩, rfl, rfl⟩
  rest c f x y idle := by
    obtain ⟨⟨v, w, sees, sees', idle⟩, -⟩ := idle
    exact ⟨v, w, sees, sees', steady.rest idle⟩
  enter c f x y routine idle := by
    obtain ⟨⟨v, w, sees, sees', idle⟩, lit⟩ := idle
    obtain ⟨x', entered, next⟩ := left.enter sees routine
    obtain ⟨y', entered', next'⟩ := right.enter sees' routine
    obtain ⟨c', idle', leaveIdle, leaveOut⟩ := steady.enter idle routine
    rw [entered, entered']
    refine .inr ⟨c', ⟨⟨_, _, next, next', idle'⟩, lit⟩, fun g x y idle => ?_, fun x y out => ?_⟩
    · obtain ⟨⟨v, w, sees, sees', idle⟩, lit⟩ := idle
      exact ⟨⟨_, _, left.leave sees routine, right.leave sees' routine, leaveIdle idle⟩, lit⟩
    · obtain ⟨v, w, sees, sees', out⟩ := out
      exact ⟨_, _, left.leave sees routine, right.leave sees' routine, leaveOut out⟩
  enterFrame c := by
    refine Lit.together (P := fun id block => Both Sees Sees' (A.Idle c id block)) fun a x y on idle => ?_
    obtain ⟨v, w, sees, sees', idle⟩ := idle
    obtain ⟨x', done, next⟩ := left.enterFrame sees on
    obtain ⟨y', done', next'⟩ := right.enterFrame sees' on
    rw [done, done']
    exact ⟨rfl, alongside_run (a := { a with started := true }) on
      ⟨_, _, next, next', steady.enterFrame idle⟩⟩
  startLine c := by
    refine Lit.together (P := fun id block => Both Sees Sees' (A.Run c id block)) fun a x y on run => ?_
    obtain ⟨v, w, sees, sees', run⟩ := run
    obtain ⟨x', done, next⟩ := left.startLine sees on
    obtain ⟨y', done', next'⟩ := right.startLine sees' on
    rw [done, done']
    exact ⟨rfl, alongside_run on ⟨_, _, next, next', steady.startLine run⟩⟩
  work c f x y n run := by
    obtain ⟨⟨v, w, sees, sees', run⟩, lit⟩ := run
    exact ⟨⟨_, _, left.work sees n, right.work sees' n, steady.work run _⟩, lit⟩
  call c f x y run := by
    obtain ⟨⟨v, w, sees, sees', run⟩, lit⟩ := run
    obtain ⟨c', out, back⟩ := steady.call run
    refine ⟨c', ⟨v, w, sees, sees', out⟩, fun x y out => ?_⟩
    obtain ⟨v, w, sees, sees', out⟩ := out
    exact ⟨⟨v, w, sees, sees', back out⟩, lit⟩
  depart c flow := by
    refine Lit.together (P := fun id block => Both Sees Sees' (A.Run c id block)) fun a x y on run => ?_
    obtain ⟨v, w, sees, sees', run⟩ := run
    obtain ⟨x', done, next⟩ := left.depart sees on flow
    obtain ⟨y', done', next'⟩ := right.depart sees' on flow
    have idle := steady.depart run flow
    rw [done, done']
    cases flow with
    | returned => exact ⟨rfl, _, _, next, next', steady.rest idle⟩
    | yielded => exact ⟨rfl, alongside_idle on ⟨_, _, next, next', idle⟩⟩
  unwind c error := by
    refine Lit.together (P := fun id block => Both Sees Sees' (A.Run c id block)) fun a x y on run => ?_
    obtain ⟨v, w, sees, sees', run⟩ := run
    obtain ⟨x', done, next⟩ := left.unwind sees on error
    obtain ⟨y', done', next'⟩ := right.unwind sees' on error
    rw [done, done']
    exact ⟨rfl, _, _, next, next', steady.unwind run⟩

end Accord

/-! ## Relations of scenes -/

/-- A relation of scenes that a run on both sides does not break. -/
structure Steady (R : Scene → Scene → Prop) : Prop where
  code : ∀ {s t}, R s t → ∀ id, s.codeOf id = t.codeOf id
  frames : ∀ {s t}, R s t → s.frames = t.frames
  addFrame : ∀ {s t}, R s t → R s.addFrame t.addFrame
  spend : ∀ {s t}, R s t → ∀ ticks, R (s.spend ticks) (t.spend ticks)
  recordLine : ∀ {s t}, R s t → ∀ block line, R (s.recordLine block line) (t.recordLine block line)
  recordExit : ∀ {s t}, R s t → ∀ block, R (s.recordExit block) (t.recordExit block)
  enterScope : ∀ {s t}, R s t → ∀ id, R (s.enterScope id) (t.enterScope id)
  leaveScope : ∀ {s t}, R s t → ∀ id, R (s.leaveScope id) (t.leaveScope id)

/-- Views whose scenes are related, whatever frames are open. -/
def Accord.ofScenes (R : Scene → Scene → Prop) : Accord Unit where
  Out _ v w := R v.scene w.scene
  Idle _ _ _ v w := R v.scene w.scene
  Run _ _ _ v w := R v.scene w.scene

theorem Steady.accord {R : Scene → Scene → Prop} (steady : Steady R) :
    (Accord.ofScenes R).Steady where
  code h := steady.code h
  newFrame h := ⟨steady.frames h, fun _ => steady.addFrame h⟩
  rest h := h
  enter h routine :=
    ⟨(), steady.enterScope h routine, fun h => steady.leaveScope h routine,
      fun h => steady.leaveScope h routine⟩
  enterFrame h := h
  startLine h := steady.recordLine h _ _
  work h ticks := steady.spend h ticks
  call h := ⟨(), h, id⟩
  depart h _ := steady.recordExit h _
  unwind h := steady.recordExit h _

/-! ## One view -/

/-- What is true of a view in each situation of a run. -/
structure Story (γ : Type) where
  Out : γ → View → Prop
  Idle : γ → FrameId → Block → View → Prop
  Run : γ → FrameId → Block → View → Prop

namespace Story

/-- What stays true whatever a run changes. -/
structure Steady (T : Story γ) : Prop where
  newFrame : ∀ {c v}, T.Out c v → ∀ block, T.Idle c v.scene.frames block (v.on Scene.addFrame)
  rest : ∀ {c id block v}, T.Idle c id block v → T.Out c v
  enter : ∀ {c id block v}, T.Idle c id block v → ∀ routine, ∃ c',
    T.Idle c' id block (v.on fun s => s.enterScope routine) ∧
      (∀ {id block v}, T.Idle c' id block v →
        T.Idle c id block (v.on fun s => s.leaveScope routine)) ∧
      ∀ {v}, T.Out c' v → T.Out c (v.on fun s => s.leaveScope routine)
  enterFrame : ∀ {c v} {frame : Frame}, T.Idle c frame.id frame.block v →
    T.Run c frame.id frame.block (v.enterFrame frame)
  startLine : ∀ {c v} {frame : Frame}, T.Run c frame.id frame.block v →
    T.Run c frame.id frame.block (v.startLine frame)
  work : ∀ {c id block v}, T.Run c id block v → ∀ ticks,
    T.Run c id block (v.on fun s => s.spend ticks)
  call : ∀ {c id block v}, T.Run c id block v →
    ∃ c', T.Out c' v ∧ ∀ {v}, T.Out c' v → T.Run c id block v
  depart : ∀ {c v} {frame : Frame}, T.Run c frame.id frame.block v → ∀ flow,
    T.Idle c frame.id frame.block (v.depart frame flow)
  unwind : ∀ {c v} {frame : Frame}, T.Run c frame.id frame.block v → T.Out c (v.unwind frame)

/-- The story of a view, while the scene of another view is the same. -/
def accord (T : Story γ) : Accord γ where
  Out c v w := v.scene = w.scene ∧ T.Out c v
  Idle c id block v w := v.scene = w.scene ∧ T.Idle c id block v
  Run c id block v w := v.scene = w.scene ∧ T.Run c id block v

theorem Steady.accord {T : Story γ} (steady : T.Steady) : T.accord.Steady where
  code h _ := by rw [h.1]
  newFrame h := ⟨congrArg Scene.frames h.1, fun block =>
    ⟨congrArg Scene.addFrame h.1, steady.newFrame h.2 block⟩⟩
  rest h := ⟨h.1, steady.rest h.2⟩
  enter {_ _ _ v w} h routine := by
    obtain ⟨same, idle⟩ := h
    obtain ⟨c', idle', leaveIdle, leaveOut⟩ := steady.enter idle routine
    exact ⟨c', ⟨congrArg (Scene.enterScope · routine) same, idle'⟩,
      fun h => ⟨congrArg (Scene.leaveScope · routine) h.1, leaveIdle h.2⟩,
      fun h => ⟨congrArg (Scene.leaveScope · routine) h.1, leaveOut h.2⟩⟩
  enterFrame h := ⟨h.1, steady.enterFrame h.2⟩
  startLine {_ _ _ frame} h :=
    ⟨congrArg (Scene.recordLine · frame.block.identity frame.line) h.1, steady.startLine h.2⟩
  work h ticks := ⟨congrArg (Scene.spend · ticks) h.1, steady.work h.2 ticks⟩
  call h := by
    obtain ⟨same, run⟩ := h
    obtain ⟨c', out, back⟩ := steady.call run
    exact ⟨c', ⟨same, out⟩, fun h => ⟨h.1, back h.2⟩⟩
  depart {_ _ _ frame} h flow :=
    ⟨congrArg (Scene.recordExit · frame.block.identity) h.1, steady.depart h.2 flow⟩
  unwind {_ _ _ frame} h :=
    ⟨congrArg (Scene.recordExit · frame.block.identity) h.1, steady.unwind h.2⟩

end Story

/-! ## What stays true throughout -/

/-- What stays true of a view whatever a run changes. -/
structure Lasting (I : View → Prop) : Prop where
  addFrame : ∀ {v}, I v → I (v.on Scene.addFrame)
  withClock : ∀ {v}, I v → ∀ clock, I (v.on fun s => s.withClock clock)
  enterScope : ∀ {v}, I v → ∀ routine, I (v.on fun s => s.enterScope routine)
  leaveScope : ∀ {v}, I v → ∀ routine, I (v.on fun s => s.leaveScope routine)
  enterFrame : ∀ {v}, I v → ∀ frame, I (v.enterFrame frame)
  startLine : ∀ {v}, I v → ∀ frame, I (v.startLine frame)
  depart : ∀ {v}, I v → ∀ frame flow, I (v.depart frame flow)
  unwind : ∀ {v}, I v → ∀ frame, I (v.unwind frame)

namespace Story

/-- The story of what stays true throughout, and that frames are never taken back. -/
def lasting (I : View → Prop) : Story Nat where
  Out n v := I v ∧ n ≤ v.scene.frames
  Idle n id _ v := I v ∧ n ≤ v.scene.frames ∧ id < v.scene.frames
  Run n id _ v := I v ∧ n ≤ v.scene.frames ∧ id < v.scene.frames

theorem lasting_steady {I : View → Prop} (h : Lasting I) : (lasting I).Steady where
  newFrame out _ := ⟨h.addFrame out.1, Nat.le_succ_of_le out.2, Nat.lt_succ_self _⟩
  rest idle := ⟨idle.1, idle.2.1⟩
  enter {n _ _ v} idle routine := by
    have enter : (v.scene.enterScope routine).frames = v.scene.frames := v.scene.enterScope_frames _
    refine ⟨n, ⟨h.enterScope idle.1 routine, ?_, ?_⟩, fun {id block v} idle => ?_,
      fun {v} out => ⟨h.leaveScope out.1 routine, ?_⟩⟩
    · exact Nat.le_trans idle.2.1 (Nat.le_of_eq enter.symm)
    · exact Nat.lt_of_lt_of_eq idle.2.2 enter.symm
    · have leave := v.scene.leaveScope_frames routine
      exact ⟨h.leaveScope idle.1 routine, Nat.le_trans idle.2.1 (Nat.le_of_eq leave.symm),
        Nat.lt_of_lt_of_eq idle.2.2 leave.symm⟩
    · exact Nat.le_trans out.2 (Nat.le_of_eq (v.scene.leaveScope_frames routine).symm)
  enterFrame idle := ⟨h.enterFrame idle.1 _, idle.2⟩
  startLine run := ⟨h.startLine run.1 _, run.2⟩
  work {_ _ _ v} run ticks := by
    have spend : (v.scene.spend ticks).frames = v.scene.frames := v.scene.spend_frames ticks
    refine ⟨?_, Nat.le_trans run.2.1 (Nat.le_of_eq spend.symm),
      Nat.lt_of_lt_of_eq run.2.2 spend.symm⟩
    rw [View.on_spend]
    exact h.withClock run.1 _
  call {_ id block _} run :=
    ⟨_, ⟨run.1, Nat.le_refl _⟩, fun {w} out =>
      ⟨out.1, Nat.le_trans run.2.1 out.2, Nat.lt_of_lt_of_le run.2.2 out.2⟩⟩
  depart run flow := ⟨h.depart run.1 _ flow, run.2⟩
  unwind run := ⟨h.unwind run.1 _, run.2.1⟩

end Story

/-!
## Running without profilers

`hush` switches all profilers off and makes wrappers plain routines. A run on the hushed engine has
the same outcome as one on a quiet engine with profilers, and takes the same time.
-/

/-- The engine with all profilers off, no hooks, and wrappers that run what they wrap without
switching anything. -/
def Engine.hush (registry : RegistryId) (e : Engine) : Engine :=
  { e with
    routines := ⟨e.routines.entries.map fun r => (r.1, { r.2 with scope := none })⟩
    facility := {}
    slots := {}
    dispatch := {}
    registries := ⟨[(registry, { backend := .slot })]⟩ }

/-- The scene `t` is the scene `s` without anyone on, as far as a run can see. -/
structure Plain (s t : Scene) : Prop where
  clock : s.clock = t.clock
  frames : s.frames = t.frames
  code : ∀ id, s.codeOf id = t.codeOf id
  scopes : ∀ id, (t.routine id).scope = none
  nobody : t.here = []

namespace Plain

variable {s t : Scene}

theorem withClock (h : Plain s t) (clock : Counter) : Plain (s.withClock clock) (t.withClock clock) :=
  ⟨rfl, h.frames, h.code, h.scopes, h.nobody⟩

theorem update (h : Plain s t) (f : Profiler → Profiler) : Plain (s.update f) t :=
  ⟨h.clock, h.frames, h.code, h.scopes, h.nobody⟩

theorem raise (h : Plain s t) (p : ProfilerId) : Plain (s.raise p) t :=
  ⟨h.clock, h.frames, h.code, h.scopes, h.nobody⟩

theorem lower (h : Plain s t) (p : ProfilerId) : Plain (s.lower p) t := by
  unfold Scene.lower
  simp only
  split
  · exact ⟨h.clock, h.frames, h.code, h.scopes, h.nobody⟩
  · exact h

theorem enterScope (h : Plain s t) (id : RoutineId) : t.enterScope id = t := by
  unfold Scene.enterScope
  rw [h.scopes id]

theorem leaveScope (h : Plain s t) (id : RoutineId) : t.leaveScope id = t := by
  unfold Scene.leaveScope
  rw [h.scopes id]

/-- Recording and switching are all that a run without profilers leaves out. -/
theorem steady : Steady Plain where
  code h := h.code
  frames h := h.frames
  addFrame h := ⟨h.clock, congrArg (· + 1) h.frames, h.code, h.scopes, h.nobody⟩
  spend h ticks := by
    unfold Scene.spend
    rw [h.clock]
    exact h.withClock _
  recordLine {s t} h block line := by
    have same : t.recordLine block line = t := Scene.update_nobody h.nobody _
    rw [same]
    exact h.update _
  recordExit {s t} h block := by
    have same : t.recordExit block = t := Scene.update_nobody h.nobody _
    rw [same]
    exact h.update _
  enterScope {s t} h id := by
    rw [h.enterScope id]
    unfold Scene.enterScope
    split
    · exact h
    · exact h.raise _
  leaveScope {s t} h id := by
    rw [h.leaveScope id]
    unfold Scene.leaveScope
    split
    · exact h
    · exact h.lower _

end Plain

namespace Engine

variable {b : Backend} {registry : RegistryId} {e : Engine}

theorem hush_routine (id : RoutineId) :
    (e.hush registry).routine id = { e.routine id with scope := none } := by
  have found := Assoc.find?_map e.routines.entries id fun r : Routine => { r with scope := none }
  unfold Engine.routine hush Assoc.getD Assoc.get?
  rw [found]
  cases Assoc.find? id e.routines.entries <;> rfl

/-- The hushed engine is quiet, and its scene is that of the engine without profilers. -/
theorem seen_hush {s : Scene} (h : e.Seen b registry s) :
    (e.hush registry).Seen .slot registry ((e.hush registry).scene registry) ∧
      Plain s ((e.hush registry).scene registry) := by
  obtain ⟨quiet, rfl, sole⟩ := h
  have there : (e.hush registry).registries.get? registry = some { backend := .slot } := by
    change Assoc.find? registry [(registry, _)] = _
    simp [Assoc.find?]
  have registry' : (e.hush registry).registry registry = { backend := .slot } :=
    Assoc.getD_of_get? there default
  refine ⟨⟨⟨⟨?_, ?_, fun _ _ => rfl, fun _ => ⟨rfl, rfl, rfl, rfl, rfl, rfl⟩⟩, fun _ => rfl⟩, rfl,
    sole.profilers, fun id scope found => ?_, sole.numbered⟩, rfl, rfl, fun id => ?_, fun id => ?_,
    rfl⟩
  · rw [there]
    rfl
  · rw [registry']
  · rw [scene_routine, hush_routine] at found
    cases found
  · rw [scene_codeOf, scene_codeOf]
    unfold codeOf
    rw [hush_routine]
    rfl
  · rw [scene_routine, hush_routine]

end Engine

end LineClock
