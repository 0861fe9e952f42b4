import LineClock.Proofs.Engine.Quiet

/-!
# What an observer knows

An observer of the machine knows the scene and keeps a log of the trace events that were announced.
A host has an `Audience` if all it does can be told as a change of that `View`. Main statements:
what becomes of the view when a frame is entered, starts a line, gives control back or is unwound.
-/

namespace LineClock

open Machine Engine

/-- A trace event and the scene in which it was announced. -/
structure Sighting where
  scene : Scene
  frame : Frame
  event : TraceEvent

/-- A scene and what was announced until then, the newest first. -/
structure View where
  scene : Scene
  log : List Sighting := []

namespace View

variable (v : View)

/-- Another scene, without an announcement. -/
def on (f : Scene → Scene) : View := { v with scene := f v.scene }

@[simp] theorem on_log (f : Scene → Scene) : (v.on f).log = v.log := rfl

theorem on_congr {v : View} {f g : Scene → Scene} (h : f v.scene = g v.scene) :
    v.on f = v.on g := by
  unfold on
  rw [h]

theorem on_same {v : View} {f : Scene → Scene} (h : f v.scene = v.scene) : v.on f = v :=
  on_congr (g := fun s => s) h

theorem on_spend (ticks : Counter) :
    (v.on fun s => s.spend ticks) = v.on fun s => s.withClock (v.scene.clock.satAdd ticks) :=
  on_congr (f := fun s => s.spend ticks) rfl

/-- A frame is entered. -/
def enterFrame (frame : Frame) : View :=
  { v with log := ⟨v.scene, { frame with suspended := false }, .call⟩ :: v.log }

/-- A line starts. -/
def startLine (frame : Frame) : View where
  scene := v.scene.recordLine frame.block.identity frame.line
  log := ⟨v.scene, { frame with suspended := false }, .line⟩ :: v.log

/-- A frame gives control back. -/
def depart (frame : Frame) (flow : Flow) : View where
  scene := v.scene.recordExit frame.block.identity
  log := ⟨v.scene, { frame with suspended := flow = .yielded }, .ret⟩ :: v.log

/-- An exception ends a frame. -/
def unwind (frame : Frame) : View where
  scene := v.scene.recordExit frame.block.identity
  log := ⟨v.scene, { frame with suspended := false }, .ret⟩ ::
    ⟨v.scene, { frame with suspended := false }, .exception⟩ :: v.log

end View

/-- A host all of whose doings change the view in a known way; none of its hooks fails or switches
off line events. -/
structure Audience {σ : Type} (b : Backend) (host : Host σ) (Sees : σ → View → Prop) : Prop where
  code : ∀ {x v}, Sees x v → ∀ routine, host.code x routine = v.scene.codeOf routine
  newFrame : ∀ {x v}, Sees x v →
    (host.newFrame x).1 = v.scene.frames ∧ Sees (host.newFrame x).2 (v.on Scene.addFrame)
  work : ∀ {x v}, Sees x v → ∀ n,
    Sees (host.work n x).2 (v.on fun s => s.spend (n.toUInt64 * Scripts.ticksPerUnit))
  trace : ∀ {x v}, Sees x v → ∀ frame event,
    ∃ x', answer (host.trace frame event) x = (.ok frame.linesOn, x') ∧
      Sees x' ⟨v.scene.traced b frame event, ⟨v.scene, frame, event⟩ :: v.log⟩
  monitor : ∀ {x v}, Sees x v → ∀ event,
    ∃ x', answer (host.monitor event) x = (.ok (), x') ∧
      Sees x' (v.on fun s => s.notified b event)
  enter : ∀ {x v}, Sees x v → ∀ routine,
    ∃ x', answer (host.enter routine) x = (.ok (), x') ∧
      Sees x' (v.on fun s => s.enterScope routine)
  leave : ∀ {x v}, Sees x v → ∀ routine,
    Sees (host.leave routine x).2 (v.on fun s => s.leaveScope routine)

namespace Audience

variable {σ : Type} {b : Backend} {host : Host σ} {Sees : σ → View → Prop} {x : σ} {v : View}
  {a : Activation}

theorem signal (h : Audience b host Sees) (sees : Sees x v) (on : a.frame.linesOn = true)
    (event : TraceEvent) (suspended : Bool) :
    ∃ x', (signal host event suspended).out a x = ((.ok (), a), x') ∧
      Sees x' ⟨v.scene.traced b a.frame event,
        ⟨v.scene, { a.frame with suspended }, event⟩ :: v.log⟩ := by
  obtain ⟨x', told, sees'⟩ := h.trace sees { a.frame with suspended } event
  have told' : answer (host.trace { a.frame with suspended } event) x = (.ok true, x') := by
    rw [told]
    exact congrArg (fun on => (Except.ok on, x')) on
  have same : v.scene.traced b { a.frame with suspended } event =
      v.scene.traced b a.frame event := by
    cases b with
    | slot => cases event <;> rfl
    | tool => rfl
  rw [same] at sees'
  exact ⟨x', out_signal on told', sees'⟩

theorem notify (h : Audience b host Sees) (sees : Sees x v) (a : Activation) (kind : EventKind) :
    ∃ x', (notify host kind).out a x = ((.ok (), a), x') ∧
      Sees x' (v.on fun s => s.notified b ⟨kind, a.frame.block, a.frame.offset, a.frame.line⟩) := by
  obtain ⟨x', told, sees'⟩ := h.monitor sees ⟨kind, a.frame.block, a.frame.offset, a.frame.line⟩
  exact ⟨x', out_notify told, sees'⟩

/-- A line that starts is recorded. -/
theorem startLine (h : Audience b host Sees) (sees : Sees x v) (on : a.frame.linesOn = true) :
    ∃ x', (startLine host).out a x = ((.ok (), a), x') ∧ Sees x' (v.startLine a.frame) := by
  obtain ⟨x₁, told₁, sees₁⟩ := h.signal sees on .line false
  obtain ⟨x₂, told₂, sees₂⟩ := h.notify sees₁ a .line
  refine ⟨x₂, ?_, ?_⟩
  · unfold Machine.startLine
    rw [Act.out_bind_ok told₁, told₂]
  · cases b <;> exact sees₂

/-- When a frame gives control back, its block is left. -/
theorem depart (h : Audience b host Sees) (sees : Sees x v) (on : a.frame.linesOn = true)
    (flow : Flow) :
    ∃ x', (depart host flow).out a x = ((.ok (), a), x') ∧ Sees x' (v.depart a.frame flow) := by
  obtain ⟨x₁, told₁, sees₁⟩ := h.signal sees on .ret (flow = .yielded)
  obtain ⟨x₂, told₂, sees₂⟩ := h.notify sees₁ a (if flow = .yielded then .yield else .ret)
  refine ⟨x₂, ?_, ?_⟩
  · unfold Machine.depart
    rw [Act.out_bind_ok told₁, told₂]
  · cases b <;> cases flow <;> exact sees₂

/-- When an exception passes through a frame, its block is left. -/
theorem unwind (h : Audience b host Sees) (sees : Sees x v) (on : a.frame.linesOn = true)
    (error : ExecError) :
    ∃ x', (unwind host error).out a x = ((.error error, a), x') ∧ Sees x' (v.unwind a.frame) := by
  obtain ⟨x₁, told₁, sees₁⟩ := h.signal sees on .exception false
  obtain ⟨x₂, told₂, sees₂⟩ := h.notify sees₁ a .raise
  obtain ⟨x₃, told₃, sees₃⟩ := h.signal sees₂ on .ret false
  obtain ⟨x₄, told₄, sees₄⟩ := h.notify sees₃ a .unwind
  refine ⟨x₄, ?_, ?_⟩
  · unfold Machine.unwind
    rw [Act.out_bind_ok told₁, Act.out_bind_ok told₂, Act.out_bind_ok told₃, Act.out_bind_ok told₄]
    rfl
  · cases b <;> exact sees₄

/-- Entering a frame is not recorded. -/
theorem enterFrame (h : Audience b host Sees) (sees : Sees x v) (on : a.frame.linesOn = true) :
    ∃ x', (enterFrame host).out a x = ((.ok (), { a with started := true }), x') ∧
      Sees x' (v.enterFrame a.frame) := by
  obtain ⟨x₁, told₁, sees₁⟩ := h.signal sees on .call false
  have entered : Sees x₁ (v.enterFrame a.frame) := by
    cases b <;> exact sees₁
  unfold Machine.enterFrame
  rw [Act.out_bind_ok told₁, Act.out_bind, Act.out_get]
  simp only
  by_cases started : a.started
  · refine ⟨x₁, ?_, entered⟩
    rw [if_pos started, ← started]
    rfl
  · obtain ⟨x₂, told₂, sees₂⟩ :=
      h.monitor entered ⟨.start, a.frame.block, 0, a.frame.block.firstLine⟩
    refine ⟨x₂, ?_, ?_⟩
    · rw [if_neg started, Act.out_bind, Act.out_set]
      simp only
      rw [Act.out_lift, told₂]
    · cases b <;> exact sees₂

end Audience

/-! ## The bare engine -/

/-- A quiet engine and its scene. -/
structure Engine.Seen (b : Backend) (registry : RegistryId) (e : Engine) (s : Scene) : Prop where
  quiet : Quiet b registry e
  scene : e.scene registry = s
  sole : s.Sole registry

namespace Engine.Seen

variable {b : Backend} {registry : RegistryId} {e : Engine} {s : Scene}

theorem ready (h : Seen b registry e s) : Ready registry e :=
  ⟨h.quiet.present, by rw [h.scene]; exact h.sole⟩

/-- Operations that leave listening alone. -/
theorem setup {α : Type} {m : StateM Engine α} (h : Seen b registry e s) (hm : Setup registry m) :
    Seen b registry (m.run e).2 ((m.run e).2.scene registry) :=
  ⟨(hm.aside e h.ready).quiet h.quiet, rfl, (hm.keeps e h.ready).sole⟩

theorem newFrame (h : Seen b registry e s) :
    (Scripts.quiet.host.newFrame e).1 = s.frames ∧
      Seen b registry (Scripts.quiet.host.newFrame e).2 s.addFrame := by
  obtain ⟨quiet, scene, sole⟩ := h
  subst scene
  exact ⟨rfl, (Seen.mk quiet rfl sole).setup Setup.newFrame⟩

theorem work (h : Seen b registry e s) (n : UInt8) :
    Seen b registry (Scripts.quiet.host.work n e).2
      (s.spend (n.toUInt64 * Scripts.ticksPerUnit)) := by
  have setup : Setup registry (Scripts.quiet.host.work n) := Setup.work n
  have seen := h.setup setup
  have scene : (Scripts.quiet.host.work n e).2.scene registry = _ := Setup.scene_work n e
  rw [h.scene] at scene
  exact ⟨seen.quiet, scene, by rw [← scene]; exact seen.sole⟩

theorem trace (h : Seen b registry e s) (frame : Frame) (event : TraceEvent) :
    ∃ e', answer (Scripts.quiet.host.trace frame event) e = (.ok frame.linesOn, e') ∧
      Seen b registry e' (s.traced b frame event) := by
  obtain ⟨quiet, rfl, sole⟩ := h
  obtain ⟨e', told, quiet', scene⟩ := quiet.trace frame event
  refine ⟨e', told, quiet', scene, ?_⟩
  cases b with
  | slot => exact sole.hear frame event
  | tool => exact sole

theorem monitor (h : Seen b registry e s) (event : MonitorEvent) :
    ∃ e', answer (Scripts.quiet.host.monitor event) e = (.ok (), e') ∧
      Seen b registry e' (s.notified b event) := by
  obtain ⟨quiet, rfl, sole⟩ := h
  obtain ⟨e', told, quiet', scene⟩ := quiet.monitor event
  refine ⟨e', told, quiet', scene, ?_⟩
  cases b with
  | slot => exact sole
  | tool => exact sole.hearEvent event

theorem enter (h : Seen b registry e s) (routine : RoutineId) :
    ∃ e', answer (Scripts.quiet.host.enter routine) e = (.ok (), e') ∧
      Seen b registry e' (s.enterScope routine) := by
  obtain ⟨quiet, rfl, sole⟩ := h
  obtain ⟨e', entered, quiet', scene⟩ := quiet.enter sole routine
  exact ⟨e', entered, quiet', scene, sole.enterScope routine⟩

theorem leave (h : Seen b registry e s) (routine : RoutineId) :
    Seen b registry (Scripts.quiet.host.leave routine e).2 (s.leaveScope routine) := by
  obtain ⟨quiet, rfl, sole⟩ := h
  obtain ⟨quiet', scene⟩ := quiet.leave sole routine
  exact ⟨quiet', scene, sole.leaveScope routine⟩

/-- The bare engine has an audience, whatever that keeps in its log. -/
theorem audience (b : Backend) (registry : RegistryId) :
    Audience b Scripts.quiet.host fun e v => Seen b registry e v.scene where
  code h routine := by rw [← h.scene]; rfl
  newFrame h := h.newFrame
  work h n := h.work n
  trace h frame event := h.trace frame event
  monitor h event := h.monitor event
  enter h routine := h.enter routine
  leave h routine := h.leave routine

end Engine.Seen

end LineClock
