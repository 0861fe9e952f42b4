import LineClock.Proofs.Course.Backends
import LineClock.Proofs.Course.Concert
import LineClock.Proofs.Engine.Tampered

/-!
# Courses beside a tampering tool

A course on the tool backend, on a machine with a tool that held the profilers' id before and whose
callbacks tamper with it. After every event the profilers hold the id, and they record what they
would without the tool, if the machine had nothing switched off for the id each time they began to
listen.

Main statement: `tampering_survived`.
-/

namespace LineClock.Course

open Machine Engine

variable {τ : Type} {x : Tampered τ} {e d : Engine} {tool : Tool registry τ} {budget : Nat}

/-! ## How the profilers stand -/

/-- The profilers stand at the id, and they held it after every event for which they listened. -/
structure Secure (x : Tampered τ) : Prop where
  atTool : AtTool (Tenanted registry) registry x.engine
  balanced : Balanced registry x.engine
  sole : (x.engine.scene registry).Sole registry
  heard : ∀ e ∈ x.heard, 0 < (e.share registry).threads →
    e.facility.Held registry (e.share registry)

/-- Once the profilers began to listen where a location of theirs was switched off. -/
def Hidden (x : Tampered τ) : Prop := ∃ f ∈ x.found, ¬ f.Clear

theorem Hidden.moveTo (h : Hidden x) (e : Engine) : Hidden (x.moveTo registry e) := by
  obtain ⟨f, mem, off⟩ := h
  refine ⟨f, ?_, off⟩
  unfold Tampered.moveTo
  split
  · exact List.mem_cons_of_mem _ mem
  · exact mem

/-- Where nothing was switched off before, nothing is now, unless something was when the profilers
began to listen. -/
theorem open_moveTo (clear : x.Open registry) (kept : x.engine.facility.Clear → e.facility.Clear) :
    Hidden (x.moveTo registry e) ∨ (x.moveTo registry e).Open registry := by
  by_cases before : x.engine.facility.Clear
  · exact .inr fun _ => kept before
  · have off : (x.engine.share registry).threads = 0 :=
      Nat.eq_zero_of_not_pos fun on => before (clear on)
    by_cases now : 0 < (e.share registry).threads
    · refine .inl ⟨x.engine.facility, ?_, before⟩
      unfold Tampered.moveTo
      rw [if_pos ⟨off, now⟩]
      exact List.mem_cons_self
    · exact .inr fun on => absurd on now

-- The next equations are for rewriting: comparing the two sides of a goal by unfolding would go into
-- the engine.
theorem host_newFrame (tool : Tool registry τ) (x : Tampered τ) :
    (Tampered.host tool).newFrame x = ((Scripts.quiet.host.newFrame x.engine).1,
      x.moveTo registry (Scripts.quiet.host.newFrame x.engine).2) := rfl

theorem host_work (tool : Tool registry τ) (n : UInt8) (x : Tampered τ) :
    ((Tampered.host tool).work n x).2 =
      x.moveTo registry (Scripts.quiet.host.work n x.engine).2 := rfl

namespace Secure

/-- Another engine on which the profilers stand at the id. -/
theorem moveTo (h : Secure x) {P : Facility → ToolShare → Prop} (atTool : AtTool P registry e)
    (place : ∀ {f s}, P f s → Tenanted registry f s) (balanced : Balanced registry e)
    (sole : (e.scene registry).Sole registry) : Secure (x.moveTo registry e) :=
  ⟨atTool.mono (place atTool.place), balanced, sole, h.heard⟩

theorem ready (h : Secure x) : Ready registry x.engine := ⟨h.atTool.unguarded.present, h.sole⟩

/-- What leaves listening alone. -/
theorem setup {α : Type} {m : StateM Engine α} (h : Secure x) (hm : Setup registry m) :
    Secure (x.moveTo registry (m.run x.engine).2) :=
  h.moveTo ((hm.aside _ h.ready).atTool h.atTool) id ((hm.aside _ h.ready).balanced h.balanced)
    (hm.keeps _ h.ready).sole

/-- The profilers' place, with a note that nothing is switched off if nothing was. -/
abbrev Noted (x : Tampered τ) (f : Facility) (s : ToolShare) : Prop :=
  Tenanted registry f s ∧ (x.engine.facility.Clear → f.Clear)

theorem noted (h : Secure x) : AtTool (Noted x) registry x.engine := h.atTool.mono ⟨h.atTool.place, id⟩

theorem switching (x : Tampered τ) : Switching registry (AtTool (Noted x) registry) :=
  AtTool.switching (Tenanted.handover registry x.engine.facility.Clear)

/-- Switching a profiler on. -/
theorem enable (h : Secure x) (p : ProfilerId) :
    ∃ e, answer (Engine.enable registry p) x.engine =
        (.ok (((x.engine.scene registry).raise p).count p), e) ∧
      Secure (x.moveTo registry e) ∧ (x.engine.facility.Clear → e.facility.Clear) ∧
      e.scene registry = (x.engine.scene registry).raise p := by
  obtain ⟨e, enabled, there, balanced, scene⟩ := (switching x).enable h.noted h.balanced p
  refine ⟨e, enabled, h.moveTo there And.left balanced ?_, there.place.2, scene⟩
  rw [scene]
  exact h.sole.raise p

/-- Undoing one switching on. -/
theorem disable (h : Secure x) (p : ProfilerId) :
    ∃ e, answer (Engine.disable registry p) x.engine =
        (.ok ((x.engine.scene registry).count p - 1), e) ∧
      Secure (x.moveTo registry e) ∧ (x.engine.facility.Clear → e.facility.Clear) ∧
      e.scene registry = (x.engine.scene registry).lower p := by
  obtain ⟨e, disabled, there, balanced, scene⟩ := (switching x).disable h.noted h.balanced p
  refine ⟨e, disabled, h.moveTo there And.left balanced ?_, there.place.2, scene⟩
  rw [scene]
  exact h.sole.lower p

theorem enter (h : Secure x) (tool : Tool registry τ) (routine : RoutineId) :
    ∃ e, answer ((Tampered.host tool).enter routine) x = (.ok (), x.moveTo registry e) ∧
      Secure (x.moveTo registry e) ∧ (x.engine.facility.Clear → e.facility.Clear) ∧
      e.scene registry = (x.engine.scene registry).enterScope routine := by
  obtain ⟨e, entered, there, balanced, scene⟩ := (switching x).enter (s := Tampered.scripts tool)
    (x := x) Tampered.lawful h.noted h.balanced h.sole routine
  refine ⟨e, entered, h.moveTo there And.left balanced ?_, there.place.2, scene⟩
  rw [scene]
  exact h.sole.enterScope routine

theorem leave (h : Secure x) (tool : Tool registry τ) (routine : RoutineId) :
    ∃ e, ((Tampered.host tool).leave routine x).2 = x.moveTo registry e ∧
      Secure (x.moveTo registry e) ∧ (x.engine.facility.Clear → e.facility.Clear) ∧
      e.scene registry = (x.engine.scene registry).leaveScope routine := by
  obtain ⟨e, left, there, balanced, scene⟩ := (switching x).leave (s := Tampered.scripts tool)
    (x := x) Tampered.lawful h.noted h.balanced h.sole routine
  refine ⟨e, left, h.moveTo there And.left balanced ?_, there.place.2, scene⟩
  rw [scene]
  exact h.sole.leaveScope routine

/-- The state after a trace event, which is noted. -/
def noteTrace (x : Tampered τ) (frame : Frame) (event : TraceEvent) : Tampered τ :=
  { x with log := ⟨x.engine.scene registry, frame, event⟩ :: x.log }

theorem sighted (h : Secure x) (frame : Frame) (event : TraceEvent) :
    Secure (noteTrace x frame event) := ⟨h.atTool, h.balanced, h.sole, h.heard⟩

/-- A trace event finds no hook. -/
theorem trace (h : Secure x) (tool : Tool registry τ) (frame : Frame) (event : TraceEvent) :
    answer ((Tampered.host tool).trace frame event) x = (.ok frame.linesOn, noteTrace x frame event) :=
  AtTool.announceTrace (s := Tampered.scripts tool) (x := noteTrace x frame event)
    (h.sighted frame event).atTool frame event

/-- A monitoring event is noted. -/
theorem monitor (h : Secure x) (tool : Tool registry τ) (event : MonitorEvent) :
    ∃ x', answer ((Tampered.host tool).monitor event) x = (.ok (), x') ∧ Secure x' ∧
      x'.found = x.found ∧ x'.log = x.log ∧
      (x.Open registry → x'.Open registry ∧
        x'.engine.scene registry = (x.engine.scene registry).hearEvent event) := by
  obtain ⟨x₁, announced, told⟩ := Tampered.announceEvent h.atTool h.balanced tool event
  refine ⟨{ x₁ with heard := x₁.engine :: x₁.heard }, ?_, ⟨told.keeps.atTool, fun th => ?_, ?_,
    fun e mem on => ?_⟩, told.keeps.found, told.keeps.log, told.heard⟩
  · show answer ((Tampered.scripts tool).announceEvent event >>= fun _ =>
      modify fun x => { x with heard := x.engine :: x.heard }) x = _
    rw [answer_bind_ok announced]
    rfl
  · rw [told.keeps.dispatch]
    exact h.balanced th
  · rcases told.scene with same | heard
    · rw [same]
      exact h.sole
    · rw [heard]
      exact h.sole.hearEvent event
  · rcases List.mem_cons.mp mem with rfl | mem
    · exact told.keeps.atTool.place.held on
    · rw [told.keeps.heard] at mem
      exact h.heard e mem on

end Secure

/-! ## Courses -/

/-- The profilers stand at the id, and if it is asked for, something was hidden from them. -/
def Stands (hidden : Prop) (x : Tampered τ) : Prop := Secure x ∧ (hidden → Hidden x)

/-- No move ends this. -/
theorem stable (tool : Tool registry τ) (hidden : Prop) :
    Stable (Stands hidden) (Tampered.scripts tool) (Tampered.host tool) where
  keeps :=
    { newFrame := fun _ h => ⟨h.1.setup Setup.newFrame, fun c => (h.2 c).moveTo _⟩
      work := fun n _ h => ⟨h.1.setup (Setup.work n), fun c => (h.2 c).moveTo _⟩
      trace := fun frame event _ h => by
        rw [h.1.trace]
        exact ⟨h.1.sighted frame event, h.2⟩
      monitor := fun event _ h => by
        obtain ⟨x', told, secure, found, -, -⟩ := h.1.monitor tool event
        rw [told]
        refine ⟨secure, fun c => ?_⟩
        obtain ⟨f, mem, off⟩ := h.2 c
        exact ⟨f, found ▸ mem, off⟩
      enter := fun routine _ h => by
        obtain ⟨e, entered, secure, -⟩ := h.1.enter tool routine
        rw [entered]
        exact ⟨secure, fun c => (h.2 c).moveTo e⟩
      leave := fun routine _ h => by
        obtain ⟨e, left, secure, -⟩ := h.1.leave tool routine
        rw [left]
        exact ⟨secure, fun c => (h.2 c).moveTo e⟩ }
  enter h th := ⟨h.1.setup (setup_enter th), fun c => (h.2 c).moveTo _⟩
  task {x} h t := by
    refine ⟨?_, fun c => (h.2 c).moveTo _⟩
    show Secure (x.moveTo registry (t.act.run x.engine).2)
    by_cases switches : t.switches
    · cases t with
      | enable p =>
        obtain ⟨e, enabled, secure, -⟩ := h.1.enable p
        rw [run_enable_act (h.1.sole.profilers p), enabled]
        exact secure
      | disable p =>
        obtain ⟨e, disabled, secure, -⟩ := h.1.disable p
        rw [run_disable_act (h.1.sole.profilers p), disabled]
        exact secure
      | _ => cases switches
    · exact h.1.setup (Task.setup (Bool.eq_false_iff.mpr switches))

section

variable {μ : Type} {Sees : μ → View → Prop} {s : Scripts μ} {k : Host μ} {y : μ}

/-- A machine with the tool, from whose events nothing is hidden, and one without it that has the
same scene and the same log. -/
structure Related (Sees : μ → View → Prop) (x : Tampered τ) (y : μ) : Prop where
  secure : Secure x
  clear : x.Open registry
  sees : Sees y ⟨x.engine.scene registry, x.log⟩

namespace Related

/-- What agrees on all quiet engines with the scene. -/
theorem altered (stand : Stand .tool s k Sees) (h : Related Sees x y) {α : Type} {m : StateM Engine α}
    (secure : Secure (x.moveTo registry (m.run x.engine).2))
    (clear : (x.moveTo registry (m.run x.engine).2).Open registry)
    (agrees : ∀ {d}, d.Seen .tool registry (x.engine.scene registry) → (m.run x.engine).1 = (m.run d).1 ∧
      (m.run d).2.Seen .tool registry ((m.run x.engine).2.scene registry)) :
    (m.run x.engine).1 = ((s.run m).run y).1 ∧
      Related Sees (x.moveTo registry (m.run x.engine).2) ((s.run m).run y).2 := by
  obtain ⟨same, seen⟩ := agrees (stand.engine h.sees)
  exact ⟨same, secure, clear, stand.put h.sees seen⟩

theorem setup (stand : Stand .tool s k Sees) (h : Related Sees x y) {α : Type} {m : StateM Engine α}
    (hm : Setup registry m) :
    (m.run x.engine).1 = ((s.run m).run y).1 ∧
      Related Sees (x.moveTo registry (m.run x.engine).2) ((s.run m).run y).2 := by
  have aside := hm.aside _ h.secure.ready
  refine h.altered stand (h.secure.setup hm) (fun on => ?_) fun {d} seen => ?_
  · have on : 0 < ((m.run x.engine).2.share registry).threads := on
    show (m.run x.engine).2.facility.Clear
    rw [aside.share] at on
    rw [aside.facility]
    exact h.clear on
  · obtain ⟨same, scene⟩ := hm.agree_whole h.secure.ready seen.ready seen.scene.symm
    rw [scene]
    exact ⟨same, seen.setup hm⟩

/-- Nobody is switched on while the profilers do not listen, so leaving a scope changes nothing. -/
theorem leave (stand : Stand .tool s k Sees) (tool : Tool registry τ) (h : Related Sees x y)
    (routine : RoutineId) :
    Related Sees ((Tampered.host tool).leave routine x).2 (k.leave routine y).2 := by
  obtain ⟨e, left, secure, kept, scene⟩ := h.secure.leave tool routine
  rw [left]
  refine ⟨secure, fun on => ?_, ?_⟩
  · by_cases before : x.engine.facility.Clear
    · exact kept before
    · have off : (x.engine.share registry).threads = 0 :=
        Nat.eq_zero_of_not_pos fun on => before (h.clear on)
      have nobody := (h.secure.atTool.nowhere_iff h.secure.balanced).mp off
      have same : e.scene registry = x.engine.scene registry :=
        scene.trans (Scene.leaveScope_nobody (nobody x.engine.thread) routine)
      have off' : (e.share registry).threads = 0 := by
        refine (secure.atTool.nowhere_iff secure.balanced).mpr fun th => ?_
        show (e.scene registry).active th = []
        rw [same]
        exact nobody th
      exact absurd off' (Nat.ne_of_gt on)
  · show Sees _ ⟨e.scene registry, x.log⟩
    rw [scene]
    exact stand.audience.leave h.sees routine

/-- The machine does the same on both. -/
theorem rapport (stand : Stand .tool s k Sees) (tool : Tool registry τ) :
    Rapport (Stands True) (fun (_ : Unit) => Related Sees) (Tampered.host tool) k where
  keeps := (stable tool True).keeps
  code h routine := (stand.audience.code h.sees routine).symm
  newFrame {_ x y} h := by
    obtain ⟨-, secure, clear, -⟩ := h.setup stand Setup.newFrame
    obtain ⟨id, sees⟩ := stand.audience.newFrame h.sees
    rw [host_newFrame]
    exact ⟨id.symm, secure, clear, sees⟩
  work {_ x y} h n := by
    obtain ⟨-, secure, clear, -⟩ := h.setup stand (Setup.work n)
    have sees := stand.audience.work h.sees n
    have scene : (x.moveTo registry (Scripts.quiet.host.work n x.engine).2).engine.scene registry = _ :=
      Setup.scene_work n x.engine
    rw [host_work]
    refine ⟨secure, clear, ?_⟩
    rw [scene]
    exact sees
  trace {_ x y} h frame event on := by
    obtain ⟨y', told, sees⟩ := stand.audience.trace h.sees frame event
    refine .inr ⟨Secure.noteTrace x frame event, y', ?_, ?_, h.secure.sighted frame event, h.clear, sees⟩
    · rw [h.secure.trace, on]
    · rw [told, on]
  monitor {_ x y} h event := by
    obtain ⟨x', told, secure, -, log, heard⟩ := h.secure.monitor tool event
    obtain ⟨clear, scene⟩ := heard h.clear
    obtain ⟨y', told', sees⟩ := stand.audience.monitor h.sees event
    refine .inr ⟨x', y', told, told', secure, clear, ?_⟩
    rw [scene, log]
    exact sees
  enter {_ x y} h routine := by
    obtain ⟨e, entered, secure, kept, scene⟩ := h.secure.enter tool routine
    obtain ⟨y', entered', sees⟩ := stand.audience.enter h.sees routine
    rcases open_moveTo h.clear kept with hidden | clear
    · left
      rw [entered]
      exact ⟨secure, fun _ => hidden⟩
    · refine .inr ⟨(), _, y', entered, entered', ⟨secure, clear, ?_⟩,
        fun h => h.leave stand tool routine⟩
      show Sees y' ⟨e.scene registry, x.log⟩
      rw [scene]
      exact sees

/-- A profiler is switched on on both. -/
theorem enable (stand : Stand .tool s k Sees) (h : Related Sees x y) (p : ProfilerId) :
    Stands True (x.moveTo registry ((Task.enable p).act.run x.engine).2) ∨
      ((Task.enable p).act.run x.engine).1 = ((s.run (Task.enable p).act).run y).1 ∧
        Related Sees (x.moveTo registry ((Task.enable p).act.run x.engine).2)
          ((s.run (Task.enable p).act).run y).2 := by
  obtain ⟨e, enabled, secure, kept, scene⟩ := h.secure.enable p
  have run := run_enable_act (h.secure.sole.profilers p)
  rw [enabled] at run
  rcases open_moveTo h.clear kept with hidden | clear
  · rw [run]
    exact .inl ⟨secure, fun _ => hidden⟩
  · refine .inr (h.altered stand ?_ ?_ fun {d} seen => ?_)
    · rw [run]
      exact secure
    · rw [run]
      exact clear
    · obtain ⟨d', run', seen'⟩ := run_enable seen p
      rw [run, run', scene]
      exact ⟨rfl, seen'⟩

/-- A profiler is switched off on both. -/
theorem disable (stand : Stand .tool s k Sees) (h : Related Sees x y) (p : ProfilerId) :
    Stands True (x.moveTo registry ((Task.disable p).act.run x.engine).2) ∨
      ((Task.disable p).act.run x.engine).1 = ((s.run (Task.disable p).act).run y).1 ∧
        Related Sees (x.moveTo registry ((Task.disable p).act.run x.engine).2)
          ((s.run (Task.disable p).act).run y).2 := by
  obtain ⟨e, disabled, secure, kept, scene⟩ := h.secure.disable p
  have run := run_disable_act (h.secure.sole.profilers p)
  rw [disabled] at run
  rcases open_moveTo h.clear kept with hidden | clear
  · rw [run]
    exact .inl ⟨secure, fun _ => hidden⟩
  · refine .inr (h.altered stand ?_ ?_ fun {d} seen => ?_)
    · rw [run]
      exact secure
    · rw [run]
      exact clear
    · obtain ⟨d', run', seen'⟩ := run_disable seen p
      rw [run, run', scene]
      exact ⟨rfl, seen'⟩

/-- All moves go together. -/
theorem ensemble (stand : Stand .tool s k Sees) (tool : Tool registry τ) :
    Ensemble (Stands True) (fun (_ : Unit) => Related Sees) (Tampered.scripts tool)
      (Tampered.host tool) s k where
  rapport := rapport stand tool
  stable := stable tool True
  enter h th := (h.setup stand (setup_enter th)).2
  task h t := by
    by_cases switches : t.switches
    · cases t with
      | enable p => exact h.enable stand p
      | disable p => exact h.disable stand p
      | _ => cases switches
    · exact .inr (h.setup stand (Task.setup (Bool.eq_false_iff.mpr switches)))

end Related

end

/-! ## From the start -/

/-- A facility on which only a tool that holds the profilers' id, or nobody, registered callbacks. -/
def HeldByTool (f : Facility) : Prop :=
  ∀ tool kind hook, f.callback? tool kind = some hook →
    tool = Facility.profilerTool ∧ ∃ id, hook = .script id

/-- The machine before anything was done, with a tool that is there already. -/
def startBeside (f : Facility) (wrap : Bool) (tool : τ) : Tampered τ :=
  { engine := { start .tool true wrap with facility := f }, tool }

theorem secure_start {f : Facility} (held : HeldByTool f) (wrap : Bool) (tool : τ) :
    Secure (startBeside f wrap tool) := by
  have monitored : Backend.tool = .tool → true = true := fun _ => rfl
  obtain ⟨quiet, -, sole⟩ := seen_start .tool true wrap monitored
  have blank : (start .tool true wrap).share registry = {} := by
    rw [start_eq .tool true wrap monitored]
    rfl
  have place : Tenanted registry f ((start .tool true wrap).share registry) := by
    rw [blank]
    refine ⟨⟨fun tool kind other => ?_, fun kind hook there => ?_⟩, fun _ _ there => (by cases there),
      fun _ _ => rfl, fun on => (by cases on)⟩
    · cases there : f.callback? tool kind with
      | none => rfl
      | some hook => exact absurd (held tool kind hook there).1 other
    · obtain ⟨-, id, rfl⟩ := held _ _ _ there
      trivial
  exact ⟨(ToolListens.atTool quiet.listens).withFacility place, quiet.balanced, sole,
    fun _ mem => (by cases mem)⟩

/-- At the start nothing is hidden. -/
theorem open_start (f : Facility) (wrap : Bool) (tool : τ) :
    (startBeside f wrap tool).Open registry := by
  intro on
  have blank : (startBeside f wrap tool).engine.share registry = {} := by
    show (start .tool true wrap).share registry = {}
    rw [start_eq .tool true wrap fun _ => rfl]
    rfl
  rw [blank] at on
  cases on

/-- What a course leaves beside the tool and without it, if nothing is hidden from the profilers. -/
theorem unhidden {μ : Type} {Sees : μ → View → Prop} {s : Scripts μ} {k : Host μ} {y : μ}
    (stand : Stand .tool s k Sees) (tool : Tool registry τ) (first : τ) {f : Facility}
    (held : HeldByTool f) (wrap : Bool) (turns : List Turn)
    (sees : Sees y ⟨(start .tool true wrap).scene registry, []⟩) :
    let beside := play (Tampered.scripts tool) (Tampered.host tool) budget turns
      ⟨startBeside f wrap first, []⟩
    (∀ f ∈ beside.2.state.found, f.Clear) →
      beside.1 = (play s k budget turns ⟨y, []⟩).1 ∧
        Sees (play s k budget turns ⟨y, []⟩).2.state
          ⟨beside.2.state.engine.scene registry, beside.2.state.log⟩ := by
  intro beside clear
  have concert : Concert (fun (_ : Unit) => Related Sees) () ⟨startBeside f wrap first, []⟩ ⟨y, []⟩ :=
    ⟨rfl, fun _ mem => (by cases mem), secure_start held wrap first, open_start f wrap first, sees⟩
  rcases (Related.ensemble stand tool).play budget turns concert with
    ⟨-, hidden⟩ | ⟨replies, -, -, -, -, sees⟩
  · obtain ⟨f, mem, off⟩ := hidden trivial
    exact absurd (clear f mem) off
  · exact ⟨replies, sees⟩

/-- **The profilers survive what a wrapped tool does to the id.** A tool's callbacks may, each time
one of them is called, do any number of operations on the profilers' id, and answer as they like.
After every event for which the profilers listen, the id has a holder, the callbacks of all six kinds
are theirs, and the event set has all six kinds. And if the machine had no location of these kinds
switched off for the id each time they began to listen, the course answers and the profilers record
what they would without the tool. -/
theorem tampering_survived {τ : Type} (tool : Tool registry τ) (first : τ) (f : Facility)
    (held : HeldByTool f) (wrap : Bool) (budget : Nat) (turns : List Turn) :
    let beside := play (Tampered.scripts tool) (Tampered.host tool) budget turns
      ⟨startBeside f wrap first, []⟩
    let alone := play Scripts.quiet Scripts.quiet.host budget turns ⟨start .tool true wrap, []⟩
    (∀ e ∈ beside.2.state.heard, 0 < (e.share registry).threads →
      (e.facility.holder? Facility.profilerTool).isSome ∧
        ∀ kind ∈ ourKinds,
          (∃ serial, e.facility.callback? Facility.profilerTool kind =
            some (.profiler registry serial)) ∧
          (e.facility.eventsOf Facility.profilerTool).contains kind) ∧
      ((∀ f ∈ beside.2.state.found, f.Clear) →
        beside.1 = alone.1 ∧ shown beside.2.state.engine = shown alone.2.state) := by
  refine ⟨fun e mem on => ?_, fun clear => ?_⟩
  · have secure := ((stable tool False).play budget turns ⟨startBeside f wrap first, []⟩
      ⟨secure_start held wrap first, False.elim⟩).1
    have there := secure.heard e mem on
    refine ⟨there.holder, fun kind ours => ⟨?_, there.subscribed ours⟩⟩
    obtain ⟨serial, mine, -⟩ := there.ours kind ours
    exact ⟨serial, mine⟩
  · obtain ⟨replies, seen⟩ := unhidden (bareStand .tool) tool first held wrap turns
      (seen_start .tool true wrap fun _ => rfl) clear
    exact ⟨replies, shown_eq seen.scene.symm⟩

/-! ## A tool that lets the id go and takes it back -/

/-- A tool that changes its callbacks when it is first called, lets the id go and claims it again
the second time, and lets it go for good the third time. -/
def restless : Tool registry Nat := fun n _ _ _ =>
  { tampers := match n with
      | 0 => [.register .line (some ⟨.script 1, trivial⟩), .register .ret none,
          .setEvents (.ofList [.line, .yield]), .restart]
      | 1 => [.free, .claim "other", .setEvents (.ofList [.line]),
          .register .line (some ⟨.script 2, trivial⟩)]
      | _ => [.free]
    action := if n = 0 then .disable else .goOn
    tool := n + 1 }

/-- The id is held by a tool that listens to lines. -/
def listening : Facility where
  holders := ⟨[(Facility.profilerTool, "other")]⟩
  events := ⟨[(Facility.profilerTool, .ofList [.line, .start])]⟩
  callbacks := ⟨[((Facility.profilerTool, .line), .script 0)]⟩

theorem heldByTool_listening : HeldByTool listening := by
  intro tool kind hook there
  have found : (if (Facility.profilerTool, EventKind.line) = (tool, kind)
    then some (ToolHook.script 0) else none) = some hook := there
  split at found
  · rename_i same
    cases same
    cases found
    exact ⟨rfl, 0, rfl⟩
  · cases found

/-- A block that runs two lines three times, called under a profiler. -/
def besideCourse : List Turn :=
  [{ move := .task (.profiler none .shared .files) },
    { move := .task (.define { name := "f", file := "m.py", firstLine := 1, instrs :=
        [⟨1, .loopStart 3⟩, ⟨2, .work 5⟩, ⟨3, .loopEnd 1⟩] }) },
    { move := .task (.add 0 0) }, { move := .task (.enable 0) }, { move := .call 0 },
    { move := .task (.disable 0) }]

/-- The tool is called three times and gone then, and no line is lost. -/
theorem tampering_survived_restless :
    HeldByTool listening ∧
      let beside := play (Tampered.scripts restless) (Tampered.host restless) 9 besideCourse
        ⟨startBeside listening true 0, []⟩
      let alone := play Scripts.quiet Scripts.quiet.host 9 besideCourse ⟨start .tool true true, []⟩
      beside.2.state.tool = 3 ∧ (∀ f ∈ beside.2.state.found, f.Clear) ∧
        beside.2.state.found.length = 1 ∧
        (∃ e ∈ beside.2.state.heard, 0 < (e.share registry).threads ∧
          (e.facility.holder? Facility.profilerTool).isSome) ∧
        (shown beside.2.state.engine).stats 0 = (shown alone.2.state).stats 0 := by
  obtain ⟨after, same⟩ := tampering_survived restless 0 listening heldByTool_listening true 9
    besideCourse
  have clear : ∀ f ∈ (play (Tampered.scripts restless) (Tampered.host restless) 9 besideCourse
      ⟨startBeside listening true 0, []⟩).2.state.found, f.Clear := by decide +kernel
  have listens : ∃ e ∈ (play (Tampered.scripts restless) (Tampered.host restless) 9 besideCourse
      ⟨startBeside listening true 0, []⟩).2.state.heard, 0 < (e.share registry).threads := by
    decide +kernel
  obtain ⟨e, mem, on⟩ := listens
  refine ⟨heldByTool_listening, by decide +kernel, clear, by decide +kernel,
    ⟨e, mem, on, (after e mem on).1⟩, ?_⟩
  rw [(same clear).2]

end LineClock.Course
