import LineClock.Proofs.Course.Tampering
import LineClock.Proofs.Engine.Tenure

/-!
# Courses beside a tool that remembers

A course on the tool backend, on a machine with a tool that holds the profilers' id and whose
callbacks do to it what they like. Whatever the course does, what happens at the id are steps.

Main statement: `steps_playHeld`.
-/

namespace LineClock.Course

open Machine Engine

variable {τ : Type} {x : Tenancy registry τ} {e : Engine} {tool : Tool registry τ} {budget : Nat}
  {t : Tenure registry} {may : Tamper registry → Prop}

/-- Play a course. The facility may be restarted before each turn, too. -/
def playHeld (tool : Tool registry τ) (budget : Nat) :
    List Turn → Stage (Tenancy registry τ) → Stage (Tenancy registry τ)
  | [], st => st
  | turn :: rest, st =>
    let st : Stage (Tenancy registry τ) := { st with state := st.state.restarted }
    playHeld tool budget rest
      (turn.move.perform (Tenancy.scripts tool) (Tenancy.host tool) budget
        (turn.enter (Tenancy.scripts tool) st)).2

/-- The profilers stand at the id, and what happened there since `t` are steps. -/
structure Tenable (may : Tamper registry → Prop) (t : Tenure registry) (x : Tenancy registry τ) : Prop where
  atTool : AtTool (Tenanted registry) registry x.engine
  balanced : Balanced registry x.engine
  sole : (x.engine.scene registry).Sole registry
  steps : Tenure.Steps may t x.tenure

namespace Tenable

theorem ready (h : Tenable may t x) : Ready registry x.engine := ⟨h.atTool.unguarded.present, h.sole⟩

/-- What leaves listening alone. -/
theorem setup {α : Type} {m : StateM Engine α} (h : Tenable may t x) (hm : Setup registry m) :
    Tenable may t (x.moveTo (m.run x.engine).2) := by
  have aside := hm.aside _ h.ready
  refine ⟨aside.atTool h.atTool, aside.balanced h.balanced, (hm.keeps _ h.ready).sole, ?_⟩
  rw [Tenancy.moveTo_aside aside.facility aside.share]
  exact h.steps

theorem restarted (h : Tenable may t x) : Tenable may t x.restarted :=
  ⟨Tenancy.atTool_restarted h.atTool, h.balanced, h.sole, h.steps.trans (Tenancy.steps_restarted x)⟩

theorem switching : Switching registry (AtTool (Tenanted registry) registry) :=
  AtTool.switching
    { install := fun u place first => by
        obtain ⟨hooks, f, s, installed, none, place⟩ :=
          (Tenanted.handover registry False).install u ⟨place, False.elim⟩ first
        exact ⟨hooks, f, s, installed, none, place.1⟩
      uninstall := fun u place none => by
        obtain ⟨hooks, f, s, removed, gone, place⟩ :=
          (Tenanted.handover registry False).uninstall u ⟨place, False.elim⟩ none
        exact ⟨hooks, f, s, removed, gone, place.1⟩
      count := fun place some given =>
        ((Tenanted.handover registry False).count ⟨place, False.elim⟩ some given).1 }

/-- Switching a profiler on. -/
theorem enable (h : Tenable may t x) (p : ProfilerId) :
    Tenable may t (x.moveTo (answer (Engine.enable registry p) x.engine).2) := by
  obtain ⟨e, enabled, there, balanced, scene⟩ := switching.enable h.atTool h.balanced p
  have steps := h.steps.trans (Tenancy.steps_enable h.atTool h.balanced p)
  rw [enabled] at steps ⊢
  refine ⟨there, balanced, ?_, steps⟩
  show (e.scene registry).Sole registry
  rw [scene]
  exact h.sole.raise p

/-- Undoing one switching on. -/
theorem disable (h : Tenable may t x) (p : ProfilerId) :
    Tenable may t (x.moveTo (answer (Engine.disable registry p) x.engine).2) := by
  obtain ⟨e, disabled, there, balanced, scene⟩ := switching.disable h.atTool h.balanced p
  have steps := h.steps.trans (Tenancy.steps_disable h.atTool h.balanced p)
  rw [disabled] at steps ⊢
  refine ⟨there, balanced, ?_, steps⟩
  show (e.scene registry).Sole registry
  rw [scene]
  exact h.sole.lower p

/-- The scope of a wrapper is entered. -/
theorem enter (h : Tenable may t x) (tool : Tool registry τ) (routine : RoutineId) :
    Tenable may t (answer ((Tenancy.scripts tool).host.enter routine) x).2 := by
  rw [Scripts.answer_enter]
  cases found : (((Tenancy.scripts tool).engine x).routine routine).scope with
  | none => exact h
  | some scope =>
    have own : scope.registry = registry := h.sole.wrappers routine scope found
    have on := h.enable scope.profiler
    have entered : (answer (Engine.enable scope.registry scope.profiler)
        ((Tenancy.scripts tool).engine x)).2 = (answer (Engine.enable registry scope.profiler) x.engine).2 := by
      rw [own]
      rfl
    simp only
    rcases there : answer (Engine.enable scope.registry scope.profiler)
      ((Tenancy.scripts tool).engine x) with ⟨_ | _, e⟩ <;>
    · rw [there] at entered
      rw [← entered] at on
      exact on

/-- The scope of a wrapper is left. -/
theorem leave (h : Tenable may t x) (tool : Tool registry τ) (routine : RoutineId) :
    Tenable may t ((Tenancy.scripts tool).host.leave routine x).2 := by
  rw [Scripts.host_leave]
  cases found : (((Tenancy.scripts tool).engine x).routine routine).scope with
  | none => exact h
  | some scope =>
    have own : scope.registry = registry := h.sole.wrappers routine scope found
    simp only
    rw [own]
    exact h.disable scope.profiler

/-- An event is announced, and it is noted how things stand then. -/
theorem monitor (h : Tenable may t x) (only : Tool.Only may tool) (event : MonitorEvent) :
    Tenable may t (answer ((Tenancy.host tool).monitor event) x).2 := by
  have before := h.restarted
  obtain ⟨x', announced, keeps⟩ := Tenancy.announceEvent before.atTool only event
  have noted : answer ((Tenancy.host tool).monitor event) x =
      (.ok (), { x' with history := .heard x'.engine :: x'.history }) := by
    show answer ((do
      (Tenancy.scripts tool).announceEvent event
      modify fun x => { x with history := .heard x.engine :: x.history } :
        ExceptT HookError (StateM (Tenancy registry τ)) Unit)) x.restarted = _
    rw [answer_bind_ok announced]
    rfl
  rw [noted]
  refine ⟨keeps.atTool, fun th => ?_, ?_, ?_⟩
  · show (x'.engine.dispatchAt th registry).activated = (x'.engine.dispatchAt th registry).isActive
    rw [keeps.dispatch]
    exact before.balanced th
  · show (x'.engine.scene registry).Sole registry
    rcases keeps.scene with same | heard
    · rw [same]
      exact before.sole
    · rw [heard]
      exact before.sole.hearEvent event
  · exact (before.steps.trans keeps.steps).tail (.hears (t := x'.tenure) x'.engine rfl rfl
      keeps.atTool.unguarded keeps.atTool.monitored keeps.atTool.place)

/-- A trace event finds no hook. -/
theorem trace (h : Tenable may t x) (tool : Tool registry τ) (frame : Frame) (event : TraceEvent) :
    answer ((Tenancy.host tool).trace frame event) x = (.ok frame.linesOn, x) :=
  AtTool.announceTrace (s := Tenancy.scripts tool) (x := x) h.atTool frame event

-- These equations are for rewriting, so that comparing terms does not open the engine.
theorem host_newFrame (tool : Tool registry τ) (x : Tenancy registry τ) :
    (Tenancy.host tool).newFrame x =
      ((Scripts.quiet.host.newFrame x.engine).1, x.moveTo (Scripts.quiet.host.newFrame x.engine).2) :=
  rfl

theorem host_work (tool : Tool registry τ) (n : UInt8) (x : Tenancy registry τ) :
    ((Tenancy.host tool).work n x).2 = x.moveTo (Scripts.quiet.host.work n x.engine).2 := rfl

/-- No move ends this. -/
theorem stable (t : Tenure registry) (only : Tool.Only may tool) :
    Stable (Tenable may t) (Tenancy.scripts tool) (Tenancy.host tool) where
  keeps :=
    { newFrame := fun x h => by
        rw [host_newFrame]
        exact h.setup Setup.newFrame
      work := fun n x h => by
        rw [host_work]
        exact h.setup (Setup.work n)
      trace := fun frame event _ h => by
        rw [h.trace]
        exact h
      monitor := fun event _ h => h.monitor only event
      enter := fun routine _ h => h.restarted.enter tool routine
      leave := fun routine _ h => h.restarted.leave tool routine }
  enter h th := h.setup (setup_enter th)
  task {x} h task := by
    show Tenable may t (x.moveTo (task.act.run x.engine).2)
    by_cases switches : task.switches
    · cases task with
      | enable p =>
        rw [run_enable_act (h.sole.profilers p)]
        exact h.enable p
      | disable p =>
        rw [run_disable_act (h.sole.profilers p)]
        exact h.disable p
      | _ => cases switches
    · exact h.setup (Task.setup (Bool.eq_false_iff.mpr switches))

end Tenable

/-! ## From the start -/

/-- The machine before anything was done, with a tool that is there already and the times at which
the facility will be restarted. -/
def startHeld (f : Facility) (wrap : Bool) (tool : τ) (restarts : List Nat) : Tenancy registry τ :=
  { engine := { start .tool true wrap with facility := f }, tool, restarts }

/-- The profilers' id before anything was done. -/
def firstTenure (f : Facility) : Tenure registry := ⟨f, {}, []⟩

theorem tenable_start {f : Facility} (held : HeldByTool f) (wrap : Bool) (tool : τ)
    (restarts : List Nat) : Tenable may (firstTenure f) (startHeld f wrap tool restarts) := by
  have secure := secure_start held wrap tool
  have blank : (startHeld f wrap tool restarts).tenure = firstTenure f := by
    show (⟨f, (start .tool true wrap).share registry, []⟩ : Tenure registry) = _
    rw [start_eq .tool true wrap fun _ => rfl]
    rfl
  refine ⟨secure.atTool, secure.balanced, secure.sole, ?_⟩
  rw [blank]

/-- **Whatever a course does**, what happens at the profilers' id are steps. -/
theorem steps_playHeld (only : Tool.Only may tool) (budget : Nat) (turns : List Turn)
    (st : Stage (Tenancy registry τ)) (there : Tenable may t st.state) :
    Tenure.Steps may t (playHeld tool budget turns st).state.tenure := by
  induction turns generalizing st with
  | nil => exact there.steps
  | cons turn rest ih =>
    have entered : Tenable may t (turn.enter (Tenancy.scripts tool)
        { st with state := st.state.restarted }).state :=
      (Tenable.stable t only).enter there.restarted turn.thread
    exact ih _ ((Tenable.stable t only).perform turn.move entered)

end LineClock.Course
