import LineClock.Proofs.Counter
import LineClock.Proofs.Course.Backends
import LineClock.Proofs.Course.Tampering
import LineClock.Proofs.Engine.Listener

/-!
# Courses beside a listening tool

A course on the tool backend, on a machine with a tool that holds the profilers' id and only answers
to events. While everybody wraps, the tool's callbacks are called as if no profiler was ever switched
on, whenever the profilers start and stop to listen and however often the facility is restarted, and each time the
profilers stop to listen the tool finds the id as it was.

Main statement: `tool_undisturbed`.
-/

namespace LineClock.Course

open Machine Engine

/-- The same task, if it does not switch a profiler. -/
def Task.still (t : Task) : Task := if t.switches then .advance 0 else t

/-- The same move, without switching profilers. -/
def Move.still : Move → Move
  | .task t => .task t.still
  | m => m

/-- The same turn, without switching profilers. -/
def Turn.still (t : Turn) : Turn := { t with move := t.move.still }

/-- Play a course beside a tool that listens. The facility may be restarted before each turn. Without
profilers the course registers the same code, so it runs the same blocks. -/
def playBeside (tool : Listener) (profiled : Bool) (budget : Nat) :
    List Turn → Stage Listening → Stage Listening
  | [], st => st
  | t :: rest, st =>
    let t := if profiled then t else t.still
    let st : Stage Listening := { st with state := st.state.restarted }
    playBeside tool profiled budget rest
      (t.move.perform (Listening.scripts registry tool) (Listening.host registry tool profiled) budget
        (t.enter (Listening.scripts registry tool) st)).2

variable {f g : Facility} {s : ToolShare} {x y : Listening} {e : Engine} {tool : Listener}

/-! ## Restarts -/

theorem restarts_keep (n : Nat) (f : Facility) :
    Nat.repeat Facility.restart n f =
      { f with
        disabled := (Nat.repeat Facility.restart n f).disabled
        restarts := (Nat.repeat Facility.restart n f).restarts } := by
  induction n with
  | zero => rfl
  | succ n ih =>
    show (Nat.repeat Facility.restart n f).restart = _
    rw [ih]
    rfl

theorem mirrors_restarts (n : Nat) (h : Mirrors registry g f s) :
    Mirrors registry (Nat.repeat Facility.restart n g) (Nat.repeat Facility.restart n f) s := by
  induction n with
  | zero => exact h
  | succ n ih => exact ih.restart

/-! ## Beside the tool -/

/-- Once an event was announced while not everybody wrapped. -/
def Unwrapped (x : Listening) : Prop := ∃ s ∈ x.heard, ¬ s.Wraps

/-- A facility whose holder and event set the tool would not tell from those of another. -/
def SameTenancy (f g : Facility) : Prop :=
  f.holder? Facility.profilerTool = g.holder? Facility.profilerTool ∧
    f.eventsOf Facility.profilerTool = g.eventsOf Facility.profilerTool

/-- A machine on which profilers share the id with the tool, and one on which nobody does. -/
structure Shares (f : Facility) (x y : Listening) : Prop where
  atTool : AtTool (Mirrors registry y.engine.facility) registry x.engine
  balanced : Balanced registry x.engine
  sole : (x.engine.scene registry).Sole registry
  alone : AtTool (fun g _ => HeldByTool g) registry y.engine
  soleAlone : (y.engine.scene registry).Sole registry
  scene : (x.engine.scene registry).bare = (y.engine.scene registry).bare
  calls : x.calls = y.calls
  restarts : x.restarts = y.restarts
  tenancy : SameTenancy y.engine.facility f
  found : ∀ l ∈ x.found, SameTenancy l f
  left : ∀ l ∈ x.left, SameTenancy l f

namespace Shares

theorem ready (h : Shares f x y) : Ready registry x.engine := ⟨h.atTool.unguarded.present, h.sole⟩

theorem readyAlone (h : Shares f x y) : Ready registry y.engine :=
  ⟨h.alone.unguarded.present, h.soleAlone⟩

theorem thread (h : Shares f x y) : x.engine.thread = y.engine.thread :=
  congrArg Scene.thread h.scene

/-- The profilers find the id as the tool has it, and leave it like that. -/
theorem moveTo (h : Shares f x y) (atTool : AtTool (Mirrors registry y.engine.facility) registry e)
    (balanced : Balanced registry e) (sole : (e.scene registry).Sole registry)
    (scene : (e.scene registry).bare = (y.engine.scene registry).bare) :
    Shares f (x.moveTo registry e) y := by
  refine ⟨atTool, balanced, sole, h.alone, h.soleAlone, scene, h.calls, h.restarts, h.tenancy,
    fun l mem => ?_, fun l mem => ?_⟩
  · change l ∈ ite _ (x.engine.facility :: x.found) x.found at mem
    split at mem
    · rename_i begun
      rcases List.mem_cons.mp mem with rfl | mem
      · exact ⟨h.atTool.place.holder.trans h.tenancy.1,
          (h.atTool.place.idle begun.1).2.trans h.tenancy.2⟩
      · exact h.found l mem
    · exact h.found l mem
  · change l ∈ ite _ (e.facility :: x.left) x.left at mem
    split at mem
    · rename_i stopped
      rcases List.mem_cons.mp mem with rfl | mem
      · exact ⟨atTool.place.holder.trans h.tenancy.1,
          (atTool.place.idle stopped.2).2.trans h.tenancy.2⟩
      · exact h.left l mem
    · exact h.left l mem

/-- The facility is restarted on both. -/
theorem restarted (h : Shares f x y) : Shares f x.restarted y.restarted := by
  have keep := restarts_keep (y.restarts.headD 0) y.engine.facility
  have keep' := restarts_keep (x.restarts.headD 0) x.engine.facility
  have holders : SameTenancy (Nat.repeat Facility.restart (y.restarts.headD 0) y.engine.facility)
      f := by
    rw [keep]
    exact h.tenancy
  have held : HeldByTool (Nat.repeat Facility.restart (y.restarts.headD 0) y.engine.facility) := by
    rw [keep]
    exact h.alone.place
  have place := mirrors_restarts (x.restarts.headD 0) h.atTool.place
  rw [h.restarts] at place
  refine ⟨?_, h.balanced, h.sole, h.alone.withFacility held, h.soleAlone, h.scene, h.calls, ?_,
    holders, h.found, h.left⟩
  · show AtTool _ registry { x.engine with
      facility := Nat.repeat Facility.restart (x.restarts.headD 0) x.engine.facility }
    rw [h.restarts]
    exact h.atTool.withFacility place
  · show x.restarts.tail = y.restarts.tail
    rw [h.restarts]

/-- An operation that leaves listening alone does the same on both. -/
theorem setup (h : Shares f x y) {α : Type} {m : StateM Engine α} (hm : Setup registry m) :
    (m.run x.engine).1 = (m.run y.engine).1 ∧
      Shares f (x.moveTo registry (m.run x.engine).2) (y.moveTo registry (m.run y.engine).2) := by
  have aside := hm.aside _ h.ready
  have aside' := hm.aside _ h.readyAlone
  obtain ⟨same, scene⟩ := hm.agree_bare h.ready h.readyAlone h.scene
  have still : y.moveTo registry (m.run y.engine).2 = { y with engine := (m.run y.engine).2 } :=
    Listening.moveTo_same (congrArg ToolShare.threads aside'.share)
  have still' : x.moveTo registry (m.run x.engine).2 = { x with engine := (m.run x.engine).2 } :=
    Listening.moveTo_same (congrArg ToolShare.threads aside.share)
  rw [still, still']
  refine ⟨same, ?_, aside.balanced h.balanced, (hm.keeps _ h.ready).sole,
    aside'.atTool h.alone, (hm.keeps _ h.readyAlone).sole, scene, h.calls, h.restarts, ?_, h.found, h.left⟩
  · show AtTool (Mirrors registry (m.run y.engine).2.facility) registry (m.run x.engine).2
    rw [aside'.facility]
    exact aside.atTool h.atTool
  · show SameTenancy (m.run y.engine).2.facility f
    rw [aside'.facility]
    exact h.tenancy

theorem switching (g : Facility) : Switching registry (AtTool (Mirrors registry g) registry) :=
  AtTool.switching (Mirrors.handover registry g)

/-- A profiler is switched on beside the tool. -/
theorem enable (h : Shares f x y) (p : ProfilerId) :
    Shares f (x.moveTo registry ((Task.enable p).act.run x.engine).2) y := by
  obtain ⟨e, enabled, there, balanced, scene⟩ := (switching _).enable h.atTool h.balanced p
  rw [run_enable_act (h.sole.profilers p), enabled]
  refine h.moveTo there balanced ?_ ?_
  · rw [scene]
    exact h.sole.raise p
  · rw [scene]
    exact h.scene

/-- A profiler is switched off beside the tool. -/
theorem disable (h : Shares f x y) (p : ProfilerId) :
    Shares f (x.moveTo registry ((Task.disable p).act.run x.engine).2) y := by
  obtain ⟨e, disabled, there, balanced, scene⟩ := (switching _).disable h.atTool h.balanced p
  rw [run_disable_act (h.sole.profilers p), disabled]
  refine h.moveTo there balanced ?_ ?_
  · rw [scene]
    exact h.sole.lower p
  · rw [scene, Scene.bare_lower]
    exact h.scene

/-- The scope of a wrapper is entered beside the tool. -/
theorem enter (h : Shares f x y) (tool : Listener) (routine : RoutineId) :
    ∃ x', answer ((Listening.scripts registry tool).host.enter routine) x = (.ok (), x') ∧
      Shares f x' y := by
  obtain ⟨e, entered, there, balanced, scene⟩ := (switching _).enter
    (s := Listening.scripts registry tool) (x := x) Listening.lawful h.atTool h.balanced h.sole routine
  refine ⟨_, entered, h.moveTo there balanced ?_ ?_⟩
  · rw [scene]
    exact h.sole.enterScope routine
  · rw [scene, Scene.bare_enterScope]
    exact h.scene

/-- The scope of a wrapper is left beside the tool. -/
theorem leave (h : Shares f x y) (tool : Listener) (routine : RoutineId) :
    Shares f ((Listening.scripts registry tool).host.leave routine x).2 y := by
  obtain ⟨e, left, there, balanced, scene⟩ := (switching _).leave
    (s := Listening.scripts registry tool) (x := x) Listening.lawful h.atTool h.balanced h.sole routine
  rw [left]
  refine h.moveTo there balanced ?_ ?_
  · rw [scene]
    exact h.sole.leaveScope routine
  · rw [scene, Scene.bare_leaveScope]
    exact h.scene

/-- What the tool does at an event changes nothing by which it holds the id. -/
theorem hear_facility (tool : Listener) (thread : ThreadKey) (event : MonitorEvent)
    (calls : List Call) (g : Facility) : (tool.hear thread event calls g).2 =
      { g with disabled := (tool.hear thread event calls g).2.disabled } := by
  unfold Listener.hear
  split
  · rfl
  · exact g.answered_eq event _

/-- The tool hears of the same events on both. -/
theorem announceEvent (h : Shares f x y) (wraps : (x.engine.scene registry).Wraps) (tool : Listener)
    (event : MonitorEvent) :
    ∃ x' y', answer ((Listening.scripts registry tool).announceEvent event) x = (.ok (), x') ∧
      answer ((Listening.scripts registry tool).announceEvent event) y = (.ok (), y') ∧
      Shares f x' y' := by
  obtain ⟨x', told, tells⟩ := Listening.announceEvent h.atTool wraps tool event
  have alone := Listening.announceEvent_alone registry tool h.alone.monitored h.alone.place event
  have kept := hear_facility tool y.engine.thread event y.calls y.engine.facility
  generalize heard : tool.hear y.engine.thread event y.calls y.engine.facility = after at alone kept
  obtain ⟨calls, g⟩ := after
  change g = { y.engine.facility with disabled := g.disabled } at kept
  have atTool := tells.atTool
  have called := tells.calls
  rw [h.thread, h.calls, heard] at atTool called
  have sole : (x'.engine.scene registry).Sole registry := by
    rcases tells.scene with same | hears
    · rw [same]
      exact h.sole
    · rw [hears]
      exact h.sole.hearEvent event
  have bare : (x'.engine.scene registry).bare = (x.engine.scene registry).bare := by
    rcases tells.scene with same | hears
    · rw [same]
    · rw [hears, Scene.bare_hearEvent]
  have balanced : Balanced registry x'.engine := by
    intro th
    rw [tells.dispatch]
    exact h.balanced th
  have held : HeldByTool g := by
    rw [kept]
    exact h.alone.place
  have tenancy : SameTenancy g f := by
    rw [kept]
    exact h.tenancy
  refine ⟨x', _, told, alone, atTool, balanced, sole, h.alone.withFacility held, h.soleAlone,
    bare.trans h.scene, called, ?_, tenancy, ?_, ?_⟩
  · rw [tells.kept]
    exact h.restarts
  · rw [tells.kept]
    exact h.found
  · rw [tells.kept]
    exact h.left

end Shares

/-! ## Whole courses -/

-- Like above, these equations keep unfolding out of the engine.
theorem host_newFrame_listening (tool : Listener) (profiled : Bool) (x : Listening) :
    (Listening.host registry tool profiled).newFrame x =
      ((Scripts.quiet.host.newFrame x.engine).1,
        x.moveTo registry (Scripts.quiet.host.newFrame x.engine).2) := rfl

theorem host_work_listening (tool : Listener) (profiled : Bool) (n : UInt8) (x : Listening) :
    ((Listening.host registry tool profiled).work n x).2 =
      x.moveTo registry (Scripts.quiet.host.work n x.engine).2 := rfl

/-- No event is taken back. -/
theorem Unwrapped.lasts (tool : Listener) :
    (Listening.scripts registry tool).Lasts (fun _ _ => True) Unwrapped where
  covers := .any
  put h _ _ := h
  trace h _ _ _ := h
  monitor h _ _ := h

theorem Unwrapped.moveTo (h : Unwrapped x) (e : Engine) : Unwrapped (x.moveTo registry e) := h

theorem Unwrapped.keeps (tool : Listener) (profiled : Bool) :
    Keeps Unwrapped (Listening.host registry tool profiled) where
  newFrame x h := by
    rw [host_newFrame_listening]
    exact h.moveTo _
  work n x h := by
    rw [host_work_listening]
    exact h.moveTo _
  trace frame event _ h := (Unwrapped.lasts tool).bears.announceTrace frame event h
  monitor event x h := by
    obtain ⟨s, mem, off⟩ := h
    exact (Unwrapped.lasts tool).announceEvent (x := x.restarted.noted registry) event
      ⟨s, List.mem_cons_of_mem _ mem, off⟩
  enter routine x h := by
    cases profiled with
    | true => exact (Unwrapped.lasts tool).bears.enter (x := x.restarted) routine h
    | false => exact h
  leave routine x h := by
    cases profiled with
    | true => exact (Unwrapped.lasts tool).bears.leave (x := x.restarted) routine h
    | false => exact h

/-- A course takes no event back. -/
theorem Unwrapped.play (tool : Listener) (profiled : Bool) (budget : Nat) (turns : List Turn) :
    ∀ {st : Stage Listening}, Unwrapped st.state →
      Unwrapped (playBeside tool profiled budget turns st).state := by
  have stable : Stable Unwrapped (Listening.scripts registry tool)
      (Listening.host registry tool profiled) :=
    ⟨Unwrapped.keeps tool profiled, fun h _ => h.moveTo _, fun h _ => h.moveTo _⟩
  induction turns with
  | nil => exact fun h => h
  | cons t rest ih =>
    intro st h
    exact ih (stable.perform _ (stable.enter (x := st.state.restarted) h _))

/-- The machine does the same on both, until an event is announced while not everybody wraps. -/
theorem Shares.rapport (f : Facility) (tool : Listener) :
    Rapport Unwrapped (fun (_ : Unit) => Shares f) (Listening.host registry tool true)
      (Listening.host registry tool false) where
  keeps := Unwrapped.keeps tool true
  code {_ x y} h routine :=
    congrArg (fun s : Scene => s.codeOf routine) h.scene
  newFrame {_ x y} h := by
    rw [host_newFrame_listening, host_newFrame_listening]
    exact h.setup Setup.newFrame
  work {_ x y} h n := by
    rw [host_work_listening, host_work_listening]
    exact (h.setup (Setup.work n)).2
  trace {_ x y} h frame event on := by
    refine .inr ⟨x, y, ?_, ?_, h⟩
    · rw [← on]
      exact AtTool.announceTrace (s := Listening.scripts registry tool) (x := x) h.atTool frame event
    · rw [← on]
      exact AtTool.announceTrace (s := Listening.scripts registry tool) (x := y) h.alone frame event
  monitor {_ x y} h event := by
    have h := h.restarted
    by_cases wraps : (x.restarted.engine.scene registry).Wraps
    · exact .inr (Shares.announceEvent (x := x.restarted.noted registry)
        (y := y.restarted.noted registry)
        ⟨h.atTool, h.balanced, h.sole, h.alone, h.soleAlone, h.scene, h.calls, h.restarts, h.tenancy,
          h.found, h.left⟩ wraps tool event)
    · exact .inl ((Unwrapped.lasts tool).announceEvent (x := x.restarted.noted registry) event
        ⟨_, List.mem_cons_self, wraps⟩)
  enter {_ x y} h routine := by
    obtain ⟨x', entered, shares⟩ := h.restarted.enter tool routine
    exact .inr ⟨(), x', y.restarted, entered, rfl, shares, fun h => h.restarted.leave tool routine⟩

theorem run_advance_zero (e : Engine) : (Task.advance 0).act.run e = (.done, e) := by
  show (Reply.done, ({ e with clock := e.clock.satAdd 0 } : Engine)) = _
  rw [Counter.satAdd_zero]

/-- A move goes the same way on both, but for the switching of profilers. -/
theorem Shares.move (tool : Listener) (budget : Nat) (m : Move) {st st' : Stage Listening}
    (concert : Concert (fun (_ : Unit) => Shares f) () st st') :
    let after := (m.perform (Listening.scripts registry tool) (Listening.host registry tool true)
      budget st).2
    Unwrapped after.state ∨ Concert (fun (_ : Unit) => Shares f) () after
      (m.still.perform (Listening.scripts registry tool) (Listening.host registry tool false) budget
        st').2 := by
  intro after
  cases m with
  | task t =>
    by_cases switches : t.switches = true
    · have still : Move.still (.task t) = .task (.advance 0) :=
        congrArg Move.task (if_pos switches)
      have nothing : ((Listening.scripts registry tool).run (Task.advance 0).act).run st'.state =
          (.done, st'.state) := by
        have idle : (Task.advance 0).act.run ((Listening.scripts registry tool).engine st'.state) = _ :=
          run_advance_zero _
        rw [Scripts.run_run, idle]
        refine congrArg (Prod.mk _) ?_
        exact Listening.lawful st'.state
      right
      rw [still]
      show Concert _ () after { st' with
        state := (((Listening.scripts registry tool).run (Task.advance 0).act).run st'.state).2 }
      rw [nothing]
      cases t with
      | enable p => exact concert.withState (concert.related.enable p)
      | disable p => exact concert.withState (concert.related.disable p)
      | _ => cases switches
    · have still : Move.still (.task t) = .task t := congrArg Move.task (if_neg switches)
      rw [still]
      exact .inr (concert.withState
        (concert.related.setup (Task.setup (Bool.eq_false_iff.mpr switches))).2)
  | call routine => exact (concert.call (Shares.rapport f tool) routine).imp_right And.right
  | generator routine => exact (concert.generator (Shares.rapport f tool) routine).imp_right And.right
  | resume i => exact (concert.resume (Shares.rapport f tool) i).imp_right And.right

/-- A course goes the same way on both, but for the switching of profilers, until an event is
announced while not everybody wraps. -/
theorem Shares.play (tool : Listener) (budget : Nat) (turns : List Turn) :
    ∀ {st st' : Stage Listening}, Concert (fun (_ : Unit) => Shares f) () st st' →
      Unwrapped (playBeside tool true budget turns st).state ∨
        Shares f (playBeside tool true budget turns st).state
          (playBeside tool false budget turns st').state := by
  induction turns with
  | nil => exact fun concert => .inr concert.related
  | cons t rest ih =>
    intro st st' concert
    have entered : Concert (fun (_ : Unit) => Shares f) ()
        (t.enter (Listening.scripts registry tool) { st with state := st.state.restarted })
        (t.still.enter (Listening.scripts registry tool) { st' with state := st'.state.restarted }) :=
      concert.withState (concert.related.restarted.setup (setup_enter t.thread)).2
    rcases Shares.move tool budget t.move entered with lost | after
    · exact .inl (Unwrapped.play tool true budget rest lost)
    · exact ih after

/-! ## From the start -/

/-- The machine before anything was done, with a tool that is there already and the times at which
the facility will be restarted. -/
def startListened (f : Facility) (wrap : Bool) (restarts : List Nat) : Listening :=
  { engine := { start .tool true wrap with facility := f }, restarts }

theorem mirrors_start (held : HeldByTool f) (taken : (f.holder? Facility.profilerTool).isSome) :
    Mirrors registry f f {} where
  holder := rfl
  held := taken
  restarts := rfl
  seen := Nat.zero_le _
  others tool kind other := by
    cases there : f.callback? tool kind with
    | none => rfl
    | some hook => exact absurd (held tool kind hook there).1 other
  absent _ none := none
  present kind found there := by
    obtain ⟨-, id, rfl⟩ := held _ _ _ there
    exact ⟨id, _, rfl, there, .script registry f.restarts id⟩
  off location _ := by
    have nothing : ({} : ToolShare).stillOff f.restarts = [] := ite_self _
    refine ⟨.inl, ?_⟩
    rintro (off | ⟨-, off⟩ | ⟨hook, there, off⟩)
    · exact off
    · rw [nothing] at off
      cases off
    · obtain ⟨-, id, rfl⟩ := held _ _ _ there
      cases off
  idle _ := ⟨rfl, rfl⟩
  listening on := by cases on

theorem shares_start (held : HeldByTool f) (taken : (f.holder? Facility.profilerTool).isSome)
    (wrap : Bool) (restarts : List Nat) :
    Shares f (startListened f wrap restarts) (startListened f wrap restarts) := by
  obtain ⟨atTool, balanced, sole, -⟩ := secure_start held wrap ()
  have blank : (startListened f wrap restarts).engine.share registry = {} := by
    show (start .tool true wrap).share registry = {}
    rw [start_eq .tool true wrap fun _ => rfl]
    rfl
  refine ⟨atTool.mono ?_, balanced, sole, atTool.mono held, sole, rfl, rfl, rfl, ⟨rfl, rfl⟩,
    fun _ mem => (by cases mem), fun _ mem => (by cases mem)⟩
  show Mirrors registry f f ((startListened f wrap restarts).engine.share registry)
  rw [blank]
  exact mirrors_start held taken

/-- **The tool that held the id notices nothing.** A tool holds the profilers' id and answers to each
event whether it wants to hear of the place again, as it likes. Profilers are switched on and off on
any threads between top-level calls and by wrappers, and the facility is restarted any number of
times between events. If the registry and all who are on wrap whenever an event is announced, the
tool's callbacks are called as if no profiler was ever switched on; and each time the profilers
begin or stop to listen, the id has the holder and the event set that the tool gave it. -/
theorem tool_undisturbed (tool : Listener) (f : Facility) (held : HeldByTool f)
    (taken : (f.holder? Facility.profilerTool).isSome) (wrap : Bool) (restarts : List Nat)
    (budget : Nat) (turns : List Turn) :
    let shared := (playBeside tool true budget turns ⟨startListened f wrap restarts, []⟩).state
    let alone := (playBeside tool false budget turns ⟨startListened f wrap restarts, []⟩).state
    (∀ s ∈ shared.heard, s.Wraps) →
      shared.calls = alone.calls ∧ ∀ l, l ∈ shared.found ∨ l ∈ shared.left →
        l.holder? Facility.profilerTool = f.holder? Facility.profilerTool ∧
          l.eventsOf Facility.profilerTool = f.eventsOf Facility.profilerTool := by
  intro shared alone wraps
  have concert : Concert (fun (_ : Unit) => Shares f) () ⟨startListened f wrap restarts, []⟩
      ⟨startListened f wrap restarts, []⟩ :=
    ⟨rfl, fun _ mem => (by cases mem), shares_start held taken wrap restarts⟩
  rcases Shares.play tool budget turns concert with ⟨s, mem, off⟩ | shares
  · exact absurd (wraps s mem) off
  · refine ⟨shares.calls, fun l noted => ?_⟩
    rcases noted with mem | mem
    · exact shares.found l mem
    · exact shares.left l mem

/-- A tool that wants to hear of each place once, until the facility is restarted. -/
def onceEach : Listener := fun _ _ => .disable

/-- A block of two lines that run twice is called before, under and after a profiler, on two
threads. -/
def sharedCourse : List Turn :=
  [{ move := .task (.profiler none .shared .files) },
    { move := .task (.define { name := "f", file := "f.py", firstLine := 1, instrs :=
        [⟨1, .loopStart 2⟩, ⟨2, .work 5⟩, ⟨3, .loopEnd 1⟩] }) },
    { move := .task (.add 0 0) }, { move := .call 0 }, { move := .task (.enable 0) },
    { move := .call 0 }, { thread := 1, move := .task (.enable 0) }, { thread := 1, move := .call 0 },
    { move := .task (.disable 0) }, { thread := 1, move := .task (.disable 0) }, { move := .call 0 }]

/-- The facility is restarted while the profiler is on: the tool is called once for each line before
that and once after it. -/
theorem tool_undisturbed_onceEach :
    HeldByTool listening ∧ (listening.holder? Facility.profilerTool).isSome ∧
      let shared := (playBeside onceEach true 9 sharedCourse
        ⟨startListened listening true (List.replicate 20 0 ++ [1]), []⟩).state
      let alone := (playBeside onceEach false 9 sharedCourse
        ⟨startListened listening true (List.replicate 20 0 ++ [1]), []⟩).state
      (∀ s ∈ shared.heard, s.Wraps) ∧ shared.calls = alone.calls ∧ shared.calls.length = 6 ∧
        shared.left.length = 1 ∧ ∀ l ∈ shared.left,
          l.eventsOf Facility.profilerTool = listening.eventsOf Facility.profilerTool := by
  have wraps : ∀ s ∈ (playBeside onceEach true 9 sharedCourse
      ⟨startListened listening true (List.replicate 20 0 ++ [1]), []⟩).state.heard, s.Wraps := by
    decide +kernel
  obtain ⟨calls, tenancy⟩ := tool_undisturbed onceEach listening heldByTool_listening rfl true
    (List.replicate 20 0 ++ [1]) 9 sharedCourse wraps
  exact ⟨heldByTool_listening, rfl, wraps, calls, by decide +kernel, by decide +kernel,
    fun l mem => (tenancy l (.inr mem)).2⟩

end LineClock.Course
