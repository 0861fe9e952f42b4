import LineClock.Proofs.Course.Basic
import LineClock.Proofs.Engine.Accord

/-!
# One course on two engines

A course plays in the same way on any two quiet engines with the same scene, whatever else is around
them, and what is true of the scene and of the log on the first of them can be followed from move to
move: through tasks by the ways in which these alter a scene, through runs by a story.

Main statement: `Abreast.play`.
-/

namespace LineClock.Course

open Machine Engine

/-! ## Tasks -/

/-- What a task makes of a scene. -/
inductive Altered (s : Scene) : Scene → Prop where
  | setup {s' : Scene} (keeps : s.Keeps registry s') (active : s'.active = s.active) : Altered s s'
  | raise (p : ProfilerId) : Altered s (s.raise p)
  | lower (p : ProfilerId) : Altered s (s.lower p)

/-- Whether a task switches a profiler. -/
def Task.switches : Task → Bool
  | .enable _ | .disable _ => true
  | _ => false

/-- Tasks that do not switch profilers leave listening alone. -/
theorem Task.setup {task : Task} (h : task.switches = false) : Setup registry task.act := by
  cases task with
  | profiler wrap clock sources =>
    exact (Setup.newProfiler wrap clock sources).bind fun _ => Setup.pure _
  | define draft => exact (Setup.define draft).bind fun _ => Setup.pure _
  | share routine =>
    refine Setup.reading (fun s => s.codeOf routine)
      (fun block => do return Reply.number (← newRoutine block)) (fun _ _ => rfl) (fun _ => rfl) fun block => ?_
    exact (Setup.newRoutine block).bind fun _ => Setup.pure _
  | replaceCode routine source =>
    refine Setup.reading (fun s => s.codeOf source) (fun block => do
      modify fun e => e.replaceCode routine block
      return Reply.done) (fun _ _ => rfl) (fun _ => rfl) fun block => ?_
    exact (Setup.replaceCode routine block).bind fun _ => Setup.pure _
  | pad routine units =>
    refine Setup.newBlock.bind fun copy => ?_
    refine Setup.reading (fun s => (s.codeOf routine).withPadding units copy) (fun block => do
      modify fun e => e.replaceCode routine block
      return Reply.done) (fun _ _ => rfl) (fun _ => rfl) fun block => ?_
    exact (Setup.replaceCode routine block).bind fun _ => Setup.pure _
  | write path bytes => exact (Setup.write path bytes).bind fun _ => Setup.pure _
  | add p routine => exact (Setup.addRoutine p routine).bind fun _ => Setup.pure _
  | addAll p routines => exact (Setup.addRoutines p routines).bind fun _ => Setup.pure _
  | wrapper p routine => exact (Setup.wrapRoutine p routine).bind fun _ => Setup.pure _
  | advance ticks => exact (Setup.spend ticks).bind fun _ => Setup.pure _
  | enable | disable => cases h

/-- Going to a thread leaves listening alone. -/
theorem setup_enter (th : ThreadKey) :
    Setup registry (modify fun e : Engine => { e with thread := th }) :=
  Setup.change (fun _ => ()) (fun s => { s with thread := th })
    (fun _ _ => Aside.of_registries rfl rfl rfl rfl rfl rfl) (fun _ => rfl) (fun _ _ => rfl)
    (fun _ h => .same h rfl rfl (Nat.le_refl _)) (fun _ => rfl) fun _ => Setup.bare_next rfl

variable {b b' : Backend} {e d : Engine} {s : Scene} {p : ProfilerId}

/-- What leaves listening alone does the same on both engines. -/
theorem setup_agrees {α : Type} {m : StateM Engine α} (hm : Setup registry m)
    (he : e.Seen b registry s) (hd : d.Seen b' registry s) :
    (m.run e).1 = (m.run d).1 ∧ ∃ s', (m.run e).2.Seen b registry s' ∧
      (m.run d).2.Seen b' registry s' ∧ Altered s s' := by
  obtain ⟨result, scene⟩ := hm.agree_whole he.ready hd.ready (he.scene.trans hd.scene.symm)
  have keeps := hm.keeps e he.ready
  have active : ((m.run e).2.scene registry).active = s.active := by
    rw [← he.scene]
    funext th
    exact congrArg Dispatch.active ((hm.aside e he.ready).dispatchAt th)
  rw [he.scene] at keeps
  refine ⟨result, _, he.setup hm, ?_, .setup keeps active⟩
  rw [scene]
  exact hd.setup hm

/-- Switching a profiler on is a task like the operation on the engine. -/
theorem run_enable_act {r : RegistryId} (own : (e.profiler p).registry = r) :
    (Task.enable p).act.run e = (.ofTry .number (answer (Engine.enable r p) e).1,
      (answer (Engine.enable r p) e).2) := by
  unfold Task.act
  rw [run_state_get_bind, own]
  rfl

theorem run_disable_act {r : RegistryId} (own : (e.profiler p).registry = r) :
    (Task.disable p).act.run e = (.ofTry .number (answer (Engine.disable r p) e).1,
      (answer (Engine.disable r p) e).2) := by
  unfold Task.act
  rw [run_state_get_bind, own]
  rfl

theorem run_enable (he : e.Seen b registry s) (p : ProfilerId) :
    ∃ e', (Task.enable p).act.run e = (.number ((s.raise p).count p), e') ∧
      e'.Seen b registry (s.raise p) := by
  obtain ⟨quiet, rfl, sole⟩ := he
  obtain ⟨e', enabled, quiet', scene⟩ := quiet.enable p
  refine ⟨e', ?_, quiet', scene, sole.raise p⟩
  rw [run_enable_act (sole.profilers p), enabled]
  rfl

theorem run_disable (he : e.Seen b registry s) (p : ProfilerId) :
    ∃ e', (Task.disable p).act.run e = (.number (s.count p - 1), e') ∧
      e'.Seen b registry (s.lower p) := by
  obtain ⟨quiet, rfl, sole⟩ := he
  obtain ⟨e', disabled, quiet', scene⟩ := quiet.disable p
  refine ⟨e', ?_, quiet', scene, sole.lower p⟩
  rw [run_disable_act (sole.profilers p), disabled]
  rfl

/-- A task answers the same on both engines. -/
theorem act_agrees (he : e.Seen b registry s) (hd : d.Seen b' registry s) (task : Task) :
    (task.act.run e).1 = (task.act.run d).1 ∧ ∃ s', (task.act.run e).2.Seen b registry s' ∧
      (task.act.run d).2.Seen b' registry s' ∧ Altered s s' := by
  by_cases switches : task.switches
  · cases task with
    | enable p =>
      obtain ⟨e', run, seen⟩ := run_enable he p
      obtain ⟨d', run', seen'⟩ := run_enable hd p
      rw [run, run']
      exact ⟨rfl, _, seen, seen', .raise p⟩
    | disable p =>
      obtain ⟨e', run, seen⟩ := run_disable he p
      obtain ⟨d', run', seen'⟩ := run_disable hd p
      rw [run, run']
      exact ⟨rfl, _, seen, seen', .lower p⟩
    | _ => cases switches
  · rw [Bool.not_eq_true] at switches
    exact setup_agrees (Task.setup switches) he hd

/-! ## Stands -/

variable {γ σ τ : Type}

/-- A host with an audience, over a state with a quiet engine in it. -/
structure Stand (b : Backend) (s : Scripts σ) (host : Host σ) (Sees : σ → View → Prop) : Prop where
  audience : Audience b host Sees
  engine : ∀ {x v}, Sees x v → (s.engine x).Seen b registry v.scene
  put : ∀ {x v}, Sees x v → ∀ {e t}, e.Seen b registry t →
    Sees (s.withEngine x e) { v with scene := t }

/-- The bare engine. -/
theorem bareStand (b : Backend) :
    Stand b Scripts.quiet Scripts.quiet.host fun e v => e.Seen b registry v.scene :=
  ⟨Seen.audience b registry, fun h => h, fun _ _ _ h => h⟩

/-- What is true of a view before and after every run. -/
structure Runs (T : Story γ) (S : View → Prop) : Prop where
  steady : T.Steady
  call : ∀ {v}, S v → ∃ c, T.Out c v ∧ ∀ {w}, T.Out c w → S w ∧ v.scene.frames ≤ w.scene.frames
  resume : ∀ {v}, S v → ∀ {id}, id < v.scene.frames → ∀ block, ∃ c, T.Idle c id block v ∧
    ∀ {w}, T.Out c w → S w ∧ v.scene.frames ≤ w.scene.frames
  waits : ∀ {c id block v}, T.Idle c id block v → id < v.scene.frames

/-- What is true of a view between the moves of a course. -/
structure Session (T : Story γ) (S : View → Prop) : Prop extends Runs T S where
  alter : ∀ {v t}, S v → Altered v.scene t → S { v with scene := t }

/-- What stays true throughout is true after a run. -/
theorem lastingRuns {I : View → Prop} (h : Lasting I) : Runs (Story.lasting I) I where
  steady := Story.lasting_steady h
  call {v} holds := ⟨v.scene.frames, ⟨holds, Nat.le_refl _⟩, fun out => out⟩
  resume {v} holds _ given _ :=
    ⟨v.scene.frames, ⟨holds, Nat.le_refl _, given⟩, fun out => out⟩
  waits idle := idle.2.2

/-- Nothing but that frames are not taken back. -/
theorem growingSession : Session (Story.lasting fun _ => True) fun _ => True where
  toRuns := lastingRuns (by constructor <;> exact fun _ => by intros; trivial)
  alter _ _ := trivial

/-- The frames of generators that can be resumed: line events are delivered for them, and their
numbers were given out. -/
def Waiting (frames : Nat) (generators : List Generator) : Prop :=
  ∀ g ∈ generators, ∀ act, g.frame = some act →
    act.frame.linesOn = true ∧ act.frame.id < frames

theorem Waiting.mono {n m : Nat} {generators : List Generator} (h : Waiting n generators)
    (le : n ≤ m) : Waiting m generators :=
  fun g mem act found => ⟨(h g mem act found).1, Nat.lt_of_lt_of_le (h g mem act found).2 le⟩

/-- A generator that was resumed waits in its place, or is finished. -/
theorem Waiting.set {n m : Nat} {generators : List Generator} (waiting : Waiting n generators)
    (le : n ≤ m) (i : Nat) {g : Generator}
    (h : ∀ act, g.frame = some act → act.frame.linesOn = true ∧ act.frame.id < m) :
    Waiting m (generators.set i g) := by
  intro g' mem act found
  rcases List.mem_or_eq_of_mem_set mem with mem | rfl
  · exact waiting.mono le g' mem act found
  · exact h act found

theorem Altered.frames {s s' : Scene} (h : Altered s s') : s.frames ≤ s'.frames := by
  cases h with
  | setup keeps active => exact keeps.frames
  | raise p => exact Nat.le_refl _
  | lower p =>
    rw [Scene.lower_eq]

/-- Stages of one course on two stands. -/
structure Abreast (Sees : σ → View → Prop) (Sees' : τ → View → Prop) (S : View → Prop)
    (st : Stage σ) (st' : Stage τ) : Prop where
  generators : st.generators = st'.generators
  views : ∃ v w, Sees st.state v ∧ Sees' st'.state w ∧ v.scene = w.scene ∧ S v ∧
    Waiting v.scene.frames st.generators

namespace Abreast

variable {T : Story γ} {S : View → Prop} {s : Scripts σ} {s' : Scripts τ} {h : Host σ} {k : Host τ}
  {Sees : σ → View → Prop} {Sees' : τ → View → Prop} {st : Stage σ} {st' : Stage τ} {budget : Nat}

/-- What both engines agree in does not set the stages apart. -/
theorem altered (left : Stand b s h Sees) (right : Stand b' s' k Sees') (session : Session T S)
    {m : StateM Engine Reply} (agrees : ∀ {e d t}, e.Seen b registry t → d.Seen b' registry t →
      (m.run e).1 = (m.run d).1 ∧ ∃ t', (m.run e).2.Seen b registry t' ∧
        (m.run d).2.Seen b' registry t' ∧ Altered t t') (abreast : Abreast Sees Sees' S st st') :
    ((s.run m).run st.state).1 = ((s'.run m).run st'.state).1 ∧
      Abreast Sees Sees' S { st with state := ((s.run m).run st.state).2 }
        { st' with state := ((s'.run m).run st'.state).2 } := by
  obtain ⟨generators, v, w, sees, sees', same, holds, waiting⟩ := abreast
  have there := right.engine sees'
  rw [← same] at there
  obtain ⟨result, t, seen, seen', altered⟩ := agrees (left.engine sees) there
  exact ⟨result, generators, _, _, left.put sees seen, right.put sees' seen', rfl,
    session.alter holds altered, waiting.mono altered.frames⟩

theorem enter (left : Stand b s h Sees) (right : Stand b' s' k Sees') (session : Session T S)
    (abreast : Abreast Sees Sees' S st st') (t : Turn) :
    Abreast Sees Sees' S (t.enter s st) (t.enter s' st') :=
  (altered (m := do
    modify fun e : Engine => { e with thread := t.thread }
    return .done) left right session
    (fun he hd => setup_agrees ((setup_enter t.thread).bind fun _ => Setup.pure _) he hd)
    abreast).2

theorem call (left : Stand b s h Sees) (right : Stand b' s' k Sees') (runs : Runs T S)
    (abreast : Abreast Sees Sees' S st st') (routine : RoutineId) :
    ((Machine.call h budget routine).out st.state).1 =
        ((Machine.call k budget routine).out st'.state).1 ∧
      Abreast Sees Sees' S { st with state := ((Machine.call h budget routine).out st.state).2 }
        { st' with state := ((Machine.call k budget routine).out st'.state).2 } := by
  obtain ⟨generators, v, w, sees, sees', same, holds, waiting⟩ := abreast
  obtain ⟨c, out, back⟩ := runs.call holds
  have calls := (runs.steady.accord.simulation left.audience right.audience).calls budget c
    routine st.state st'.state ⟨v, w, sees, sees', same, out⟩
  rcases calls with lost | ⟨outcome, v', w', seen, seen', same', out'⟩
  · exact lost.elim
  · obtain ⟨holds', grown⟩ := back out'
    exact ⟨outcome, generators, v', w', seen, seen', same', holds', waiting.mono grown⟩

theorem resume (left : Stand b s h Sees) (right : Stand b' s' k Sees') (runs : Runs T S)
    (abreast : Abreast Sees Sees' S st st') {i : Nat} {g : Generator} {act : Activation}
    (there : st.generators[i]? = some g) (found : g.frame = some act) :
    let o := (Machine.step h budget g.routine act).out st.state
    let o' := (Machine.step k budget g.routine act).out st'.state
    o.1.map Prod.fst = o'.1.map Prod.fst ∧
      Abreast Sees Sees' S { state := o.2, generators := st.generators.set i (g.after o.1) }
        { state := o'.2, generators := st'.generators.set i (g.after o'.1) } := by
  obtain ⟨generators, v, w, sees, sees', same, holds, waiting⟩ := abreast
  obtain ⟨on, given⟩ := waiting g (List.mem_of_getElem? there) act found
  obtain ⟨c, idle, back⟩ := runs.resume holds given act.frame.block
  have resumed := (runs.steady.accord.simulation left.audience right.audience).step c budget
    g.routine (Accord.alongside_idle on ⟨v, w, sees, sees', same, idle⟩)
  simp only
  rcases ho : (Machine.step h budget g.routine act).out st.state with ⟨o, x⟩
  rcases ho' : (Machine.step k budget g.routine act).out st'.state with ⟨o', y⟩
  rw [ho, ho'] at resumed
  rcases resumed with lost | resumed
  · exact lost.elim
  rcases o with error | ⟨_ | _, a⟩ <;> rcases o' with error' | ⟨_ | _, a'⟩
  case error.error =>
    obtain ⟨rfl, v', w', seen, seen', same', out'⟩ := resumed
    obtain ⟨holds', grown⟩ := back out'
    refine ⟨rfl, by rw [generators], v', w', seen, seen', same', holds', ?_⟩
    exact waiting.set grown i fun _ h => by cases h
  case ok.returned.ok.returned =>
    obtain ⟨v', w', seen, seen', same', out'⟩ := resumed
    obtain ⟨holds', grown⟩ := back out'
    refine ⟨rfl, by rw [generators]; rfl, v', w', seen, seen', same', holds', ?_⟩
    exact waiting.set grown i fun _ h => by cases h
  case ok.yielded.ok.yielded =>
    obtain ⟨twins, ⟨v', w', seen, seen', same', idle'⟩, lit⟩ := resumed
    obtain ⟨rfl, on'⟩ := lit.eq twins
    obtain ⟨holds', grown⟩ := back (runs.steady.rest idle')
    refine ⟨rfl, by rw [generators], v', w', seen, seen', same', holds', ?_⟩
    refine waiting.set grown i fun act h => ?_
    cases h
    exact ⟨on', runs.waits idle'⟩
  all_goals exact resumed.elim

/-- A move answers the same on both stands. -/
theorem perform (left : Stand b s h Sees) (right : Stand b' s' k Sees') (session : Session T S)
    (abreast : Abreast Sees Sees' S st st') (m : Move) :
    (m.perform s h budget st).1 = (m.perform s' k budget st').1 ∧
      Abreast Sees Sees' S (m.perform s h budget st).2 (m.perform s' k budget st').2 := by
  cases m with
  | task t => exact altered left right session (fun he hd => act_agrees he hd t) abreast
  | call routine =>
    obtain ⟨outcome, abreast'⟩ := abreast.call left right session.toRuns routine
    exact ⟨congrArg Reply.ran outcome, abreast'⟩
  | generator routine =>
    obtain ⟨x, gs⟩ := st
    obtain ⟨y, _⟩ := st'
    obtain ⟨rfl, v, w, sees, sees', same, holds, waiting⟩ := abreast
    obtain ⟨id, seen⟩ := left.audience.newFrame sees
    obtain ⟨id', seen'⟩ := right.audience.newFrame sees'
    have keeps : v.scene.Keeps registry v.scene.addFrame :=
      .same (left.engine sees).sole rfl rfl (Nat.le_succ _)
    have code : h.code x routine = k.code y routine := by
      rw [left.audience.code sees, right.audience.code sees', same]
    refine ⟨rfl, ?_, _, _, seen, seen', congrArg Scene.addFrame same,
      session.alter holds (.setup keeps rfl), fun g mem act found => ?_⟩
    · change gs ++ [Generator.mk _ (some (fresh (h.newFrame x).1 _))] =
        gs ++ [Generator.mk _ (some (fresh (k.newFrame y).1 _))]
      rw [id, id', code, same]
    · rcases List.mem_append.mp mem with mem | mem
      · exact waiting.mono (Nat.le_succ _) g mem act found
      · cases List.mem_singleton.mp mem
        cases found
        exact ⟨rfl, Nat.lt_of_le_of_lt (Nat.le_of_eq id) (Nat.lt_succ_self _)⟩
  | resume i =>
    unfold Move.perform
    simp only
    have generators := abreast.generators
    cases there : st.generators[i]? with
    | none =>
      rw [generators] at there
      rw [there]
      exact ⟨rfl, abreast⟩
    | some g =>
      have there' := there
      rw [generators] at there'
      rw [there']
      simp only
      cases found : g.frame with
      | none => exact ⟨rfl, abreast⟩
      | some act =>
        obtain ⟨outcome, abreast'⟩ := abreast.resume left right session.toRuns there found
        exact ⟨congrArg Reply.left outcome, abreast'⟩

/-- **Courses play in the same way on both stands**, from stages that agree. -/
theorem play (left : Stand b s h Sees) (right : Stand b' s' k Sees') (session : Session T S)
    (turns : List Turn) : ∀ {st : Stage σ} {st' : Stage τ}, Abreast Sees Sees' S st st' →
      (play s h budget turns st).1 = (play s' k budget turns st').1 ∧
        Abreast Sees Sees' S (play s h budget turns st).2 (play s' k budget turns st').2 := by
  induction turns with
  | nil => exact fun abreast => ⟨rfl, abreast⟩
  | cons t rest ih =>
    intro st st' abreast
    obtain ⟨reply, abreast'⟩ := (abreast.enter left right session t).perform left right session t.move
    obtain ⟨replies, abreast''⟩ := ih abreast'
    refine ⟨?_, abreast''⟩
    unfold Course.play
    simp only
    rw [reply, replies]

end Abreast

/-!
## Courses with a log

The machine's surroundings with a log beside the engine, in which every announcement to the trace
hook is noted together with the scene in which it was made. Nothing that happens depends on the log.
-/

/-- A log beside the engine. -/
abbrev Logged := Engine × List Sighting

/-- Act on the engine and leave the log alone. -/
def beside {α : Type} (m : StateM Engine α) : StateM Logged α :=
  fun x => ((m x.1).1, (m x.1).2, x.2)

/-- Scripts that do nothing, over the engine and the log. -/
def logScripts : Scripts Logged where
  engine x := x.1
  withEngine x e := (e, x.2)
  trace _ frame _ := pure frame.linesOn
  monitor _ _ := pure .goOn

/-- The surroundings of a quiet machine, with a note of each announcement to the trace hook. -/
def logHost : Host Logged where
  code x routine := Scripts.quiet.host.code x.1 routine
  newFrame := beside Scripts.quiet.host.newFrame
  work n := beside (Scripts.quiet.host.work n)
  trace frame event := ExceptT.mk do
    modify fun x => (x.1, ⟨x.1.scene registry, frame, event⟩ :: x.2)
    beside (Scripts.quiet.host.trace frame event).run
  monitor event := ExceptT.mk (beside (Scripts.quiet.host.monitor event).run)
  enter routine := ExceptT.mk (beside (Scripts.quiet.host.enter routine).run)
  leave routine := beside (Scripts.quiet.host.leave routine)

/-- A quiet engine, its scene and the log beside it. -/
def SeesLog (b : Backend) (x : Logged) (v : View) : Prop :=
  x.1.Seen b registry v.scene ∧ x.2 = v.log

-- The next equations are for rewriting: comparing the two sides of a goal by unfolding would go into
-- the engine.
theorem logHost_newFrame (x : Logged) :
    logHost.newFrame x = ((Scripts.quiet.host.newFrame x.1).1,
      (Scripts.quiet.host.newFrame x.1).2, x.2) := rfl

theorem logHost_work (n : UInt8) (x : Logged) :
    (logHost.work n x).2 = ((Scripts.quiet.host.work n x.1).2, x.2) := rfl

theorem logHost_leave (routine : RoutineId) (x : Logged) :
    (logHost.leave routine x).2 = ((Scripts.quiet.host.leave routine x.1).2, x.2) := rfl

theorem answer_beside {ε α : Type} (m : ExceptT ε (StateM Engine) α) (x : Logged) :
    answer (ExceptT.mk (beside m.run)) x = ((answer m x.1).1, (answer m x.1).2, x.2) := rfl

theorem answer_logHost_trace (frame : Frame) (event : TraceEvent) (x : Logged) :
    answer (logHost.trace frame event) x =
      ((answer (Scripts.quiet.host.trace frame event) x.1).1,
        (answer (Scripts.quiet.host.trace frame event) x.1).2,
        ⟨x.1.scene registry, frame, event⟩ :: x.2) := rfl

theorem logAudience (b : Backend) : Audience b logHost (SeesLog b) where
  code h routine := (Seen.audience b registry).code h.1 routine
  newFrame {x v} h := by
    obtain ⟨id, seen⟩ := h.1.newFrame
    rw [logHost_newFrame]
    exact ⟨id, seen, h.2⟩
  work {x v} h n := by
    have seen := h.1.work n
    rw [logHost_work]
    exact ⟨seen, h.2.trans (v.on_log _).symm⟩
  trace {x v} h frame event := by
    obtain ⟨e', told, seen⟩ := h.1.trace frame event
    refine ⟨(e', ⟨v.scene, frame, event⟩ :: v.log), ?_, seen, rfl⟩
    rw [answer_logHost_trace, told, h.1.scene, h.2]
  monitor {x v} h event := by
    obtain ⟨e', told, seen⟩ := h.1.monitor event
    refine ⟨(e', x.2), ?_, seen, h.2⟩
    have both : answer (logHost.monitor event) x = _ := answer_beside _ x
    rw [both, told]
  enter {x v} h routine := by
    obtain ⟨e', entered, seen⟩ := h.1.enter routine
    refine ⟨(e', x.2), ?_, seen, h.2⟩
    have both : answer (logHost.enter routine) x = _ := answer_beside _ x
    rw [both, entered]
  leave {x v} h routine := by
    have seen := h.1.leave routine
    rw [logHost_leave]
    exact ⟨seen, h.2⟩

/-- The engine with a log beside it. -/
theorem logStand (b : Backend) : Stand b logScripts logHost (SeesLog b) :=
  ⟨logAudience b, fun h => h.1, fun h _ _ seen => ⟨seen, h.2⟩⟩

/-- Play a course with a log, from its start. -/
def playLogged (b : Backend) (monitored wrap : Bool) (budget : Nat) (turns : List Turn) :
    List Reply × Stage Logged :=
  play logScripts logHost budget turns ⟨(start b monitored wrap, []), []⟩

end LineClock.Course
