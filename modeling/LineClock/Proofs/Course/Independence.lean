import LineClock.Proofs.Course.Backends
import LineClock.Proofs.Engine.KinRuns
import LineClock.Proofs.Engine.KinSetup

/-!
# Profilers of one registry do not influence each other

Two courses may differ in where other profilers are switched on and off: between the moves, on any
threads, or by wrappers of theirs that are called from outside or by the code itself. What a profiler
recorded is the same after both, and so is what is pending for it.

Main statement: `profilers_independent`.
-/

namespace LineClock.Course

open Machine Engine

variable {b : Backend} {p : ProfilerId} {table : Assoc RoutineId Routine} {budget : Nat}

/-! ## Courses that differ in other profilers -/

/-- A move that only switches a profiler other than `p`. -/
def Move.SwitchesOther (p : ProfilerId) : Move → Prop
  | .task (.enable q) | .task (.disable q) => q ≠ p
  | _ => False

/-- Moves that `p` cannot tell apart, where the routines in `table` are there: the same is done, with
kin of the routines that are called. -/
inductive Move.Kin (p : ProfilerId) (table : Assoc RoutineId Routine) : Move → Move → Prop where
  | same (m : Move) : Kin p table m m
  | call {r r' : RoutineId} (kin : LineClock.Kin p table r r') : Kin p table (.call r) (.call r')
  | generator {r r' : RoutineId} (kin : LineClock.Kin p table r r') :
    Kin p table (.generator r) (.generator r')
  | define (draft : Draft) (callees : List RoutineId)
    (kin : List.Forall₂ (LineClock.Kin p table) draft.callees callees) :
    Kin p table (.task (.define draft)) (.task (.define { draft with callees }))

/-- The stage after a turn. -/
def Turn.next (budget : Nat) (t : Turn) (st : Stage Engine) : Stage Engine :=
  (t.move.perform Scripts.quiet Scripts.quiet.host budget (t.enter Scripts.quiet st)).2

/-- Courses that differ only in where profilers other than `p` are switched on and off. The first one
is played from the stage that is given. -/
inductive Differ (p : ProfilerId) (budget : Nat) : Stage Engine → List Turn → List Turn → Prop where
  | done (st : Stage Engine) : Differ p budget st [] []
  | both {st : Stage Engine} {th : ThreadKey} {m m' : Move} {rest rest' : List Turn}
    (kin : m.Kin p st.state.routines m')
    (later : Differ p budget (Turn.next budget ⟨th, m⟩ st) rest rest') :
    Differ p budget st (⟨th, m⟩ :: rest) (⟨th, m'⟩ :: rest')
  | first {st : Stage Engine} {t : Turn} {rest rest' : List Turn} (other : t.move.SwitchesOther p)
    (later : Differ p budget (t.next budget st) rest rest') : Differ p budget st (t :: rest) rest'
  | second {st : Stage Engine} {t : Turn} {rest rest' : List Turn} (other : t.move.SwitchesOther p)
    (later : Differ p budget st rest rest') : Differ p budget st rest (t :: rest')

/-! ## Tasks -/

/-- What two engines of kin are left as. -/
def Left (b : Backend) (p : ProfilerId) (table : Assoc RoutineId Routine) (e d : Engine) : Prop :=
  ∃ table', Grows table table' ∧ e.Level b registry p table' d

variable {e d : Engine} {s t : Scene}

/-- What is done to scenes in the same way leaves engines level. -/
theorem left_of_coupled {α β : Type} {Q : α → β → Prop} {m : StateM Engine α} {m' : StateM Engine β}
    (coupled : Coupled registry p table Q m m') (setup : Setup registry m) (setup' : Setup registry m')
    (he : e.Seen b registry s) (hd : d.Seen b registry t) (level : s.Level p table t) :
    Q (m.run e).1 (m'.run d).1 ∧ (m.run e).2.Level b registry p table (m'.run d).2 := by
  rw [← he.scene, ← hd.scene] at level
  obtain ⟨same, level'⟩ := coupled e d he.ready hd.ready level
  exact ⟨same, _, _, he.setup setup, hd.setup setup', level'⟩

/-- A routine of kin is made. -/
theorem left_newRoutine {c c' : Block} (kin : Block.Kin p table c c')
    (level : e.Level b registry p table d) :
    Left b p table ((newRoutine c).run e).2 ((newRoutine c').run d).2 := by
  obtain ⟨s, t, he, hd, level⟩ := level
  rw [← he.scene, ← hd.scene] at level
  obtain ⟨table', grows, level'⟩ := level.newRoutine kin
  exact ⟨table', grows, _, _, he.setup (.newRoutine c), hd.setup (.newRoutine c'), level'⟩

/-- The code of a routine is kin. -/
theorem kin_codeOf (level : e.Level b registry p table d) (r : RoutineId) :
    Block.Kin p table (e.codeOf r) (d.codeOf r) := by
  obtain ⟨s, t, he, hd, level⟩ := level
  rw [← he.scene, ← hd.scene] at level
  exact level.table ▸ level.kin.codeOf (.inl rfl)

/-- A wrapper is made of a routine if that could be added. -/
theorem left_wrapper {q : ProfilerId} {routine : RoutineId}
    (same : (answer (addRoutine q routine) e).1 = (answer (addRoutine q routine) d).1)
    (level : (answer (addRoutine q routine) e).2.Level b registry p table
      (answer (addRoutine q routine) d).2) :
    Left b p table (answer (wrapRoutine q routine) e).2 (answer (wrapRoutine q routine) d).2 := by
  rw [answer_wrapRoutine, answer_wrapRoutine]
  rcases left : answer (addRoutine q routine) e with ⟨_ | _, e'⟩ <;>
    rcases right : answer (addRoutine q routine) d with ⟨_ | _, d'⟩ <;>
    rw [left, right] at same level
  case error.error => exact ⟨table, .refl _, level⟩
  case ok.ok =>
    obtain ⟨s, t, he, hd, level⟩ := level
    have own : (e'.profiler q).registry = registry := he.ready.sole.profilers q
    have own' : (d'.profiler q).registry = registry := hd.ready.sole.profilers q
    simp only
    rw [own, own']
    rw [← he.scene, ← hd.scene] at level
    obtain ⟨table', grows, level'⟩ := level.newWrapper routine ⟨registry, q⟩
    exact ⟨table', grows, _, _, he.setup (.newWrapper routine q), hd.setup (.newWrapper routine q), level'⟩
  all_goals cases same

/-- **Tasks that switch nobody leave kin as kin.** -/
theorem left_task {task task' : Task} (kin : (Move.task task).Kin p table (.task task'))
    (still : task.switches = false) (level : e.Level b registry p table d) :
    Left b p table (task.act.run e).2 (task'.act.run d).2 := by
  have level' := level
  obtain ⟨s, t, he, hd, scenes⟩ := level
  have given : ∀ {α β : Type} {Q : α → β → Prop} {m : StateM Engine α} {m' : StateM Engine β},
      Coupled registry p table Q m m' → Setup registry m → Setup registry m' →
        Q (m.run e).1 (m'.run d).1 ∧ (m.run e).2.Level b registry p table (m'.run d).2 :=
    fun coupled setup setup' => left_of_coupled coupled setup setup' he hd scenes
  have made := given Coupled.newBlock Setup.newBlock Setup.newBlock
  have blocks : e.blocks = d.blocks := made.1
  cases kin with
  | define draft callees kin =>
    have both : Block.Kin p table (draft.build e.blocks) (Draft.build { draft with callees := _ } d.blocks) :=
      ⟨_, kin, by rw [blocks]; rfl⟩
    exact left_newRoutine both made.2
  | same =>
    cases task with
    | profiler wrap clock sources =>
      exact ⟨table, .refl _, (given (Coupled.newProfiler wrap clock sources)
        (Setup.newProfiler wrap clock sources) (Setup.newProfiler wrap clock sources)).2⟩
    | define draft =>
      have both : Block.Kin p table (draft.build e.blocks) (draft.build d.blocks) := by
        rw [blocks]
        exact .refl _
      exact left_newRoutine both made.2
    | share routine => exact left_newRoutine (kin_codeOf level' routine) level'
    | replaceCode routine source =>
      have kin := kin_codeOf level' source
      exact ⟨table, .refl _, (given (Coupled.replaceCode routine kin) (Setup.replaceCode routine _)
        (Setup.replaceCode routine _)).2⟩
    | pad routine units =>
      have kin := (kin_codeOf made.2 routine).withPadding units e.blocks
      obtain ⟨_, _, he', hd', scenes'⟩ := made.2
      have done := (left_of_coupled (Coupled.replaceCode routine kin) (Setup.replaceCode routine _)
        (Setup.replaceCode routine _) he' hd' scenes').2
      refine ⟨table, .refl _, ?_⟩
      have left : ∀ e : Engine, ((Task.pad routine units).act.run e).2 =
        ((modify fun x : Engine => x.replaceCode routine ((newBlock.run e).2.codeOf routine |>.withPadding units e.blocks) : StateM Engine PUnit).run (newBlock.run e).2).2 := fun _ => rfl
      rw [left, left, ← blocks]
      exact done
    | write path bytes =>
      exact ⟨table, .refl _, (given (Coupled.write path bytes) (Setup.write path bytes)
        (Setup.write path bytes)).2⟩
    | add q routine =>
      exact ⟨table, .refl _, (given (Coupled.addRoutine q routine) (Setup.addRoutine q routine)
        (Setup.addRoutine q routine)).2⟩
    | addAll q routines =>
      exact ⟨table, .refl _, (given (Coupled.addRoutines q routines) (Setup.addRoutines q routines)
        (Setup.addRoutines q routines)).2⟩
    | wrapper q routine =>
      obtain ⟨same, level'⟩ := given (Coupled.addRoutine q routine) (Setup.addRoutine q routine)
        (Setup.addRoutine q routine)
      exact left_wrapper same level'
    | advance ticks =>
      exact ⟨table, .refl _, (given (Coupled.spend ticks) (Setup.spend ticks) (Setup.spend ticks)).2⟩
    | enable | disable => cases still

/-! ## Stages -/

/-- A generator and one that `p` cannot tell apart from it. -/
structure Generator.Kin (p : ProfilerId) (table : Assoc RoutineId Routine) (g g' : Generator) : Prop where
  routine : LineClock.Kin p table g.routine g'.routine
  frame : Option.Rel (fun a a' => a.Kin p table a' ∧ a.frame.linesOn = true) g.frame g'.frame

theorem Generator.Kin.mono {table' : Assoc RoutineId Routine} {g g' : Generator}
    (h : g.Kin p table g') (grows : Grows table table') : g.Kin p table' g' := by
  obtain ⟨routine, frame⟩ := g
  obtain ⟨routine', frame'⟩ := g'
  obtain ⟨kin, frames⟩ := h
  simp only at kin frames
  refine ⟨kin.mono grows, ?_⟩
  cases frames with
  | none => exact .none
  | some both => exact .some ⟨both.1.mono grows, both.2⟩

/-- Stages that `p` cannot tell apart. -/
structure Kindred (b : Backend) (p : ProfilerId) (st st' : Stage Engine) : Prop where
  scenes : ∃ s t, st.state.Seen b registry s ∧ st'.state.Seen b registry t ∧ s.Kin p t
  generators : List.Forall₂ (Generator.Kin p st.state.routines) st.generators st'.generators

namespace Kindred

variable {st st' : Stage Engine}

theorem seen_goTo (seen : e.Seen b registry s) (th : ThreadKey) :
    ({ e with thread := th } : Engine).Seen b registry { s with thread := th } := by
  have moved := seen.setup (setup_enter th)
  have scene : ((modify fun e : Engine => { e with thread := th } :
      StateM Engine Unit).run e).2.scene registry = { e.scene registry with thread := th } := rfl
  rw [scene, seen.scene] at moved
  exact moved

/-- The routines of an engine are those of its scene. -/
theorem seen_routines (seen : e.Seen b registry s) : e.routines = s.routines :=
  congrArg Scene.routines seen.scene

/-- Both sides go to a thread. -/
theorem enter (h : Kindred b p st st') (t t' : Turn) (same : t.thread = t'.thread) :
    (t.enter Scripts.quiet st).state.Level b registry p st.state.routines
      (t'.enter Scripts.quiet st').state := by
  obtain ⟨⟨s, u, seen, seen', kin⟩, -⟩ := h
  exact ⟨_, _, seen_goTo seen t.thread, seen_goTo seen' t'.thread, kin.goTo _ _, same,
    (seen_routines seen).symm⟩

/-- Engines were left as kin, with generators that are kin. -/
theorem of_left (left : Left b p table e d) {gs gs' : List Generator}
    (generators : List.Forall₂ (Generator.Kin p table) gs gs') :
    Kindred b p ⟨e, gs⟩ ⟨d, gs'⟩ := by
  obtain ⟨table', grows, s, t, seen, seen', level⟩ := left
  refine ⟨⟨s, t, seen, seen', level.kin⟩, ?_⟩
  rw [seen_routines seen, level.table]
  exact generators.imp fun _ _ kin => kin.mono grows

/-- The same profiler is switched on both sides. -/
theorem switch {task : Task} (switches : task.switches = true)
    (level : e.Level b registry p table d) :
    Left b p table (task.act.run e).2 (task.act.run d).2 := by
  obtain ⟨s, t, seen, seen', level⟩ := level
  cases task with
  | enable q =>
    obtain ⟨e', run, next⟩ := run_enable seen q
    obtain ⟨d', run', next'⟩ := run_enable seen' q
    rw [run, run']
    exact ⟨table, .refl _, _, _, next, next', level.raise q⟩
  | disable q =>
    obtain ⟨e', run, next⟩ := run_disable seen q
    obtain ⟨d', run', next'⟩ := run_disable seen' q
    rw [run, run']
    exact ⟨table, .refl _, _, _, next, next', level.lower q⟩
  | _ => cases switches

/-- A generator is resumed on both sides. -/
theorem resume {gs gs' : List Generator} (level : e.Level b registry p table d)
    (generators : List.Forall₂ (Generator.Kin p table) gs gs') (i : Nat) :
    Kindred b p ((Move.resume i).perform Scripts.quiet Scripts.quiet.host budget ⟨e, gs⟩).2
      ((Move.resume i).perform Scripts.quiet Scripts.quiet.host budget ⟨d, gs'⟩).2 := by
  have twins := forall₂_getElem? generators i
  unfold Move.perform
  simp only
  generalize gs[i]? = g at twins ⊢
  generalize gs'[i]? = g' at twins ⊢
  cases twins with
  | none => exact of_left ⟨table, .refl _, level⟩ generators
  | @some g g' both =>
    obtain ⟨routine, frame⟩ := g
    obtain ⟨routine', frame'⟩ := g'
    obtain ⟨kin, frames⟩ := both
    simp only at kin frames ⊢
    cases frames with
    | none => exact of_left ⟨table, .refl _, level⟩ generators
    | @some a a' frames =>
      have resumed := KinRuns.step budget kin ⟨frames.1, frames.2, level⟩
      simp only
      generalize (Machine.step Scripts.quiet.host budget routine a).out e = x at resumed ⊢
      generalize (Machine.step Scripts.quiet.host budget routine' a').out d = y at resumed ⊢
      rcases x with ⟨_ | ⟨flow, a₁⟩, e'⟩ <;> rcases y with ⟨_ | ⟨flow', a₁'⟩, d'⟩
      case error.error =>
        exact of_left ⟨table, .refl _, resumed.2⟩ (forall₂_set generators i ⟨kin, .none⟩)
      case ok.ok =>
        obtain ⟨rfl, frame, on, level'⟩ := resumed
        refine of_left ⟨table, .refl _, level'⟩ (forall₂_set generators i ?_)
        cases flow with
        | returned => exact ⟨kin, .none⟩
        | yielded => exact ⟨kin, .some ⟨frame, on⟩⟩
      all_goals exact resumed.elim

/-- **Moves that `p` cannot tell apart** lead to stages that it cannot tell apart. -/
theorem perform {m m' : Move} (kin : m.Kin p table m') {gs gs' : List Generator}
    (level : e.Level b registry p table d)
    (generators : List.Forall₂ (Generator.Kin p table) gs gs') :
    Kindred b p (m.perform Scripts.quiet Scripts.quiet.host budget ⟨e, gs⟩).2
      (m'.perform Scripts.quiet Scripts.quiet.host budget ⟨d, gs'⟩).2 := by
  have calls : ∀ {r r'}, LineClock.Kin p table r r' →
      Kindred b p ((Move.call r).perform Scripts.quiet Scripts.quiet.host budget ⟨e, gs⟩).2
        ((Move.call r').perform Scripts.quiet Scripts.quiet.host budget ⟨d, gs'⟩).2 :=
    fun kin => of_left ⟨table, .refl _, (KinRuns.calls budget _ _ e d kin level).2⟩ generators
  have begins : ∀ {r r'}, LineClock.Kin p table r r' →
      Kindred b p ((Move.generator r).perform Scripts.quiet Scripts.quiet.host budget ⟨e, gs⟩).2
        ((Move.generator r').perform Scripts.quiet Scripts.quiet.host budget ⟨d, gs'⟩).2 := by
    intro r r' kin
    obtain ⟨-, frame, on, level'⟩ := KinRuns.fresh level kin
    refine of_left ⟨table, .refl _, level'⟩ ?_
    exact List.rel_append generators (.cons ⟨kin, .some ⟨frame, on⟩⟩ .nil)
  cases kin with
  | call kin => exact calls kin
  | generator kin => exact begins kin
  | define draft callees kin =>
    exact of_left (left_task (.define draft callees kin) rfl level) generators
  | same =>
    cases m with
    | call r => exact calls (.inl rfl)
    | generator r => exact begins (.inl rfl)
    | task task =>
      cases switches : task.switches with
      | false => exact of_left (left_task (.same _) switches level) generators
      | true => exact of_left (switch switches level) generators
    | resume i => exact resume level generators i

/-- To `p` it makes no difference, on either side, when another profiler is switched. -/
theorem switchesOther (budget : Nat) (seen : e.Seen b registry s) {m : Move}
    (other : m.SwitchesOther p) (gs : List Generator) :
    ∃ e' s', (m.perform Scripts.quiet Scripts.quiet.host budget ⟨e, gs⟩).2 = ⟨e', gs⟩ ∧
      e'.Seen b registry s' ∧ s'.routines = s.routines ∧ (∀ t, s.Kin p t → s'.Kin p t) ∧
        ∀ t, Scene.Kin p t s → Scene.Kin p t s' := by
  have performed : ∀ task : Task, ((Move.task task).perform Scripts.quiet Scripts.quiet.host budget
    ⟨e, gs⟩).2 = ⟨(task.act.run e).2, gs⟩ := fun _ => rfl
  unfold Move.SwitchesOther at other
  split at other
  · rename_i q
    obtain ⟨e', run, next⟩ := run_enable seen q
    refine ⟨e', _, ?_, next, rfl, fun t kin => kin.raise_left other, fun t kin => kin.raise_right other⟩
    rw [performed, run]
  · rename_i q
    obtain ⟨e', run, next⟩ := run_disable seen q
    refine ⟨e', _, ?_, next, ?_, fun t kin => kin.lower_left other, fun t kin => kin.lower_right other⟩
    · rw [performed, run]
    · rw [Scene.lower_eq]
  · exact other.elim

/-- Another profiler is switched in the first course. -/
theorem first (h : Kindred b p st st') {t : Turn} (other : t.move.SwitchesOther p) :
    Kindred b p (t.next budget st) st' := by
  obtain ⟨⟨s, u, seen, seen', kin⟩, generators⟩ := h
  obtain ⟨e', s', performed, next, routines, first, -⟩ :=
    switchesOther budget (seen_goTo seen t.thread) other st.generators
  have after : t.next budget st = ⟨e', st.generators⟩ := performed
  have same : e'.routines = st.state.routines :=
    (seen_routines next).trans (routines.trans (seen_routines seen).symm)
  rw [after]
  refine ⟨⟨s', u, next, seen', first u (kin.goTo t.thread u.thread)⟩, ?_⟩
  rw [same]
  exact generators

/-- Another profiler is switched in the second course. -/
theorem second (h : Kindred b p st st') {t : Turn} (other : t.move.SwitchesOther p) :
    Kindred b p st (t.next budget st') := by
  obtain ⟨⟨s, u, seen, seen', kin⟩, generators⟩ := h
  obtain ⟨e', u', performed, next, -, -, second⟩ :=
    switchesOther budget (seen_goTo seen' t.thread) other st'.generators
  have after : t.next budget st' = ⟨e', st'.generators⟩ := performed
  rw [after]
  exact ⟨⟨s, u', seen, next, second s (kin.goTo s.thread t.thread)⟩, generators⟩

/-- **Courses that differ only in where others are switched** lead to stages that `p` cannot tell
apart. -/
theorem play {turns turns' : List Turn} (differ : Differ p budget st turns turns') :
    ∀ {st' : Stage Engine}, Kindred b p st st' →
      Kindred b p (Course.play Scripts.quiet Scripts.quiet.host budget turns st).2
        (Course.play Scripts.quiet Scripts.quiet.host budget turns' st').2 := by
  induction differ with
  | done => exact fun h => h
  | both kin later ih =>
    exact fun {st'} h => ih (perform kin (h.enter ⟨_, _⟩ ⟨_, _⟩ rfl) h.generators)
  | first other later ih => exact fun h => ih (h.first other)
  | second other later ih => exact fun h => ih (h.second other)

end Kindred

/-- At the start nobody can be told apart. -/
theorem kindred_start (b : Backend) (monitored wrap : Bool) (h : b = .tool → monitored = true)
    (p : ProfilerId) : Kindred b p ⟨start b monitored wrap, []⟩ ⟨start b monitored wrap, []⟩ := by
  have seen := seen_start b monitored wrap h
  refine ⟨⟨_, _, seen, seen, rfl, fun _ => .refl _, rfl, fun _ => rfl, ?_, ?_, ?_⟩, .nil⟩
  all_goals rw [start_eq b monitored wrap h]
  · exact fun _ => Scene.Fair.nil
  · exact fun _ => Scene.Fair.nil
  · rfl

/-- **Profilers of one registry do not influence each other.** After two courses that differ only in
where other profilers are switched on and off, on any threads, between the moves or by wrappers of
theirs, a profiler has recorded the same, and the same is pending for it on every thread. -/
theorem profilers_independent (b : Backend) (monitored wrap : Bool) (budget : Nat)
    (turns turns' : List Turn) (h : b = .tool → monitored = true) (p : ProfilerId)
    (differ : Differ p budget ⟨start b monitored wrap, []⟩ turns turns') :
    let course := play Scripts.quiet Scripts.quiet.host budget turns ⟨start b monitored wrap, []⟩
    let course' := play Scripts.quiet Scripts.quiet.host budget turns' ⟨start b monitored wrap, []⟩
    (course.2.state.profiler p).snapshot = (course'.2.state.profiler p).snapshot ∧
      ∀ th, (course.2.state.profiler p).tally.pendingOn th =
        (course'.2.state.profiler p).tally.pendingOn th := by
  obtain ⟨⟨s, t, seen, seen', kin⟩, -⟩ := (kindred_start b monitored wrap h p).play differ
  have same : (play Scripts.quiet Scripts.quiet.host budget turns
      ⟨start b monitored wrap, []⟩).2.state.profiler p =
    (play Scripts.quiet Scripts.quiet.host budget turns'
      ⟨start b monitored wrap, []⟩).2.state.profiler p := by
    have own := kin.own
    rw [← seen.scene, ← seen'.scene] at own
    exact own
  simp only
  rw [same]
  exact ⟨rfl, fun _ => rfl⟩

/-- A routine that calls another one. -/
def callOf (callee : RoutineId) : Draft where
  name := "g"
  file := "g.py"
  firstLine := 1
  instrs := [⟨2, .call 0⟩]
  callees := [callee]

/-- There is a routine, and a wrapper of it that switches the second profiler. Another routine calls
one of the two. -/
def calling (callee : RoutineId) (rest : List Turn) : List Turn :=
  { move := .task (.profiler none .shared .files) } ::
    { move := .task (.profiler none .shared .files) } ::
    { move := .task (.define { callOf 0 with name := "f", instrs := [⟨2, .work 1⟩] }) } ::
    { move := .task (.add 0 0) } :: { move := .task (.wrapper 1 0) } ::
    { move := .task (.define (callOf callee)) } :: { move := .task (.add 0 2) } ::
    { move := .task (.enable 0) } :: rest

/-- The routine is called through the wrapper. -/
def wrappedCall : List Turn := calling 1 [{ move := .call 2 }]

/-- The routine itself is called, and the second profiler is switched on before, on two threads. -/
def plainCall : List Turn :=
  calling 0 [{ move := .task (.enable 1) }, { thread := 1, move := .task (.enable 1) },
    { move := .call 2 }]

theorem profilers_independent_calling :
    let course := play Scripts.quiet Scripts.quiet.host 9 wrappedCall ⟨start .tool true true, []⟩
    let course' := play Scripts.quiet Scripts.quiet.host 9 plainCall ⟨start .tool true true, []⟩
    (Backend.tool = .tool → true = true) ∧
      Differ 0 9 ⟨start .tool true true, []⟩ wrappedCall plainCall ∧
      (course.2.state.profiler 0).snapshot = (course'.2.state.profiler 0).snapshot ∧
      (course.2.state.profiler 0).tally.samples.length = 2 ∧
      course.2.state.dispatch ≠ course'.2.state.dispatch := by
  have monitored : Backend.tool = .tool → true = true := fun _ => rfl
  have differ : Differ 0 9 ⟨start .tool true true, []⟩ wrappedCall plainCall := by
    refine .both (.same _) (.both (.same _) (.both (.same _) (.both (.same _) (.both (.same _)
      (.both (.define (callOf 1) [0] (.cons (Or.inr ⟨⟨0, some ⟨0, 1⟩, some 0⟩, ⟨0, none, none⟩, ?_, ?_,
        rfl, rfl⟩) .nil)) (.both (.same _) (.both (.same _) (.second Nat.one_ne_zero
          (.second Nat.one_ne_zero (.both (.same _) (.done _)))))))))))
    · decide +kernel
    · decide +kernel
  refine ⟨monitored, differ, ?_, by decide +kernel, by decide +kernel⟩
  exact (profilers_independent .tool true true 9 wrappedCall plainCall monitored 0 differ).1

end LineClock.Course
