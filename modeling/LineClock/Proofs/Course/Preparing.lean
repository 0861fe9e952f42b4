import LineClock.Proofs.Course.Registering
import LineClock.Proofs.Engine.Shelf

/-!
# Prepared code

The blocks that a registry has prepared in a course differ in their bytes, although copies, shared
code slots, swapped blocks and blocks that come with padding of their own are registered.

Main statement: `prepared_apart`.
-/

namespace LineClock.Course

open Machine Engine

/-- The blocks that a registry prepares in a course, once for each registration. -/
def prepared (b : Backend) (monitored wrap : Bool) (budget : Nat) (turns : List Turn) :
    List Block :=
  (registrations budget turns ⟨start b monitored wrap, []⟩).map Prod.snd

variable {b : Backend} {budget : Nat} {e : Engine} {s : Scene} {done : List Block}
  {st : Stage Engine}

/-- Tasks keep admitted blocks apart. -/
theorem act_shelf (seen : e.Seen b registry s) (shelf : (e.scene registry).Shelf done) (task : Task) :
    ((task.act.run e).2.scene registry).Shelf
      (done ++ ((Move.task task).registers e).map Prod.snd) := by
  -- Most tasks register nothing.
  have plain : (Move.task task).registers e = [] →
      ((task.act.run e).2.scene registry).Shelf done →
      ((task.act.run e).2.scene registry).Shelf
        (done ++ ((Move.task task).registers e).map Prod.snd) := by
    intro none kept
    rw [none, List.map_nil, List.append_nil]
    exact kept
  cases task with
  | add p routine => exact (shelf.addRoutine seen.ready p routine).1
  | addAll p routines => exact shelf.addRoutines p routines seen.ready
  | wrapper p routine => exact shelf.wrapRoutine seen.ready p routine
  | define draft =>
    exact plain rfl (shelf.setNew (draft.build e.blocks) rfl (.unpadded rfl) rfl
      (Nat.lt_succ_self _) rfl)
  | share routine =>
    exact plain rfl (shelf.set _ (fun fit => Scene.holds_codeOf fit) rfl (Nat.le_refl _) rfl)
  | replaceCode routine source =>
    exact plain rfl (shelf.set _ (fun fit => Scene.holds_codeOf fit) rfl (Nat.le_refl _) rfl)
  | pad routine units =>
    exact plain rfl (shelf.setNew ((e.codeOf routine).withPadding units e.blocks) rfl
      (Block.padded_withPadding _ _ _) rfl (Nat.lt_succ_self _) rfl)
  | profiler wrap clock sources => exact plain rfl (shelf.same rfl rfl rfl)
  | write path bytes =>
    refine plain rfl ?_
    rw [Task.run_write]
    split
    · exact shelf.same rfl rfl rfl
    · exact shelf
  | advance ticks => exact plain rfl (shelf.withClock (e.clock.satAdd ticks))
  | enable p =>
    refine plain rfl ?_
    obtain ⟨e', run, seen'⟩ := run_enable seen p
    rw [seen.scene] at shelf
    rw [run, seen'.scene]
    exact shelf.same rfl rfl rfl
  | disable p =>
    refine plain rfl ?_
    obtain ⟨e', run, seen'⟩ := run_disable seen p
    rw [seen.scene] at shelf
    rw [run, seen'.scene]
    exact shelf.lower p

/-- Runs keep admitted blocks apart: they touch no code. -/
theorem shelf_lasting (done : List Block) : Lasting fun v => v.scene.Shelf done where
  addFrame h := h.same rfl rfl rfl
  withClock h _ := h.same rfl rfl rfl
  enterScope {v} h routine := by
    show (v.scene.enterScope routine).Shelf done
    rw [Scene.enterScope_eq]
    exact h.same rfl rfl rfl
  leaveScope {v} h routine := by
    show (v.scene.leaveScope routine).Shelf done
    rw [Scene.leaveScope_eq]
    exact h.same rfl rfl rfl
  enterFrame h _ := h
  startLine h _ := h.same rfl rfl rfl
  depart h _ _ := h.same rfl rfl rfl
  unwind h _ := h.same rfl rfl rfl

/-- Stages of which nothing more is said than that admitted blocks are kept apart. -/
abbrev Shelved (b : Backend) (done : List Block) : Stage Engine → Stage Engine → Prop :=
  Abreast (fun e v => e.Seen b registry v.scene) (fun e v => e.Seen b registry v.scene)
    fun v => v.scene.Shelf done

theorem Shelved.intro (h : Peers b b st st) (shelf : (st.state.scene registry).Shelf done) :
    Shelved b done st st := by
  obtain ⟨generators, v, w, seen, seen', same, -, waiting⟩ := h
  refine ⟨generators, v, w, seen, seen', same, ?_, waiting⟩
  rw [← seen.scene]
  exact shelf

theorem Shelved.shelf {st' : Stage Engine} (h : Shelved b done st st') :
    (st.state.scene registry).Shelf done := by
  obtain ⟨-, v, -, seen, -, -, shelf, -⟩ := h
  rw [seen.scene]
  exact shelf

/-- Moves keep admitted blocks apart. -/
theorem perform_shelf (budget : Nat) (h : Peers b b st st) (shelf : (st.state.scene registry).Shelf done) (m : Move) :
    ((m.perform Scripts.quiet Scripts.quiet.host budget st).2.state.scene registry).Shelf
      (done ++ (m.registers st.state).map Prod.snd) := by
  have runs := lastingRuns (shelf_lasting done)
  have both := Shelved.intro h shelf
  cases m with
  | task t =>
    obtain ⟨-, v, -, seen, -⟩ := h
    exact act_shelf seen shelf t
  | call routine =>
    rw [show (Move.call routine).registers st.state = [] from rfl, List.map_nil, List.append_nil]
    exact Shelved.shelf (both.call (bareStand b) (bareStand b) runs routine).2
  | generator routine =>
    rw [show (Move.generator routine).registers st.state = [] from rfl, List.map_nil,
      List.append_nil]
    exact shelf.same rfl rfl rfl
  | resume i =>
    rw [show (Move.resume i).registers st.state = [] from rfl, List.map_nil, List.append_nil]
    unfold Move.perform
    simp only
    cases there : st.generators[i]? with
    | none => exact shelf
    | some g =>
      simp only
      cases found : g.frame with
      | none => exact shelf
      | some act => exact Shelved.shelf (both.resume (bareStand b) (bareStand b) runs there found).2

/-- **A course keeps admitted blocks apart.** -/
theorem play_shelf (budget : Nat) (turns : List Turn) (h : Peers b b st st)
    (shelf : (st.state.scene registry).Shelf done) :
    ((play Scripts.quiet Scripts.quiet.host budget turns st).2.state.scene registry).Shelf
      (done ++ (registrations budget turns st).map Prod.snd) := by
  induction turns generalizing st done with
  | nil =>
    rw [show registrations budget [] st = [] from rfl, List.map_nil, List.append_nil]
    exact shelf
  | cons t rest ih =>
    have entered := h.enter (bareStand b) (bareStand b) growingSession t
    have first := perform_shelf budget entered (shelf.same rfl rfl rfl) t.move
    have later := ih (entered.perform (bareStand b) (bareStand b) growingSession t.move).2 first
    rw [show registrations budget (t :: rest) st = _ ++ _ from rfl, List.map_append,
      ← List.append_assoc]
    exact later

/-! ## Courses one after another -/

theorem play_append (xs ys : List Turn) (st : Stage Engine) :
    (play Scripts.quiet Scripts.quiet.host budget (xs ++ ys) st).2 =
      (play Scripts.quiet Scripts.quiet.host budget ys
        (play Scripts.quiet Scripts.quiet.host budget xs st).2).2 := by
  induction xs generalizing st with
  | nil => rfl
  | cons t rest ih => exact ih _

theorem registrations_append (xs ys : List Turn) (st : Stage Engine) :
    registrations budget (xs ++ ys) st = registrations budget xs st ++
      registrations budget ys (play Scripts.quiet Scripts.quiet.host budget xs st).2 := by
  induction xs generalizing st with
  | nil => rfl
  | cons t rest ih =>
    rw [List.cons_append, show registrations budget (t :: (rest ++ ys)) st = _ ++ _ from rfl, ih,
      ← List.append_assoc]
    rfl

theorem shelf_start (b : Backend) (monitored wrap : Bool) (h : b = .tool → monitored = true) :
    ((start b monitored wrap).scene registry).Shelf [] := by
  rw [start_eq b monitored wrap h]
  have nothing : ∀ c, ¬ Scene.Holds (Engine.scene registry
      { monitored, registries := ⟨[(registry, { backend := b, wrap })]⟩ }) [] c := by
    rintro c (mem | ⟨-, slot, found⟩)
    · cases mem
    · cases found
  have admitted : Padding.Admitted {} [] :=
    ⟨fun _ => ⟨fun mem => (by cases mem), fun ⟨_, mem, _⟩ => (by cases mem)⟩,
      fun _ mem => (by cases mem), fun _ mem => (by cases mem)⟩
  exact ⟨admitted, fun c there => absurd there (nothing c),
    fun c _ there => absurd there (nothing c), fun c there => absurd there (nothing c)⟩

/-- **Duplicates are kept apart.** What a registry knows is what it has prepared. The bytes of every
prepared block are those of its body, and as many no-ops as it has padding. Different prepared blocks
that show bytes and have the same body have different padding, and different bytes. What a routine
runs right after it was added is a prepared block. -/
theorem prepared_apart (b : Backend) (monitored wrap : Bool) (budget : Nat) (turns : List Turn)
    (h : b = .tool → monitored = true) :
    let course := play Scripts.quiet Scripts.quiet.host budget turns ⟨start b monitored wrap, []⟩
    let blocks := prepared b monitored wrap budget turns
    (∀ id, id ∈ (course.2.state.registry registry).padding.known ↔ ∃ c ∈ blocks, c.id = id) ∧
      (∀ c ∈ blocks, c.bytes = c.strippedBytes ++ noOps c.padding) ∧
      (∀ c ∈ blocks, ∀ d ∈ blocks, c ≠ d → c.native = false → d.native = false →
        c.strippedBytes = d.strippedBytes → c.id ≠ d.id ∧ c.padding ≠ d.padding ∧ c.bytes ≠ d.bytes) ∧
      ∀ thread p routine fresh,
        let turn : Turn := ⟨thread, .task (.add p routine)⟩
        let added := turn.move.perform Scripts.quiet Scripts.quiet.host budget
          (turn.enter Scripts.quiet course.2)
        added.1 = .flag fresh →
          added.2.state.codeOf routine ∈ prepared b monitored wrap budget (turns ++ [turn]) := by
  simp only
  have peers := peers_start wrap monitored monitored h h
  have shelf := play_shelf budget turns peers (shelf_start b monitored wrap h)
  rw [List.nil_append] at shelf
  refine ⟨shelf.admitted.known, fun c mem => (shelf.padded c (.inl mem)).bytes_eq,
    fun c mem d mem' differ plain plain' same => ?_, fun thread p routine fresh flagged => ?_⟩
  · have padding := shelf.admitted.apart c mem d mem' differ plain plain' same
    refine ⟨fun ids => differ (shelf.distinct c d (.inl mem) (.inl mem') ids), padding, ?_⟩
    exact (shelf.padded c (.inl mem)).bytes_ne (shelf.padded d (.inl mem')) same padding
  · have reached := (peers_play budget peers turns).2
    generalize hst : (play Scripts.quiet Scripts.quiet.host budget turns
      ⟨start b monitored wrap, []⟩).2 = st at *
    have entered := reached.enter (bareStand b) (bareStand b) growingSession
      ⟨thread, .task (.add p routine)⟩
    obtain ⟨-, v, -, seen, -⟩ := entered
    have moved : (Engine.scene registry
        (Turn.enter Scripts.quiet ⟨thread, .task (.add p routine)⟩ st).state).Shelf
        ((registrations budget turns ⟨start b monitored wrap, []⟩).map Prod.snd) :=
      shelf.same rfl rfl rfl
    have runs := (moved.addRoutine seen.ready p routine).2
    unfold prepared
    rw [registrations_append, hst, List.map_append]
    refine List.mem_append_right _ ?_
    have only : registrations budget [⟨thread, .task (.add p routine)⟩] st =
      (Turn.enter Scripts.quiet ⟨thread, .task (.add p routine)⟩ st).state.registers p routine := by
      rw [show registrations budget [⟨thread, .task (.add p routine)⟩] st = _ ++ [] from rfl,
        List.append_nil]
      rfl
    rw [only]
    have answered : ∀ o : Except ProfilerError Bool, Reply.ofTry .flag o = .flag fresh →
        o = .ok fresh := by
      intro o same
      cases o with
      | error e => cases same
      | ok a =>
        cases same
        rfl
    exact runs fresh (answered _ flagged)

/-- Three routines with the same bytes, the second of which comes with one unit of padding. They are
added to two profilers, and the first one once more after it was given the code of the third. -/
def copiesCourse : List Turn :=
  [{ move := .task (.profiler none .shared .files) },
    { move := .task (.profiler none .shared .files) },
    { move := .task (.define (oneUnit "f" "f.py")) },
    { move := .task (.define (oneUnit "g" "g.py")) },
    { move := .task (.define (oneUnit "h" "h.py")) }, { move := .task (.pad 1 1) },
    { move := .task (.add 0 0) }, { move := .task (.addAll 1 [1, 2]) },
    { move := .task (.replaceCode 0 2) }, { move := .task (.add 0 0) }]

/-- Three blocks are prepared. The one that comes with padding keeps it. -/
theorem copies_apart :
    (Backend.tool = .tool → true = true) ∧
      let blocks := prepared .tool true true 9 copiesCourse
      (blocks.map fun c => (c.id, c.padding)) = [(0, 0), (3, 1), (6, 2), (6, 2)] ∧
        ∀ c ∈ blocks, ∀ d ∈ blocks, c ≠ d → c.bytes ≠ d.bytes := by
  have monitored : Backend.tool = .tool → true = true := fun _ => rfl
  obtain ⟨-, -, apart, -⟩ := prepared_apart .tool true true 9 copiesCourse monitored
  have plain : ∀ c ∈ prepared .tool true true 9 copiesCourse,
      c.native = false ∧ c.strippedBytes = (oneUnit "f" "f.py").instrs.flatMap (·.op.bytes) := by
    decide +kernel
  refine ⟨monitored, by decide +kernel, fun c mem d mem' differ => ?_⟩
  obtain ⟨native, body⟩ := plain c mem
  obtain ⟨native', body'⟩ := plain d mem'
  exact (apart c mem d mem' differ native native' (body.trans body'.symm)).2.2

end LineClock.Course
