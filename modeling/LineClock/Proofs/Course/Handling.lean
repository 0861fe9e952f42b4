import LineClock.Proofs.Course.Identities
import LineClock.Proofs.Engine.Adding

/-!
# What a course does with code

Whatever a course does, it comes down to a few things as far as code is concerned: a profiler is
made, a block is put into a slot, a routine is added to a profiler, a wrapper is made. `deeds` lists
those by which code gets into slots and routines get to profilers, and `Handled` says what each of
them does to an engine.

Main statement: `play_handled`.
-/

namespace LineClock

open Machine Engine

/-! ## Scenes with the same code -/

/-- Scenes with the same code, prepared in the same way for the same profilers. -/
structure Scene.SameCode (s s' : Scene) : Prop where
  code : s'.code = s.code
  routines : s'.routines = s.routines
  padding : s'.padding = s.padding
  profilers : s'.bare.profilers = s.bare.profilers

namespace Scene.SameCode

variable {s s' s'' : Scene}

theorem refl (s : Scene) : SameCode s s := ⟨rfl, rfl, rfl, rfl⟩

theorem trans (h : SameCode s s') (h' : SameCode s' s'') : SameCode s s'' :=
  ⟨h'.code.trans h.code, h'.routines.trans h.routines, h'.padding.trans h.padding,
    h'.profilers.trans h.profilers⟩

/-- Recording has no part in code. -/
theorem of_bare (h : s'.bare = s.bare) : SameCode s s' := by
  have code : s'.bare.code = s.bare.code := by rw [h]
  have routines : s'.bare.routines = s.bare.routines := by rw [h]
  have padding : s'.bare.padding = s.bare.padding := by rw [h]
  exact ⟨code, routines, padding, by rw [h]⟩

theorem withClock (registry : RegistryId) (e : Engine) (clock : Counter) :
    SameCode (e.scene registry) ((e.withClock clock).scene registry) := ⟨rfl, rfl, rfl, rfl⟩

theorem routine (h : SameCode s s') (id : RoutineId) : s'.routine id = s.routine id := by
  unfold Scene.routine
  rw [h.routines]

theorem codeOf (h : SameCode s s') (id : RoutineId) : s'.codeOf id = s.codeOf id := by
  unfold Scene.codeOf
  rw [h.routine, h.code]

theorem profiler (h : SameCode s s') (p : ProfilerId) :
    (s'.profiler p).bare = (s.profiler p).bare := by
  rw [← Scene.profiler_bare, ← Scene.profiler_bare]
  unfold Scene.profiler
  rw [h.profilers]

theorem watches (h : SameCode s s') (p : ProfilerId) (block : BlockHash) :
    (s'.profiler p).watches block = (s.profiler p).watches block := by
  have bare : (s'.profiler p).bare.watches block = (s.profiler p).bare.watches block := by
    rw [h.profiler]
  exact bare

theorem noted (h : SameCode s s') (p : ProfilerId) :
    (s'.profiler p).routines = (s.profiler p).routines := by
  have bare : (s'.profiler p).bare.routines = (s.profiler p).bare.routines := by rw [h.profiler]
  exact bare

theorem keys (h : SameCode s s') : s'.profilers.keys = s.profilers.keys := by
  have whole : ∀ s : Scene, s.bare.profilers.keys = s.profilers.keys := by
    intro s
    unfold Scene.bare Assoc.keys
    simp only [List.map_map]
    rfl
  rw [← whole s', ← whole s, h.profilers]

end Scene.SameCode

/-- Runs leave code as it is. -/
theorem View.sameCode_lasting (s : Scene) : Lasting fun v => s.SameCode v.scene where
  addFrame h := h.trans ⟨rfl, rfl, rfl, rfl⟩
  withClock h _ := h.trans ⟨rfl, rfl, rfl, rfl⟩
  enterScope {v} h routine := h.trans (.of_bare (v.scene.bare_enterScope routine))
  leaveScope {v} h routine := h.trans (.of_bare (v.scene.bare_leaveScope routine))
  enterFrame h _ := h
  startLine {v} h frame := h.trans (.of_bare (v.scene.bare_hear frame .line))
  depart {v} h frame _ := h.trans (.of_bare (v.scene.bare_hear frame .ret))
  unwind {v} h frame := h.trans (.of_bare (v.scene.bare_hear frame .ret))

namespace Course

/-! ## Deeds -/

/-- What is done with code. -/
inductive Deed where
  /-- A block is put into a code slot, otherwise than by adding a routine. -/
  | written (slot : RoutineId)
  /-- A routine is added to a profiler, both of which are there, or `ok` is false and it is not. -/
  | added (p : ProfilerId) (routine : RoutineId) (ok : Bool)
  deriving DecidableEq

/-- Adding a routine to a profiler. -/
def addition (p : ProfilerId) (routine : RoutineId) (e : Engine) : Deed :=
  .added p routine ((answer (addRoutine p routine) e).1.isOk && e.profilers.contains p &&
    e.routines.contains routine)

/-- Adding each of a list of routines. -/
def additions (p : ProfilerId) : List RoutineId → Engine → List Deed
  | [], _ => []
  | routine :: rest, e =>
    addition p routine e :: additions p rest (answer (addRoutine p routine) e).2

/-- What a move does with code. -/
def Move.deeds (m : Move) (e : Engine) : List Deed :=
  match m with
  | .task (.define _) | .task (.share _) => [.written e.routines.entries.length]
  | .task (.replaceCode routine _) | .task (.pad routine _) => [.written (e.routine routine).slot]
  | .task (.add p routine) | .task (.wrapper p routine) => [addition p routine e]
  | .task (.addAll p routines) => additions p routines e
  | _ => []

/-- What a course does with code, in order. -/
def deeds (budget : Nat) : List Turn → Stage Engine → List Deed
  | [], _ => []
  | t :: rest, st =>
    let entered := t.enter Scripts.quiet st
    t.move.deeds entered.state ++
      deeds budget rest (t.move.perform Scripts.quiet Scripts.quiet.host budget entered).2

/-- What becomes of an engine when code is handled: what is done, and what is registered. Whenever
a routine is added, admitted blocks are kept apart; those that were admitted before are given. -/
inductive Handled :
    List Block → Engine → List Deed → List Registration → Engine → Prop where
  | idle {done : List Block} {e e' : Engine} (ready : Ready registry e')
    (same : (e.scene registry).SameCode (e'.scene registry)) : Handled done e [] [] e'
  | profiler {done : List Block} {e : Engine} (wrap : Option Bool) (clock : Timepiece)
    (sources : Sources) :
    Handled done e [] [] ((newProfiler registry wrap clock sources).run e).2
  | routine {done : List Block} {e : Engine} (block : Block) :
    Handled done e [.written e.routines.entries.length] [] ((newRoutine block).run e).2
  | write {done : List Block} {e : Engine} (routine : RoutineId) (block : Block) :
    Handled done e [.written (e.routine routine).slot] [] (e.replaceCode routine block)
  | add {done : List Block} {e : Engine} (shelf : (e.scene registry).Shelf done)
    (p : ProfilerId) (routine : RoutineId) :
    Handled done e [addition p routine e] (e.registers p routine)
      (answer (addRoutine p routine) e).2
  | wrapper {done : List Block} {e : Engine} (inner : RoutineId) (p : ProfilerId) :
    Handled done e [] [] ((newWrapper inner { registry, profiler := p }).run e).2
  | trans {done : List Block} {e e' e'' : Engine} {ds ds' : List Deed}
    {gs gs' : List Registration} (first : Handled done e ds gs e')
    (later : Handled (done ++ gs.map Prod.snd) e' ds' gs' e'') :
    Handled done e (ds ++ ds') (gs ++ gs') e''

variable {b : Backend} {budget : Nat} {e e' : Engine} {s : Scene} {done : List Block}
  {st : Stage Engine} {ds : List Deed} {gs : List Registration}

namespace Handled

/-- All profilers stay those of the one registry. -/
theorem ready (h : Handled done e ds gs e') (given : Ready registry e) : Ready registry e' := by
  induction h with
  | idle ready same => exact ready
  | profiler wrap clock sources => exact (Setup.newProfiler wrap clock sources).ready given
  | routine block => exact (Setup.newRoutine block).ready given
  | write routine block => exact (Setup.replaceCode routine block).ready given
  | add shelf p routine => exact (Setup.addRoutine p routine).ready given
  | wrapper inner p => exact (Setup.newWrapper inner p).ready given
  | trans first later ih ih' => exact ih' (ih given)

/-- What follows after nothing was done. -/
theorem after {e'' : Engine} (idle : Handled done e [] [] e') (h : Handled done e' ds gs e'') :
    Handled done e ds gs e'' := by
  rw [← List.append_nil done] at h
  exact idle.trans h

theorem addRoutines (p : ProfilerId) (routines : List RoutineId) (given : Ready registry e)
    (shelf : (e.scene registry).Shelf done) :
    Handled done e (additions p routines e) (registersAll p routines e)
      ((Engine.addRoutines p routines).run e).2 := by
  induction routines generalizing e done with
  | nil => exact .idle given (.refl _)
  | cons routine rest ih =>
    have first := Handled.add shelf p routine
    rw [addRoutines_cons]
    exact first.trans (ih (first.ready given) (shelf.addRoutine given p routine).1)

theorem wrapRoutine (p : ProfilerId) (routine : RoutineId) (given : Ready registry e)
    (shelf : (e.scene registry).Shelf done) :
    Handled done e [addition p routine e] (e.registers p routine)
      (answer (Engine.wrapRoutine p routine) e).2 := by
  have first := Handled.add shelf p routine
  have ready := first.ready given
  rw [answer_wrapRoutine]
  rcases run : answer (Engine.addRoutine p routine) e with ⟨o, e₁⟩
  rw [run] at first ready
  cases o with
  | error error => exact first
  | ok added =>
    have own : (e₁.profiler p).registry = registry := ready.sole.profilers p
    have made := first.trans (.wrapper routine p)
    rw [List.append_nil, List.append_nil, ← own] at made
    exact made

end Handled

/-! ## Moves -/

/-- Tasks handle code. -/
theorem act_handled (seen : e.Seen b registry s) (shelf : (e.scene registry).Shelf done)
    (task : Task) : Handled done e ((Move.task task).deeds e) ((Move.task task).registers e)
      (task.act.run e).2 := by
  have ready := seen.ready
  cases task with
  | profiler wrap clock sources => exact .profiler wrap clock sources
  | define draft =>
    have numbered : Handled done e [] [] { e with blocks := e.blocks + 1 } :=
      .idle (Setup.newBlock.ready ready) ⟨rfl, rfl, rfl, rfl⟩
    exact numbered.after (.routine (draft.build e.blocks))
  | share routine => exact .routine (e.codeOf routine)
  | replaceCode routine source => exact .write routine (e.codeOf source)
  | pad routine units =>
    have numbered : Handled done e [] [] { e with blocks := e.blocks + 1 } :=
      .idle (Setup.newBlock.ready ready) ⟨rfl, rfl, rfl, rfl⟩
    exact numbered.after (.write routine ((e.codeOf routine).withPadding units e.blocks))
  | write path bytes =>
    have setup : Setup registry (Task.write path bytes).act := Task.setup rfl
    refine .idle (setup.ready ready) ?_
    rw [Task.run_write]
    split
    · exact ⟨rfl, rfl, rfl, rfl⟩
    · exact .refl _
  | add p routine => exact .add shelf p routine
  | addAll p routines => exact .addRoutines p routines ready shelf
  | wrapper p routine => exact .wrapRoutine p routine ready shelf
  | enable p =>
    obtain ⟨e', run, seen'⟩ := run_enable seen p
    rw [run]
    refine .idle seen'.ready ?_
    rw [seen'.scene, seen.scene]
    exact .of_bare rfl
  | disable p =>
    obtain ⟨e', run, seen'⟩ := run_disable seen p
    rw [run]
    refine .idle seen'.ready ?_
    rw [seen'.scene, seen.scene]
    exact .of_bare (s.bare_lower p)
  | advance ticks =>
    have setup : Setup registry (Task.advance ticks).act := Task.setup rfl
    have spent : Ready registry (e.withClock (e.clock.satAdd ticks)) := setup.ready ready
    exact .idle spent (.withClock registry e (e.clock.satAdd ticks))

/-- Stages of which nothing is said but that they have the same code as a scene. -/
abbrev SameCode (b : Backend) (s : Scene) : Stage Engine → Stage Engine → Prop :=
  Abreast (fun e v => e.Seen b registry v.scene) (fun e v => e.Seen b registry v.scene)
    fun v => s.SameCode v.scene

theorem SameCode.intro (h : Peers b b st st) :
    SameCode b (st.state.scene registry) st st := by
  obtain ⟨generators, v, w, seen, seen', same, -, waiting⟩ := h
  refine ⟨generators, v, w, seen, seen', same, ?_, waiting⟩
  rw [seen.scene]
  exact .refl _

theorem SameCode.handled {st st' : Stage Engine} (h : SameCode b (e.scene registry) st st')
    (done : List Block) : Handled done e [] [] st.state := by
  obtain ⟨-, v, -, seen, -, -, same, -⟩ := h
  refine .idle seen.ready ?_
  rw [seen.scene]
  exact same

/-- Moves handle code. -/
theorem perform_handled (budget : Nat) (h : Peers b b st st)
    (shelf : (st.state.scene registry).Shelf done) (m : Move) :
    Handled done st.state (m.deeds st.state) (m.registers st.state)
      (m.perform Scripts.quiet Scripts.quiet.host budget st).2.state := by
  have runs := lastingRuns (View.sameCode_lasting (st.state.scene registry))
  have both := SameCode.intro h
  cases m with
  | task t =>
    obtain ⟨-, v, -, seen, -⟩ := h
    exact act_handled seen shelf t
  | call routine => exact SameCode.handled (both.call (bareStand b) (bareStand b) runs routine).2 done
  | generator routine =>
    obtain ⟨-, v, -, seen, -⟩ := h
    exact .idle (Setup.newFrame.ready seen.ready) ⟨rfl, rfl, rfl, rfl⟩
  | resume i =>
    unfold Move.perform
    simp only
    cases there : st.generators[i]? with
    | none => exact SameCode.handled both done
    | some g =>
      simp only
      cases found : g.frame with
      | none => exact SameCode.handled both done
      | some act => exact SameCode.handled (both.resume (bareStand b) (bareStand b) runs there found).2 done

/-- **A course handles code**: what it does is what its moves do, and nothing else gets into slots or
to profilers. -/
theorem play_handled (budget : Nat) (turns : List Turn) (h : Peers b b st st)
    (shelf : (st.state.scene registry).Shelf done) :
    Handled done st.state (deeds budget turns st) (registrations budget turns st)
      (play Scripts.quiet Scripts.quiet.host budget turns st).2.state := by
  induction turns generalizing st done with
  | nil => exact SameCode.handled (SameCode.intro h) done
  | cons t rest ih =>
    have entered := h.enter (bareStand b) (bareStand b) growingSession t
    have there : Handled done st.state [] [] (t.enter Scripts.quiet st).state := by
      obtain ⟨-, v, -, seen, -⟩ := entered
      exact .idle seen.ready ⟨rfl, rfl, rfl, rfl⟩
    have moved : ((t.enter Scripts.quiet st).state.scene registry).Shelf done := shelf.same rfl rfl rfl
    have first := perform_handled budget entered moved t.move
    have kept := perform_shelf budget entered moved t.move
    have later := ih (entered.perform (bareStand b) (bareStand b) growingSession t.move).2 kept
    exact there.after (first.trans later)

end Course

end LineClock
