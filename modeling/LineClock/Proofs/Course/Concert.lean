import LineClock.Proofs.Course.Basic
import LineClock.Proofs.Engine.Delivery
import LineClock.Proofs.Machine.Journal
import LineClock.Proofs.Machine.Rapport

/-!
# Moves over hosts in rapport

Stages over two hosts in rapport whose generators are the same: a call, a new generator and a
resumed generator answer the same on both and lead to such stages again, unless the first host is
lost. If tasks do so too, a course plays in the same way on both. It does so as well, whatever line
events are switched off, over a host with more beside its state and over that host without it.

Main statements: `Ensemble.play` and `Overlies.play`.
-/

namespace LineClock.Course

open Machine

variable {γ σ τ : Type}

/-- Stages with related states and the same generators, for which line events are delivered. -/
structure Concert (R : γ → σ → τ → Prop) (c : γ) (st : Stage σ) (st' : Stage τ) : Prop where
  generators : st.generators = st'.generators
  lit : ∀ g ∈ st.generators, ∀ act, g.frame = some act → act.frame.linesOn = true
  related : R c st.state st'.state

/-- How moves end on both sides: in the same way, unless the first side is lost. -/
def Concert.After {ρ : Type} (Lost : σ → Prop) (R : γ → σ → τ → Prop) (c : γ) (p : ρ × Stage σ)
    (q : ρ × Stage τ) : Prop :=
  Lost p.2.state ∨ p.1 = q.1 ∧ Concert R c p.2 q.2

namespace Concert

variable {Lost : σ → Prop} {R : γ → σ → τ → Prop} {h : Host σ} {k : Host τ} {c c' : γ}
  {st : Stage σ} {st' : Stage τ} {s : Scripts σ} {s' : Scripts τ} {budget : Nat}

/-- Other states. -/
theorem withState (concert : Concert R c st st') {x : σ} {y : τ} (related : R c' x y) :
    Concert R c' { st with state := x } { st' with state := y } :=
  ⟨concert.generators, concert.lit, related⟩

theorem call (rapport : Rapport Lost R h k) (concert : Concert R c st st') (routine : RoutineId) :
    After Lost R c ((Move.call routine).perform s h budget st)
      ((Move.call routine).perform s' k budget st') := by
  rcases rapport.simulation.calls budget c routine _ _ concert.related with lost | ⟨same, related⟩
  · exact .inl lost
  · exact .inr ⟨congrArg Reply.ran same, concert.withState related⟩

theorem generator (rapport : Rapport Lost R h k) (concert : Concert R c st st')
    (routine : RoutineId) :
    After Lost R c ((Move.generator routine).perform s h budget st)
      ((Move.generator routine).perform s' k budget st') := by
  obtain ⟨x, generators⟩ := st
  obtain ⟨y, _⟩ := st'
  obtain ⟨rfl, lit, related⟩ := concert
  have code := rapport.code related routine
  obtain ⟨id, related'⟩ := rapport.newFrame related
  refine .inr ⟨rfl, ?_, fun g mem act found => ?_, related'⟩
  · change generators ++ [Generator.mk _ (some (fresh (h.newFrame x).1 _))] =
      generators ++ [Generator.mk _ (some (fresh (k.newFrame y).1 _))]
    rw [id, code]
  · rcases List.mem_append.mp mem with mem | mem
    · exact lit g mem act found
    · cases List.mem_singleton.mp mem
      cases found
      rfl

/-- A generator in its place after it was resumed. -/
theorem set (concert : Concert R c st st') (i : Nat) (g : Generator) {x : σ} {y : τ}
    (lit : ∀ act, g.frame = some act → act.frame.linesOn = true) (related : R c x y) :
    Concert R c { state := x, generators := st.generators.set i g }
      { state := y, generators := st.generators.set i g } := by
  refine ⟨rfl, fun g' mem act found => ?_, related⟩
  rcases List.mem_or_eq_of_mem_set mem with mem | rfl
  · exact concert.lit g' mem act found
  · exact lit act found

theorem resume (rapport : Rapport Lost R h k) (concert : Concert R c st st') (i : Nat) :
    After Lost R c ((Move.resume i).perform s h budget st)
      ((Move.resume i).perform s' k budget st') := by
  unfold Move.perform
  simp only
  have generators := concert.generators
  rw [← generators]
  cases there : st.generators[i]? with
  | none => exact .inr ⟨rfl, concert⟩
  | some g =>
    simp only
    cases found : g.frame with
    | none => exact .inr ⟨rfl, concert⟩
    | some act =>
      have on := concert.lit g (List.mem_of_getElem? there) act found
      have both : Rapport.Both R c act st.state act st'.state := ⟨rfl, on, concert.related⟩
      have resumed := rapport.simulation.step c budget g.routine both.alongside
      simp only
      rcases ho : (Machine.step h budget g.routine act).out st.state with ⟨o, x⟩
      rcases ho' : (Machine.step k budget g.routine act).out st'.state with ⟨o', y⟩
      rw [ho, ho'] at resumed
      rcases resumed with lost | resumed
      · exact .inl lost
      right
      rcases o with error | ⟨_ | _, a⟩ <;> rcases o' with error' | ⟨_ | _, a'⟩
      case error.error =>
        obtain ⟨rfl, related⟩ := resumed
        exact ⟨rfl, concert.set i { g with frame := none } (fun _ h => by cases h) related⟩
      case ok.returned.ok.returned =>
        exact ⟨rfl, concert.set i { g with frame := none } (fun _ h => by cases h) resumed⟩
      case ok.yielded.ok.yielded =>
        obtain ⟨rfl, on', related⟩ := Rapport.both_of_alongside resumed
        refine ⟨rfl, concert.set i { g with frame := some a } (fun act h => ?_) related⟩
        cases h
        exact on'
      all_goals exact resumed.elim

end Concert

/-! ## Whole courses -/

section

variable {P : σ → Prop} {s : Scripts σ} {h : Host σ} {budget : Nat}

/-- Something that no move of a course ends. -/
structure Stable (P : σ → Prop) (s : Scripts σ) (h : Host σ) : Prop where
  keeps : Keeps P h
  enter : ∀ {x}, P x → ∀ th, P (s.withEngine x { s.engine x with thread := th })
  task : ∀ {x}, P x → ∀ t : Task, P ((s.run t.act).run x).2

theorem Stable.perform (stable : Stable P s h) (m : Move) {st : Stage σ} (there : P st.state) :
    P (m.perform s h budget st).2.state := by
  cases m with
  | task t => exact stable.task there t
  | call routine => exact stable.keeps.invoke budget maxDepth routine _ there
  | generator routine => exact stable.keeps.newFrame _ there
  | resume i =>
    unfold Move.perform
    simp only
    cases st.generators[i]? with
    | none => exact there
    | some g =>
      simp only
      cases g.frame with
      | none => exact there
      | some act =>
        exact stable.keeps.resumeScoped (stable.keeps.invoke budget _) budget g.routine act there

/-- A course does not end it. -/
theorem Stable.play (stable : Stable P s h) (budget : Nat) (turns : List Turn) :
    ∀ st : Stage σ, P st.state → P (play s h budget turns st).2.state := by
  induction turns with
  | nil => exact fun _ there => there
  | cons t rest ih =>
    exact fun _ there => ih _ (stable.perform t.move (stable.enter there t.thread))

end

/-- Two stands on which all moves go together until the first is lost. -/
structure Ensemble (Lost : σ → Prop) (R : γ → σ → τ → Prop) (s : Scripts σ) (h : Host σ)
    (s' : Scripts τ) (k : Host τ) : Prop where
  rapport : Rapport Lost R h k
  stable : Stable Lost s h
  enter : ∀ {c x y}, R c x y → ∀ th, R c (s.withEngine x { s.engine x with thread := th })
    (s'.withEngine y { s'.engine y with thread := th })
  task : ∀ {c x y}, R c x y → ∀ t : Task, Lost ((s.run t.act).run x).2 ∨
    ((s.run t.act).run x).1 = ((s'.run t.act).run y).1 ∧
      R c ((s.run t.act).run x).2 ((s'.run t.act).run y).2

namespace Ensemble

variable {Lost : σ → Prop} {R : γ → σ → τ → Prop} {s : Scripts σ} {h : Host σ} {s' : Scripts τ}
  {k : Host τ} {c : γ} {budget : Nat}

theorem perform (ensemble : Ensemble Lost R s h s' k) (m : Move) {st : Stage σ} {st' : Stage τ}
    (concert : Concert R c st st') :
    Concert.After Lost R c (m.perform s h budget st) (m.perform s' k budget st') := by
  cases m with
  | task t =>
    rcases ensemble.task concert.related t with lost | ⟨same, related⟩
    · exact .inl lost
    · exact .inr ⟨same, concert.withState related⟩
  | call routine => exact concert.call ensemble.rapport routine
  | generator routine => exact concert.generator ensemble.rapport routine
  | resume i => exact concert.resume ensemble.rapport i

/-- **A course plays in the same way on both stands**, unless the first is lost. -/
theorem play (ensemble : Ensemble Lost R s h s' k) (budget : Nat) (turns : List Turn) :
    ∀ {st : Stage σ} {st' : Stage τ}, Concert R c st st' →
      Concert.After Lost R c (play s h budget turns st) (play s' k budget turns st') := by
  induction turns with
  | nil => exact fun concert => .inr ⟨rfl, concert⟩
  | cons t rest ih =>
    intro st st' concert
    have entered : Concert R c (t.enter s st) (t.enter s' st') :=
      concert.withState (ensemble.enter concert.related t.thread)
    rcases ensemble.perform t.move entered with lost | ⟨reply, concert'⟩
    · exact .inl (ensemble.stable.play budget rest _ lost)
    · rcases ih concert' with lost | ⟨replies, concert''⟩
      · exact .inl lost
      · refine .inr ⟨?_, concert''⟩
        unfold Course.play
        simp only
        rw [reply, replies]

end Ensemble

/-! ## Courses with more beside the state -/

section

variable {σ τ : Type} {below : τ → σ} {s : Scripts σ} {k : Host σ} {s' : Scripts τ} {h : Host τ}
  {budget : Nat}

/-- Scripts and a host that do to the state `below` what others do, with more kept beside it. -/
structure Overlies (below : τ → σ) (s' : Scripts τ) (h : Host τ) (s : Scripts σ) (k : Host σ) :
    Prop where
  atop : Atop below h k
  engine : ∀ x, s'.engine x = s.engine (below x)
  withEngine : ∀ x e, below (s'.withEngine x e) = s.withEngine (below x) e

/-- The stage without what is kept beside its state. -/
def Stage.bare (below : τ → σ) (st : Stage τ) : Stage σ := ⟨below st.state, st.generators⟩

/-- A generator depends on whether its frame waits, and as what. -/
theorem Generator.after_eq (g : Generator) {o o' : Except ExecError (Flow × Activation)}
    (same : o.map Atop.kept = o'.map Atop.kept) : g.after o = g.after o' := by
  rcases o with _ | ⟨_ | _, a⟩ <;> rcases o' with _ | ⟨_ | _, a'⟩ <;> cases same <;> rfl

namespace Overlies

theorem perform (lies : Overlies below s' h s k) (m : Move) (st : Stage τ) :
    m.perform s k budget (st.bare below) =
      ((m.perform s' h budget st).1, (m.perform s' h budget st).2.bare below) := by
  cases m with
  | task t =>
    have ran : (s.run t.act).run (below st.state) =
        (((s'.run t.act).run st.state).1, below ((s'.run t.act).run st.state).2) := by
      rw [Scripts.run_run, Scripts.run_run, lies.engine, lies.withEngine]
    unfold Move.perform Stage.bare
    simp only
    rw [ran]
    rfl
  | call routine =>
    unfold Move.perform Stage.bare
    simp only
    rw [lies.atop.call_out]
  | generator routine =>
    have made : k.newFrame.run (below st.state) =
        ((h.newFrame.run st.state).1, below (h.newFrame.run st.state).2) :=
      lies.atop.newFrame st.state
    unfold Move.perform Stage.bare
    simp only
    rw [made, lies.atop.code]
    rfl
  | resume i =>
    unfold Move.perform
    simp only
    have there : (st.bare below).generators[i]? = st.generators[i]? := rfl
    rw [there]
    cases st.generators[i]? with
    | none => rfl
    | some g =>
      simp only
      cases g.frame with
      | none => rfl
      | some a =>
        obtain ⟨kept, state⟩ := lies.atop.step_kept budget g.routine a st.state
        obtain ⟨answered, -⟩ := lies.atop.step_out budget g.routine a st.state
        have state : ((step k budget g.routine a).out (st.bare below).state).2 = _ := state
        have kept : ((step k budget g.routine a).out (st.bare below).state).1.map _ = _ := kept
        have answered : ((step k budget g.routine a).out (st.bare below).state).1.map _ = _ := answered
        simp only
        rw [state, answered, g.after_eq kept]
        rfl

/-- **A course** plays as it does without what is kept beside the state. -/
theorem play (lies : Overlies below s' h s k) (budget : Nat) (turns : List Turn) (st : Stage τ) :
    Course.play s k budget turns (st.bare below) =
      ((Course.play s' h budget turns st).1, (Course.play s' h budget turns st).2.bare below) := by
  induction turns generalizing st with
  | nil => rfl
  | cons t rest ih =>
    have entered : t.enter s (st.bare below) = (t.enter s' st).bare below := by
      unfold Turn.enter Stage.bare
      simp only
      rw [lies.withEngine, lies.engine]
    unfold Course.play
    simp only
    rw [entered, lies.perform, ih]

end Overlies

end

end LineClock.Course
