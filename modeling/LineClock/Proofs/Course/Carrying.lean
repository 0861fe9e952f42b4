import LineClock.Proofs.Course.Abreast
import LineClock.Proofs.Engine.Ahead

/-!
# The same done with another routine

A piece of a course that calls a routine can be carried over to another one: the calls become calls of
the other routine, and the generators that were made in the piece are found by their place among the
generators of the stage. What is done to a stage and what is done to another one to which it was
carried over has an echo, as long as the views of the stages belong together.

Main statement: `Linked.play`.
-/

namespace LineClock.Course

open Machine Engine

/-! ## Pieces of a course -/

/-- The move with routines renamed, where `made` generators were made before the piece. -/
def Move.carry (name : RoutineId → RoutineId) (made : Nat) : Move → Move
  | .task t => .task t
  | .call r => .call (name r)
  | .generator r => .generator (name r)
  | .resume i => .resume (made + i)

/-- The turn with routines renamed, where `made` generators were made before the piece. -/
def Turn.carry (name : RoutineId → RoutineId) (made : Nat) (t : Turn) : Turn :=
  { t with move := t.move.carry name made }

/-- Whether a move only switches profilers, lets time go by or runs some of the routines. -/
def Move.Uses (ok : RoutineId → Prop) : Move → Prop
  | .task (.enable _) | .task (.disable _) | .task (.advance _) => True
  | .task _ => False
  | .call r | .generator r => ok r
  | .resume _ => True

/-- Whether the budget was used up. -/
def Reply.cut : Reply → Bool
  | .ran (.error .unfinished) | .left (.error .unfinished) => true
  | _ => false

/-- An answer where other blocks stand for those of the first side, and other generators were made
before. -/
inductive Reply.Echoes (L : Block → Block → Prop) (made made' : Nat) : Reply → Reply → Prop where
  | same (reply : Reply) : Echoes L made made' reply reply
  | generator (i : Nat) : Echoes L made made' (.number (made + i)) (.number (made' + i))
  | ran {e e' : ExecError} (echoes : e.Echoes L e') :
    Echoes L made made' (.ran (.error e)) (.ran (.error e'))
  | left {e e' : ExecError} (echoes : e.Echoes L e') :
    Echoes L made made' (.left (.error e)) (.left (.error e'))

/-! ## Waiting -/

theorem run_advance (ticks : Counter) (e : Engine) :
    (Task.advance ticks).act.run e = (.done, e.withClock (e.clock.satAdd ticks)) := by
  unfold Task.act
  rw [run_state_modify_bind]
  rfl

section

variable {b : Backend} {e : Engine} {v : Scene}

theorem clock_of_seen (seen : e.Seen b registry v) : e.clock = v.clock :=
  congrArg Scene.clock seen.scene

theorem seen_withClock (seen : e.Seen b registry v) (clock : Counter) :
    (e.withClock clock).Seen b registry (v.withClock clock) :=
  ⟨(Setup.aside_withClock e clock).quiet seen.quiet, by rw [scene_withClock, seen.scene],
    (Setup.keeps_withClock seen.sole clock).sole⟩

end

/-! ## Linked stages -/

variable {σ : Type} {s : Scripts σ} {host : Host σ} {b : Backend} {Sees : σ → View → Prop}
  {L : Block → Block → Prop} {C : RoutineId → RoutineId → Prop} {n : Nat} {V : View → View → Prop}
  {made made' : Nat} {st st' : Stage σ} {budget budget' : Nat}

/-- A generator and the one that stands for it. -/
structure Generator.Echoes (L : Block → Block → Prop) (C : RoutineId → RoutineId → Prop)
    (g g' : Generator) : Prop where
  routine : C g.routine g'.routine
  frame : Option.Rel (Activation.Waits L) g.frame g'.frame

/-- Stages whose views belong together, and the generators that were made on both since there were
`made` and `made'` of them. -/
structure Linked (L : Block → Block → Prop) (C : RoutineId → RoutineId → Prop)
    (V : View → View → Prop) (Sees : σ → View → Prop) (made made' : Nat) (st st' : Stage σ) : Prop where
  views : Accord.Both Sees Sees V st.state st'.state
  count : ∃ more, st.generators.length = made + more ∧ st'.generators.length = made' + more
  twins : ∀ i : Nat,
    Option.Rel (Generator.Echoes L C) st.generators[made + i]? st'.generators[made' + i]?

namespace Linked

/-- Something is done that has no part in generators. -/
theorem on (h : Linked L C V Sees made made' st st') {x y : σ} (views : Accord.Both Sees Sees V x y) :
    Linked L C V Sees made made' { st with state := x } { st' with state := y } :=
  ⟨views, h.count, h.twins⟩

/-- A generator is made on both sides. -/
theorem append (h : Linked L C V Sees made made' st st') {x y : σ}
    (views : Accord.Both Sees Sees V x y) {g g' : Generator} (both : g.Echoes L C g') :
    Linked L C V Sees made made' ⟨x, st.generators ++ [g]⟩ ⟨y, st'.generators ++ [g']⟩ := by
  obtain ⟨more, length, length'⟩ := h.count
  refine ⟨views, ⟨more + 1, by simp [length, Nat.add_assoc], by simp [length', Nat.add_assoc]⟩,
    fun i => ?_⟩
  have twins := h.twins i
  simp only [List.getElem?_append, length, length', Nat.add_lt_add_iff_left] at twins ⊢
  split
  · exact twins
  · rw [Nat.add_sub_add_left, Nat.add_sub_add_left]
    cases i - more with
    | zero => exact .some both
    | succ j => exact .none

/-- A generator is changed on both sides. -/
theorem set (h : Linked L C V Sees made made' st st') {x y : σ}
    (views : Accord.Both Sees Sees V x y) (i : Nat) {g g' : Generator} (both : g.Echoes L C g') :
    Linked L C V Sees made made' ⟨x, st.generators.set (made + i) g⟩
      ⟨y, st'.generators.set (made' + i) g'⟩ := by
  obtain ⟨more, length, length'⟩ := h.count
  refine ⟨views, ⟨more, by simp [length], by simp [length']⟩, fun j => ?_⟩
  have twins := h.twins j
  simp only [List.getElem?_set, length, length', Nat.add_lt_add_iff_left, Nat.add_left_cancel_iff]
  split
  · split
    · exact .some both
    · exact .none
  · exact twins

/-- A task does the same on both sides. -/
theorem task (stand : Stand b s host Sees) (carries : Carries L C n V) (h : Linked L C V Sees made made' st st')
    {t : Task} {ok : RoutineId → Prop} (uses : Move.Uses ok (.task t)) :
    ((s.run t.act).run st'.state).1 = ((s.run t.act).run st.state).1 ∧
      Accord.Both Sees Sees V ((s.run t.act).run st.state).2 ((s.run t.act).run st'.state).2 := by
  obtain ⟨v, w, sees, sees', views⟩ := h.views
  have he := stand.engine sees
  have hd := stand.engine sees'
  have run : ∀ x, (s.run t.act).run x =
      ((t.act.run (s.engine x)).1, s.withEngine x (t.act.run (s.engine x)).2) := fun _ => rfl
  rw [run, run]
  cases t with
  | enable p =>
    obtain ⟨e, left, seen⟩ := run_enable he p
    obtain ⟨d, right, seen'⟩ := run_enable hd p
    rw [left, right]
    have raised := carries.raise views p
    exact ⟨congrArg Reply.number (carries.count raised p), _, _, stand.put sees seen,
      stand.put sees' seen', raised⟩
  | disable p =>
    obtain ⟨e, left, seen⟩ := run_disable he p
    obtain ⟨d, right, seen'⟩ := run_disable hd p
    rw [left, right]
    refine ⟨?_, _, _, stand.put sees seen, stand.put sees' seen', carries.lower views p⟩
    rw [carries.count views p]
  | advance ticks =>
    have left := seen_withClock he ((s.engine st.state).clock.satAdd ticks)
    have right := seen_withClock hd ((s.engine st'.state).clock.satAdd ticks)
    rw [clock_of_seen he] at left
    rw [clock_of_seen hd] at right
    rw [run_advance, run_advance, clock_of_seen he, clock_of_seen hd]
    exact ⟨rfl, _, _, stand.put sees left, stand.put sees' right, carries.work views ticks⟩
  | _ => cases uses

/-- Both sides go to a thread. -/
theorem enter (stand : Stand b s host Sees) (carries : Carries L C n V)
    (h : Linked L C V Sees made made' st st') (t : Turn) (name : RoutineId → RoutineId) :
    Linked L C V Sees made made' ((t.carry id made).enter s st) ((t.carry name made').enter s st') := by
  obtain ⟨v, w, sees, sees', views⟩ := h.views
  have moved : ∀ {e : Engine} {v : View}, e.Seen b registry v.scene →
      ({ e with thread := t.thread } : Engine).Seen b registry { v.scene with thread := t.thread } := by
    intro e v seen
    have same := seen.setup (setup_enter t.thread)
    have scene : ((modify fun e : Engine => { e with thread := t.thread } :
        StateM Engine Unit).run e).2.scene registry =
      { e.scene registry with thread := t.thread } := rfl
    rw [scene, seen.scene] at same
    exact same
  exact h.on ⟨_, _, stand.put sees (moved (stand.engine sees)),
    stand.put sees' (moved (stand.engine sees')), carries.thread views t.thread⟩

/-- A call does the same on both sides, if it is not cut short. -/
theorem call (stand : Stand b s host Sees) (carries : Carries L C n V) (enough : budget + n ≤ budget')
    (h : Linked L C V Sees made made' st st') {r q : RoutineId} (both : C r q) :
    let x := (Move.call r).perform s host budget st
    let y := (Move.call q).perform s host budget' st'
    x.1.cut = true ∨ x.1.Echoes L made made' y.1 ∧ Linked L C V Sees made made' x.2 y.2 := by
  have called := carries.toEcho.calls stand.audience stand.audience enough r q _ _ both h.views
  unfold Move.perform
  simp only
  generalize (Machine.call host budget r).out st.state = x at called ⊢
  generalize (Machine.call host budget' q).out st'.state = y at called ⊢
  cases called with
  | cut => exact .inl rfl
  | done views => exact .inr ⟨.same _, h.on views⟩
  | failed echoes views => exact .inr ⟨.ran echoes, h.on views⟩

/-- A generator is resumed on both sides, if it is not cut short. -/
theorem resume (stand : Stand b s host Sees) (carries : Carries L C n V)
    (enough : budget + n ≤ budget') (h : Linked L C V Sees made made' st st') (i : Nat) :
    let x := (Move.resume (made + i)).perform s host budget st
    let y := (Move.resume (made' + i)).perform s host budget' st'
    x.1.cut = true ∨ x.1.Echoes L made made' y.1 ∧ Linked L C V Sees made made' x.2 y.2 := by
  have twins := h.twins i
  unfold Move.perform
  simp only
  generalize st.generators[made + i]? = g at twins ⊢
  generalize st'.generators[made' + i]? = g' at twins ⊢
  cases twins with
  | none => exact .inr ⟨.same _, h⟩
  | @some g g' twins =>
    obtain ⟨routine, frame⟩ := g
    obtain ⟨routine', frame'⟩ := g'
    obtain ⟨both, frames⟩ := twins
    simp only at both frames ⊢
    cases frames with
    | none => exact .inr ⟨.same _, h⟩
    | @some act act' wait =>
      have resumed :=
        carries.toEcho.step stand.audience stand.audience enough both wait h.views
      simp only
      generalize (Machine.step host budget routine act).out st.state = x at resumed ⊢
      generalize (Machine.step host budget' routine' act').out st'.state = y at resumed ⊢
      cases resumed with
      | cut => exact .inl rfl
      | failed echoes views => exact .inr ⟨.left echoes, h.set views i ⟨both, .none⟩⟩
      | @done f _ f' _ done =>
        obtain ⟨flow, act₁⟩ := f
        obtain ⟨flow', act₁'⟩ := f'
        obtain ⟨ran, views⟩ := done
        cases ran.outcome
        cases flow with
        | returned => exact .inr ⟨.same _, h.set views i ⟨both, .none⟩⟩
        | yielded => exact .inr ⟨.same _, h.set views i ⟨both, .some (ran.waits rfl)⟩⟩

/-- **A move does the same on both sides**, if it is not cut short. -/
theorem perform (stand : Stand b s host Sees) (carries : Carries L C n V)
    (enough : budget + n ≤ budget') (h : Linked L C V Sees made made' st st') {ok : RoutineId → Prop}
    {name : RoutineId → RoutineId} (named : ∀ r, ok r → C r (name r)) {m : Move} (uses : m.Uses ok) :
    let x := (m.carry id made).perform s host budget st
    let y := (m.carry name made').perform s host budget' st'
    x.1.cut = true ∨ x.1.Echoes L made made' y.1 ∧ Linked L C V Sees made made' x.2 y.2 := by
  cases m with
  | task t =>
    obtain ⟨same, views⟩ := h.task stand carries uses
    refine .inr ⟨?_, h.on views⟩
    have both : Reply.Echoes L made made' ((s.run t.act).run st.state).1
        ((s.run t.act).run st'.state).1 := by
      rw [same]
      exact .same _
    exact both
  | call r => exact h.call stand carries enough (named r uses)
  | generator r =>
    obtain ⟨v, w, sees, sees', views⟩ := h.views
    obtain ⟨more, length, length'⟩ := h.count
    have both := named r uses
    refine .inr ⟨?_, h.append ⟨_, _, (stand.audience.newFrame sees).2,
      (stand.audience.newFrame sees').2, carries.newFrame views⟩ ⟨both, .some ?_⟩⟩
    · unfold Move.carry Move.perform
      simp only [length, length']
      exact .generator more
    · rw [stand.audience.code sees, stand.audience.code sees']
      exact carries.toEcho.fresh (carries.code views both) _ _
  | resume i => exact h.resume stand carries enough i

/-- **A piece of a course does the same where it is carried over**, if nothing in it is cut short. -/
theorem play (stand : Stand b s host Sees) (carries : Carries L C n V)
    (enough : budget + n ≤ budget') {ok : RoutineId → Prop} {name : RoutineId → RoutineId}
    (named : ∀ r, ok r → C r (name r)) (uses : List Turn) : ∀ {st st' : Stage σ},
      Linked L C V Sees made made' st st' → (∀ t ∈ uses, t.move.Uses ok) →
      let left := Course.play s host budget (uses.map (Turn.carry id made)) st
      let right := Course.play s host budget' (uses.map (Turn.carry name made')) st'
      (∀ x ∈ left.1, x.cut = false) →
        ((∀ x y, Reply.Echoes L made made' x y → y = x) → right.1 = left.1) ∧
          Linked L C V Sees made made' left.2 right.2 := by
  induction uses with
  | nil => exact fun h _ _ => ⟨fun _ => rfl, h⟩
  | cons t rest ih =>
    intro st st' h uses
    simp only [List.map_cons]
    unfold Course.play
    simp only
    intro whole
    have moved := (h.enter stand carries t name).perform stand carries enough named
      (uses t List.mem_cons_self)
    have first := whole _ List.mem_cons_self
    rcases moved with cut | ⟨echoes, linked⟩
    · have here := cut.symm.trans first
      cases here
    · obtain ⟨replies, linked⟩ := ih linked (fun t mem => uses t (List.mem_cons_of_mem _ mem))
        fun x mem => whole x (List.mem_cons_of_mem _ mem)
      exact ⟨fun same => List.cons_eq_cons.mpr ⟨same _ _ echoes, replies same⟩, linked⟩

end Linked

end LineClock.Course
