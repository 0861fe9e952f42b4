import LineClock.Proofs.Course.Basic
import LineClock.Proofs.Engine.Muting

/-!
# Programs before a hook, with profilers and without

On one machine profilers took the trace slot over from a hook, on another they did not. Programs run
on both, among them generators that are resumed one step at a time. The frames of generators that
wait differ only in whether line events of them are delivered.

Main statement: `Parallel.play`.
-/

namespace LineClock.Course

open Machine Engine

/-- Whether a move runs programs: a routine is called, or a generator is made or resumed. -/
def Move.runs : Move → Bool
  | .task _ => false
  | .call _ | .generator _ | .resume _ => true

/-- Moves on one thread. -/
def onThread (th : ThreadKey) (moves : List Move) : List Turn := moves.map fun m => ⟨th, m⟩

variable {hooks : Hooks} {budget : Nat} {th : ThreadKey} {crew : Crew}

/-- A move on the thread that runs, and more of them. -/
theorem play_onThread {σ : Type} {s : Scripts σ} {host : Host σ} {st : Stage σ} {m : Move}
    (here : (Turn.mk th m).enter s st = st) (rest : List Move) :
    play s host budget (onThread th (m :: rest)) st =
      let after := m.perform s host budget st
      let later := play s host budget (onThread th rest) after.2
      (after.1 :: later.1, later.2) := by
  have first : play s host budget (onThread th (m :: rest)) st =
    let after := m.perform s host budget ((Turn.mk th m).enter s st)
    let later := play s host budget (onThread th rest) after.2
    (after.1 :: later.1, later.2) := rfl
  rw [first, here]

/-- Going to the thread that runs. -/
theorem enter_same (hooks : Hooks) {st : Stage Hooked} (here : st.state.engine.thread = th)
    (m : Move) : (Turn.mk th m).enter (Hooked.scripts hooks) st = st := by
  subst here
  rfl

/-- The elements of a list with one more. -/
theorem getElem?_snoc {α : Type} (xs : List α) (x : α) (i : Nat) :
    (xs ++ [x])[i]? = if i = xs.length then some x else xs[i]? := by
  rw [List.getElem?_append]
  split
  · rename_i before
    rw [if_neg (Nat.ne_of_lt before)]
  · rename_i after
    split
    · rename_i last
      rw [last, Nat.sub_self]
      rfl
    · rename_i other
      have far : xs.length < i := Nat.lt_of_le_of_ne (Nat.not_lt.mp after) (Ne.symm other)
      rw [List.getElem?_eq_none (Nat.le_of_lt far), List.getElem?_eq_none]
      exact Nat.sub_pos_of_lt far

/-! ## Generators of which some are muted -/

/-- The frame of a generator where profilers are on, and where they are not: the first waits. -/
def Matches (waits : FrameId → Option Bool) : Option Activation → Option Activation → Prop
  | some a, some b =>
    Same a b ∧ a.frame.linesOn = true ∧ waits a.frame.id = some b.frame.linesOn
  | none, none => True
  | _, _ => False

/-- Whether a frame waits is all that counts. -/
theorem Matches.congr {waits waits' : FrameId → Option Bool} {o o' : Option Activation}
    (h : Matches waits o o') (same : ∀ a, o = some a → waits' a.frame.id = waits a.frame.id) :
    Matches waits' o o' := by
  cases o with
  | none => cases o' <;> exact h
  | some a =>
    cases o' with
    | none => exact h
    | some b => exact ⟨h.1, h.2.1, (same a rfl).trans h.2.2⟩

/-- Frames of generators have ids of their own, also once one generator was made or resumed whose
frame has none of the others' ids. -/
theorem apart_put {gs gs' : List Generator} {i : Nat} {g : Generator}
    (apart : ∀ (j k : Nat) (x y : Generator) (a b : Activation), j ≠ k → gs[j]? = some x →
      gs[k]? = some y → x.frame = some a → y.frame = some b → a.frame.id ≠ b.frame.id)
    (at_ : ∀ j, gs'[j]? = if j = i then some g else gs[j]?)
    (others : ∀ j, j ≠ i → ∀ (x : Generator) (a : Activation), gs[j]? = some x → x.frame = some a →
      ∀ b, g.frame = some b → a.frame.id ≠ b.frame.id)
    (j k : Nat) (x y : Generator) (a b : Activation) (differ : j ≠ k) (there : gs'[j]? = some x)
    (there' : gs'[k]? = some y) (found : x.frame = some a) (found' : y.frame = some b) :
    a.frame.id ≠ b.frame.id := by
  rw [at_] at there there'
  by_cases this : j = i
  · have other : k ≠ i := fun same => differ (this.trans same.symm)
    rw [if_pos this] at there
    rw [if_neg other] at there'
    cases there
    exact (others k other y b there' found' a found).symm
  · rw [if_neg this] at there
    by_cases that : k = i
    · rw [if_pos that] at there'
      cases there'
      exact others j this x a there found b found'
    · rw [if_neg that] at there'
      exact apart j k x y a b differ there there' found found'

/-- Stages where profilers took the slot over from a hook, and where they did not. -/
structure Parallel (crew : Crew) (waits : FrameId → Option Bool) (st st' : Stage Hooked) : Prop where
  agree : Agree registry ⟨crew, waits⟩ st.state st'.state
  length : st.generators.length = st'.generators.length
  frames : ∀ (i : Nat) (g : Generator), st.generators[i]? = some g →
    ∃ g' : Generator, st'.generators[i]? = some g' ∧ g.routine = g'.routine ∧ Matches waits g.frame g'.frame
  apart : ∀ (i j : Nat) (g g' : Generator) (a b : Activation), i ≠ j → st.generators[i]? = some g → st.generators[j]? = some g' →
    g.frame = some a → g'.frame = some b → a.frame.id ≠ b.frame.id

namespace Parallel

variable {waits waits' : FrameId → Option Bool} {st st' : Stage Hooked}

/-- The thread that runs. -/
theorem thread (h : Parallel crew waits st st') : st.state.engine.thread = crew.thread := by
  obtain ⟨inner, relaying, -⟩ := h.agree.slot
  exact relaying.thread

theorem thread' (h : Parallel crew waits st st') : st'.state.engine.thread = crew.thread := by
  have same := congrArg Scene.thread h.agree.scene
  exact same.symm.trans h.thread

/-- A frame that is kept for later waits. -/
theorem waiting (h : Parallel crew waits st st') {i : Nat} {g : Generator} {a : Activation}
    (there : st.generators[i]? = some g) (found : g.frame = some a) :
    ∃ b, Same a b ∧ a.frame.linesOn = true ∧ waits a.frame.id = some b.frame.linesOn := by
  obtain ⟨g', -, -, same⟩ := h.frames i g there
  rw [found] at same
  cases found' : g'.frame with
  | none =>
    rw [found'] at same
    exact same.elim
  | some b =>
    rw [found'] at same
    exact ⟨b, same⟩

/-- One generator was made or resumed, and the other frames wait as before. -/
theorem put (h : Parallel crew waits st st') (i : Nat) {g g' : Generator} {x y : Hooked}
    {gs gs' : List Generator} (at_ : ∀ j, gs[j]? = if j = i then some g else st.generators[j]?)
    (at_' : ∀ j, gs'[j]? = if j = i then some g' else st'.generators[j]?)
    (length : gs.length = gs'.length) (agree : Agree registry ⟨crew, waits'⟩ x y)
    (routine : g.routine = g'.routine) (own : Matches waits' g.frame g'.frame)
    (others : ∀ j, j ≠ i → ∀ (k : Generator) (a : Activation), st.generators[j]? = some k → k.frame = some a →
      waits' a.frame.id = waits a.frame.id ∧ ∀ b, g.frame = some b → a.frame.id ≠ b.frame.id) :
    Parallel crew waits' ⟨x, gs⟩ ⟨y, gs'⟩ := by
  refine ⟨agree, length, fun j k there => ?_, apart_put h.apart at_ fun j other k a there found =>
    (others j other k a there found).2⟩
  rw [at_] at there
  rw [at_']
  by_cases this : j = i
  · rw [if_pos this] at there ⊢
    cases there
    exact ⟨g', rfl, routine, own⟩
  · rw [if_neg this] at there ⊢
    obtain ⟨k', there', same, frames⟩ := h.frames j k there
    exact ⟨k', there', same, frames.congr fun a found => (others j this k a there found).1⟩

/-- A call has the same outcome on both. -/
theorem call (h : Parallel crew waits st st') (hooks : Hooks) (budget : Nat) (routine : RoutineId) :
    let left := (Move.call routine).perform (Hooked.scripts hooks) (Hooked.host hooks true) budget st
    let right := (Move.call routine).perform (Hooked.scripts hooks) (Hooked.host hooks false) budget
      st'
    left.1 = right.1 ∧ Parallel crew waits left.2 right.2 := by
  rcases (Agree.simulation registry hooks).calls budget _ routine _ _ h.agree with lost | ⟨same, agree⟩
  · exact lost.elim
  · exact ⟨congrArg Reply.ran same, agree, h.length, h.frames, h.apart⟩

/-- A frame that waits is no other frame that nobody waits for. -/
theorem ne_of_free (h : Parallel crew waits st st') {i : Nat} {g : Generator} {a : Activation}
    (there : st.generators[i]? = some g) (found : g.frame = some a) {id : FrameId}
    (free : waits id = none) : a.frame.id ≠ id := by
  obtain ⟨b, -, -, waiting⟩ := h.waiting there found
  rintro rfl
  rw [free] at waiting
  cases waiting

/-- A generator is made on both. -/
theorem generator (h : Parallel crew waits st st') (hooks : Hooks) (budget : Nat) (routine : RoutineId) :
    let left := (Move.generator routine).perform (Hooked.scripts hooks) (Hooked.host hooks true) budget
      st
    let right := (Move.generator routine).perform (Hooked.scripts hooks) (Hooked.host hooks false)
      budget st'
    left.1 = right.1 ∧ ∃ waits', Parallel crew waits' left.2 right.2 := by
  have code : (Hooked.host hooks true).code st.state routine =
    (Hooked.host hooks false).code st'.state routine := h.agree.codeOf routine
  obtain ⟨same, beside⟩ := h.agree.newFrame hooks ((Hooked.host hooks true).code st.state routine)
  have free : waits ((Hooked.host hooks true).newFrame st.state).1 = none := beside.free
  let g : Generator := ⟨routine, some (fresh ((Hooked.host hooks true).newFrame st.state).1
    ((Hooked.host hooks true).code st.state routine))⟩
  let g' : Generator := ⟨routine, some (fresh ((Hooked.host hooks false).newFrame st'.state).1
    ((Hooked.host hooks false).code st'.state routine))⟩
  have again : g' = g := by
    unfold g g'
    rw [← same, ← code]
  have places : ∀ j, (st'.generators ++ [g'])[j]? =
      if j = st.generators.length then some g' else st'.generators[j]? := by
    rw [h.length]
    exact getElem?_snoc st'.generators g'
  refine ⟨congrArg Reply.number h.length, _, h.put st.generators.length
    (getElem?_snoc st.generators g) places ?_ (Agree.park beside) rfl ?_ fun j _ k a there found => ?_⟩
  · rw [List.length_append, List.length_append, h.length]
    rfl
  · rw [again]
    exact ⟨⟨true, rfl⟩, rfl, if_pos rfl⟩
  · have other := h.ne_of_free there found free
    refine ⟨if_neg other, fun b made => ?_⟩
    cases made
    exact other

/-- The generators of a stage after one was resumed, which was there. -/
theorem getElem?_set_there {gs : List Generator} {i : Nat} {g : Generator} (there : gs[i]? = some g)
    (g' : Generator) (j : Nat) : (gs.set i g')[j]? = if j = i then some g' else gs[j]? := by
  obtain ⟨inside, -⟩ := List.getElem?_eq_some_iff.mp there
  rw [List.getElem?_set]
  by_cases this : i = j
  · rw [if_pos this, if_pos this.symm, if_pos inside]
  · rw [if_neg this, if_neg (Ne.symm this)]

/-- A generator whose frame waited was resumed on both. -/
theorem resumed (h : Parallel crew waits st st') {i : Nat} {g g' : Generator} {a : Activation}
    (there : st.generators[i]? = some g) (there' : st'.generators[i]? = some g')
    (routine : g.routine = g'.routine) (found : g.frame = some a) {x y : Hooked}
    {o o' : Except ExecError (Flow × Activation)}
    (left : Simulation.Resumed (Agree.bond registry)
      (Around.release ⟨crew, waits⟩ a.frame.id) (o, x) (o', y)) :
    o.map Prod.fst = o'.map Prod.fst ∧
      ∃ waits', Parallel crew waits' ⟨x, st.generators.set i (g.after o)⟩
        ⟨y, st'.generators.set i (g'.after o')⟩ := by
  let free := Around.release ⟨crew, waits⟩ a.frame.id
  have length : ∀ k k' : Generator,
      (st.generators.set i k).length = (st'.generators.set i k').length := by
    intro k k'
    rw [List.length_set, List.length_set, h.length]
  have other : ∀ j, j ≠ i → ∀ (k : Generator) (d : Activation), st.generators[j]? = some k →
      k.frame = some d → free.waits d.frame.id = waits d.frame.id := fun j differ k d here found' =>
    if_neg (h.apart j i k g d a differ here there found' found)
  -- the frame is gone
  have gone : Agree registry free x y →
      ∃ waits', Parallel crew waits' ⟨x, st.generators.set i { g with frame := none }⟩
        ⟨y, st'.generators.set i { g' with frame := none }⟩ := fun agree =>
    ⟨free.waits, h.put i (getElem?_set_there there _) (getElem?_set_there there' _) (length _ _) agree
      routine trivial fun j differ k d here found' => ⟨other j differ k d here found', fun _ none => by
        cases none⟩⟩
  rcases o with error | ⟨_ | _, a'⟩ <;> rcases o' with error' | ⟨_ | _, b'⟩
  case error.error =>
    obtain ⟨rfl, agree⟩ := left
    exact ⟨rfl, gone agree⟩
  case ok.returned.ok.returned => exact ⟨rfl, gone left⟩
  case ok.yielded.ok.yielded =>
    obtain ⟨same, beside⟩ := left
    refine ⟨rfl, _, h.put i (getElem?_set_there there _) (getElem?_set_there there' _) (length _ _)
      (Agree.park beside) routine ⟨same, beside.lit, if_pos rfl⟩ fun j differ k d here found' => ?_⟩
    -- frames that wait are not the one that waits again
    have differs : d.frame.id ≠ a'.frame.id := by
      have kept := other j differ k d here found'
      obtain ⟨_, -, -, waiting⟩ := h.waiting here found'
      intro same
      have none : free.waits a'.frame.id = none := beside.free
      rw [← same, kept, waiting] at none
      cases none
    refine ⟨(if_neg differs).trans (other j differ k d here found'), fun e made => ?_⟩
    cases made
    exact differs
  all_goals exact left.elim

/-- A generator is resumed on both. -/
theorem resume (h : Parallel crew waits st st') (hooks : Hooks) (budget : Nat) (i : Nat) :
    let left := (Move.resume i).perform (Hooked.scripts hooks) (Hooked.host hooks true) budget st
    let right := (Move.resume i).perform (Hooked.scripts hooks) (Hooked.host hooks false) budget st'
    left.1 = right.1 ∧ ∃ waits', Parallel crew waits' left.2 right.2 := by
  unfold Move.perform
  simp only
  cases there : st.generators[i]? with
  | none =>
    have outside := List.getElem?_eq_none_iff.mp there
    rw [h.length] at outside
    rw [List.getElem?_eq_none outside]
    exact ⟨rfl, waits, h⟩
  | some g =>
    obtain ⟨g', there', routine, frames⟩ := h.frames i g there
    rw [there']
    simp only
    cases found : g.frame with
    | none =>
      rw [found] at frames
      cases found' : g'.frame with
      | none => exact ⟨rfl, waits, h⟩
      | some b =>
        rw [found'] at frames
        exact frames.elim
    | some a =>
      rw [found] at frames
      cases found' : g'.frame with
      | none =>
        rw [found'] at frames
        exact frames.elim
      | some b =>
        rw [found'] at frames
        obtain ⟨same, lit, waiting⟩ := frames
        have beside := h.agree.wake (f := twin a b) lit waiting
        simp only
        have stepped := (Agree.simulation registry hooks).step _ budget g.routine ⟨same, beside⟩
        rw [← routine]
        rcases ho : (step (Hooked.host hooks true) budget g.routine a).out st.state with ⟨o, x⟩
        rcases ho' : (step (Hooked.host hooks false) budget g.routine b).out st'.state with ⟨o', y⟩
        rw [ho, ho'] at stepped
        rcases stepped with lost | left
        · exact lost.elim
        · obtain ⟨reply, stages⟩ := h.resumed there there' routine found left
          exact ⟨congrArg Reply.left reply, stages⟩

/-- **Programs run in the same way on both.** -/
theorem play (hooks : Hooks) (budget : Nat) (moves : List Move) (runs : ∀ m ∈ moves, m.runs = true) :
    ∀ {waits : FrameId → Option Bool} {st st' : Stage Hooked}, Parallel crew waits st st' →
      let left := Course.play (Hooked.scripts hooks) (Hooked.host hooks true) budget
        (onThread crew.thread moves) st
      let right := Course.play (Hooked.scripts hooks) (Hooked.host hooks false) budget
        (onThread crew.thread moves) st'
      left.1 = right.1 ∧ ∃ waits', Parallel crew waits' left.2 right.2 := by
  induction moves with
  | nil => exact fun h => ⟨rfl, _, h⟩
  | cons m rest ih =>
    intro waits st st' h
    have stepped : ∃ waits',
        (m.perform (Hooked.scripts hooks) (Hooked.host hooks true) budget st).1 =
          (m.perform (Hooked.scripts hooks) (Hooked.host hooks false) budget st').1 ∧
        Parallel crew waits' (m.perform (Hooked.scripts hooks) (Hooked.host hooks true) budget st).2
          (m.perform (Hooked.scripts hooks) (Hooked.host hooks false) budget st').2 := by
      cases m with
      | task t => cases runs _ List.mem_cons_self
      | call routine => exact ⟨waits, h.call hooks budget routine⟩
      | generator routine =>
        obtain ⟨same, waits', stages⟩ := h.generator hooks budget routine
        exact ⟨waits', same, stages⟩
      | resume i =>
        obtain ⟨same, waits', stages⟩ := h.resume hooks budget i
        exact ⟨waits', same, stages⟩
    obtain ⟨waits', reply, stages⟩ := stepped
    obtain ⟨replies, last⟩ := ih (fun m mem => runs m (List.mem_cons_of_mem _ mem)) stages
    rw [play_onThread (enter_same hooks h.thread m), play_onThread (enter_same hooks h.thread' m)]
    exact ⟨List.cons_eq_cons.mpr ⟨reply, replies⟩, last⟩

end Parallel

end LineClock.Course
