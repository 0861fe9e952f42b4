import LineClock.Proofs.Course.Following
import LineClock.Proofs.Engine.Spreading
import LineClock.Proofs.Registry.Renumbering

/-!
# Registering after a failure

Two engines of which the first has once met a native block `b`, of the routine `g`, in vain: one more
number was given out, the block is known, and the routine is enrolled with it. Nobody whom that
concerns can tell the lines of the block. From there on routines are added in the same way in both,
with the same answers, and the profilers watch the same blocks.

Main statements: `Shadow.add` and `Shadow.registered`.
-/

namespace LineClock.Course

open Machine Engine Profiler

variable {n : Nat} {b c c' block : Block} {ws others : List ProfilerId} {g r : RoutineId}
  {p : ProfilerId} {x y : Engine}

/-! ## Blocks in slots -/

/-- A block under its shifted number, or one that is refused under any. -/
def Carried (n : Nat) (c c' : Block) : Prop :=
  c = c' ∧ refusal? c' ≠ none ∨ c = c'.shifted n ∧ c'.Portable n

theorem Carried.refusal? (h : Carried n c c') : Profiler.refusal? c = Profiler.refusal? c' := by
  rcases h with ⟨rfl, -⟩ | ⟨rfl, -⟩
  · rfl
  · exact Block.refusal?_shifted

theorem Carried.shifted (h : Carried n c c') (fit : Profiler.refusal? c' = none) :
    c = c'.shifted n ∧ c'.Portable n := h.resolve_left fun unfit => unfit.2 fit

/-- Under its shifted number a block is spread as under its own. -/
theorem spread_shifted (portable : block.Portable n) :
    spread (block.shifted n) others p r = spread block others p r := by
  have same : ∀ q, Engine.watch q (block.shifted n) = Engine.watch q block := by
    intro q
    unfold Engine.watch
    simp only [Block.shifted, watch_renumbered portable.identity]
  unfold spread tellAll
  simp only [same]

/-! ## Engines apart by a failure -/

/-- Two engines of which the first, when `n` numbers were given out, has met the native block `b` of
the routine `g` in vain. The profilers `ws` are blind to it. -/
structure Shadow (n : Nat) (b : Block) (ws : List ProfilerId) (g : RoutineId) (x y : Engine) : Prop
    where
  ready : Ready registry x
  ready' : Ready registry y
  numbered : Numbered y
  routines : x.routines = y.routines
  blocks : x.blocks = y.blocks + 1
  given : n ≤ y.blocks
  code : ∀ slot, Carried n (x.slotCode slot) (y.slotCode slot)
  /-- No other code has the number of the block. -/
  only : ∀ slot, Profiler.refusal? (y.slotCode slot) = none → (y.slotCode slot).id = b.id →
    y.slotCode slot = b
  there : g ∈ y.routines.keys
  runs : y.codeOf g = b
  padding : (x.registry registry).padding.Shadows n b.id ws g (y.registry registry).padding
  alike : Alike b ws x y

namespace Shadow

theorem codeOf (h : Shadow n b ws g x y) (r : RoutineId) : Carried n (x.codeOf r) (y.codeOf r) := by
  have routine := routine_congr h.routines r
  unfold Engine.codeOf
  rw [routine]
  exact h.code _

/-- The next number is shifted. -/
theorem next (h : Shadow n b ws g x y) : x.blocks = shift n y.blocks := by
  rw [shift_of_le h.given]
  exact h.blocks

variable (native : b.native = true) (number : b.id < n)

include native

/-- What comes out when a routine is prepared. -/
theorem accept (h : Shadow n b ws g x y) (fit : Profiler.refusal? (y.codeOf r) = none) :
    x.admits registry r = (y.admits registry r).shifted n ∧ (y.admits registry r).Portable n ∧
      ((x.registry registry).padding.accept (x.codeOf r) x.blocks).2.Shadows n b.id ws g
        ((y.registry registry).padding.accept (y.codeOf r) y.blocks).2 := by
  obtain ⟨code, portable⟩ := (h.codeOf r).shifted fit
  have only : (y.codeOf r).id = b.id → (y.codeOf r).native = true := by
    intro same
    have here : y.codeOf r = b := h.only _ fit same
    rw [here]
    exact native
  obtain ⟨block, padding⟩ := h.padding.accept only y.blocks
  unfold Engine.admits
  rw [code, h.next]
  refine ⟨block, fun native' => ?_, padding⟩
  -- A native block is admitted as it is.
  rw [Padding.native_accept] at native'
  rw [Padding.accept_native native']
  exact portable native'

include number

/-- **The block is spread in the same way**, or in vain. -/
theorem spread (h : Shadow n b ws g x y) (fit : Profiler.refusal? (y.codeOf r) = none)
    (p : ProfilerId) :
    let padding := fun e : Engine => (((e.registry registry).padding.accept (e.codeOf r) e.blocks).2.enrol
      r (e.codeOf r).id (e.admits registry r).id p).2
    (answer (addRoutine p r) x).1 = (answer (addRoutine p r) y).1 ∧
      Alike b ws (answer (addRoutine p r) x).2 (answer (addRoutine p r) y).2 ∧
      (padding x).Shadows n b.id ws g (padding y) := by
  simp only
  obtain ⟨admitted, portable, accepted⟩ := h.accept native fit
  obtain ⟨code, -⟩ := (h.codeOf r).shifted fit
  have before : (x.codeOf r).id = shift n (y.codeOf r).id := by rw [code]; rfl
  have after : (x.admits registry r).id = shift n (y.admits registry r).id := by rw [admitted]; rfl
  have fit' : Profiler.refusal? (x.codeOf r) = none := (h.codeOf r).refusal?.trans fit
  have own : (x.profiler p).registry = registry := h.ready.sole.profilers p
  have own' : (y.profiler p).registry = registry := h.ready'.sole.profilers p
  obtain ⟨x₁, profilers, files, added⟩ := answer_addRoutine fit' p
  obtain ⟨y₁, profilers', files', added'⟩ := answer_addRoutine fit p
  have alike : Alike b ws x₁ y₁ := h.alike.congr profilers files profilers' files'
  rw [own, admitted, spread_shifted portable] at added
  rw [own'] at added'
  rw [added, added']
  by_cases here : r = g
  · subst here
    have whole : y.admits registry r = b := by
      unfold Engine.admits
      rw [h.runs, Padding.accept_native native]
    have runs : (y.codeOf r).id = b.id := congrArg Block.id h.runs
    have admits : (y.admits registry r).id = b.id := congrArg Block.id whole
    have same : shift n b.id = b.id := shift_of_lt number
    have told : x.told registry r p = [] ∧ ∀ t ∈ y.told registry r p, t ∈ ws := by
      unfold Engine.told
      rw [before, after, runs, admits, same]
      exact ⟨(accepted.enrol_own p).1, (accepted.enrol_own p).2.1⟩
    rw [told.1, whole]
    obtain ⟨reply, spread⟩ := alike.spread_blind native told.2 p r
    refine ⟨reply, spread, ?_⟩
    rw [before, after, runs, admits, same]
    exact (accepted.enrol_own p).2.2
  · obtain ⟨same, enrolled⟩ := accepted.enrol here (y.codeOf r).id (y.admits registry r).id p
    have told : x.told registry r p = y.told registry r p := by
      unfold Engine.told
      rw [before, after, same]
    rw [told]
    obtain ⟨reply, spread⟩ := alike.spread (y.admits registry r) (y.told registry r p) p r
    refine ⟨reply, spread, ?_⟩
    rw [before, after]
    exact enrolled

/-- **A routine is added in the same way**, with the same answer. -/
theorem add (h : Shadow n b ws g x y) (p : ProfilerId) (r : RoutineId) :
    (answer (addRoutine p r) x).1 = (answer (addRoutine p r) y).1 ∧
      Shadow n b ws g (answer (addRoutine p r) x).2 (answer (addRoutine p r) y).2 := by
  have refusal := (h.codeOf r).refusal?
  cases unfit : Profiler.refusal? (y.codeOf r) with
  | some error =>
    rw [addRoutine_refused unfit, addRoutine_refused (refusal.trans unfit)]
    exact ⟨rfl, h⟩
  | none =>
    have fit : Profiler.refusal? (x.codeOf r) = none := refusal.trans unfit
    obtain ⟨reply, alike, padding⟩ := h.spread native number unfit p
    obtain ⟨admitted, portable, -⟩ := h.accept native unfit
    have slots := slotCode_added h.ready p fit
    have slots' := slotCode_added h.ready' p unfit
    have routine := routine_congr h.routines r
    have moved : (x.admits registry r).id ≠ (x.codeOf r).id ↔
        (y.admits registry r).id ≠ (y.codeOf r).id := by
      rw [admitted, ((h.codeOf r).shifted unfit).1]
      exact not_congr shift_inj
    have routines := routines_addRoutine h.ready p r
    have routines' := routines_addRoutine h.ready' p r
    refine ⟨reply, (Setup.addRoutine p r).ready h.ready, (Setup.addRoutine p r).ready h.ready', ?_, ?_,
      ?_, ?_, fun slot => ?_, fun slot fit' same => ?_, ?_, ?_, ?_, alike⟩
    · unfold Numbered
      rw [routines']
      exact h.numbered
    · rw [routines, routines', h.routines]
    · rw [blocks_added h.ready p fit, blocks_added h.ready' p unfit, h.blocks]
    · rw [blocks_added h.ready' p unfit]
      exact Nat.le_succ_of_le h.given
    · rw [slots, slots', routine]
      by_cases here : (y.admits registry r).id ≠ (y.codeOf r).id ∧ (y.routine r).slot = slot
      · rw [if_pos here, if_pos ⟨moved.mpr here.1, here.2⟩]
        exact .inr ⟨admitted, portable⟩
      · rw [if_neg here, if_neg fun other => here ⟨moved.mp other.1, other.2⟩]
        exact h.code slot
    · rw [slots'] at fit' same ⊢
      split at same
      · -- The copy has a number that was not given out when the block was met.
        rename_i here
        rcases Scene.Shelf.accepted (y.registry registry).padding (y.codeOf r) y.blocks with
          old | ⟨units, copy⟩
        · exact absurd (congrArg Block.id old) here.1
        · have fresh : (y.admits registry r).id = y.blocks := congrArg Block.id copy
          exact absurd (fresh ▸ same ▸ number) (Nat.not_lt.mpr h.given)
      · rename_i other
        rw [if_neg other] at fit' ⊢
        exact h.only slot fit' same
    · rw [routines']
      exact h.there
    · rcases codeOf_addRoutine h.ready' p unfit with kept | ⟨shared, moved⟩
      · exact kept.trans h.runs
      · -- The block itself is not moved.
        unfold Engine.admits at moved
        rw [shared, h.runs, Padding.accept_native native] at moved
        exact absurd rfl moved
    · rw [padding_added h.ready p fit, padding_added h.ready' p unfit]
      exact padding

omit native number in
/-- A wrapper is made in the same way. -/
theorem newWrapper (h : Shadow n b ws g x y) (inner : RoutineId) (p : ProfilerId) :
    ((Engine.newWrapper inner { registry, profiler := p }).run x).1 =
        ((Engine.newWrapper inner { registry, profiler := p }).run y).1 ∧
      Shadow n b ws g ((Engine.newWrapper inner { registry, profiler := p }).run x).2
        ((Engine.newWrapper inner { registry, profiler := p }).run y).2 := by
  have routine := routine_congr h.routines inner
  have made : ∀ e : Engine, ((Engine.newWrapper inner { registry, profiler := p }).run e).2.routines =
      e.routines.set e.routines.entries.length
        ⟨(e.routine inner).slot, some ⟨registry, p⟩, some inner⟩ := fun _ => rfl
  obtain ⟨there, kept⟩ := h.numbered.routine_set h.there (made y)
  have number : ∀ e : Engine, ((Engine.newWrapper inner { registry, profiler := p }).run e).1 =
      e.routines.entries.length := fun _ => rfl
  refine ⟨?_, (Setup.newWrapper inner p).ready h.ready, (Setup.newWrapper inner p).ready h.ready',
    h.numbered.set _ (made y), ?_, h.blocks, h.given, h.code, h.only, there, ?_, h.padding,
    h.alike.congr rfl rfl rfl rfl⟩
  · rw [number, number, h.routines]
  · rw [made, made, routine, h.routines]
  · have runs := h.runs
    unfold Engine.codeOf at runs ⊢
    rw [kept]
    exact runs

theorem wrapRoutine (h : Shadow n b ws g x y) (p : ProfilerId) (r : RoutineId) :
    (answer (Engine.wrapRoutine p r) x).1 = (answer (Engine.wrapRoutine p r) y).1 ∧
      Shadow n b ws g (answer (Engine.wrapRoutine p r) x).2
        (answer (Engine.wrapRoutine p r) y).2 := by
  have added := h.add native number p r
  rw [answer_wrapRoutine, answer_wrapRoutine]
  rcases run : answer (addRoutine p r) x with ⟨o, x'⟩
  rcases run' : answer (addRoutine p r) y with ⟨o', y'⟩
  rw [run, run'] at added
  obtain ⟨rfl, after⟩ := added
  cases o with
  | error error => exact ⟨rfl, after⟩
  | ok fresh =>
    obtain ⟨same, made⟩ := after.newWrapper r p
    have own : (x'.profiler p).registry = registry := after.ready.sole.profilers p
    have own' : (y'.profiler p).registry = registry := after.ready'.sole.profilers p
    simp only
    rw [own, own']
    exact ⟨congrArg Except.ok same, made⟩

theorem addRoutines (h : Shadow n b ws g x y) (p : ProfilerId) (routines : List RoutineId) :
    ((Engine.addRoutines p routines).run x).1 = ((Engine.addRoutines p routines).run y).1 ∧
      Shadow n b ws g ((Engine.addRoutines p routines).run x).2
        ((Engine.addRoutines p routines).run y).2 := by
  unfold Engine.addRoutines
  generalize 0 = count
  induction routines generalizing x y count with
  | nil => exact ⟨rfl, h⟩
  | cons r rest ih =>
    have added := h.add native number p r
    rw [List.foldlM_cons, bind_assoc]
    rcases run : answer (addRoutine p r) x with ⟨o, x'⟩
    rcases run' : answer (addRoutine p r) y with ⟨o', y'⟩
    rw [run, run'] at added
    obtain ⟨rfl, after⟩ := added
    rw [run_state_bind run, run_state_bind run']
    split
    · exact ih after (count + 1)
    · exact ih after count

end Shadow

/-! ## Registering -/

/-- Tasks that register routines, and do nothing else. -/
def Task.Registers : Task → Prop
  | .add _ _ | .addAll _ _ | .wrapper _ _ => True
  | _ => False

/-- What becomes of an engine when tasks are done one after the other. -/
def doAll (tasks : List Task) (e : Engine) : Engine := tasks.foldl (fun e t => (t.act.run e).2) e

namespace Shadow

variable (native : b.native = true) (number : b.id < n)

include native number

/-- What is registered is registered in the same way, with the same reply. -/
theorem act (h : Shadow n b ws g x y) {t : Task} (registers : t.Registers) :
    (t.act.run x).1 = (t.act.run y).1 ∧ Shadow n b ws g (t.act.run x).2 (t.act.run y).2 := by
  cases t with
  | add p r =>
    obtain ⟨reply, after⟩ := h.add native number p r
    exact ⟨congrArg (Reply.ofTry .flag) reply, after⟩
  | addAll p routines =>
    obtain ⟨count, after⟩ := h.addRoutines native number p routines
    exact ⟨congrArg Reply.number count, after⟩
  | wrapper p r =>
    obtain ⟨reply, after⟩ := h.wrapRoutine native number p r
    exact ⟨congrArg (Reply.ofTry .number) reply, after⟩
  | _ => exact registers.elim

/-- **Whatever is registered**, the engines stay apart by the one failure alone. -/
theorem registered (h : Shadow n b ws g x y) {tasks : List Task}
    (registers : ∀ t ∈ tasks, t.Registers) : Shadow n b ws g (doAll tasks x) (doAll tasks y) := by
  induction tasks generalizing x y with
  | nil => exact h
  | cons t rest ih =>
    exact ih (h.act native number (registers t List.mem_cons_self)).2
      fun t mem => registers t (List.mem_cons_of_mem _ mem)

end Shadow

end LineClock.Course
