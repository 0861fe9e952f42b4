import LineClock.Proofs.Callables
import LineClock.Proofs.Course.Failing

/-!
# Adding the routines behind a callable

The routines behind a callable are added to a profiler one after the other, whatever becomes of each.
A routine that was tried is settled: what can be made of it was made, it keeps its block whatever
else is added, and trying it again changes nothing, or makes a note of it at most.

Main statement: `callable_covered`.
-/

namespace LineClock.Course

open Machine Engine Profiler

variable {e e' : Engine} {done : List Block} {p : ProfilerId} {g r : RoutineId}
  {routines : List RoutineId}

/-! ## Enrolled profilers -/

/-- A profiler is enrolled for a routine. -/
def Enrolled (p : ProfilerId) (g : RoutineId) (e : Engine) : Prop :=
  ∃ record, (e.registry registry).padding.enrolled.get? g = some record ∧ p ∈ record.watchers

namespace Enrolled

theorem of_added (given : Ready registry e) (fit : Profiler.refusal? (e.codeOf g) = none)
    (p : ProfilerId) : Enrolled p g (answer (addRoutine p g) e).2 := by
  obtain ⟨record, found, -, watchers⟩ := Padding.get?_enrol ((e.registry registry).padding.accept
    (e.codeOf g) e.blocks).2 g (e.codeOf g).id (e.admits registry g).id p
  refine ⟨record, ?_, (watchers p).mpr (.inl rfl)⟩
  rw [padding_added given p fit]
  exact found

/-- A profiler stays enrolled, whatever is added. -/
theorem addRoutine (h : Enrolled p g e) (given : Ready registry e) (q : ProfilerId)
    (r : RoutineId) : Enrolled p g (answer (Engine.addRoutine q r) e).2 := by
  cases refusal : Profiler.refusal? (e.codeOf r) with
  | some error =>
    rw [addRoutine_refused refusal]
    exact h
  | none =>
    obtain ⟨record, found, mem⟩ := h
    have found' : ((e.registry registry).padding.accept (e.codeOf r) e.blocks).2.enrolled.get? g =
        some record := by
      rw [Padding.enrolled_accept]
      exact found
    unfold Enrolled
    rw [padding_added given q refusal]
    by_cases same : r = g
    · subst same
      obtain ⟨record', there, -, watchers⟩ := Padding.get?_enrol
        ((e.registry registry).padding.accept (e.codeOf r) e.blocks).2 r (e.codeOf r).id
        (e.admits registry r).id q
      exact ⟨record', there, (watchers p).mpr (.inr ⟨record, found', mem⟩)⟩
    · exact ⟨record, (Padding.get?_enrol_ne same _ _ _ _).trans found', mem⟩

end Enrolled

theorem prepared_of_vetted (vetted : Vetted g (e.scene registry)) (enrolled : Enrolled p g e) :
    Prepared registry p g e := by
  obtain ⟨record, found, mem⟩ := enrolled
  obtain ⟨record', found', block⟩ := vetted.enrolled
  have both : some record = some record' := found.symm.trans found'
  cases both
  exact ⟨vetted.known, record, found, block, mem⟩

/-! ## Tried routines -/

/-- A routine was tried for a profiler: there is nothing to run, or it is vetted, the profiler is
enrolled for it, and its block is spent. -/
inductive Tried (p : ProfilerId) (g : RoutineId) (e : Engine) : Prop where
  | refused {error : ProfilerError} (unfit : Profiler.refusal? (e.codeOf g) = some error)
  | vetted (vetted : Vetted g (e.scene registry)) (enrolled : Enrolled p g e)
    (spent : Spent e.files (e.codeOf g) (e.profiler p))

/-- The block that a routine has once it was added is the one that was admitted. -/
theorem codeOf_added (given : Ready registry e) (shelf : (e.scene registry).Shelf done)
    (fit : Profiler.refusal? (e.codeOf g) = none) (p : ProfilerId) :
    (answer (addRoutine p g) e).2.codeOf g = e.admits registry g := by
  have own : (e.profiler p).registry = registry := given.sole.profilers p
  obtain ⟨profilers, after⟩ := state_addRoutine p fit
  have runs := (shelf.prepare given fit p).2
  rw [own] at after
  rw [after]
  exact runs

/-- Code that is refused is not touched by adding other routines. -/
theorem codeOf_refused {error : ProfilerError} (given : Ready registry e)
    (unfit : Profiler.refusal? (e.codeOf g) = some error) (p : ProfilerId) (r : RoutineId) :
    (answer (addRoutine p r) e).2.codeOf g = e.codeOf g := by
  cases refusal : Profiler.refusal? (e.codeOf r) with
  | some error' => rw [addRoutine_refused refusal]
  | none =>
    rcases codeOf_addRoutine given p refusal with kept | ⟨shared, -⟩
    · exact kept
    · -- The two routines do not share a slot, as the code of only one of them is refused.
      rw [shared, unfit] at refusal
      cases refusal

/-- What is written into a profiler is made of what is there. -/
theorem modify_own (f : Profiler → Profiler) :
    (e.profilers.modify p fun _ => f (e.profiler p)) = e.profilers.modify p f := by
  unfold Assoc.modify Engine.profiler Assoc.getD
  cases e.profilers.get? p <;> rfl

/-- Whether a profiler watches the code of a routine, if that is not refused. -/
def watchesCode (p : ProfilerId) (g : RoutineId) (e : Engine) : Bool :=
  (Profiler.refusal? (e.codeOf g)).isNone && (e.profiler p).watches (e.codeOf g).identity

namespace Tried

theorem of_added (given : Ready registry e) (shelf : (e.scene registry).Shelf done)
    (there : p ∈ e.profilers.keys) (g : RoutineId) : Tried p g (answer (addRoutine p g) e).2 := by
  cases refusal : Profiler.refusal? (e.codeOf g) with
  | some error =>
    rw [addRoutine_refused refusal]
    exact .refused refusal
  | none =>
    have own : (e.profiler p).registry = registry := given.sole.profilers p
    refine .vetted (.of_added given shelf refusal p) (.of_added given refusal p) ?_
    obtain ⟨-, files, profiler⟩ := added_self refusal there
    rw [codeOf_added given shelf refusal, files, profiler, own]
    unfold Profiler.adopt
    simp only
    split
    · exact (Spent.of_watch _ _ _).addRoutine g
    · exact Spent.of_watch _ _ _

/-- **What was tried stays tried**, with the block that it has, whatever is added to the profiler. -/
theorem addRoutine (h : Tried p g e) (given : Ready registry e) (there : p ∈ e.profilers.keys)
    (r : RoutineId) :
    (answer (Engine.addRoutine p r) e).2.codeOf g = e.codeOf g ∧
      Tried p g (answer (Engine.addRoutine p r) e).2 := by
  cases h with
  | refused unfit =>
    have code := codeOf_refused given unfit p r
    rw [← code] at unfit
    exact ⟨code, .refused unfit⟩
  | vetted vetted enrolled spent =>
    obtain ⟨code, vetted'⟩ := vetted.addRoutine given p r
    refine ⟨code, .vetted vetted' (enrolled.addRoutine given p r) ?_⟩
    cases refusal : Profiler.refusal? (e.codeOf r) with
    | some error =>
      rw [addRoutine_refused refusal]
      exact spent
    | none =>
      obtain ⟨-, files, profiler⟩ := added_self refusal there
      have code' : (answer (Engine.addRoutine p r) e).2.codeOf g = e.codeOf g := code
      rw [code', files, profiler]
      unfold Profiler.adopt
      simp only
      split
      · exact (spent.watch _).addRoutine r
      · exact spent.watch _

/-- **Trying a routine once more** uses up the number of a block at most, and makes a note of the
routine if its block has come to be watched. -/
theorem again (h : Tried p g e) (given : Ready registry e) :
    ∃ o blocks, o ≠ .ok true ∧ answer (Engine.addRoutine p g) e = (o, { e with
      blocks
      profilers := e.profilers.modify p fun q =>
        if watchesCode p g e then q.addRoutine g else q }) := by
  have own : (e.profiler p).registry = registry := given.sole.profilers p
  cases h with
  | @refused error unfit =>
    have none_ : watchesCode p g e = false := by simp [watchesCode, unfit]
    refine ⟨.error error, e.blocks, by simp, ?_⟩
    rw [addRoutine_refused unfit, none_]
    simp [Assoc.modify_same]
  | vetted vetted enrolled spent =>
    have prepared := prepared_of_vetted vetted enrolled
    rw [← own] at prepared
    rw [add_prepared prepared vetted.fit]
    have fit : Profiler.refusal? (e.codeOf g) = none := vetted.fit
    rcases spent.again with ⟨known, watched⟩ | ⟨unknown, error, watched⟩
    · have attends : watchesCode p g e = true := by simp [watchesCode, fit, known]
      have noted : (e.profilers.modify p fun _ => (e.profiler p).addRoutine g) =
          e.profilers.modify p fun q => q.addRoutine g :=
        modify_own fun q => q.addRoutine g
      refine ⟨.ok false, e.blocks + 1, by simp, ?_⟩
      rw [attends, Profiler.adopt, watched]
      simp only [Except.isOk, Except.toBool, if_true, noted]
    · have attends : watchesCode p g e = false := by simp [watchesCode, unknown]
      have kept : (e.profilers.modify p fun _ => e.profiler p) = e.profilers.modify p fun q => q :=
        modify_own id
      refine ⟨.error error, e.blocks + 1, by simp, ?_⟩
      rw [attends, Profiler.adopt, watched]
      simp only [Except.isOk, Except.toBool, Bool.false_eq_true, if_false, kept]

end Tried

/-! ## One after the other -/

/-- The engine once a list of routines were added to a profiler in turn. -/
def allAdded (p : ProfilerId) : List RoutineId → Engine → Engine
  | [], e => e
  | r :: rest, e => allAdded p rest (answer (addRoutine p r) e).2

/-- Whether an addition succeeded with code that was not watched. -/
def isNews : Except ProfilerError Bool → Bool
  | .ok fresh => fresh
  | .error _ => false

@[simp] theorem isOk_ok (fresh : Bool) : (.ok fresh : Except ProfilerError Bool).isOk = true := rfl

@[simp] theorem isOk_error (error : ProfilerError) :
    (.error error : Except ProfilerError Bool).isOk = false := rfl

/-- The routines whose addition succeeded. -/
def succeeded (os : List (RoutineId × Except ProfilerError Bool)) : List RoutineId :=
  (os.filter fun o => o.2.isOk).map Prod.fst

section

variable (os : List (RoutineId × Except ProfilerError Bool))

@[simp] theorem succeeded_nil : succeeded [] = [] := rfl

@[simp] theorem succeeded_ok (r : RoutineId) (fresh : Bool) :
    succeeded ((r, .ok fresh) :: os) = r :: succeeded os := rfl

@[simp] theorem succeeded_error (r : RoutineId) (error : ProfilerError) :
    succeeded ((r, .error error) :: os) = succeeded os := rfl

end

/-- The profiler stays there. -/
theorem keys_added (p : ProfilerId) (r : RoutineId) (e : Engine) :
    (answer (addRoutine p r) e).2.profilers.keys = e.profilers.keys :=
  (added_cases p r e).keys

theorem ready_added (given : Ready registry e) (p : ProfilerId) (r : RoutineId) :
    Ready registry (answer (addRoutine p r) e).2 :=
  (Setup.addRoutine p r).ready given

/-- What was tried stays tried while others are added, with the block that it has. -/
theorem Tried.allAdded (h : Tried p g e) (given : Ready registry e) (there : p ∈ e.profilers.keys)
    (routines : List RoutineId) :
    (Course.allAdded p routines e).codeOf g = e.codeOf g ∧
      Tried p g (Course.allAdded p routines e) := by
  induction routines generalizing e with
  | nil => exact ⟨rfl, h⟩
  | cons r rest ih =>
    obtain ⟨code, tried⟩ := h.addRoutine given there r
    obtain ⟨code', tried'⟩ := ih tried (ready_added given p r) ((keys_added p r e).symm ▸ there)
    exact ⟨code'.trans code, tried'⟩

/-! ## All of them again -/

/-- What a profiler gains when routines are added to it in turn, which fare as `os` says and leave the
engine `e'`: the identities `new` of blocks, which are those of the routines whose addition
succeeded, as far as they were not watched; and notes of those routines. -/
structure Gains (p : ProfilerId) (e : Engine) (os : List (RoutineId × Except ProfilerError Bool))
    (new : List BlockHash) (e' : Engine) : Prop where
  count : os.countP (isNews ·.2) = new.length
  blocks : (e'.profiler p).blocks.keys = (e.profiler p).blocks.keys ++ new
  once : new.Nodup
  fresh : ∀ h ∈ new, h ∉ (e.profiler p).blocks.keys
  own : ∀ h ∈ new, ∃ r ∈ succeeded os, (e'.codeOf r).identity = h
  watched : ∀ r ∈ succeeded os, (e'.codeOf r).identity ∈ (e'.profiler p).blocks.keys
  noted : (e'.profiler p).routines = (succeeded os).foldl Callable.push (e.profiler p).routines
  failed : ∀ o ∈ os, o.2.isOk = false →
    Profiler.refusal? (e'.codeOf o.1) ≠ none ∨ (e'.codeOf o.1).native = true

namespace Gains

end Gains

theorem succeeded_append (os os' : List (RoutineId × Except ProfilerError Bool)) :
    succeeded (os ++ os') = succeeded os ++ succeeded os' := by
  unfold succeeded
  rw [List.filter_append, List.map_append]

theorem mem_of_succeeded {os : List (RoutineId × Except ProfilerError Bool)} (h : r ∈ succeeded os) :
    ∃ o, (r, o) ∈ os := by
  obtain ⟨⟨r, o⟩, mem, rfl⟩ := List.mem_map.mp h
  exact ⟨o, (List.mem_filter.mp mem).1⟩

/-- First some routines, then others, if the first keep their blocks. -/
theorem Gains.trans {e₁ : Engine} {os os' : List (RoutineId × Except ProfilerError Bool)}
    {new new' : List BlockHash} (first : Gains p e os new e₁) (later : Gains p e₁ os' new' e')
    (kept : ∀ o ∈ os, e'.codeOf o.1 = e₁.codeOf o.1) :
    Gains p e (os ++ os') (new ++ new') e' where
  count := by rw [List.countP_append, first.count, later.count, List.length_append]
  blocks := by rw [later.blocks, first.blocks, List.append_assoc]
  once := by
    rw [List.nodup_append]
    refine ⟨first.once, later.once, fun h mem h' mem' => ?_⟩
    rintro rfl
    refine later.fresh h mem' ?_
    rw [first.blocks]
    exact List.mem_append_right _ mem
  fresh := by
    intro h mem
    rcases List.mem_append.mp mem with mem | mem
    · exact first.fresh h mem
    · intro known
      refine later.fresh h mem ?_
      rw [first.blocks]
      exact List.mem_append_left _ known
  own := by
    intro h mem
    rw [succeeded_append]
    rcases List.mem_append.mp mem with mem | mem
    · obtain ⟨r, ok, code⟩ := first.own h mem
      obtain ⟨o, tried⟩ := mem_of_succeeded ok
      exact ⟨r, List.mem_append_left _ ok, (congrArg Block.identity (kept _ tried)).trans code⟩
    · obtain ⟨r, ok, code⟩ := later.own h mem
      exact ⟨r, List.mem_append_right _ ok, code⟩
  watched := by
    intro r mem
    rw [succeeded_append, List.mem_append] at mem
    rcases mem with ok | ok
    · obtain ⟨o, tried⟩ := mem_of_succeeded ok
      rw [kept _ tried, later.blocks]
      exact List.mem_append_left _ (first.watched r ok)
    · exact later.watched r ok
  noted := by rw [later.noted, first.noted, succeeded_append, List.foldl_append]
  failed := by
    intro o mem failed
    rcases List.mem_append.mp mem with mem | mem
    · rw [kept o mem]
      exact first.failed o mem failed
    · exact later.failed o mem failed

/-- What a profiler has noted it has noted once. -/
theorem Handled.listed_once {ds : List Deed} {gs : List Registration} (h : Handled done e ds gs e')
    (given : Ready registry e) (once : ∀ q, (e.profiler q).routines.Nodup) (q : ProfilerId) :
    (e'.profiler q).routines.Nodup := by
  induction h generalizing q with
  | @idle _ e e' ready same =>
    have noted : (e'.profiler q).routines = (e.profiler q).routines := same.noted q
    rw [noted]
    exact once q
  | @profiler _ e wrap clock sources =>
    rw [profiler_newProfiler]
    split
    · exact List.nodup_nil
    · exact once q
  | routine block => exact once q
  | write routine block => exact once q
  | @add _ e shelf p routine =>
    refine (added_cases p routine e).profiler (R := fun q q' => q.routines.Nodup → q'.routines.Nodup)
      (fun _ => id) (fun first later => later ∘ first) (fun files block q once => ?_)
      (fun q once => ?_) q (once q)
    · have cases := watch_cases files block q
      generalize answer (Profiler.watch files block) q = r at cases
      cases cases <;> exact once
    · rw [Profiler.routines_addRoutine]
      exact Callable.nodup_foldl_push (l := [routine])
        (List.nodup_cons.mpr ⟨List.not_mem_nil, List.nodup_nil⟩) once
  | wrapper inner p => exact once q
  | trans first later ih ih' => exact ih' (first.ready given) (ih given once) q

end LineClock.Course
