import LineClock.Callable
import LineClock.Proofs.Machine.Outcome
import LineClock.Proofs.Profiler.Tally

/-!
# Watching a block

What watching a block makes of a profiler: nothing new if the block's identity is watched already,
a profiler that looked for source text if the block's lines cannot be told, and otherwise a profiler
with one more block. The tally plays no part in that. To note a routine changes the notes only, and
to record a line or an exit only the tally.
-/

namespace LineClock

namespace Profiler

open Machine

/-- A profiler without its tally. -/
def bare (p : Profiler) : Profiler := { p with tally := {} }

/-! ## Recording and noting -/

section

variable (p : Profiler) (thread : ThreadKey) (block : BlockHash) (line : UInt32) (now : Counter)
  (routine : RoutineId)

@[simp] theorem bare_lineStarts : (p.lineStarts thread block line now).bare = p.bare := by
  unfold lineStarts
  split <;> rfl

@[simp] theorem bare_blockLeft : (p.blockLeft thread block now).bare = p.bare := by
  unfold blockLeft
  split <;> rfl

@[simp] theorem registry_lineStarts : (p.lineStarts thread block line now).registry = p.registry :=
  congrArg (fun q => q.registry) (p.bare_lineStarts thread block line now)

@[simp] theorem registry_blockLeft : (p.blockLeft thread block now).registry = p.registry :=
  congrArg (fun q => q.registry) (p.bare_blockLeft thread block now)

@[simp] theorem watches_lineStarts (h : BlockHash) :
    (p.lineStarts thread block line now).watches h = p.watches h :=
  congrArg (fun q => q.watches h) (p.bare_lineStarts thread block line now)

@[simp] theorem watches_blockLeft (h : BlockHash) :
    (p.blockLeft thread block now).watches h = p.watches h :=
  congrArg (fun q => q.watches h) (p.bare_blockLeft thread block now)

theorem watches_eq_false_iff (h : BlockHash) : p.watches h = false ↔ p.blocks.get? h = none := by
  unfold watches Assoc.contains
  rw [Option.isSome_eq_false_iff, Option.isNone_iff_eq_none]

/-- A routine that is noted stands among the notes once. -/
theorem addRoutine_eq :
    p.addRoutine routine = { p with routines := Callable.push p.routines routine } := by
  unfold addRoutine Callable.push
  split <;> rfl

@[simp] theorem blocks_addRoutine : (p.addRoutine routine).blocks = p.blocks := by
  rw [addRoutine_eq]

@[simp] theorem routines_addRoutine :
    (p.addRoutine routine).routines = Callable.push p.routines routine := by
  rw [addRoutine_eq]

@[simp] theorem watches_addRoutine (h : BlockHash) :
    (p.addRoutine routine).watches h = p.watches h := by
  rw [addRoutine_eq]
  rfl

end

/-! ## Watching -/

/-- The outcomes of watching a block. -/
inductive Watched (block : Block) (p : Profiler) : Except ProfilerError Bool × Profiler → Prop where
  | already (known : p.watches block.identity = true) : Watched block p (.ok false, p)
  | failed (error : ProfilerError) (sources : Sources) :
    Watched block p (.error error, { p with sources })
  | entered (fresh : p.watches block.identity = false) (sources : Sources) (lines : List UInt32) :
    Watched block p (.ok true, { p with sources }.enter block lines)

theorem linesOf_cases (files : Files) (block : Block) (p : Profiler) :
    ∃ sources o, answer (linesOf files block) p = (o, { p with sources }) := by
  unfold linesOf
  split
  · rw [answer_get_bind]
    rcases p.sources.lookup files block.file with ⟨text, sources⟩
    simp only
    rw [answer_bind_ok (answer_set _ _)]
    cases text.bind (Source.blockLength? · block.firstLine) with
    | none => exact ⟨sources, _, rfl⟩
    | some length => exact ⟨sources, _, rfl⟩
  · cases refusal? block with
    | none => exact ⟨p.sources, _, rfl⟩
    | some error => exact ⟨p.sources, _, rfl⟩

theorem watch_cases (files : Files) (block : Block) (p : Profiler) :
    Watched block p (answer (watch files block) p) := by
  unfold watch
  rw [answer_get_bind]
  by_cases known : p.watches block.identity
  · rw [if_pos known]
    exact .already known
  · rw [if_neg known]
    obtain ⟨sources, o, found⟩ := linesOf_cases files block p
    rw [answer_bind, found]
    cases o with
    | error e => exact .failed e sources
    | ok lines =>
      rw [Bool.not_eq_true] at known
      exact .entered known sources lines

theorem linesOf_bare (files : Files) (block : Block) (p : Profiler) :
    answer (linesOf files block) p.bare =
      ((answer (linesOf files block) p).1, (answer (linesOf files block) p).2.bare) := by
  unfold linesOf
  split
  · rw [answer_get_bind, answer_get_bind]
    have sources : p.bare.sources = p.sources := rfl
    rw [sources]
    rcases p.sources.lookup files block.file with ⟨text, sources⟩
    simp only
    rw [answer_bind_ok (answer_set _ _), answer_bind_ok (answer_set _ _)]
    cases text.bind (Source.blockLength? · block.firstLine) <;> rfl
  · cases refusal? block <;> rfl

/-- What a profiler recorded has no influence on what it watches. -/
theorem watch_bare (files : Files) (block : Block) (p : Profiler) :
    (answer (watch files block) p.bare).1 = (answer (watch files block) p).1 ∧
      (answer (watch files block) p.bare).2.bare = (answer (watch files block) p).2.bare := by
  unfold watch
  rw [answer_get_bind, answer_get_bind]
  have same : p.bare.watches block.identity = p.watches block.identity := rfl
  rw [same]
  by_cases known : p.watches block.identity
  · rw [if_pos known]
    exact ⟨rfl, rfl⟩
  · rw [if_neg known, answer_bind, answer_bind, linesOf_bare]
    rcases answer (linesOf files block) p with ⟨_ | lines, p'⟩ <;> exact ⟨rfl, rfl⟩

/-- A profiler stays with its registry. -/
theorem watch_registry (files : Files) (block : Block) (p : Profiler) :
    (answer (watch files block) p).2.registry = p.registry := by
  have h := watch_cases files block p
  generalize answer (watch files block) p = r at h
  cases h <;> rfl

/-- What a profiler keeps when it learns of a block: its tally shows the same, what it watches it
watches still, at the same site, and its sites stay listed. -/
structure Enriched (p p' : Profiler) : Prop where
  tally : Tally.Same p.tally p'.tally
  tidy : p.tally.Tidy → p'.tally.Tidy
  blocks : ∀ block w, p.blocks.get? block = some w → p'.blocks.get? block = some w
  sites : ∀ site ∈ p.sites.keys, site ∈ p'.sites.keys

namespace Enriched

variable {p p' p'' : Profiler}

theorem refl (p : Profiler) : Enriched p p := ⟨.refl _, id, fun _ _ => id, fun _ => id⟩

theorem trans (h : Enriched p p') (h' : Enriched p' p'') : Enriched p p'' :=
  ⟨h.tally.trans h'.tally, fun tidy => h'.tidy (h.tidy tidy),
    fun block w found => h'.blocks block w (h.blocks block w found),
    fun site listed => h'.sites site (h.sites site listed)⟩

theorem addRoutine (p : Profiler) (routine : RoutineId) : Enriched p (p.addRoutine routine) := by
  rw [addRoutine_eq]
  exact ⟨.refl _, id, fun _ _ => id, fun _ => id⟩

theorem watches (h : Enriched p p') (block : BlockHash) (known : p.watches block) :
    p'.watches block := by
  obtain ⟨w, found⟩ := Option.isSome_iff_exists.mp known
  exact Option.isSome_iff_exists.mpr ⟨w, h.blocks block w found⟩

theorem enter {block : Block} (fresh : p.watches block.identity = false) (lines : List UInt32) :
    Enriched p (p.enter block lines) := by
  refine ⟨Tally.same_reserveAll _ lines _, fun tidy => tidy.reserveAll _ lines, fun b w found => ?_,
    fun site listed => Ordered.mem_keys_alter_of_mem listed⟩
  have absent := (p.watches_eq_false_iff block.identity).mp fresh
  unfold Profiler.enter
  simp only [Assoc.get?_set]
  split
  · rename_i here
    rw [here, found] at absent
    cases absent
  · exact found

end Enriched

theorem watch_enriched (files : Files) (block : Block) (p : Profiler) :
    Enriched p (answer (watch files block) p).2 := by
  have h := watch_cases files block p
  generalize answer (watch files block) p = r at h
  cases h with
  | already => exact .refl p
  | failed error sources => exact ⟨.refl _, id, fun _ _ => id, fun _ => id⟩
  | entered fresh sources lines =>
    have searched : Enriched p { p with sources } := ⟨.refl _, id, fun _ _ => id, fun _ => id⟩
    have known : ({ p with sources } : Profiler).watches block.identity = false := fresh
    exact searched.trans (.enter known lines)

/-- A block that shows instructions is not refused. -/
theorem refusal?_eq_none {block : Block} (native : block.native = false)
    (shown : block.instrs ≠ []) : refusal? block = none := by
  obtain ⟨i, rest, instrs⟩ := List.exists_cons_of_ne_nil shown
  unfold refusal? Block.bytes
  rw [native, instrs]
  exact if_neg fun empty => by cases empty.2

/-- A block that is not refused can be watched. -/
theorem watch_plain (files : Files) {block : Block} {p : Profiler} (native : block.native = false)
    (fit : refusal? block = none) (fresh : p.watches block.identity = false) :
    answer (watch files block) p = (.ok true, p.enter block block.lines) := by
  unfold watch
  rw [answer_get_bind, fresh, if_neg Bool.noConfusion, answer_bind]
  have lines : answer (linesOf files block) p = (.ok block.lines, p) := by
    unfold linesOf
    rw [native, if_neg Bool.noConfusion]
    simp only [fit]
    rfl
  rw [lines]
  rfl

end Profiler

end LineClock
