import LineClock.Proofs.Profiler.Watch
import LineClock.Proofs.Registry.Apart

/-!
# Enrolments

What admitting a block and enrolling a profiler for a routine leave of the blocks that are known and
of the records of other routines. Main statements: `accept_known`, `told_iff`, `get?_enrol`.
-/

namespace LineClock

namespace Profiler

variable {block : Block}

/-- Code that is not refused shows instructions, unless it is native. -/
theorem shown_of_fit (plain : block.native = false) (fit : refusal? block = none) :
    block.instrs ≠ [] := by
  intro empty
  unfold refusal? at fit
  rw [if_pos] at fit
  · cases fit
  · refine ⟨by rw [plain]; exact Bool.noConfusion, ?_⟩
    unfold Block.bytes
    rw [plain, empty]
    rfl

/-- Native code is not refused. -/
theorem refusal?_native (native : block.native = true) : refusal? block = none :=
  if_neg fun unfit => unfit.1 native

end Profiler

namespace Padding

variable {p : Padding} {block : Block} {id before after : BlockId} {routine other : RoutineId}
  {watcher q : ProfilerId}

/-! ## Admitting -/

/-- A block that is known is admitted as it is. -/
theorem accept_known (known : block.id ∈ p.known) (id : BlockId) : p.accept block id = (block, p) :=
  if_pos (List.contains_iff_mem.mpr known)

theorem enrolled_place (p : Padding) (block : Block) (id : BlockId) :
    (p.place block id).2.enrolled = p.enrolled := by
  unfold place
  split <;> rfl

theorem enrolled_accept (p : Padding) (block : Block) (id : BlockId) :
    (p.accept block id).2.enrolled = p.enrolled := by
  unfold accept
  split
  · rfl
  · exact p.enrolled_place block id

/-- What is admitted is known. -/
theorem mem_known_accept (p : Padding) (block : Block) (id : BlockId) :
    (p.accept block id).1.id ∈ (p.accept block id).2.known := by
  unfold accept
  split
  · rename_i known
    exact List.contains_iff_mem.mp known
  · exact List.mem_cons_self

/-- What is known stays known. -/
theorem known_accept_of_mem {b : BlockId} (known : b ∈ p.known) (block : Block) (id : BlockId) :
    b ∈ (p.accept block id).2.known := by
  unfold accept
  split
  · exact known
  · refine List.mem_cons_of_mem _ ?_
    rw [known_place]
    exact known

/-- What is admitted of code that is not refused is not refused. -/
theorem refusal?_accept (p : Padding) (fit : Profiler.refusal? block = none) (id : BlockId) :
    Profiler.refusal? (p.accept block id).1 = none := by
  cases native : block.native with
  | true => exact Profiler.refusal?_native ((p.native_accept block id).trans native)
  | false =>
    exact Profiler.refusal?_eq_none ((p.native_accept block id).trans native)
      (p.instrs_accept (Profiler.shown_of_fit native fit) id)

/-! ## Enrolling -/

/-- Who has to follow: the other watchers, if the routine has another block than it was enrolled
with last. -/
theorem told_iff (p : Padding) (routine : RoutineId) (before after : BlockId)
    (watcher q : ProfilerId) : q ∈ (p.enrol routine before after watcher).1 ↔
      ∃ record, p.enrolled.get? routine = some record ∧ record.block ≠ after ∧
        q ∈ record.watchers ∧ q ≠ watcher := by
  unfold enrol Assoc.getD
  cases found : p.enrolled.get? routine with
  | none =>
    simp only [Option.getD_none, reduceCtorEq, false_and, exists_false, iff_false]
    split
    · exact List.not_mem_nil
    · exact List.not_mem_nil
  | some record =>
    simp only [Option.getD_some, Option.some.injEq, exists_eq_left']
    split
    · rename_i same
      exact iff_of_false List.not_mem_nil fun told => told.1 same
    · rename_i differ
      simp [differ]

/-- The record of a routine once a profiler is enrolled for it. -/
theorem get?_enrol (p : Padding) (routine : RoutineId) (before after : BlockId)
    (watcher : ProfilerId) :
    ∃ record, (p.enrol routine before after watcher).2.enrolled.get? routine = some record ∧
      record.block = after ∧ ∀ q, q ∈ record.watchers ↔ q = watcher ∨
        ∃ old, p.enrolled.get? routine = some old ∧ q ∈ old.watchers := by
  unfold enrol Assoc.getD
  refine ⟨_, Assoc.get?_set_self _ _ _, rfl, fun q => ?_⟩
  cases found : p.enrolled.get? routine with
  | none => simp
  | some record =>
    simp only [Option.getD_some, Option.some.injEq, exists_eq_left']
    split
    · rename_i there
      refine ⟨.inr, fun mem => mem.elim (fun here => ?_) id⟩
      rw [here]
      exact List.contains_iff_mem.mp there
    · rw [List.mem_append, List.mem_singleton, or_comm]

/-- The records of other routines stay as they are. -/
theorem get?_enrol_ne (differ : routine ≠ other) (p : Padding) (before after : BlockId)
    (watcher : ProfilerId) :
    (p.enrol routine before after watcher).2.enrolled.get? other = p.enrolled.get? other :=
  Assoc.get?_set_ne _ _ differ

end Padding

end LineClock
