import LineClock.Proofs.Registry.Enrolled

/-!
# One number more

If one block more was made at some point, later blocks have the next higher numbers. Otherwise a
registry goes on in the same way, also if it has met a native block `b` in between: a native block is
never placed among others. So the two paddings stay apart by the shift of numbers and the number of
`b` alone.

Main statements: `Padding.Shadows.meet`, `Padding.Shadows.accept`, `Padding.Shadows.enrol` and
`Padding.Shadows.enrol_own`.
-/

namespace LineClock

/-- A number once one more was given out as `n`. -/
def shift (n i : Nat) : Nat := if i < n then i else i + 1

theorem shift_of_lt {n i : Nat} (h : i < n) : shift n i = i := if_pos h

theorem shift_of_le {n i : Nat} (h : n ≤ i) : shift n i = i + 1 := if_neg (Nat.not_lt.mpr h)

theorem shift_inj {n i j : Nat} : shift n i = shift n j ↔ i = j := by
  unfold shift
  split <;> split <;> omega

/-! ## Blocks -/

namespace Block

/-- A block under its shifted number. -/
def shifted (n : Nat) (b : Block) : Block := { b with id := shift n b.id }

/-- A block whose identity does not depend on the shift. -/
def Portable (n : Nat) (b : Block) : Prop := b.native = true → b.id < n

variable {n : Nat} {b : Block}

theorem Portable.identity (h : b.Portable n) : (b.shifted n).identity = b.identity := by
  have number : (b.shifted n).id = shift n b.id := rfl
  unfold Block.identity
  cases native : b.native with
  | true =>
    have same : (b.shifted n).native = true := native
    rw [if_pos rfl, if_pos same, number, shift_of_lt (h native)]
  | false =>
    have same : ¬ (b.shifted n).native = true := by
      rw [Bool.not_eq_true]
      exact native
    rw [if_neg same, if_neg Bool.noConfusion]
    rfl

theorem shifted_of_lt (h : b.id < n) : b.shifted n = b := by
  unfold shifted
  rw [shift_of_lt h]

theorem refusal?_shifted : Profiler.refusal? (b.shifted n) = Profiler.refusal? b := rfl

end Block

/-! ## Records -/

/-- A record with the shifted number of its block. -/
def Enrolment.shifted (n : Nat) (r : Enrolment) : Enrolment := { r with block := shift n r.block }

namespace Padding

variable {n : Nat} {b : BlockId} {ws : List ProfilerId} {q : ProfilerId} {g r : RoutineId}
  {p p' : Padding} {c : Block} {id before after : BlockId}

/-- The paddings of two registries that went on in the same way, but for a shift of numbers, after
the first has met the native block `b` of the routine `g`. -/
structure Shadows (n : Nat) (b : BlockId) (ws : List ProfilerId) (g : RoutineId)
    (p p' : Padding) : Prop where
  shapes : p.shapes = p'.shapes
  known : ∀ i, shift n i ∈ p.known ↔ i ∈ p'.known ∨ i = b
  others : ∀ r, r ≠ g → p.enrolled.get? r = (p'.enrolled.get? r).map (Enrolment.shifted n)
  /-- The routine is enrolled with the block in the first registry. -/
  met : ∃ record, p.enrolled.get? g = some record ∧ record.block = b
  /-- In the second registry, as long as it is not, no others than `ws` watch the routine. -/
  behind : ∀ record, p'.enrolled.get? g = some record → record.block ≠ b →
    ∀ q ∈ record.watchers, q ∈ ws

/-- What meeting a native block does: it is known from then on. -/
theorem accept_native (native : c.native = true) (p : Padding) (id : BlockId) :
    p.accept c id = (c, { p with known := if c.id ∈ p.known then p.known else c.id :: p.known }) := by
  by_cases known : c.id ∈ p.known
  · rw [accept_known known, if_pos known]
  · unfold accept place
    rw [if_neg (mt List.contains_iff_mem.mp known), if_pos native, if_neg known]

namespace Shadows

/-- **A native block is met**, when numbers up to `n` were given out. -/
theorem meet (native : c.native = true) (number : c.id < n) (known : ∀ i ∈ p.known, i < n)
    (records : ∀ r record, p.enrolled.get? r = some record → record.block < n)
    (own : q ∈ ws) (id : BlockId)
    (told : ∀ t ∈ ((p.accept c id).2.enrol g c.id c.id q).1, t ∈ ws) :
    ((p.accept c id).2.enrol g c.id c.id q).2.Shadows n c.id ws g p := by
  have enrolled : (p.accept c id).2.enrolled = p.enrolled := p.enrolled_accept c id
  refine ⟨?_, fun i => ?_, fun r other => ?_, ?_, fun record found differ t mem => ?_⟩
  · rw [accept_native native]
    rfl
  · -- Numbers from `n` on are in neither list.
    have mem : ∀ i, i ∈ ((p.accept c id).2.enrol g c.id c.id q).2.known ↔
        i ∈ p.known ∨ i = c.id := by
      intro i
      have same : ((p.accept c id).2.enrol g c.id c.id q).2.known = (p.accept c id).2.known := rfl
      rw [same, accept_native native]
      simp only
      split
      · rename_i old
        exact ⟨.inl, fun mem => mem.elim (fun h => h) fun here => here ▸ old⟩
      · rw [List.mem_cons, or_comm]
    rw [mem]
    by_cases low : i < n
    · rw [shift_of_lt low]
    · have high : n ≤ i := Nat.not_lt.mp low
      have none : ∀ j, n ≤ j → ¬ (j ∈ p.known ∨ j = c.id) := by
        rintro j high (mem | rfl)
        · exact Nat.not_lt.mpr high (known j mem)
        · exact Nat.not_lt.mpr high number
      rw [shift_of_le high]
      exact iff_of_false (none _ (Nat.le_succ_of_le high)) (none _ high)
  · rw [get?_enrol_ne (Ne.symm other), enrolled]
    cases found : p.enrolled.get? r with
    | none => rfl
    | some record =>
      have same : record.shifted n = record := by
        unfold Enrolment.shifted
        rw [shift_of_lt (records r record found)]
      rw [Option.map_some, same]
  · obtain ⟨record, found, block, -⟩ := get?_enrol (p.accept c id).2 g c.id c.id q
    exact ⟨record, found, block⟩
  · by_cases here : t = q
    · rw [here]
      exact own
    · refine told t ((told_iff _ _ _ _ _ _).mpr ⟨record, ?_, differ, mem, here⟩)
      rw [enrolled]
      exact found

/-! ## Admitting -/

/-- Blocks are placed in the same way. -/
theorem place (h : p.Shadows n b ws g p') (c : Block) (id : BlockId) :
    (p.place (c.shifted n) (shift n id)).1 = (p'.place c id).1.shifted n ∧
      (p.place (c.shifted n) (shift n id)).2.shapes = (p'.place c id).2.shapes := by
  have native : (c.shifted n).native = c.native := rfl
  have bytes : (c.shifted n).strippedBytes = c.strippedBytes := rfl
  have padding : (c.shifted n).padding = c.padding := rfl
  unfold Padding.place
  rw [native, bytes, padding, h.shapes]
  split
  · exact ⟨rfl, h.shapes⟩
  · simp only
    split <;> exact ⟨rfl, rfl⟩

/-- **Blocks are admitted in the same way.** -/
theorem accept (h : p.Shadows n b ws g p') (only : c.id = b → c.native = true) (id : BlockId) :
    (p.accept (c.shifted n) (shift n id)).1 = (p'.accept c id).1.shifted n ∧
      (p.accept (c.shifted n) (shift n id)).2.Shadows n b ws g (p'.accept c id).2 := by
  have number : (c.shifted n).id = shift n c.id := rfl
  have known := h.known c.id
  have placed := h.place c id
  by_cases old : c.id ∈ p'.known
  · rw [accept_known (number ▸ known.mpr (.inl old)), accept_known old]
    exact ⟨rfl, h⟩
  by_cases here : c.id = b
  · -- The block that was met is new to the second registry only, which has no place for it either.
    have whole : p'.accept c id = (c, { p' with known := c.id :: p'.known }) := by
      rw [accept_native (only here), if_neg old]
    rw [accept_known (number ▸ known.mpr (.inr here)), whole]
    refine ⟨rfl, h.shapes, fun i => ?_, h.others, h.met, h.behind⟩
    rw [h.known, List.mem_cons, here, @or_comm (i = b), or_assoc, or_self]
  · have new : ¬ p.known.contains (c.shifted n).id = true := by
      rw [List.contains_iff_mem, number, known]
      exact fun found => found.elim old here
    have new' : ¬ p'.known.contains c.id = true := by simpa using old
    have accepted : ∀ {p : Padding} {c : Block} {id : BlockId}, ¬ p.known.contains c.id = true →
        p.accept c id = ((p.place c id).1,
          { (p.place c id).2 with known := (p.place c id).1.id :: (p.place c id).2.known }) :=
      fun new => if_neg new
    rw [accepted new, accepted new', placed.1]
    refine ⟨rfl, placed.2, fun i => ?_, ?_, ?_, ?_⟩
    · have shifted : ((p'.place c id).1.shifted n).id = shift n (p'.place c id).1.id := rfl
      simp only [shifted, known_place, List.mem_cons, shift_inj, h.known, or_assoc]
    · simp only [enrolled_place]
      exact h.others
    · simp only [enrolled_place]
      exact h.met
    · simp only [enrolled_place]
      exact h.behind

/-! ## Enrolling -/

/-- **Profilers are enrolled in the same way** for other routines. -/
theorem enrol (h : p.Shadows n b ws g p') (other : r ≠ g) (before after : BlockId) (q : ProfilerId) :
    (p.enrol r (shift n before) (shift n after) q).1 = (p'.enrol r before after q).1 ∧
      (p.enrol r (shift n before) (shift n after) q).2.Shadows n b ws g
        (p'.enrol r before after q).2 := by
  have record : p.enrolled.getD r { block := shift n before } =
      (p'.enrolled.getD r { block := before }).shifted n := by
    unfold Assoc.getD
    rw [h.others r other]
    cases p'.enrolled.get? r <;> rfl
  have kept : ∀ (p : Padding) before after,
      (p.enrol r before after q).2.enrolled.get? g = p.enrolled.get? g :=
    fun p before after => get?_enrol_ne other p before after q
  refine ⟨?_, h.shapes, h.known, fun r' other' => ?_, ?_, ?_⟩
  · unfold Padding.enrol
    simp only [record]
    have watchers : ((p'.enrolled.getD r { block := before }).shifted n).watchers =
        (p'.enrolled.getD r { block := before }).watchers := rfl
    have block : ((p'.enrolled.getD r { block := before }).shifted n).block =
        shift n (p'.enrolled.getD r { block := before }).block := rfl
    simp only [watchers, block, shift_inj]
  · unfold Padding.enrol
    simp only [record, Assoc.get?_set]
    by_cases here : r = r'
    · rw [if_pos here, if_pos here]
      rfl
    · rw [if_neg here, if_neg here]
      exact h.others r' other'
  · rw [kept]
    exact h.met
  · rw [kept]
    exact h.behind

/-- **Enrolling for the routine itself** tells nobody in the first registry, and no others than `ws`
in the second. -/
theorem enrol_own (h : p.Shadows n b ws g p') (q : ProfilerId) :
    (p.enrol g b b q).1 = [] ∧ (∀ t ∈ (p'.enrol g b b q).1, t ∈ ws) ∧
      (p.enrol g b b q).2.Shadows n b ws g (p'.enrol g b b q).2 := by
  obtain ⟨record, found, block⟩ := h.met
  refine ⟨List.eq_nil_iff_forall_not_mem.mpr fun t told => ?_, fun t told => ?_, h.shapes, h.known,
    fun r other => ?_, ?_, fun record' found' differ => ?_⟩
  · obtain ⟨record', found', differ, -⟩ := (told_iff p g b b q t).mp told
    rw [found] at found'
    cases found'
    exact differ block
  · obtain ⟨record', found', differ, mem, -⟩ := (told_iff p' g b b q t).mp told
    exact h.behind record' found' differ t mem
  · rw [get?_enrol_ne (Ne.symm other), get?_enrol_ne (Ne.symm other)]
    exact h.others r other
  · obtain ⟨record', found', block', -⟩ := get?_enrol p g b b q
    exact ⟨record', found', block'⟩
  · obtain ⟨record'', found'', block'', -⟩ := get?_enrol p' g b b q
    rw [found''] at found'
    cases found'
    exact absurd block'' differ

end Shadows

end Padding

end LineClock
