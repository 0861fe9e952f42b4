import LineClock.Snapshot.Merge
import Mathlib

/-!
# Units

Units are positive and finite numbers, and those are compared by their exponents and then by their
mantissas. So `coarser` takes the larger of two units, and the coarsest unit of a list is one of the
list that is as large as any. Main statements: `Snapshot.coarsest?_units` and `factor?_self`.
-/

namespace LineClock

open Float.Model

/-- A length of time: a positive and finite number. -/
def IsDuration (x : Float) : Prop := 0.0 < x ∧ x.isFinite = true

namespace IsDuration

variable {x y z : Float}

/-! ## The order of units -/

/-- A unit has a mantissa and an exponent. -/
theorem unpack (h : IsDuration x) : ∃ m e pos, x.toModel.unpack = .finite .positive m e pos := by
  have zero : (0.0 : Float).toModel.unpack = .zero .positive := rfl
  have positive : (UnpackedFloat.zero .positive).lt x.toModel.unpack = true := by
    rw [← zero]
    exact of_decide_eq_true h.1
  have finite : x.toModel.unpack.isFinite = true := h.2
  cases unpacked : x.toModel.unpack with
  | infinity s =>
    rw [unpacked] at finite
    cases finite
  | notANumber =>
    rw [unpacked] at finite
    cases finite
  | zero s =>
    rw [unpacked] at positive
    cases positive
  | finite s m e pos =>
    cases s with
    | positive => exact ⟨m, e, pos, rfl⟩
    | negative =>
      rw [unpacked] at positive
      cases positive

section

variable {m m' : Nat} {e e' : Int} {pos : 0 < m} {pos' : 0 < m'}

/-- Units are compared by exponents, then by mantissas. -/
theorem compare_unpacked : (UnpackedFloat.finite .positive m e pos).compare
    (.finite .positive m' e' pos') = some ((compare e e').then (compare m m')) := rfl

theorem lt_iff (hx : x.toModel.unpack = .finite .positive m e pos)
    (hy : y.toModel.unpack = .finite .positive m' e' pos') :
    x < y ↔ e < e' ∨ (e = e' ∧ m < m') := by
  have model : x < y ↔ x.toModel.unpack.lt y.toModel.unpack = true := decide_eq_true_iff
  rw [model, UnpackedFloat.lt, hx, hy, compare_unpacked]
  simp only [beq_iff_eq, Option.some.injEq, Ordering.then_eq_lt, Std.compare_eq_lt,
    Std.LawfulEqOrd.compare_eq_iff_eq]

theorem le_iff (hx : x.toModel.unpack = .finite .positive m e pos)
    (hy : y.toModel.unpack = .finite .positive m' e' pos') :
    x ≤ y ↔ e < e' ∨ (e = e' ∧ m ≤ m') := by
  have model : x ≤ y ↔ x.toModel.unpack.le y.toModel.unpack = true := decide_eq_true_iff
  rw [model, UnpackedFloat.le, hx, hy, compare_unpacked]
  simp only [Option.any_some, Ordering.isLE_then_iff_or, Std.compare_eq_lt,
    Std.LawfulEqOrd.compare_eq_iff_eq, Std.isLE_compare]

theorem beq_iff (hx : x.toModel.unpack = .finite .positive m e pos)
    (hy : y.toModel.unpack = .finite .positive m' e' pos') :
    (x == y) = true ↔ e = e' ∧ m = m' := by
  have model : (x == y) = x.toModel.unpack.beq y.toModel.unpack := rfl
  rw [model, UnpackedFloat.beq, hx, hy, compare_unpacked]
  simp only [beq_iff_eq, Option.some.injEq, Ordering.then_eq_eq,
    Std.LawfulEqOrd.compare_eq_iff_eq]

end

theorem le_refl (h : IsDuration x) : x ≤ x := by
  obtain ⟨m, e, pos, unpacked⟩ := h.unpack
  rw [le_iff unpacked unpacked]
  exact .inr ⟨rfl, Nat.le_refl m⟩

theorem le_trans (hx : IsDuration x) (hy : IsDuration y) (hz : IsDuration z) (h : x ≤ y) (h' : y ≤ z) :
    x ≤ z := by
  obtain ⟨_, _, _, ux⟩ := hx.unpack
  obtain ⟨_, _, _, uy⟩ := hy.unpack
  obtain ⟨_, _, _, uz⟩ := hz.unpack
  rw [le_iff ux uy] at h
  rw [le_iff uy uz] at h'
  rw [le_iff ux uz]
  omega

theorem le_of_not_lt (hx : IsDuration x) (hy : IsDuration y) (h : ¬ y < x) : x ≤ y := by
  obtain ⟨_, _, _, ux⟩ := hx.unpack
  obtain ⟨_, _, _, uy⟩ := hy.unpack
  rw [lt_iff uy ux] at h
  rw [le_iff ux uy]
  omega

theorem le_of_lt (hx : IsDuration x) (hy : IsDuration y) (h : x < y) : x ≤ y := by
  obtain ⟨_, _, _, ux⟩ := hx.unpack
  obtain ⟨_, _, _, uy⟩ := hy.unpack
  rw [lt_iff ux uy] at h
  rw [le_iff ux uy]
  omega

theorem bne_self (h : IsDuration x) : (x != x) = false := by
  obtain ⟨m, e, pos, unpacked⟩ := h.unpack
  have same : (x == x) = true := (beq_iff unpacked unpacked).mpr ⟨rfl, rfl⟩
  unfold bne
  rw [same]
  rfl

theorem not_isNaN (h : IsDuration x) : x.isNaN = false := by
  obtain ⟨m, e, pos, unpacked⟩ := h.unpack
  have model : x.isNaN = x.toModel.unpack.isNaN := rfl
  rw [model, unpacked]
  rfl

end IsDuration

/-! ## The coarsest unit -/

namespace Snapshot

variable {a b unit : Float}

/-- **The coarser of two units** is one of them, and neither is larger. -/
theorem coarser_units (ha : IsDuration a) (hb : IsDuration b) :
    (coarser a b = a ∨ coarser a b = b) ∧ a ≤ coarser a b ∧ b ≤ coarser a b := by
  unfold coarser
  rw [hb.not_isNaN, if_neg Bool.false_ne_true]
  by_cases less : b < a
  · rw [if_pos less]
    exact ⟨.inl rfl, ha.le_refl, hb.le_of_lt ha less⟩
  · rw [if_neg less]
    exact ⟨.inr rfl, ha.le_of_not_lt hb less, hb.le_refl⟩

/-- **The coarsest unit** is one of the units, and none is larger. -/
theorem coarsest?_units {units : List Float} (some : units ≠ []) (h : ∀ u ∈ units, IsDuration u) :
    ∃ unit, coarsest? units = .some unit ∧ unit ∈ units ∧ ∀ u ∈ units, u ≤ unit := by
  cases units with
  | nil => exact absurd rfl some
  | cons first rest =>
    refine ⟨rest.foldl coarser first, rfl, ?_⟩
    clear some
    induction rest generalizing first with
    | nil =>
      refine ⟨List.mem_cons_self, fun u mem => ?_⟩
      cases List.mem_singleton.mp mem
      exact (h first List.mem_cons_self).le_refl
    | cons second rest ih =>
      have hf := h first List.mem_cons_self
      have hs := h second (List.mem_cons_of_mem _ List.mem_cons_self)
      obtain ⟨which, first_le, second_le⟩ := coarser_units hf hs
      have hc : IsDuration (coarser first second) := by
        rcases which with here | here <;> rw [here] <;> assumption
      have fewer : ∀ u ∈ coarser first second :: rest, IsDuration u := by
        intro u mem
        rcases List.mem_cons.mp mem with rfl | mem
        · exact hc
        · exact h u (List.mem_cons_of_mem _ (List.mem_cons_of_mem _ mem))
      obtain ⟨mem, largest⟩ := ih (coarser first second) fewer
      rw [List.foldl_cons]
      have hu := fewer _ mem
      have top := largest _ List.mem_cons_self
      constructor
      · rcases List.mem_cons.mp mem with here | mem
        · rw [here]
          rcases which with which | which <;> rw [which] <;> simp
        · exact List.mem_cons_of_mem _ (List.mem_cons_of_mem _ mem)
      · intro u listed
        rcases List.mem_cons.mp listed with rfl | listed
        · exact hf.le_trans hc hu first_le top
        rcases List.mem_cons.mp listed with rfl | listed
        · exact hs.le_trans hc hu second_le top
        · exact largest u (List.mem_cons_of_mem _ listed)

/-- Times in the unit of the result are taken as they are. -/
theorem factor?_self (h : IsDuration unit) : factor? unit unit = none := by
  unfold factor?
  rw [h.bne_self]
  exact if_neg fun both => Bool.false_ne_true both.2

end Snapshot

end LineClock
