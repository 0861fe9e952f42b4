import Mathlib.Algebra.Ring.Nat
import LineClock.Counter

/-!
# Saturating sums as numbers

Main statement: `Counter.toNat_satAdd`. In numbers, saturating addition is addition capped at the
largest word. It follows that the order in which counters are added up does not matter.
-/

namespace LineClock.Counter

theorem toNat_satAdd (a b : Counter) :
    (satAdd a b).toNat = min (a.toNat + b.toNat) (2 ^ 64 - 1) := by
  have ha := a.toNat_lt
  have hb := b.toNat_lt
  have ht : top.toNat = 2 ^ 64 - 1 := rfl
  have hs : (top - a).toNat = 2 ^ 64 - 1 - a.toNat := by
    rw [UInt64.toNat_sub_of_le _ _ (by rw [UInt64.le_iff_toNat_le, ht]; omega), ht]
  unfold satAdd
  by_cases h : top - a < b
  · have h' := h
    rw [UInt64.lt_iff_toNat_lt, hs] at h'
    rw [if_pos h, ht]
    omega
  · have h' := h
    rw [UInt64.lt_iff_toNat_lt, hs] at h'
    rw [if_neg h, UInt64.toNat_add]
    omega

theorem satAdd_comm (a b : Counter) : satAdd a b = satAdd b a := by
  rw [← UInt64.toNat_inj, toNat_satAdd, toNat_satAdd, Nat.add_comm]

theorem satAdd_assoc (a b c : Counter) : satAdd (satAdd a b) c = satAdd a (satAdd b c) := by
  rw [← UInt64.toNat_inj]
  simp only [toNat_satAdd]
  omega

@[simp] theorem satAdd_zero (a : Counter) : satAdd a 0 = a := by
  have ha := a.toNat_lt
  rw [← UInt64.toNat_inj, toNat_satAdd]
  simp
  omega

@[simp] theorem zero_satAdd (a : Counter) : satAdd 0 a = a := by rw [satAdd_comm, satAdd_zero]

end LineClock.Counter
