/-!
# Saturating counters

Hits and ticks are 64-bit counters that stay at the largest word instead of wrapping around.
-/

namespace LineClock

/-- A count or a number of clock ticks. -/
abbrev Counter := UInt64

namespace Counter

/-- The largest counter. -/
def top : Counter := 0xffffffffffffffff

/-- The sum, or the largest counter where the sum does not fit. -/
def satAdd (a b : Counter) : Counter := if top - a < b then top else a + b

/-- The difference, or zero where it would be negative. -/
def satSub (a b : Counter) : Counter := if a < b then 0 else a - b

/-- The saturating sum of a list. -/
def sum (l : List Counter) : Counter := l.foldl satAdd 0

theorem toNat_satSub (a b : Counter) : (satSub a b).toNat = a.toNat - b.toNat := by
  unfold satSub
  by_cases h : a < b
  · rw [if_pos h]
    rw [UInt64.lt_iff_toNat_lt] at h
    simp
    omega
  · rw [if_neg h]
    rw [UInt64.lt_iff_toNat_lt] at h
    rw [UInt64.toNat_sub_of_le]
    rw [UInt64.le_iff_toNat_le]
    omega

end Counter

end LineClock
