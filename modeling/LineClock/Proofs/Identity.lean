import Mathlib.Data.Nat.Prime.Basic
import Mathlib.Data.UInt
import Mathlib.Dynamics.PeriodicPts.Lemmas
import Mathlib.Tactic.LinearCombination
import Mathlib.Tactic.Ring
import LineClock.Proofs.Registry.Apart

/-!
# Padding changes the identity

What one no-op does to a hash is a permutation of the words, and each of its orbits is `2 ^ 62` words
long. The argument follows the powers of two in the distance travelled. Four no-ops carry every
word by an odd multiple of 16; since a no-op multiplies distances that 16 divides by a factor that is 1
modulo 8, going on for as long again doubles the distance up to an odd factor. So after `2 ^ 61` no-ops a
word is off by half the range of words, and after `2 ^ 62` it is back.

Main statements: `Fnv1a.minimalPeriod_idle` and `BlockHash.ofBytes_padded_ne`.
-/

namespace LineClock

namespace Fnv1a

open Function
open scoped UInt64.CommRing

/-- The multiplier of two steps, one for each byte of a unit. -/
def factor : UInt64 := prime * prime

/-- What a no-op does to a hash: its argument is zero, so the second step only multiplies. -/
def idle (h : UInt64) : UInt64 := (h ^^^ 9) * factor

theorem extend_nop (h : UInt64) : extend h Op.nop.bytes = idle h := by
  show ((h ^^^ 9) * prime ^^^ 0) * prime = (h ^^^ 9) * (prime * prime)
  rw [UInt64.xor_zero, UInt64.mul_assoc]

theorem extend_append (h : UInt64) (a b : Bytes) : extend h (a ++ b) = extend (extend h a) b :=
  List.foldl_append

/-- No-ops carry a hash on as often as there are of them. -/
theorem extend_noOps (h : UInt64) (n : Nat) : extend h (noOps n) = idle^[n] h := by
  induction n generalizing h with
  | zero => rfl
  | succ n ih =>
    have one : noOps (1 + n) = Op.nop.bytes ++ noOps n := noOps_add 1 n
    rw [Nat.add_comm n 1, one, extend_append, extend_nop, ih, Nat.add_comm 1 n, iterate_succ_apply]

/-! ## Distances -/

/-- The low four bits of a number are all that exclusive or with 9 looks at. -/
theorem xor_nine (n : Nat) : n ^^^ 9 = 16 * (n / 16) + (n % 16 ^^^ 9) := by
  have high : (n ^^^ 9) / 2 ^ 4 = n / 2 ^ 4 := by rw [Nat.xor_div_two_pow]; simp
  have low : (n ^^^ 9) % 2 ^ 4 = n % 2 ^ 4 ^^^ 9 := by rw [Nat.xor_mod_two_pow]
  have parts := Nat.div_add_mod (n ^^^ 9) (2 ^ 4)
  rw [high, low] at parts
  exact parts.symm

/-- So distances that 16 divides stay. -/
theorem add_xor_nine (h d : UInt64) : (h + 16 * d) ^^^ 9 = (h ^^^ 9) + 16 * d := by
  rw [← UInt64.toNat_inj]
  have bound : ((h.toNat % 16) ^^^ 9) < 2 ^ 4 := Nat.xor_lt_two_pow (by omega) (by omega)
  have whole : (16 * d).toNat % 16 = 0 := by
    rw [UInt64.toNat_mul]
    show 16 * d.toNat % 2 ^ 64 % 16 = 0
    omega
  have nine : (9 : UInt64).toNat = 9 := rfl
  have low : ((h + 16 * d).toNat) % 16 = h.toNat % 16 := by
    rw [UInt64.toNat_add]
    omega
  rw [UInt64.toNat_xor, nine, xor_nine, low, UInt64.toNat_add, UInt64.toNat_add, UInt64.toNat_xor,
    nine, xor_nine h.toNat]
  omega

theorem idle_add (h d : UInt64) : idle (h + 16 * d) = idle h + 16 * (factor * d) := by
  unfold idle
  rw [add_xor_nine]
  ring

/-- What some no-ops do to a distance that 16 divides. -/
theorem iterate_idle_add (n : Nat) (h d : UInt64) :
    idle^[n] (h + 16 * d) = idle^[n] h + 16 * (factor ^ n * d) := by
  induction n generalizing h d with
  | zero => simp
  | succ n ih =>
    rw [iterate_succ_apply, idle_add, ih, ← iterate_succ_apply idle n h]
    ring

/-- The factor is 1 modulo 8, and so are its powers. -/
theorem factor_pow (n : Nat) : ∃ w, factor ^ n = 1 + 8 * w := by
  induction n with
  | zero => exact ⟨0, by ring⟩
  | succ n ih =>
    obtain ⟨w, pow⟩ := ih
    have one : factor = 1 + 8 * (factor / 8) := by decide +kernel
    exact ⟨w + factor / 8 + 8 * w * (factor / 8), by
      rw [pow_succ, pow]
      linear_combination (1 + 8 * w) * one⟩

/-! ## Orbits -/

/-- Four no-ops carry each of the first sixteen words by an odd multiple of 16. -/
theorem four_small : ∀ r : Fin 16, let r : UInt64 := r.val.toUInt64
    idle^[4] r = r + 16 * (2 * ((idle^[4] r - r) / 32) + 1) := by
  decide +kernel

/-- A word is its last four bits and a distance that 16 divides. -/
theorem low_add_high (h : UInt64) : h % 16 + 16 * (h / 16) = h := by
  rw [← UInt64.toNat_inj, UInt64.toNat_add, UInt64.toNat_mul, UInt64.toNat_mod, UInt64.toNat_div]
  have bound := h.toNat_lt
  show (h.toNat % 16 + 16 * (h.toNat / 16) % 2 ^ 64) % 2 ^ 64 = h.toNat
  omega

/-- And so do they carry every word. -/
theorem four_far (h : UInt64) : ∃ c, idle^[4] h = h + 16 * (2 * c + 1) := by
  obtain ⟨w, pow⟩ := factor_pow 4
  have small : (h % 16).toNat < 16 := by
    rw [UInt64.toNat_mod]
    exact Nat.mod_lt _ (by decide)
  have low := four_small ⟨(h % 16).toNat, small⟩
  simp only [Nat.toUInt64_eq, UInt64.ofNat_toNat] at low
  have parts := low_add_high h
  generalize (idle^[4] (h % 16) - h % 16) / 32 = c at low
  refine ⟨c + 4 * w * (h / 16), ?_⟩
  calc idle^[4] h = idle^[4] (h % 16 + 16 * (h / 16)) := by rw [parts]
    _ = h % 16 + 16 * (2 * c + 1) + 16 * ((1 + 8 * w) * (h / 16)) := by
      rw [iterate_idle_add, low, pow]
    _ = h + 16 * (2 * (c + 4 * w * (h / 16)) + 1) := by linear_combination parts

/-- Going on for as long again doubles the distance, up to an odd factor. -/
theorem doubling_far (k : Nat) (h : UInt64) :
    ∃ c, idle^[4 * 2 ^ k] h = h + 16 * (2 ^ k * (2 * c + 1)) := by
  induction k generalizing h with
  | zero =>
    obtain ⟨c, four⟩ := four_far h
    exact ⟨c, by rw [pow_zero, Nat.mul_one, four]; ring⟩
  | succ k ih =>
    obtain ⟨c, once⟩ := ih h
    obtain ⟨w, pow⟩ := factor_pow (4 * 2 ^ k)
    have twice : 4 * 2 ^ (k + 1) = 4 * 2 ^ k + 4 * 2 ^ k := by omega
    refine ⟨c + 4 * w * c + 2 * w, ?_⟩
    rw [twice, iterate_add_apply, once, iterate_idle_add, once, pow]
    ring

/-- **The orbits of a no-op** are all `2 ^ 62` words long. -/
theorem minimalPeriod_idle (h : UInt64) : minimalPeriod idle h = 2 ^ 62 := by
  have : Fact (Nat.Prime 2) := ⟨Nat.prime_two⟩
  have half : (16 : UInt64) * 2 ^ 59 ≠ 0 := by decide +kernel
  have full : (16 : UInt64) * 2 ^ 60 = 0 := by decide +kernel
  obtain ⟨c, mid⟩ := doubling_far 59 h
  obtain ⟨d, last⟩ := doubling_far 60 h
  rw [show 4 * 2 ^ 59 = 2 ^ 61 by norm_num] at mid
  rw [show 4 * 2 ^ 60 = 2 ^ (61 + 1) by norm_num] at last
  apply minimalPeriod_eq_prime_pow
  · intro back
    apply half
    linear_combination back.eq - mid - c * full
  · show idle^[2 ^ (61 + 1)] h = h
    linear_combination last + (2 * d + 1) * full

/-- Two paddings carry a hash to the same word only if they differ by whole orbits. -/
theorem extend_noOps_eq_iff (h : UInt64) (i j : Nat) :
    extend h (noOps i) = extend h (noOps j) ↔ i % 2 ^ 62 = j % 2 ^ 62 := by
  have inside : ∀ n, n % 2 ^ 62 < minimalPeriod idle h := fun n => by
    rw [minimalPeriod_idle]
    exact Nat.mod_lt _ (Nat.two_pow_pos 62)
  have same : ∀ n, idle^[n] h = idle^[n % 2 ^ 62] h := fun n => by
    rw [← minimalPeriod_idle h, iterate_mod_minimalPeriod_eq]
  rw [extend_noOps, extend_noOps, same i, same j]
  exact iterate_eq_iterate_iff_of_lt_minimalPeriod (inside i) (inside j)

end Fnv1a

namespace BlockHash

/-- The identities of the same bytes with different padding are the same only if the paddings differ
by a multiple of `2 ^ 62` units. -/
theorem ofBytes_noOps_eq_iff (bytes : Bytes) (i j : Nat) :
    ofBytes (bytes ++ noOps i) = ofBytes (bytes ++ noOps j) ↔ i % 2 ^ 62 = j % 2 ^ 62 := by
  unfold ofBytes Fnv1a.hash
  rw [Fnv1a.extend_append, Fnv1a.extend_append]
  exact Fnv1a.extend_noOps_eq_iff _ i j

/-- **Padding always changes the hash**: the identities of a byte string with two different numbers of
no-ops behind it differ, as long as the numbers fit into 32 bits. -/
theorem ofBytes_padded_ne (bytes : Bytes) {i j : Nat} (hi : i < 2 ^ 32) (hj : j < 2 ^ 32)
    (differ : i ≠ j) : ofBytes (bytes ++ noOps i) ≠ ofBytes (bytes ++ noOps j) := by
  intro same
  have whole := (ofBytes_noOps_eq_iff bytes i j).mp same
  omega

/-- The bytes of a block that works and returns, without padding and with the most of it. -/
theorem ofBytes_padded_ne_most :
    let bytes : Bytes := [0x10, 0x01, 0x53, 0x00]
    0 < 2 ^ 32 ∧ 2 ^ 32 - 1 < 2 ^ 32 ∧ 0 ≠ 2 ^ 32 - 1 ∧
      ofBytes (bytes ++ noOps 0) ≠ ofBytes (bytes ++ noOps (2 ^ 32 - 1)) :=
  ⟨by decide, by decide, by decide, ofBytes_padded_ne _ (by decide) (by decide) (by decide)⟩

end BlockHash

/-- A block of instructions is known by another identity under any other padding that can occur. -/
theorem Block.identity_withPadding_eq_iff {b : Block} (h : b.native = false) (i j : Nat)
    (id id' : BlockId) :
    (b.withPadding i id).identity = (b.withPadding j id').identity ↔ i % 2 ^ 62 = j % 2 ^ 62 := by
  have identity : ∀ units id, (b.withPadding units id).identity =
      BlockHash.ofBytes (b.strippedBytes ++ noOps units) := by
    intro units id
    have native : (b.withPadding units id).native = false := h
    have padding : (b.withPadding units id).padding = units := by simp [withPadding, h]
    have bytes := (padded_withPadding b units id).bytes_eq
    rw [strippedBytes_withPadding h, padding] at bytes
    rw [Block.identity, native, if_neg Bool.noConfusion, bytes]
  rw [identity, identity]
  exact BlockHash.ofBytes_noOps_eq_iff _ i j

end LineClock
