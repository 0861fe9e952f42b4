import LineClock.Bytes
import Mathlib

/-!
# What comes back from bytes

A text comes back from its bytes, and a floating point number from its bits: of the numbers that are
none there is only one, whose bits `Float` fixes. Main statements: `toString?_ofString` and
`ofBits_toBits`.
-/

namespace LineClock.Bytes

/-! ## Texts -/

theorem toList_loop (b : ByteArray) (i : Nat) (front : List UInt8) :
    ByteArray.toList.loop b i front = front.reverse ++ b.data.toList.drop i := by
  have size : b.data.toList.length = b.size := rfl
  induction left : b.size - i generalizing i front with
  | zero =>
    unfold ByteArray.toList.loop
    have none : b.data.toList.drop i = [] := List.drop_eq_nil_of_le (by omega)
    rw [if_neg (by omega), none, List.append_nil]
  | succ n ih =>
    have inside : i < b.data.toList.length := by omega
    have here : b.get! i = b.data.toList[i] := by
      show b.data[i]! = _
      rw [getElem!_pos b.data i inside]
      rfl
    unfold ByteArray.toList.loop
    rw [if_pos (by omega), ih _ _ (by omega), List.drop_eq_getElem_cons inside, here,
      List.reverse_cons, List.append_assoc]
    rfl

theorem toByteArray_ofString (s : String) : (ofString s).toByteArray = s.toByteArray := by
  apply ByteArray.ext
  unfold ofString ByteArray.toList
  rw [toList_loop, List.data_toByteArray]
  simp

/-- **A text comes back from its bytes.** -/
theorem toString?_ofString (s : String) : toString? (ofString s) = some s := by
  unfold toString? String.fromUTF8?
  rw [toByteArray_ofString, dif_pos s.isValidUTF8]
  rfl

/-! ## Floating point numbers -/

section

open Float.Model Float.Model.UnpackedFloat

variable (b : BitVec Format.binary64.numBits)

theorem toBitVec_ofBitVec (v : BitVec 1) : (Sign.ofBitVec v).toBitVec = v := by
  revert v
  decide

/-- A word is put together from its sign, its exponent and its mantissa. -/
theorem packComponents_unpacked : packComponents .binary64 (Sign.ofBitVec (unpackSign b))
    (unpackExponent b) (unpackMantissa b) = b := by
  unfold packComponents
  rw [toBitVec_ofBitVec]
  unfold unpackSign unpackExponent unpackMantissa BitVec.extractLsb
  ext i inside
  grind

/-- **A word comes back** from what it stands for, if it is the one word of its kind. -/
theorem pack_unpack (valid : Format.binary64.Valid b) :
    UnpackedFloat.pack .binary64 (UnpackedFloat.unpack .binary64 b) = b := by
  have whole := packComponents_unpacked b
  have mantissa : (unpackMantissa b).toNat < 2 ^ 52 := (unpackMantissa b).isLt
  have exponent : (unpackExponent b).toNat < 2 ^ 11 := (unpackExponent b).isLt
  have bits : Format.binary64.mantissaBits = 53 := rfl
  unfold UnpackedFloat.unpack
  simp only
  split
  · rename_i full
    split
    · rename_i none
      rw [full, none] at whole
      exact whole
    · rename_i some
      exact (valid.eq_packedNaN full some).symm
  · rename_i notFull
    split
    · rename_i zero
      split
      · rename_i none
        rw [zero, none] at whole
        exact whole
      · rename_i some
        -- The mantissa is too small to have the bit that is not stored.
        have small : ¬ (unpackMantissa b).toNat.log2 + 1 = Format.binary64.mantissaBits := by
          have least : (unpackMantissa b).toNat ≠ 0 := fun h => some (BitVec.toNat_inj.mp h)
          have log : (unpackMantissa b).toNat.log2 < 52 := (Nat.log2_lt least).mpr mantissa
          omega
        have stored : (((unpackExponent b).toNat : Int) - (Format.binary64.exponentBias +
            Format.binary64.mantissaBitsWithoutImplicit) + 1 + Format.binary64.exponentBias +
              Format.binary64.mantissaBitsWithoutImplicit).toNat = 1 := by
          rw [zero]
          decide
        unfold UnpackedFloat.pack
        simp only
        rw [stored, if_neg (by decide), if_neg small, BitVec.ofNat_toNat, BitVec.setWidth_eq]
        rw [zero] at whole
        exact whole
    · rename_i notZero
      -- The bit that is not stored comes before the mantissa.
      have long : (1#1 ++ unpackMantissa b).toNat = 2 ^ 52 + (unpackMantissa b).toNat := by
        rw [BitVec.toNat_append, ← Nat.shiftLeft_add_eq_or_of_lt mantissa]
        rfl
      have log : (1#1 ++ unpackMantissa b).toNat.log2 + 1 = Format.binary64.mantissaBits := by
        have log : (1#1 ++ unpackMantissa b).toNat.log2 = 52 := by
          rw [Nat.log2_eq_iff (by omega)]
          omega
        omega
      have stored : (((unpackExponent b).toNat : Int) - (Format.binary64.exponentBias +
          Format.binary64.mantissaBitsWithoutImplicit) + Format.binary64.exponentBias +
            Format.binary64.mantissaBitsWithoutImplicit).toNat = (unpackExponent b).toNat := by
        omega
      have bounded : ¬ 2 ^ 11 ≤ (unpackExponent b).toNat + 1 := by
        have other : (unpackExponent b).toNat ≠ 2 ^ 11 - 1 := fun h =>
          notFull (BitVec.toNat_inj.mp h)
        omega
      have back : BitVec.ofNat 52 (1#1 ++ unpackMantissa b).toNat = unpackMantissa b := by
        rw [← BitVec.toNat_inj, BitVec.toNat_ofNat, long]
        omega
      unfold UnpackedFloat.pack
      simp only
      rw [stored, if_neg bounded, if_pos log, BitVec.ofNat_toNat, BitVec.setWidth_eq, back]
      exact whole

end

/-- **A floating point number comes back from its bits.** -/
theorem ofBits_toBits (x : Float) : Float.ofBits x.toBits = x := by
  obtain ⟨⟨bits, valid⟩⟩ := x
  have back := pack_unpack bits.toBitVec valid
  unfold Float.ofBits Float.toBits Float.Model.ofBits Float.Model.pack
  simp only [back]

end LineClock.Bytes
