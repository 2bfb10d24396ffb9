import FormulaSheet.Proofs.Number.Rounding

/-!
# The bits of a double

A double is given by sixty-four bits: a sign, an exponent field of eleven and a fraction of
fifty-two. What a double is, is settled by these fields; a field of ones is that of an infinity or
of no number. This module reads the fields off the number of the bits, and says of the double that
is found as the nearest to a quotient whether it is finite.

* `pack_unpack`: bits of a finite double are found again;
* `isFinite_iff`, `isFinite_ofBits`: a double is finite by its exponent field;
* `isFinite_nearest`: a quotient whose nearest double is finite.
-/

namespace FormulaSheet.Binary64

open Float.Model (Format UnpackedFloat)
open Float.Model.UnpackedFloat

/-! ## Fields -/

section Fields

variable (b : BitVec Format.binary64.numBits)

theorem toNat_unpackSign : (unpackSign b).toNat = b.toNat / 2 ^ 63 := by
  have hlt : b.toNat / 2 ^ 63 < 2 := Nat.div_lt_of_lt_mul b.isLt
  rw [unpackSign, BitVec.toNat_cast, BitVec.extractLsb_toNat, Nat.shiftRight_eq_div_pow]
  exact Nat.mod_eq_of_lt hlt

theorem toNat_unpackExponent : (unpackExponent b).toNat = b.toNat / 2 ^ 52 % 2 ^ 11 := by
  rw [unpackExponent, BitVec.toNat_cast, BitVec.extractLsb_toNat, Nat.shiftRight_eq_div_pow]
  rfl

theorem toNat_unpackMantissa : (unpackMantissa b).toNat = b.toNat % 2 ^ 52 := by
  rw [unpackMantissa, BitVec.toNat_cast, BitVec.extractLsb_toNat, Nat.shiftRight_eq_div_pow,
    Nat.pow_zero, Nat.div_one]
  rfl

theorem unpackExponent_eq_ones_iff :
    unpackExponent b = -1#_ ↔ b.toNat / 2 ^ 52 % 2 ^ 11 = 2047 := by
  rw [← BitVec.toNat_inj, toNat_unpackExponent]
  rfl

theorem toBitVec_ofBitVec (v : BitVec 1) : (Sign.ofBitVec v).toBitVec = v := by
  revert v
  decide

/-- The fields make up the bits. -/
theorem packComponents_unpack : packComponents Format.binary64 (.ofBitVec (unpackSign b))
    (unpackExponent b) (unpackMantissa b) = b := by
  refine BitVec.eq_of_toNat_eq ?_
  rw [packComponents, toBitVec_ofBitVec, BitVec.toNat_append, BitVec.toNat_append,
    ← Nat.shiftLeft_add_eq_or_of_lt (BitVec.isLt _),
    ← Nat.shiftLeft_add_eq_or_of_lt (BitVec.isLt _),
    Nat.shiftLeft_eq, Nat.shiftLeft_eq, toNat_unpackSign, toNat_unpackExponent,
    toNat_unpackMantissa]
  change (b.toNat / 2 ^ 63 * 2 ^ 11 + b.toNat / 2 ^ 52 % 2 ^ 11) * 2 ^ 52 + b.toNat % 2 ^ 52 = _
  omega

end Fields

/-- The hidden bit stands in front of the fraction. -/
theorem toNat_hidden_append (m : BitVec 52) : (1#1 ++ m).toNat = 2 ^ 52 + m.toNat := by
  rw [BitVec.toNat_append, ← Nat.shiftLeft_add_eq_or_of_lt m.isLt]
  rfl

/-- **The bits of a finite double** are found again when they are taken apart. -/
theorem pack_unpack {b : BitVec Format.binary64.numBits} (h : unpackExponent b ≠ -1#_) :
    UnpackedFloat.pack Format.binary64 (UnpackedFloat.unpack Format.binary64 b) = b := by
  conv_rhs => rw [← packComponents_unpack b]
  have hfield : (unpackExponent b).toNat < 2047 := by
    have hlt : (unpackExponent b).toNat < 2048 := (unpackExponent b).isLt
    have hne : (unpackExponent b).toNat ≠ 2047 := fun he => h (BitVec.eq_of_toNat_eq he)
    omega
  have hm : (unpackMantissa b).toNat < 2 ^ 52 := (unpackMantissa b).isLt
  simp only [UnpackedFloat.unpack, if_neg h]
  split
  · rename_i hzero
    split
    · rename_i hm
      simp only [UnpackedFloat.pack, packedZero, hzero, hm]
      rfl
    · -- without the hidden bit
      rename_i hm
      have hlog : (unpackMantissa b).toNat.log2 < 52 := by
        refine (Nat.log2_lt ?_).2 (unpackMantissa b).isLt
        simpa [← BitVec.toNat_inj] using hm
      simp only [UnpackedFloat.pack, hzero]
      rw [if_neg (by decide), if_neg (by simp only [Format.mantissaBits]; omega),
        BitVec.ofNat_toNat, BitVec.setWidth_eq]
  · have hmant : (1#1 ++ unpackMantissa b).toNat = 2 ^ 52 + (unpackMantissa b).toNat :=
      toNat_hidden_append _
    have hlog : (1#1 ++ unpackMantissa b).toNat.log2 = 52 := by
      rw [hmant, Nat.log2_eq_iff (by omega)]
      omega
    have hbits : 52 + 1 = Format.binary64.mantissaBits := rfl
    have hbias : Format.binary64.exponentBias = 1023 := rfl
    have hexp : (((unpackExponent b).toNat : ℤ) - ((1023 : ℕ) + (52 : ℕ)) + (1023 : ℕ) +
        (52 : ℕ)).toNat = (unpackExponent b).toNat := by
      omega
    simp only [UnpackedFloat.pack, hlog, hbias, hexp]
    rw [if_neg (by omega), if_pos hbits, BitVec.ofNat_toNat, BitVec.setWidth_eq]
    congr 1
    refine BitVec.eq_of_toNat_eq ?_
    rw [BitVec.toNat_ofNat, hmant, Nat.add_mod_left, Nat.mod_eq_of_lt hm]

/-- Bits with an exponent field of ones keep it when they are taken apart and put together. -/
theorem unpackExponent_pack_unpack {b : BitVec Format.binary64.numBits}
    (h : unpackExponent b = -1#_) : unpackExponent (UnpackedFloat.pack Format.binary64
      (UnpackedFloat.unpack Format.binary64 b)) = -1#_ := by
  simp only [UnpackedFloat.unpack, if_pos h]
  split
  · simp [UnpackedFloat.pack, packedInfinity]
  · simp [UnpackedFloat.pack, packedNaN]

/-! ## Finite doubles -/

theorem isFinite_unpack (b : BitVec Format.binary64.numBits) :
    (UnpackedFloat.unpack Format.binary64 b).isFinite = true ↔ unpackExponent b ≠ -1#_ := by
  unfold UnpackedFloat.unpack
  dsimp only
  split_ifs <;> simp_all [UnpackedFloat.isFinite]

/-- **A double is finite** unless its exponent field consists of ones. -/
theorem isFinite_iff (x : Float) :
    x.isFinite = true ↔ x.toBits.toNat / 2 ^ 52 % 2 ^ 11 ≠ 2047 :=
  (isFinite_unpack x.toBits.toBitVec).trans (unpackExponent_eq_ones_iff _).not

theorem isNaN_eq_false {x : Float} (h : x.isFinite = true) : x.isNaN = false := by
  have hm : x.toModel.unpack.isFinite = true := h
  change x.toModel.unpack.isNaN = false
  cases hu : x.toModel.unpack <;> rw [hu] at hm <;> first | rfl | cases hm

theorem toBits_ofBits {b : UInt64} (h : b.toNat / 2 ^ 52 % 2 ^ 11 ≠ 2047) :
    (Float.ofBits b).toBits = b := by
  have hne := mt (unpackExponent_eq_ones_iff b.toBitVec).1 h
  exact UInt64.toBitVec_inj.1 (pack_unpack hne)

/-- **Bits** are those of a finite double unless the exponent field consists of ones. -/
theorem isFinite_ofBits (b : UInt64) :
    (Float.ofBits b).isFinite = true ↔ b.toNat / 2 ^ 52 % 2 ^ 11 ≠ 2047 := by
  by_cases h : b.toNat / 2 ^ 52 % 2 ^ 11 = 2047
  · have hones := unpackExponent_pack_unpack ((unpackExponent_eq_ones_iff b.toBitVec).2 h)
    have hfield := (unpackExponent_eq_ones_iff _).1 hones
    rw [isFinite_iff]
    exact ⟨fun hn => absurd hfield hn, fun hn => absurd h hn⟩
  · rw [isFinite_iff, toBits_ofBits h]

/-- **The double nearest to a quotient** is finite exactly if the quotient lies less than half a
step behind the greatest finite double. -/
theorem isFinite_nearest (negative : Bool) {num den : ℕ} (hd : 0 < den) :
    (nearest negative num den).isFinite = true ↔ (num / den : ℚ) < overflow := by
  have hle : nearestBits num den ≤ infinityBits := by
    rw [nearestBits]
    split
    · exact Nat.zero_le _
    · exact Nat.min_le_right _ _
  have hinf : infinityBits = 2047 * 2 ^ 52 := rfl
  have hsign : nearestBits num den + (if negative then Nat.pow 2 63 else 0) < 2 ^ 64 ∧
      (nearestBits num den + if negative then Nat.pow 2 63 else 0) / 2 ^ 52 % 2 ^ 11 =
        nearestBits num den / 2 ^ 52 := by
    simp only [Nat.pow_eq]
    cases negative <;> simp only [Bool.false_eq_true, if_false, if_true] <;> omega
  rw [nearest, isFinite_ofBits, UInt64.toNat_ofNat', Nat.mod_eq_of_lt hsign.1, hsign.2,
    ← nearestBits_lt_iff hd]
  omega

/-- What stands for infinity is not finite. -/
theorem not_isFinite_nearest (negative : Bool) {n : ℕ} (h : 1024 ≤ n) :
    ¬ (nearest negative (Nat.pow 2 n) 1).isFinite = true := by
  rw [isFinite_nearest negative one_pos, not_lt, Nat.cast_one, div_one, Nat.pow_eq, Nat.cast_pow,
    Nat.cast_two]
  calc overflow ≤ 2 ^ 54 * 2 ^ 970 := overflow_le
    _ = 2 ^ (54 + 970) := (pow_add 2 54 970).symm
    _ ≤ 2 ^ n := pow_le_pow_right₀ one_le_two h

end FormulaSheet.Binary64
