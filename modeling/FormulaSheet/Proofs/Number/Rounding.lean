import Mathlib
import FormulaSheet.Number.Binary64

/-!
# Rounding to the grid of the doubles

The double nearest to a quotient is found in natural numbers. This module says in rationals what is
found: the logarithms bracket the quotient, rounding gives the nearest integer, and what is too
large for the finite doubles becomes infinite. The bound for this is not the greatest finite double
but what lies half a step behind it, which would be the next one.

* `floorLog2_spec`, `floorLog10_spec`: the powers that bracket a quotient;
* `roundHalfEven_lt_iff`: what is rounded to less than an integer;
* `nearestBits_lt_iff`: which quotients have a finite double that is nearest.
-/

namespace FormulaSheet.Binary64

/-! ## Powers with integral exponents -/

/-- A power is the quotient of two powers with natural exponents, one of which is one. -/
theorem zpow_eq_div {b : ℚ} (hb : b ≠ 0) (q : ℤ) : b ^ q = b ^ q.toNat / b ^ (-q).toNat := by
  have hq : q = (q.toNat : ℤ) - ((-q).toNat : ℤ) := by omega
  conv_lhs => rw [hq, zpow_sub₀ hb, zpow_natCast, zpow_natCast]

/-- What is compared in natural numbers is whether a power is at most the quotient. -/
theorem zpow_le_div_iff {b num den : ℕ} (hb : 0 < b) (hd : 0 < den) (q : ℤ) :
    ((b : ℚ) ^ q ≤ num / den) ↔ den * b ^ q.toNat ≤ num * b ^ (-q).toNat := by
  have hb' : (b : ℚ) ≠ 0 := by positivity
  rw [zpow_eq_div hb', div_le_div_iff₀ (by positivity) (by positivity), mul_comm (den : ℕ)]
  exact_mod_cast Iff.rfl

/-! ## Logarithms -/

/-- **The binary logarithm** brackets its quotient. -/
theorem floorLog2_spec {num den : ℕ} (hn : 0 < num) (hd : 0 < den) :
    (2 : ℚ) ^ floorLog2 num den ≤ num / den ∧ (num / den : ℚ) < 2 ^ (floorLog2 num den + 1) := by
  have hd' : (0 : ℚ) < den := by exact_mod_cast hd
  have hn₁ : (2 : ℚ) ^ (num.log2 : ℤ) ≤ num := by
    rw [zpow_natCast]
    exact_mod_cast Nat.log2_self_le hn.ne'
  have hn₂ : (num : ℚ) < 2 ^ ((num.log2 : ℤ) + 1) := by
    rw [← Nat.cast_succ, zpow_natCast]
    exact_mod_cast Nat.lt_log2_self
  have hd₁ : (2 : ℚ) ^ (den.log2 : ℤ) ≤ den := by
    rw [zpow_natCast]
    exact_mod_cast Nat.log2_self_le hd.ne'
  have hd₂ : (den : ℚ) < 2 ^ ((den.log2 : ℤ) + 1) := by
    rw [← Nat.cast_succ, zpow_natCast]
    exact_mod_cast Nat.lt_log2_self
  have hlow : (2 : ℚ) ^ ((num.log2 : ℤ) - den.log2 - 1) ≤ num / den := by
    rw [le_div_iff₀ hd']
    calc (2 : ℚ) ^ ((num.log2 : ℤ) - den.log2 - 1) * den
        ≤ 2 ^ ((num.log2 : ℤ) - den.log2 - 1) * 2 ^ ((den.log2 : ℤ) + 1) := by gcongr
      _ = 2 ^ (num.log2 : ℤ) := by
        rw [← zpow_add₀ two_ne_zero]
        congr 1
        ring
      _ ≤ num := hn₁
  have hhigh : (num / den : ℚ) < 2 ^ ((num.log2 : ℤ) - den.log2 + 1) := by
    rw [div_lt_iff₀ hd']
    calc (num : ℚ) < 2 ^ ((num.log2 : ℤ) + 1) := hn₂
      _ = 2 ^ ((num.log2 : ℤ) - den.log2 + 1) * 2 ^ (den.log2 : ℤ) := by
        rw [← zpow_add₀ two_ne_zero]
        congr 1
        ring
      _ ≤ 2 ^ ((num.log2 : ℤ) - den.log2 + 1) * den := by gcongr
  have htest (q : ℤ) : ((2 : ℚ) ^ q ≤ num / den) ↔ den * 2 ^ q.toNat ≤ num * 2 ^ (-q).toNat :=
    zpow_le_div_iff two_pos hd q
  simp only [floorLog2, Nat.pow_eq]
  split
  · rename_i h
    exact ⟨(htest _).2 h, hhigh⟩
  · rename_i h
    rw [sub_add_cancel]
    exact ⟨hlow, lt_of_not_ge fun hge => h ((htest _).1 hge)⟩

/-- **The decimal logarithm** brackets its quotient. -/
theorem floorLog10_spec {num den : ℕ} (hn : 0 < num) (hd : 0 < den) :
    (10 : ℚ) ^ floorLog10 num den ≤ num / den ∧
      (num / den : ℚ) < 10 ^ (floorLog10 num den + 1) := by
  have hd' : (0 : ℚ) < den := by exact_mod_cast hd
  have hn' : (0 : ℚ) < num := by exact_mod_cast hn
  rw [floorLog10]
  split
  · rename_i hle
    have hq : 0 < num / den := Nat.div_pos hle hd
    have h₁ := pow_log10_le hq
    have h₂ := lt_pow_log10 (num / den)
    rw [Nat.pow_eq, Nat.le_div_iff_mul_le hd] at h₁
    rw [Nat.pow_eq, Nat.div_lt_iff_lt_mul hd] at h₂
    rw [le_div_iff₀ hd', div_lt_iff₀ hd', ← Nat.cast_succ, zpow_natCast, zpow_natCast]
    exact ⟨by exact_mod_cast h₁, by exact_mod_cast h₂⟩
  · -- below one the reciprocal is looked at, without the part that would reach the next power
    rename_i hlt
    have hq : 0 < (den - 1) / num := Nat.div_pos (by omega) hn
    have h₁ := pow_log10_le hq
    have h₂ := lt_pow_log10 ((den - 1) / num)
    rw [Nat.pow_eq, Nat.le_div_iff_mul_le hn] at h₁
    rw [Nat.pow_eq, Nat.div_lt_iff_lt_mul hn] at h₂
    generalize log10 ((den - 1) / num) = l at h₁ h₂
    have hlow : den ≤ num * 10 ^ (l + 1) := by
      rw [mul_comm]
      omega
    have hhigh : num * 10 ^ l < den := by
      rw [mul_comm]
      omega
    constructor
    · rw [zpow_neg, ← Nat.cast_succ, zpow_natCast, inv_le_iff_one_le_mul₀ (by positivity),
        div_mul_eq_mul_div, one_le_div hd']
      exact_mod_cast hlow
    · rw [neg_add_rev, neg_add_cancel_comm, zpow_neg, zpow_natCast, lt_inv_comm₀ (by positivity)
        (by positivity), inv_div, lt_div_iff₀ hn', mul_comm]
      exact_mod_cast hhigh

/-! ## Rounding -/

/-- **What is rounded to less** than an integer lies more than a half below it, or exactly a half
below an odd one. -/
theorem roundHalfEven_lt_iff {num den n : ℕ} (hd : 0 < den) :
    roundHalfEven num den < n ↔ 2 * num + den < 2 * n * den ∨
      2 * num + den = 2 * n * den ∧ n % 2 = 1 := by
  have hnum := Nat.div_add_mod num den
  have hr := Nat.mod_lt num hd
  rw [mul_comm] at hnum
  simp only [roundHalfEven]
  generalize num / den = q at hnum
  generalize num % den = r at hnum hr
  rcases Nat.lt_trichotomy n (q + 1) with hlt | rfl | hgt
  · have hle : n * den ≤ q * den := Nat.mul_le_mul_right den (by omega)
    rw [mul_assoc]
    split <;> [skip; split] <;> omega
  · rw [mul_assoc, add_one_mul]
    split <;> [skip; split] <;> omega
  · have hle : (q + 2) * den ≤ n * den := Nat.mul_le_mul_right den (by omega)
    rw [add_mul] at hle
    rw [mul_assoc]
    split <;> [skip; split] <;> omega

/-- The same of quotients. -/
theorem roundHalfEven_lt_iff_div {num den n : ℕ} (hd : 0 < den) :
    roundHalfEven num den < n ↔ (num / den : ℚ) < n - 1 / 2 ∨
      (num / den : ℚ) = n - 1 / 2 ∧ n % 2 = 1 := by
  have hd' : (0 : ℚ) < den := by exact_mod_cast hd
  have hlt : ((num / den : ℚ) < n - 1 / 2) ↔ 2 * num + den < 2 * n * den := by
    rw [div_lt_iff₀ hd', ← Nat.cast_lt (α := ℚ)]
    push_cast
    constructor <;> intro h <;> linarith
  have heq : ((num / den : ℚ) = n - 1 / 2) ↔ 2 * num + den = 2 * n * den := by
    rw [div_eq_iff hd'.ne', ← Nat.cast_inj (R := ℚ)]
    push_cast
    constructor <;> intro h <;> linarith
  rw [roundHalfEven_lt_iff hd, hlt, heq]

/-! ## The nearest double -/

/-- The exponent of the grid on which a quotient is rounded. -/
def gridExponent (num den : ℕ) : ℤ :=
  max (floorLog2 num den - 52) (-1074)

/-- The point of the grid to which a quotient is rounded, in steps of the grid. -/
def gridPoint (num den : ℕ) : ℕ :=
  roundHalfEven (num * 2 ^ (-gridExponent num den).toNat) (den * 2 ^ (gridExponent num den).toNat)

theorem nearestBits_eq {num : ℕ} (hn : num ≠ 0) (den : ℕ) : nearestBits num den =
    min ((gridExponent num den + 1074).toNat * 2 ^ 52 + gridPoint num den) infinityBits := by
  rw [nearestBits, if_neg hn]
  rfl

/-- A quotient is rounded after it was divided by the step of the grid. -/
theorem gridPoint_lt_iff {num den n : ℕ} (hd : 0 < den) :
    gridPoint num den < n ↔
      (num / den / 2 ^ gridExponent num den : ℚ) < n - 1 / 2 ∨
        (num / den / 2 ^ gridExponent num den : ℚ) = n - 1 / 2 ∧ n % 2 = 1 := by
  rw [gridPoint, roundHalfEven_lt_iff_div (by positivity)]
  have hscale : ((num * 2 ^ (-gridExponent num den).toNat : ℕ) : ℚ) /
      ((den * 2 ^ (gridExponent num den).toNat : ℕ) : ℚ) =
        num / den / 2 ^ gridExponent num den := by
    rw [zpow_eq_div two_ne_zero]
    push_cast
    rw [div_div_div_eq]
  rw [hscale]

/-- No more than so many steps of the grid are left of a quotient. -/
theorem gridPoint_le {num den : ℕ} (hn : 0 < num) (hd : 0 < den) : gridPoint num den ≤ 2 ^ 53 := by
  have hv := (floorLog2_spec hn hd).2
  have hq : floorLog2 num den + 1 ≤ gridExponent num den + 53 := by
    rw [gridExponent]
    omega
  have hsmall : (num / den / 2 ^ gridExponent num den : ℚ) < 2 ^ 53 := by
    rw [div_lt_iff₀ (by positivity), ← zpow_natCast, ← zpow_add₀ two_ne_zero]
    refine hv.trans_le (zpow_le_zpow_right₀ one_le_two ?_)
    push_cast
    omega
  refine Nat.lt_succ_iff.1 ((gridPoint_lt_iff hd).2 (.inl (hsmall.trans ?_)))
  push_cast
  norm_num

/-- Half a step behind the greatest finite double, which is `(2 ^ 53 - 1) * 2 ^ 971`. -/
def overflow : ℚ :=
  (2 ^ 54 - 1) * 2 ^ 970

theorem overflow_pos : 0 < overflow := by
  rw [overflow]
  positivity

theorem overflow_le : overflow ≤ 2 ^ 54 * 2 ^ 970 := by
  rw [overflow]
  gcongr
  norm_num

section Binade

variable {num den : ℕ} (hd : 0 < den)

include hd

/-- Below the last binade of the finite doubles a quotient lies below the bound. -/
theorem lt_overflow_of_gridExponent_lt (hn : 0 < num) (h : gridExponent num den < 971) :
    (num / den : ℚ) < overflow := by
  have hq : gridExponent num den = max (floorLog2 num den - 52) (-1074) := rfl
  refine (floorLog2_spec hn hd).2.trans_le ?_
  calc (2 : ℚ) ^ (floorLog2 num den + 1) ≤ 2 ^ (1023 : ℤ) :=
        zpow_le_zpow_right₀ one_le_two (by omega)
    _ = 2 ^ 53 * 2 ^ 970 := by
        rw [← pow_add]
        rfl
    _ ≤ overflow := by
        rw [overflow]
        gcongr
        norm_num

/-- In the last binade the bound is half a step below the last point of the grid. -/
theorem gridPoint_lt_iff_overflow (h : gridExponent num den = 971) :
    gridPoint num den < 2 ^ 53 ↔ (num / den : ℚ) < overflow := by
  have hiff : gridPoint num den < 2 ^ 53 ↔
      (num / den / 2 ^ gridExponent num den : ℚ) < (2 ^ 53 : ℕ) - 1 / 2 ∨
        (num / den / 2 ^ gridExponent num den : ℚ) = (2 ^ 53 : ℕ) - 1 / 2 ∧ 2 ^ 53 % 2 = 1 :=
    gridPoint_lt_iff hd
  have hpow : (2 : ℚ) ^ (971 : ℤ) = 2 * 2 ^ 970 := by
    rw [← pow_succ']
    rfl
  rw [hiff, or_iff_left (fun h => absurd h.2 (by decide)), h, div_lt_iff₀ (by positivity), hpow,
    overflow, ← mul_assoc]
  norm_num

/-- Behind the last binade a quotient does not lie below the bound. -/
theorem overflow_le_of_lt_gridExponent (hn : 0 < num) (h : 971 < gridExponent num den) :
    overflow ≤ (num / den : ℚ) := by
  have hq : gridExponent num den = max (floorLog2 num den - 52) (-1074) := rfl
  refine le_trans ?_ (floorLog2_spec hn hd).1
  calc overflow ≤ 2 ^ 54 * 2 ^ 970 := overflow_le
    _ = (2 : ℚ) ^ (1024 : ℤ) := by
        rw [← pow_add]
        rfl
    _ ≤ 2 ^ floorLog2 num den := zpow_le_zpow_right₀ one_le_two (by omega)

/-- A quotient that is not too small for it is rounded to a full significand. -/
theorem le_gridPoint (hn : 0 < num) (h : -1074 < gridExponent num den) :
    2 ^ 52 ≤ gridPoint num den := by
  have hq : gridExponent num den = max (floorLog2 num den - 52) (-1074) := rfl
  have hq' : gridExponent num den = floorLog2 num den - 52 := by omega
  have hge : ((2 ^ 52 : ℕ) : ℚ) ≤ num / den / 2 ^ gridExponent num den := by
    rw [le_div_iff₀ (by positivity), hq', zpow_sub₀ two_ne_zero]
    refine le_trans (le_of_eq ?_) (floorLog2_spec hn hd).1
    push_cast
    field_simp
  rw [← not_lt, gridPoint_lt_iff hd, not_or, not_and_or]
  push_cast at hge ⊢
  exact ⟨by linarith, .inl (by linarith)⟩

/-- **A quotient has a finite double** that is nearest exactly if it lies less than half a step
behind the greatest one. -/
theorem nearestBits_lt_iff : nearestBits num den < infinityBits ↔ (num / den : ℚ) < overflow := by
  rcases Nat.eq_zero_or_pos num with rfl | hn
  · have h₁ : nearestBits 0 den < infinityBits := by
      rw [nearestBits, if_pos rfl]
      decide
    have h₂ : ((0 : ℕ) / den : ℚ) < overflow := by
      rw [Nat.cast_zero, zero_div]
      exact overflow_pos
    exact ⟨fun _ => h₂, fun _ => h₁⟩
  have hpoint := gridPoint_le hn hd
  have hinf : infinityBits = 2047 * 2 ^ 52 := rfl
  rw [nearestBits_eq hn.ne', min_lt_iff, or_iff_left (lt_irrefl _), hinf]
  rcases lt_trichotomy (gridExponent num den) 971 with hlt | heq | hgt
  · have hbits : (gridExponent num den + 1074).toNat ≤ 2044 := by omega
    exact ⟨fun _ => lt_overflow_of_gridExponent_lt hd hn hlt, fun _ => by omega⟩
  · have hbits : (gridExponent num den + 1074).toNat = 2045 := by omega
    rw [hbits, ← gridPoint_lt_iff_overflow hd heq]
    omega
  · have hlarge := overflow_le_of_lt_gridExponent hd hn hgt
    have hmany := le_gridPoint hd hn (by omega)
    have hbits : 2046 ≤ (gridExponent num den + 1074).toNat := by omega
    exact ⟨fun h => absurd h (by omega), fun h => absurd h (not_lt.2 hlarge)⟩

end Binade

end FormulaSheet.Binary64
