import FormulaSheet.Number.Shortest
import FormulaSheet.Proofs.Number.Decimal

/-!
# The shortest decimals read back

A double of positive size is the nearest one to every number in its basin, which reaches half way to
its neighbours. The decimal that is found for a double lies in the basin: either a decimal with
fewer digits was seen to, or the nearest decimal with seventeen digits is taken, and these lie dense
enough. So the double that is nearest to the decimal is the one that it was found for.

* `magnitude_spec`: what the size of a finite double can be, and its bits;
* `nearestBits_of_contains`: what lies in the basin of a double has it as the nearest one;
* `shortest_spec`: the decimal that is found lies in the basin;
* `Decimal.toFloat_of_contains`: a decimal in the basin of a double is read as the double.
-/

namespace FormulaSheet.Binary64

/-! ## Sizes -/

namespace Magnitude

/-- The size is that of a finite double. -/
structure IsSize (m : Magnitude) : Prop where
  significand_lt : m.significand < 2 ^ 53
  exponent_ge : -1074 ≤ m.exponent
  exponent_le : m.exponent ≤ 971
  hidden : -1074 < m.exponent → 2 ^ 52 ≤ m.significand

/-- The bits of the size. -/
def bits (m : Magnitude) : ℕ :=
  (m.exponent + 1074).toNat * 2 ^ 52 + m.significand

/-- What the size denotes. -/
def value (m : Magnitude) : ℚ :=
  m.significand * 2 ^ m.exponent

theorem denominator_pos (m : Magnitude) : 0 < m.denominator :=
  Nat.pow_pos two_pos

theorem numerator_div_denominator (m : Magnitude) :
    (m.numerator / m.denominator : ℚ) = m.value := by
  rw [numerator, denominator, value, zpow_eq_div two_ne_zero, Nat.pow_eq, Nat.pow_eq]
  push_cast
  rw [mul_div_assoc]

theorem IsSize.bits_lt {m : Magnitude} (h : m.IsSize) : m.bits < infinityBits := by
  have hm := h.significand_lt
  have he := h.exponent_le
  have hinf : infinityBits = 2047 * 2 ^ 52 := rfl
  rw [bits, hinf]
  omega

end Magnitude

/-- **The size of a finite double** and its bits. -/
theorem magnitude_spec {x : Float} (h : x.isFinite = true) :
    (magnitude x).IsSize ∧ unsignedBits x = (magnitude x).bits := by
  rw [isFinite_iff] at h
  have hlt : x.toBits.toNat < 2 ^ 64 := x.toBits.toNat_lt
  have hbits : unsignedBits x = x.toBits.toNat % 2 ^ 63 := rfl
  have hfield : unsignedBits x / 2 ^ 52 < 2047 := by
    rw [hbits]
    omega
  have hfraction : unsignedBits x % 2 ^ 52 < 2 ^ 52 := Nat.mod_lt _ (by norm_num)
  have hdiv := Nat.div_add_mod (unsignedBits x) (2 ^ 52)
  simp only [magnitude, Nat.pow_eq]
  generalize unsignedBits x / 2 ^ 52 = field at *
  generalize unsignedBits x % 2 ^ 52 = fraction at *
  split
  · refine ⟨⟨?_, ?_, ?_, ?_⟩, ?_⟩ <;> simp only [Magnitude.bits] <;> omega
  · refine ⟨⟨?_, ?_, ?_, ?_⟩, ?_⟩ <;> simp only [Magnitude.bits] <;> omega

/-! ## Basins -/

/-- The number, in units of the basin, lies in it. -/
def Basin.Contains (b : Basin) (u : ℚ) : Prop :=
  if b.closed then (b.low : ℚ) ≤ u ∧ u ≤ b.high else (b.low : ℚ) < u ∧ u < b.high

theorem Basin.holds_iff (b : Basin) (num : ℕ) {den : ℕ} (hd : 0 < den) :
    b.holds num den = true ↔ b.Contains (num / den) := by
  have hd' : (0 : ℚ) < den := by exact_mod_cast hd
  rw [holds, Contains]
  split
  · rw [Bool.and_eq_true, decide_eq_true_eq, decide_eq_true_eq, le_div_iff₀ hd', div_le_iff₀ hd']
    norm_cast
  · rw [Bool.and_eq_true, decide_eq_true_eq, decide_eq_true_eq, lt_div_iff₀ hd', div_lt_iff₀ hd']
    norm_cast

theorem Basin.contains_of_lt {b : Basin} {u : ℚ} (hl : (b.low : ℚ) < u) (hh : u < b.high) :
    b.Contains u := by
  rw [Contains]
  split
  · exact ⟨hl.le, hh.le⟩
  · exact ⟨hl, hh⟩

namespace Magnitude

variable {m : Magnitude}

/-- The lower end of the basin is as far away as the upper one, but half as far in front of the
first double of a binade. -/
theorem basin_low (hs : 0 < m.significand) :
    (m.significand = 2 ^ 52 ∧ -1074 < m.exponent) ∧ (m.basin.low : ℚ) = 4 * m.significand - 1 ∨
      ¬ (m.significand = 2 ^ 52 ∧ -1074 < m.exponent) ∧
        (m.basin.low : ℚ) = 4 * m.significand - 2 := by
  have hcast (k : ℕ) (hk : k ≤ 4 * m.significand) :
      ((4 * m.significand - k : ℕ) : ℚ) = 4 * m.significand - k := by
    push_cast [hk]
    ring
  rw [basin]
  simp only [Nat.pow_eq, Bool.and_eq_true, decide_eq_true_eq]
  split
  · rename_i h
    exact .inl ⟨h, hcast 1 (by omega)⟩
  · rename_i h
    exact .inr ⟨h, hcast 2 (by omega)⟩

theorem basin_high (m : Magnitude) : (m.basin.high : ℚ) = 4 * m.significand + 2 := by
  rw [basin]
  push_cast
  rfl

/-- How far the basin reaches. Its ends belong to it only if the significand is even. -/
theorem bounds_of_contains (hs : 0 < m.significand) {u : ℚ} (h : m.basin.Contains u) :
    (u < 4 * m.significand + 2 ∨ u = 4 * m.significand + 2 ∧ m.significand % 2 = 0) ∧
      (4 * m.significand - 2 < u ∨ u = 4 * m.significand - 2 ∧ m.significand % 2 = 0) ∧
      (m.significand = 2 ^ 52 → -1074 < m.exponent → 4 * m.significand - 1 ≤ u) := by
  have hlow : (4 * m.significand - 2 : ℚ) ≤ m.basin.low ∧ (m.significand = 2 ^ 52 →
      -1074 < m.exponent → (4 * m.significand - 1 : ℚ) = m.basin.low) := by
    rcases basin_low hs with ⟨-, hl⟩ | ⟨hn, hl⟩
    · exact ⟨by linarith, fun _ _ => hl.symm⟩
    · exact ⟨hl.ge, fun hm he => absurd ⟨hm, he⟩ hn⟩
  have hclosed : m.basin.closed = true ↔ m.significand % 2 = 0 := beq_iff_eq
  rw [Basin.Contains, basin_high] at h
  split at h
  · rename_i hc
    rw [hclosed] at hc
    refine ⟨?_, ?_, fun hm he => (hlow.2 hm he).le.trans h.1⟩
    · exact h.2.lt_or_eq.imp id fun he => ⟨he, hc⟩
    · exact (hlow.1.trans h.1).lt_or_eq.imp id fun he => ⟨he.symm, hc⟩
  · exact ⟨.inl h.2, .inl (hlow.1.trans_lt h.1), fun hm he => (hlow.2 hm he).le.trans h.1.le⟩

end Magnitude

/-! ## The nearest double -/

/-- The point of the grid that a quotient is nearest to. -/
theorem gridPoint_eq {num den n : ℕ} (hd : 0 < den) {t : ℚ}
    (ht : (num / den / 2 ^ gridExponent num den : ℚ) = t)
    (hhigh : t < n + 1 / 2 ∨ t = n + 1 / 2 ∧ n % 2 = 0)
    (hlow : (n - 1 / 2 : ℚ) < t ∨ t = n - 1 / 2 ∧ n % 2 = 0) : gridPoint num den = n := by
  have hupper : gridPoint num den < n + 1 := by
    rw [gridPoint_lt_iff hd, ht]
    push_cast
    rcases hhigh with h | ⟨h, he⟩
    · exact .inl (by linarith)
    · exact .inr ⟨by linarith, by omega⟩
  have hlower : ¬ gridPoint num den < n := by
    rw [gridPoint_lt_iff hd, ht, not_or, not_and_or]
    rcases hlow with h | ⟨h, he⟩
    · exact ⟨by linarith, .inl (by linarith)⟩
    · exact ⟨by linarith, .inr (by omega)⟩
  omega

section Nearest

variable {m : Magnitude} {num den : ℕ} {t : ℚ}

/-- In steps of the double, the numbers of its basin lie below the next binade, and in its own one
unless they lie in front of its first double. -/
theorem gridExponent_cases (hm : m.IsSize) (hn : 0 < num) (hd : 0 < den)
    (hv : (num / den : ℚ) = t * 2 ^ m.exponent) (hlow : (m.significand - 1 / 2 : ℚ) ≤ t)
    (hhigh : t ≤ m.significand + 1 / 2) : gridExponent num den = m.exponent ∨
      gridExponent num den = m.exponent - 1 ∧ m.significand = 2 ^ 52 ∧ -1074 < m.exponent ∧
        t < 2 ^ 52 := by
  obtain ⟨hpow, hpow'⟩ := floorLog2_spec hn hd
  have hq : gridExponent num den = max (floorLog2 num den - 52) (-1074) := rfl
  have hge := hm.exponent_ge
  have hlt : (m.significand : ℚ) + 1 ≤ 2 ^ 53 := by exact_mod_cast hm.significand_lt
  have hstep : (0 : ℚ) < 2 ^ m.exponent := by positivity
  have hbelow : floorLog2 num den < 53 + m.exponent := by
    rw [← zpow_lt_zpow_iff_right₀ (one_lt_two (α := ℚ)), zpow_add₀ two_ne_zero]
    refine (hpow.trans_eq hv).trans_lt (mul_lt_mul_of_pos_right ?_ hstep)
    refine lt_of_le_of_lt hhigh ?_
    norm_num at hlt ⊢
    linarith
  by_cases hsame : gridExponent num den = m.exponent
  · exact .inl hsame
  · have hfirst : -1074 < m.exponent := by omega
    have hlog : floorLog2 num den + 1 ≤ 52 + m.exponent := by omega
    have ht : t < 2 ^ 52 := by
      rw [← mul_lt_mul_iff_left₀ hstep, ← hv]
      refine hpow'.trans_le ((zpow_le_zpow_right₀ one_le_two hlog).trans_eq ?_)
      rw [zpow_add₀ two_ne_zero]
      rfl
    have hs : m.significand = 2 ^ 52 := by
      have hhidden := hm.hidden hfirst
      have hupper : (m.significand : ℚ) < (2 ^ 52 : ℕ) + 1 := by
        push_cast
        linarith
      have : m.significand < 2 ^ 52 + 1 := by exact_mod_cast hupper
      omega
    have habove : 51 + m.exponent < floorLog2 num den + 1 := by
      rw [← zpow_lt_zpow_iff_right₀ (one_lt_two (α := ℚ)), zpow_add₀ two_ne_zero]
      refine lt_of_lt_of_le (mul_lt_mul_of_pos_right ?_ hstep) (hv.symm.trans_lt hpow').le
      rw [hs] at hlow
      push_cast at hlow
      norm_num at hlow ⊢
      linarith
    exact .inr ⟨by omega, hs, hfirst, ht⟩

/-- **What lies in the basin** of a double has it as the nearest one. -/
theorem nearestBits_of_contains (hm : m.IsSize) (hs : 0 < m.significand) (hn : 0 < num)
    (hd : 0 < den) (h : m.basin.Contains (num / den / 2 ^ (m.exponent - 2))) :
    nearestBits num den = m.bits := by
  obtain ⟨hhigh, hlow, htop⟩ := Magnitude.bounds_of_contains hs h
  -- from here on the number is counted in steps of the double
  obtain ⟨t, ht⟩ : ∃ t : ℚ, num / den / 2 ^ m.exponent = t := ⟨_, rfl⟩
  have hu : (num / den / 2 ^ (m.exponent - 2) : ℚ) = 4 * t := by
    rw [← ht, zpow_sub₀ two_ne_zero, div_div_eq_mul_div, mul_div_assoc]
    norm_num
    ring
  have hv : (num / den : ℚ) = t * 2 ^ m.exponent := by
    rw [← ht, div_mul_cancel₀ _ (by positivity)]
  rw [hu] at hhigh hlow htop
  have hcases := gridExponent_cases (t := t) hm hn hd hv
    (by rcases hlow with h | ⟨h, -⟩ <;> linarith) (by rcases hhigh with h | ⟨h, -⟩ <;> linarith)
  rw [nearestBits_eq hn.ne']
  rcases hcases with hsame | ⟨hprev, hfirst, hpos, hbelow⟩
  · have hpoint : gridPoint num den = m.significand := by
      refine gridPoint_eq hd (t := t) (by rw [hsame, ht]) ?_ ?_
      · exact hhigh.imp (fun h => by linarith) fun h => ⟨by linarith, h.2⟩
      · exact hlow.imp (fun h => by linarith) fun h => ⟨by linarith, h.2⟩
    rw [hsame, hpoint]
    exact min_eq_left hm.bits_lt.le
  · -- the steps are half as long there, and the number is rounded up to the first double
    have hstart := htop hfirst hpos
    rw [hfirst] at hstart
    push_cast at hstart
    have hpoint : gridPoint num den = 2 ^ 53 := by
      refine gridPoint_eq hd (t := 2 * t) ?_ ?_ ?_
      · rw [hprev, ← ht, zpow_sub₀ two_ne_zero, div_div_eq_mul_div, mul_div_assoc]
        norm_num
        ring
      · refine .inl ?_
        push_cast
        linarith
      · refine (le_iff_lt_or_eq.1 (show ((2 ^ 53 : ℕ) - 1 / 2 : ℚ) ≤ 2 * t by
          push_cast; linarith)).imp id fun he => ⟨he.symm, by norm_num⟩
    have hbits : (m.exponent - 1 + 1074).toNat * 2 ^ 52 + 2 ^ 53 = m.bits := by
      rw [Magnitude.bits, hfirst]
      omega
    rw [hprev, hpoint, hbits]
    exact min_eq_left hm.bits_lt.le

end Nearest

/-! ## The shortest decimal -/

/-- What the decimal denotes. -/
def Digits.value (d : Digits) : ℚ :=
  d.coefficient * 10 ^ d.exponent

/-- Moving zeros into the exponent changes nothing. -/
theorem stripZeros_value (c : ℕ) (e : ℤ) : (stripZeros c e).value = c * 10 ^ e := by
  induction c, e using stripZeros.induct with
  | case1 c e hc =>
    rw [stripZeros, if_pos hc]
    rfl
  | case2 c e hc ih =>
    rw [stripZeros, if_neg hc, ih]
    simp only [Bool.or_eq_true, decide_eq_true_eq, not_or, not_not] at hc
    have hdvd : 10 ∣ c := Nat.dvd_of_mod_eq_zero hc.2
    rw [zpow_add_one₀ (by norm_num), Nat.cast_div hdvd (by norm_num)]
    push_cast
    ring

theorem stripZeros_coefficient_pos {c : ℕ} (e : ℤ) (h : 0 < c) :
    0 < (stripZeros c e).coefficient := by
  have hmod := stripZeros_coefficient_mod (e := e) h
  omega

/-- The decimal reads back: it is positive and lies in the basin of the size. -/
def Magnitude.Accepts (m : Magnitude) (d : Digits) : Prop :=
  0 < d.coefficient ∧ m.basin.Contains (d.value / 2 ^ (m.exponent - 2))

/-- A decimal that was seen to lie in the basin does. -/
theorem Magnitude.accepts_of_nearestOnGrid? {m : Magnitude} {e : ℤ} {c : ℕ}
    (h : m.nearestOnGrid? e = some c) : m.Accepts (stripZeros c e) := by
  have hstep : (0 : ℕ) < Nat.pow 10 (-e).toNat * Nat.pow 2 (m.exponent - 2).toNat :=
    Nat.mul_pos (Nat.pow_pos (by norm_num)) (Nat.pow_pos two_pos)
  have hinside : (decide (0 < c) && m.basin.holds (c * (Nat.pow 10 e.toNat *
      Nat.pow 2 (2 - m.exponent).toNat)) (Nat.pow 10 (-e).toNat *
        Nat.pow 2 (m.exponent - 2).toNat)) = true := by
    rw [nearestOnGrid?] at h
    dsimp only at h
    split at h
    · rename_i hi
      rw [← Option.some.inj h]
      exact hi
    split at h
    · rename_i hi
      rw [← Option.some.inj h]
      exact hi
    split at h
    · rename_i hi
      rw [← Option.some.inj h]
      exact hi
    · cases h
  rw [Bool.and_eq_true, decide_eq_true_eq, Basin.holds_iff _ _ hstep] at hinside
  refine ⟨stripZeros_coefficient_pos e hinside.1, ?_⟩
  convert hinside.2 using 1
  have hneg : 2 - m.exponent = -(m.exponent - 2) := by ring
  rw [stripZeros_value, zpow_eq_div (b := 10) (by norm_num), zpow_eq_div (b := 2) two_ne_zero, hneg,
    Nat.pow_eq, Nat.pow_eq, Nat.pow_eq, Nat.pow_eq]
  push_cast
  field_simp

/-- What is rounded to an integer lies at most a half away from it. -/
theorem abs_roundHalfEven_sub_le (num : ℕ) {den : ℕ} (hd : 0 < den) :
    |(roundHalfEven num den : ℚ) - num / den| ≤ 1 / 2 := by
  have hupper := (roundHalfEven_lt_iff_div hd).1 (Nat.lt_succ_self (roundHalfEven num den))
  have hlower : ¬ roundHalfEven num den < roundHalfEven num den := lt_irrefl _
  rw [roundHalfEven_lt_iff_div hd, not_or] at hlower
  push_cast at hupper
  rw [abs_le]
  constructor
  · rcases hupper with h | ⟨h, -⟩ <;> linarith
  · linarith [hlower.1]

/-- A number lies in the basin if a step of a grid as dense as decimals with seventeen digits brings
it there: in units of the basin, half of such a step is shorter than the reach. -/
theorem Magnitude.contains_of_near {m : Magnitude} (hm : m.IsSize) (hs : 0 < m.significand)
    {u g : ℚ} (hstep : 10 ^ 16 * g ≤ 4 * m.significand)
    (hnear : |u - 4 * m.significand| ≤ 1 / 2 * g) : m.basin.Contains u := by
  have hlt : (m.significand : ℚ) + 1 ≤ 2 ^ 53 := by exact_mod_cast hm.significand_lt
  norm_num at hstep hlt
  obtain ⟨hlower, hupper⟩ := abs_le.1 hnear
  refine Basin.contains_of_lt ?_ ?_
  · rcases basin_low hs with ⟨⟨hfirst, -⟩, hl⟩ | ⟨-, hl⟩
    · -- the reach is shorter at the start of a binade, but so are the steps
      have hfirst' : (m.significand : ℚ) = 4503599627370496 := by
        rw [hfirst]
        norm_num
      rw [hl]
      linarith
    · rw [hl]
      linarith
  · rw [basin_high]
    linarith

/-- The point of a grid of decimals that a size is rounded to lies at most half a step away. -/
theorem Magnitude.abs_round_sub_le (m : Magnitude) (e : ℤ) :
    |(roundHalfEven (m.numerator * Nat.pow 10 (-e).toNat)
      (m.denominator * Nat.pow 10 e.toNat) : ℚ) - m.value / 10 ^ e| ≤ 1 / 2 := by
  have hd : 0 < m.denominator * Nat.pow 10 e.toNat :=
    Nat.mul_pos m.denominator_pos (Nat.pow_pos (by norm_num))
  have hratio : ((m.numerator * Nat.pow 10 (-e).toNat : ℕ) : ℚ) /
      ((m.denominator * Nat.pow 10 e.toNat : ℕ) : ℚ) = m.value / 10 ^ e := by
    rw [← numerator_div_denominator, zpow_eq_div (b := 10) (by norm_num), Nat.pow_eq, Nat.pow_eq]
    push_cast
    rw [div_div_div_eq]
  rw [← hratio]
  exact abs_roundHalfEven_sub_le _ hd

/-- The decimal exponent of a size brackets it. -/
theorem Magnitude.floorLog10_spec {m : Magnitude} (hs : 0 < m.significand) :
    (10 : ℚ) ^ floorLog10 m.numerator m.denominator ≤ m.value ∧
      m.value < 10 ^ (floorLog10 m.numerator m.denominator + 1) := by
  have hn : 0 < m.numerator := Nat.mul_pos hs (Nat.pow_pos two_pos)
  have hlog := Binary64.floorLog10_spec hn m.denominator_pos
  rwa [numerator_div_denominator] at hlog

/-- In steps of a grid, a size has one digit more than the grid has finer steps than its first
digit. -/
theorem Magnitude.pow_le_value_div {m : Magnitude} (hs : 0 < m.significand) {e : ℤ} {k : ℕ}
    (he : e = floorLog10 m.numerator m.denominator - k) : (10 : ℚ) ^ k ≤ m.value / 10 ^ e := by
  rw [le_div_iff₀ (by positivity), ← zpow_natCast, ← zpow_add₀ (by norm_num), he, add_sub_cancel]
  exact (floorLog10_spec hs).1

/-- **Seventeen digits suffice**: the nearest decimal with so many lies in the basin. -/
theorem Magnitude.accepts_of_seventeen {m : Magnitude} (hm : m.IsSize) (hs : 0 < m.significand)
    {e : ℤ} (he : e = floorLog10 m.numerator m.denominator - 16) :
    m.Accepts (stripZeros (roundHalfEven (m.numerator * Nat.pow 10 (-e).toNat)
      (m.denominator * Nat.pow 10 e.toNat)) e) := by
  have hround := m.abs_round_sub_le e
  have hdigits : (10 : ℚ) ^ 16 ≤ m.value / 10 ^ e := pow_le_value_div hs he
  generalize roundHalfEven (m.numerator * Nat.pow 10 (-e).toNat)
    (m.denominator * Nat.pow 10 e.toNat) = c at hround
  have hc : 0 < c := by
    have : (0 : ℚ) < c := by
      norm_num at hdigits
      linarith [(abs_le.1 hround).1]
    exact_mod_cast this
  refine ⟨stripZeros_coefficient_pos e hc, ?_⟩
  -- a step of the decimals in units of the basin
  obtain ⟨g, hg⟩ : ∃ g : ℚ, 10 ^ e / 2 ^ (m.exponent - 2) = g := ⟨_, rfl⟩
  have hgpos : 0 < g := by
    rw [← hg]
    positivity
  have hmid : m.value / 10 ^ e * g = 4 * m.significand := by
    rw [← hg, value, zpow_sub₀ two_ne_zero]
    field_simp
    norm_num
  have hu : (stripZeros c e).value / 2 ^ (m.exponent - 2) = c * g := by
    rw [stripZeros_value, mul_div_assoc, hg]
  have hstep : 10 ^ 16 * g ≤ 4 * m.significand := by
    rw [← hmid]
    gcongr
  have hnear : |c * g - 4 * m.significand| ≤ 1 / 2 * g := by
    rw [← hmid, ← sub_mul, abs_mul, abs_of_pos hgpos]
    gcongr
  rw [hu]
  exact contains_of_near hm hs hstep hnear

/-- **The decimal that is found** reads back. -/
theorem Magnitude.shortest_spec {m : Magnitude} (hm : m.IsSize) (hs : 0 < m.significand) :
    m.Accepts m.shortest := by
  have hfrom (n : ℕ) (e : ℤ) (he : e - n = floorLog10 m.numerator m.denominator - 16) :
      m.Accepts (m.shortestFrom n e) := by
    induction n generalizing e with
    | zero =>
      rw [shortestFrom]
      exact accepts_of_seventeen hm hs (by rw [← he]; simp)
    | succ n ih =>
      rw [shortestFrom]
      split
      · rename_i c h
        exact accepts_of_nearestOnGrid? h
      · refine ih (e - 1) ?_
        rw [← he]
        push_cast
        ring
  exact hfrom 16 _ rfl

/-! ## Reading back -/

/-- A double is the sign and the bits of its size. -/
theorem nearest_eq {x : Float} {negative : Bool} {num den : ℕ} (hn : negative = isNegative x)
    (hb : nearestBits num den = unsignedBits x) : nearest negative num den = x := by
  have hlt : x.toBits.toNat < 2 ^ 64 := x.toBits.toNat_lt
  have hbits : (unsignedBits x + if isNegative x then Nat.pow 2 63 else 0) = x.toBits.toNat := by
    rw [unsignedBits, isNegative]
    simp only [Nat.pow_eq, decide_eq_true_eq]
    split <;> omega
  rw [nearest, hb, hn, hbits, UInt64.ofNat_toNat, Float.ofBits_toBits]

end FormulaSheet.Binary64

namespace FormulaSheet.Number.Decimal

open Binary64

variable {x : Float} {d : Decimal}

theorem toFloat_of_zero (hx : x.isFinite = true) (hs : (magnitude x).significand = 0)
    (hn : d.negative = isNegative x) (hd : d.coefficient = 0) : d.toFloat = x := by
  obtain ⟨hm, hbits⟩ := magnitude_spec hx
  have hzero : unsignedBits x = 0 := by
    have hhidden := hm.hidden
    have hge := hm.exponent_ge
    rw [hbits, Magnitude.bits, hs]
    omega
  have hnearest : nearestBits 0 1 = unsignedBits x := hzero.symm ▸ if_pos rfl
  simp only [toFloat, hd, decide_true, Bool.true_or, if_true]
  exact nearest_eq hn hnearest

/-- The least number in the basin of a double is large enough to be looked at. -/
theorem pow_lt_of_contains {m : Magnitude} (hm : m.IsSize) (hs : 0 < m.significand) {v : ℚ}
    (h : m.basin.Contains (v / 2 ^ (m.exponent - 2))) : (10 : ℚ) ^ (-326 : ℤ) < v := by
  obtain ⟨-, hlow, -⟩ := Magnitude.bounds_of_contains hs h
  have hone : (1 : ℚ) ≤ m.significand := by exact_mod_cast hs
  have hu : (2 : ℚ) ≤ v / 2 ^ (m.exponent - 2) := by
    rcases hlow with h | ⟨h, -⟩ <;> linarith
  rw [le_div_iff₀ (by positivity)] at hu
  refine lt_of_lt_of_le ?_ hu
  have hexponent : -1076 ≤ m.exponent - 2 := by
    have hge := hm.exponent_ge
    omega
  have hpow : (2 : ℚ) ^ (1075 : ℤ) < 10 ^ (326 : ℤ) := by
    calc (2 : ℚ) ^ (1075 : ℤ) = (2 ^ 93) ^ 11 * 2 ^ 52 := by
          rw [← pow_mul, ← pow_add]
          rfl
      _ < (10 ^ 28) ^ 11 * 10 ^ 18 := by
          gcongr
          · norm_num
          · norm_num
      _ = 10 ^ (326 : ℤ) := by
          rw [← pow_mul, ← pow_add]
          rfl
  calc (10 : ℚ) ^ (-326 : ℤ) = (10 ^ (326 : ℤ))⁻¹ := zpow_neg 10 326
    _ < (2 ^ (1075 : ℤ))⁻¹ := inv_strictAnti₀ (zpow_pos two_pos 1075) hpow
    _ = 2 ^ (1 + -1076 : ℤ) := (zpow_neg 2 1075).symm
    _ = 2 * 2 ^ (-1076 : ℤ) := zpow_one_add₀ two_ne_zero (-1076)
    _ ≤ 2 * 2 ^ (m.exponent - 2) :=
        mul_le_mul_of_nonneg_left (zpow_le_zpow_right₀ one_le_two hexponent) zero_le_two

/-- **A decimal in the basin** of a double reads as this double. -/
theorem toFloat_of_contains (hx : x.isFinite = true) (hs : 0 < (magnitude x).significand)
    (hn : d.negative = isNegative x)
    (h : (magnitude x).basin.Contains (d.size / 2 ^ ((magnitude x).exponent - 2))) :
    d.toFloat = x := by
  obtain ⟨hm, hbits⟩ := magnitude_spec hx
  have hsmall := pow_lt_of_contains hm hs h
  have hc : 0 < d.coefficient := by
    refine Nat.pos_of_ne_zero fun hz => ?_
    rw [size, hz, Nat.cast_zero, zero_mul] at hsmall
    exact absurd hsmall (not_lt.2 (by positivity))
  have hden : 0 < Nat.pow 10 (-d.exponent).toNat := Nat.pow_pos (by norm_num)
  have hnum : 0 < d.coefficient * Nat.pow 10 d.exponent.toNat :=
    Nat.mul_pos hc (Nat.pow_pos (by norm_num))
  rw [← d.ratio_eq] at h
  have hnearest := nearestBits_of_contains hm hs hnum hden h
  have hlarge : d.size < overflow := by
    rw [← d.ratio_eq, ← nearestBits_lt_iff hden, hnearest]
    exact hm.bits_lt
  obtain ⟨htop, htop'⟩ := size_bounds hc
  have hlow : ¬ (log10 d.coefficient + d.exponent : ℤ) < -326 := by
    have := (zpow_lt_zpow_iff_right₀ (by norm_num : (1 : ℚ) < 10)).1 (hsmall.trans htop')
    omega
  have hhigh : ¬ 310 < (log10 d.coefficient + d.exponent : ℤ) := by
    have := (zpow_lt_zpow_iff_right₀ (by norm_num : (1 : ℚ) < 10)).1
      (htop.trans_lt (hlarge.trans_le overflow_le_pow))
    omega
  simp only [toFloat, hc.ne', hlow, hhigh, decide_false, Bool.or_self, Bool.false_eq_true, if_false]
  exact nearest_eq hn (hnearest.trans hbits.symm)

end FormulaSheet.Number.Decimal
