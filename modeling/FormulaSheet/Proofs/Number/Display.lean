import FormulaSheet.Formula.Token
import FormulaSheet.Proofs.Json.Numeral

/-!
# Displayed numbers are accurate

A finite double is an exact rational. Shown to people, it is this rational if it is an integer, and
otherwise the decimal with ten significant digits that lies nearest to it. Either is a numeral,
which a formula may have as a token, however large or small it is.

* `Magnitude.significant_spec`: how far a size is from its significant digits;
* `Numeral.readNumeral?_chars`: a numeral is read as the decimal that it denotes;
* `display_of_eq_int`, `reads_fraction`: what is shown of integers and of fractions;
* `display_accurate`: the displayed text is an accurate decimal, and a number in a formula.
-/

namespace FormulaSheet

/-! ## Integers as text -/

namespace Text

theorem decimal_eq_toDigits (n : ℕ) : decimal n = (Nat.toDigits 10 n).map .char := by
  have hchar : ∀ d < 10, digitChar d = .char d.digitChar := by decide
  induction n using Nat.strongRecOn with
  | _ n ih =>
    rw [decimal, Nat.toDigits_eq_if (by decide)]
    split
    · rename_i h
      rw [hchar n h, List.map_singleton]
    · rw [ih (n / 10) (by omega), hchar (n % 10) (Nat.mod_lt n (by decide)), List.map_append,
        List.map_singleton]

theorem intText_eq_toString (i : ℤ) : intText i = toString i := by
  cases i with
  | ofNat n =>
    rw [intText, natText, decimal_eq_toDigits, ← Text.toList_inj, toList_ofString]
    exact congrArg (List.map Point.char) String.toList_ofList.symm
  | negSucc n =>
    rw [intText, natText, decimal_eq_toDigits, ← Text.toList_inj, toList_ofString]
    change _ = List.map Point.char ("-" ++ String.ofList (Nat.toDigits 10 (n + 1))).toList
    rw [String.toList_append, String.toList_ofList, String.toList_ofList, List.map_append]
    rfl

end Text

/-! ## Numerals are numbers -/

namespace Json.Numeral

open Number

variable (n : Numeral)

theorem takeSign_chars :
    takeSign n.chars = (n.negative, n.whole ++ (n.fraction ++ n.exponent)) := by
  obtain ⟨c, ds, hds⟩ := List.exists_cons_of_ne_nil n.ne_nil
  have hc := n.areDigits c (List.mem_append_left _ (hds ▸ List.mem_cons_self))
  rw [chars, hds, signed]
  cases n.negative with
  | true => rfl
  | false =>
    rw [if_neg Bool.false_ne_true]
    exact takeSign_of_isAsciiDigit hc _

theorem takeFraction_fraction_append :
    Number.takeFraction (n.fraction ++ n.exponent) = (n.behind, n.exponent) := by
  have hfollows : Follows [] := nofun
  have hstops := n.stopsDigits_exponent hfollows
  rw [List.append_nil] at hstops
  rw [fraction]
  split
  · rename_i hb
    rw [hb, List.nil_append, exponent]
    cases n.power with
    | none => rfl
    | some p =>
      have hmark : p.mark ≠ '.' := by rcases p.isMark with h | h <;> rw [h] <;> decide
      change Number.takeFraction p.chars = ([], p.chars)
      rw [Power.chars, Number.takeFraction]
      exact fun s he => hmark (List.cons.inj he).1
  · obtain ⟨htake, hdrop⟩ :=
      takeWhile_digits (fun c hc => n.areDigits c (List.mem_append_right _ hc)) hstops
    rw [List.cons_append, Number.takeFraction, htake, hdrop]

theorem readExponent?_exponent :
    readExponent? n.exponent = some ((n.power.map Power.value).getD 0) := by
  rw [exponent]
  cases n.power with
  | none => rfl
  | some p =>
    have hmark : (decide (p.mark = 'e') || decide (p.mark = 'E')) = true := by
      rw [← Bool.decide_or]
      exact decide_eq_true p.isMark
    have hsign := takeSign_power p []
    rw [List.append_nil] at hsign
    change readExponent? p.chars = some p.value
    rw [Power.chars, readExponent?, hsign]
    simp only [hmark, List.isEmpty_eq_false_iff.2 p.ne_nil, List.all_eq_true.2 p.areDigits,
      Power.value, decide_eq_true_eq, if_true, Bool.not_true, Bool.or_self, Bool.false_eq_true,
      if_false]

theorem readDecimal?_unsigned :
    readDecimal? n.negative (n.whole ++ (n.fraction ++ n.exponent)) = some n.decimal := by
  have hstops : StopsDigits (n.fraction ++ n.exponent) := by
    have hfollows : Follows [] := nofun
    have hexponent := n.stopsDigits_exponent hfollows
    rw [List.append_nil] at hexponent
    rw [fraction]
    split
    · exact hexponent
    · intro c s he
      rw [← (List.cons.inj he).1]
      decide
  obtain ⟨htake, hdrop⟩ :=
    takeWhile_digits (fun c hc => n.areDigits c (List.mem_append_left _ hc)) hstops
  rw [readDecimal?, htake, hdrop, takeFraction_fraction_append]
  simp only [List.isEmpty_eq_false_iff.2 n.ne_nil, Bool.false_and, Bool.false_eq_true, if_false,
    readExponent?_exponent]
  rfl

/-- A character of a numeral stands for itself where a number is read. -/
theorem foldChar_of_isPart {c : Point} (h : IsPart c) :
    foldChar c = c ∧ Text.isBlank c = false ∧ c ≠ '_' := by
  have hascii : c.toNat < 0x7F ∧ Text.isBlank c = false ∧ c ≠ '_' := by
    rcases h with hd | hm
    · have hbounds := isAsciiDigit_iff.1 hd
      refine ⟨by omega, Text.not_isBlank_of_isAsciiDigit hd, ?_⟩
      rintro rfl
      exact absurd hd (by decide)
    · simp only [List.mem_cons, List.not_mem_nil, or_false] at hm
      rcases hm with rfl | rfl | rfl | rfl | rfl <;> exact ⟨by decide, by decide, by decide⟩
  rw [foldChar, if_pos hascii.1]
  exact ⟨rfl, hascii.2⟩

theorem trim_chars : Text.trim n.chars = n.chars :=
  Text.trim_eq_self fun _ hc => (foldChar_of_isPart (n.mem_chars hc)).2.1

theorem normalize_chars : normalize n.chars = n.chars := by
  rw [normalize_eq_map n.trim_chars]
  exact (List.map_congr_left fun c hc => (foldChar_of_isPart (n.mem_chars hc)).1).trans
    (List.map_id _)

theorem not_mem_line : .char '_' ∉ n.chars :=
  fun hc => (foldChar_of_isPart (n.mem_chars hc)).2.2 rfl

/-- **A numeral is read** as the decimal that it denotes. -/
theorem readNumeral?_chars : readNumeral? n.chars = some (.decimal n.decimal) := by
  -- no word starts with a digit
  have hword {c : Point} {w : List Point} (hc : isAsciiDigit c = false) :
      (n.whole ++ (n.fraction ++ n.exponent)).map lowerAscii ≠ c :: w := by
    obtain ⟨d, ds, hds⟩ := List.exists_cons_of_ne_nil n.ne_nil
    have hd := n.areDigits d (List.mem_append_left _ (hds ▸ List.mem_cons_self))
    rw [hds, List.cons_append, List.map_cons, lowerAscii_of_isAsciiDigit hd]
    intro he
    rw [(List.cons.inj he).1, hc] at hd
    cases hd
  have hinf : (n.whole ++ (n.fraction ++ n.exponent)).map lowerAscii ≠ ("inf" : Text).toList :=
    hword (by decide)
  have hinfinity :
      (n.whole ++ (n.fraction ++ n.exponent)).map lowerAscii ≠ ("infinity" : Text).toList :=
    hword (by decide)
  have hnan : (n.whole ++ (n.fraction ++ n.exponent)).map lowerAscii ≠ ("nan" : Text).toList :=
    hword (by decide)
  rw [readNumeral?, dropSeparators_of_not_mem n.not_mem_line (by simp)]
  simp only [Option.bind_eq_bind, Option.bind_some, takeSign_chars, hinf, hinfinity, hnan,
    decide_false, Bool.or_self, Bool.false_eq_true, if_false, readDecimal?_unsigned,
    Option.map_some]

/-- A numeral that is small enough is a number in a formula. -/
theorem number?_chars (h : n.decimal.size < Binary64.overflow) (blankIsZero : Bool) :
    Token.number? blankIsZero (Text.ofList n.chars) = some n.decimal.toFloat := by
  have hne : n.chars ≠ [] := by
    rw [chars, signed]
    split
    · exact List.cons_ne_nil _ _
    · exact List.append_ne_nil_of_left_ne_nil n.ne_nil _
  have hline : n.chars.contains '_' = false := by simpa using n.not_mem_line
  have hfinite := n.decimal.isFinite_toFloat.2 h
  rw [Token.number?, Text.toList_ofList, trim_chars]
  simp only [List.isEmpty_eq_false_iff.2 hne, hline, Bool.false_eq_true, if_false]
  rw [floatOfText?, Text.toList_ofList, normalize_chars, readNumeral?_chars, Option.map_some,
    Numeral.toFloat, Option.filter_some, if_pos hfinite]

end Json.Numeral

/-! ## Exact values -/

namespace Binary64

/-- What a finite double denotes. -/
def exactly (x : Float) : ℚ :=
  if isNegative x then -(magnitude x).value else (magnitude x).value

namespace Magnitude

variable {m : Magnitude}

theorem value_nonneg (m : Magnitude) : 0 ≤ m.value := by
  rw [value]
  positivity

theorem value_pos (hs : 0 < m.significand) : 0 < m.value := by
  have : (0 : ℚ) < m.significand := by exact_mod_cast hs
  rw [value]
  positivity

/-- A size is a natural number if its quotient has no remainder. -/
theorem value_eq_natCast_iff (m : Magnitude) (n : ℕ) :
    m.value = n ↔ m.numerator = n * m.denominator := by
  have hd : (m.denominator : ℚ) ≠ 0 := by exact_mod_cast m.denominator_pos.ne'
  rw [← numerator_div_denominator, div_eq_iff hd]
  exact_mod_cast Iff.rfl

/-- The sizes of doubles lie below the bound for finite doubles. -/
theorem IsSize.value_lt_overflow (hm : m.IsSize) : m.value < overflow := by
  have hlt : (m.significand : ℚ) + 1 ≤ 2 ^ 53 := by exact_mod_cast hm.significand_lt
  calc m.value ≤ (2 ^ 53 - 1) * 2 ^ (971 : ℤ) := by
        rw [value]
        gcongr
        · linarith
        · exact one_le_two
        · exact hm.exponent_le
    _ = (2 ^ 54 - 2) * 2 ^ 970 := by
        have hpow : (2 : ℚ) ^ (971 : ℤ) = 2 ^ 970 * 2 := pow_succ (2 : ℚ) 970
        rw [hpow, mul_comm (2 ^ 970) 2, ← mul_assoc]
        congr 1
        norm_num
    _ < overflow := by
        rw [overflow]
        gcongr
        norm_num

/-- A size with a fraction is small. -/
theorem IsSize.value_lt_of_fraction (hm : m.IsSize) (hn : ∀ n : ℕ, m.value ≠ n) :
    m.value < 2 ^ 53 := by
  have hlt : (m.significand : ℚ) < 2 ^ 53 := by exact_mod_cast hm.significand_lt
  have hexponent : m.exponent ≤ 0 := by
    by_contra he
    obtain ⟨k, hk⟩ := Int.eq_ofNat_of_zero_le (not_le.1 he).le
    refine hn (m.significand * 2 ^ k) ?_
    rw [value, hk]
    push_cast
    rw [zpow_natCast]
  calc m.value ≤ m.significand * 1 := by
        rw [value]
        gcongr
        exact zpow_le_one_of_nonpos₀ one_le_two hexponent
    _ < 2 ^ 53 := by rwa [mul_one]

/-- **Significant digits** are positive and lie at most half a unit of the last one away. -/
theorem significant_spec (hs : 0 < m.significand) (k : ℕ) :
    0 < (m.significant (k + 1)).coefficient ∧ |(m.significant (k + 1)).value - m.value| ≤
      1 / 2 * 10 ^ (floorLog10 m.numerator m.denominator - k) := by
  obtain ⟨e, he⟩ : ∃ e, floorLog10 m.numerator m.denominator - (k : ℤ) = e := ⟨_, rfl⟩
  have hround := m.abs_round_sub_le e
  have hdigits : 1 ≤ m.value / 10 ^ e :=
    (one_le_pow₀ (by norm_num)).trans (pow_le_value_div hs he.symm)
  have hstep : (0 : ℚ) < 10 ^ e := by positivity
  rw [significant, Nat.add_sub_cancel, he, stripZeros_value]
  generalize roundHalfEven (m.numerator * Nat.pow 10 (-e).toNat)
    (m.denominator * Nat.pow 10 e.toNat) = c at hround
  constructor
  · have hc : (0 : ℚ) < c := by linarith [(abs_le.1 hround).1]
    exact stripZeros_coefficient_pos e (by exact_mod_cast hc)
  · have hvalue : m.value = m.value / 10 ^ e * 10 ^ e := (div_mul_cancel₀ _ hstep.ne').symm
    rw [hvalue, ← sub_mul, abs_mul, abs_of_pos hstep]
    gcongr

end Magnitude

variable {x : Float}

theorem abs_exactly (x : Float) : |exactly x| = (magnitude x).value := by
  rw [exactly]
  split
  · rw [abs_neg, abs_of_nonneg (magnitude x).value_nonneg]
  · exact abs_of_nonneg (magnitude x).value_nonneg

/-- A double that denotes an integer has it as its quotient. -/
theorem isIntegral_of_exactly (hx : x.isFinite = true) {n : ℤ} (h : exactly x = n) :
    isIntegral x = true ∧ truncate x = n := by
  have hvalue : (magnitude x).value = n.natAbs := by
    rw [← abs_exactly, h, Nat.cast_natAbs, Int.cast_abs]
  have hnum := ((magnitude x).value_eq_natCast_iff _).1 hvalue
  have hdiv : (magnitude x).numerator / (magnitude x).denominator = n.natAbs := by
    rw [hnum, Nat.mul_div_cancel _ (magnitude x).denominator_pos]
  constructor
  · rw [isIntegral, hx, hnum, Nat.mul_mod_left]
    rfl
  · rw [exactly, hvalue] at h
    rw [truncate, hdiv]
    split at h
    · rename_i hneg
      rw [if_pos hneg, ← Int.cast_inj (α := ℚ), Int.cast_neg, Int.cast_natCast, h]
    · rename_i hneg
      rw [if_neg hneg, ← Int.cast_inj (α := ℚ), Int.cast_natCast, h]

section Fraction

variable (h : ∀ n : ℤ, exactly x ≠ n)

include h

/-- The size of a double with a fraction is no natural number. -/
theorem value_ne_natCast (n : ℕ) : (magnitude x).value ≠ n := by
  intro hn
  rw [exactly, hn] at h
  split at h
  · exact h (-n) (by push_cast; rfl)
  · exact h n (by push_cast; rfl)

theorem significand_pos_of_fraction : 0 < (magnitude x).significand := by
  refine Nat.pos_of_ne_zero fun hz => value_ne_natCast h 0 ?_
  rw [Magnitude.value, hz, Nat.cast_zero, zero_mul]

theorem isIntegral_of_fraction : isIntegral x = false := by
  rw [isIntegral, Bool.and_eq_false_iff, beq_eq_false_iff_ne]
  refine .inr fun hmod => ?_
  have hnum := Nat.div_mul_cancel (Nat.dvd_of_mod_eq_zero hmod)
  exact value_ne_natCast h _ (((magnitude x).value_eq_natCast_iff _).2 hnum.symm)

end Fraction

end Binary64

/-! ## What is shown -/

namespace Number

open Binary64

/-- What a decimal denotes. -/
def Decimal.value (d : Decimal) : ℚ :=
  if d.negative then -d.size else d.size

variable {x : Float}

/-- The decimal is what the text is read as, and the text is a number in a formula. -/
structure Reads (s : Text) (d : Decimal) : Prop where
  numeral : readNumeral? (normalize s.toList) = some (.decimal d)
  number (blankIsZero : Bool) : Token.number? blankIsZero s = some d.toFloat

theorem reads_numeral {n : Json.Numeral} (h : n.decimal.size < overflow) {s : Text}
    (hs : n.chars = s.toList) : Reads s n.decimal := by
  have hs' : s = Text.ofList n.chars := by rw [hs, Text.ofList_toList]
  rw [hs']
  refine ⟨?_, n.number?_chars h⟩
  rw [Text.toList_ofList, n.normalize_chars, n.readNumeral?_chars]

/-- **An integer** is shown by its digits. -/
theorem display_of_eq_int (hx : x.isFinite = true) {n : ℤ} (h : exactly x = n) :
    display x = toString n := by
  obtain ⟨hi, ht⟩ := isIntegral_of_exactly hx h
  rw [display_of_isIntegral hx (isNaN_eq_false hx) hi, ht, Text.intText_eq_toString]

example : display (-0.0) = "0" := by
  have hzero : exactly (-0.0) = (0 : ℤ) := by
    have hm : magnitude (-0.0) = ⟨0, -1074⟩ := rfl
    simp [exactly, hm, Magnitude.value]
  exact display_of_eq_int rfl hzero

/-- The digits of an integer that is a double are a number. -/
theorem reads_int (hx : x.isFinite = true) {n : ℤ} (h : exactly x = n) :
    ∃ d, Reads (toString n) d ∧ d.value = n := by
  obtain ⟨l, hchars, hdecimal⟩ := Json.exists_numeral_of_int n
  have hsize : l.decimal.size = n.natAbs := by
    rw [hdecimal, Decimal.size, zpow_zero, mul_one]
  refine ⟨l.decimal, reads_numeral ?_ (Text.intText_eq_toString n ▸ hchars), ?_⟩
  · rw [hsize, Nat.cast_natAbs, Int.cast_abs, ← h, abs_exactly]
    exact (magnitude_spec hx).1.value_lt_overflow
  · rw [Decimal.value, hsize, hdecimal, Nat.cast_natAbs]
    simp only [decide_eq_true_eq]
    split
    · rename_i hn
      rw [abs_of_neg hn]
      push_cast
      ring
    · rename_i hn
      rw [abs_of_nonneg (not_lt.1 hn)]

/-- **A fraction** is shown by ten significant digits behind its sign. -/
theorem reads_fraction (hx : x.isFinite = true) (h : ∀ n : ℤ, exactly x ≠ n) :
    ∃ d, Reads (display x) d ∧ d.negative = isNegative x ∧ 0 < d.size ∧
      |d.size - (magnitude x).value| ≤ 1 / 2 *
        10 ^ (floorLog10 (magnitude x).numerator (magnitude x).denominator - 9) := by
  have hm := (magnitude_spec hx).1
  have hs := significand_pos_of_fraction h
  obtain ⟨hc, hnear⟩ := Magnitude.significant_spec hs 9
  obtain ⟨l, hchars, hnegative, hsize⟩ := Json.exists_numeral_of_tenDigits (isNegative x) hc
  have htext : display x = Text.ofList l.chars := by
    rw [display, isNaN_eq_false hx, hx, isIntegral_of_fraction h, hchars]
    rfl
  have hpos : 0 < l.decimal.size := by
    rw [hsize, Digits.value]
    positivity
  rw [← hsize] at hnear
  refine ⟨l.decimal, reads_numeral ?_ (by rw [htext, Text.toList_ofList]), hnegative, hpos,
    hnear⟩
  -- half a unit of the tenth digit is less than the number
  have hunit : (10 : ℚ) ^ (floorLog10 (magnitude x).numerator (magnitude x).denominator - 9) ≤
      (magnitude x).value :=
    (zpow_le_zpow_right₀ (by norm_num) (by omega)).trans (Magnitude.floorLog10_spec hs).1
  have hsmall := hm.value_lt_of_fraction (value_ne_natCast h)
  calc l.decimal.size ≤ 2 * (magnitude x).value := by
        linarith [(abs_le.1 hnear).2, (magnitude x).value_nonneg]
    _ < (2 ^ 54 - 1) * 2 := by
        norm_num at hsmall ⊢
        linarith
    _ ≤ overflow := by
        rw [overflow]
        gcongr
        exact le_self_pow₀ one_le_two (by norm_num)

/-- What is shown of a finite double is a numeral. -/
theorem exists_numeral_of_display (hx : x.isFinite = true) :
    ∃ n : Json.Numeral, (display x).toList = n.chars := by
  by_cases hint : ∃ n : ℤ, exactly x = n
  · obtain ⟨k, hk⟩ := hint
    obtain ⟨n, hchars, -⟩ := Json.exists_numeral_of_int k
    exact ⟨n, by rw [display_of_eq_int hx hk, ← Text.intText_eq_toString, hchars]⟩
  · rw [not_exists] at hint
    have hs := significand_pos_of_fraction hint
    obtain ⟨hc, -⟩ := Magnitude.significant_spec hs 9
    obtain ⟨n, hchars, -, -⟩ := Json.exists_numeral_of_tenDigits (isNegative x) hc
    refine ⟨n, ?_⟩
    rw [display, isNaN_eq_false hx, hx, isIntegral_of_fraction hint, hchars]
    rfl

/-- **Displayed numbers are accurate**: an integer is shown by all its digits, and the text of any
other finite double denotes a number of the same sign that is at most half a unit of the tenth
significant digit away. In a formula the text is a number. -/
theorem display_accurate {x : Float} (hx : x.isFinite = true) :
    ∃ d : Decimal, readNumeral? (normalize (display x).toList) = some (.decimal d) ∧
      (∀ blankIsZero, Token.number? blankIsZero (display x) = some d.toFloat) ∧
      (∀ n : ℤ, exactly x = n → display x = toString n ∧ d.value = n) ∧
      ((∀ n : ℤ, exactly x ≠ n) → SignType.sign d.value = SignType.sign (exactly x) ∧
        ∀ e : ℤ, 10 ^ e ≤ |exactly x| → |exactly x| < 10 ^ (e + 1) →
          |d.value - exactly x| ≤ 1 / 2 * 10 ^ (e - 9)) := by
  by_cases hint : ∃ n : ℤ, exactly x = n
  · obtain ⟨n, hn⟩ := hint
    obtain ⟨d, hreads, hd⟩ := reads_int hx hn
    rw [← display_of_eq_int hx hn] at hreads
    refine ⟨d, hreads.numeral, hreads.number, fun k hk => ⟨display_of_eq_int hx hk, ?_⟩,
      fun h => absurd hn (h n)⟩
    rw [hd, ← hn, hk]
  · rw [not_exists] at hint
    obtain ⟨d, hreads, hnegative, hpos, hnear⟩ := reads_fraction hx hint
    have hs := significand_pos_of_fraction hint
    have hvalue := Magnitude.value_pos hs
    refine ⟨d, hreads.numeral, hreads.number, fun n hn => absurd hn (hint n), fun _ => ⟨?_, ?_⟩⟩
    · rw [Decimal.value, exactly, hnegative]
      split
      · rw [sign_neg (neg_neg_of_pos hpos), sign_neg (neg_neg_of_pos hvalue)]
      · rw [sign_pos hpos, sign_pos hvalue]
    · intro e hlow hhigh
      rw [abs_exactly] at hlow hhigh
      -- both powers of ten bracket the size
      have he : floorLog10 (magnitude x).numerator (magnitude x).denominator = e := by
        obtain ⟨hlow', hhigh'⟩ := Magnitude.floorLog10_spec hs
        have hlt := (zpow_lt_zpow_iff_right₀ (by norm_num : (1 : ℚ) < 10)).1
          (hlow.trans_lt hhigh')
        have hlt' := (zpow_lt_zpow_iff_right₀ (by norm_num : (1 : ℚ) < 10)).1
          (hlow'.trans_lt hhigh)
        omega
      rw [he] at hnear
      refine le_trans (le_of_eq ?_) hnear
      rw [Decimal.value, exactly, hnegative]
      split
      · rw [neg_sub_neg, abs_sub_comm]
      · rfl

/-- The double two and a half is shown with an error of less than a billionth. -/
theorem display_accurate_of_half :
    (2.5 : Float).isFinite = true ∧ ∃ d : Decimal,
      (∀ blankIsZero, Token.number? blankIsZero (display 2.5) = some d.toFloat) ∧
      |d.value - 2.5| ≤ 1 / 2 * 10 ^ (-9 : ℤ) := by
  have hfinite : (2.5 : Float).isFinite = true := rfl
  have hx : exactly 2.5 = 2.5 := by
    have hm : magnitude 2.5 = ⟨5629499534213120, -51⟩ := rfl
    have hn : isNegative 2.5 = false := rfl
    rw [exactly, hn, hm, Magnitude.value]
    norm_num
  obtain ⟨d, -, hnumber, -, hfraction⟩ := display_accurate hfinite
  rw [hx] at hfraction
  have hint (n : ℤ) : (2.5 : ℚ) ≠ n := by
    intro hn
    have htwice : (5 : ℚ) = (2 * n : ℤ) := by
      push_cast
      linarith
    have : 5 = 2 * n := by exact_mod_cast htwice
    omega
  exact ⟨hfinite, d, hnumber, (hfraction hint).2 0 (by norm_num) (by norm_num)⟩

end Number

end FormulaSheet
