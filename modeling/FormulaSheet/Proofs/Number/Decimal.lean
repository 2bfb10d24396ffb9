import FormulaSheet.Number.Decimal
import FormulaSheet.Proofs.Label
import FormulaSheet.Proofs.Number.Bits
import FormulaSheet.Proofs.Text.Blank

/-!
# Numbers in decimal notation

A number is read from text in two steps: the digits of all scripts are written with ASCII digits,
and the text in ASCII is taken apart. The first step neither makes a digit of anything else nor
touches the other characters that stand in a number. What was taken apart is an exact decimal, and
its nearest double is finite if the decimal lies below the bound `Binary64.overflow`; that some
decimals are settled by the place of their first digit alone makes no difference.

* `isAsciiDigit_foldChar`, `foldChar_eq_iff`, `digitValue_foldChar`: what the first step does to a
  character;
* `normalize_eq_map`: the blanks around a text are gone before;
* `Decimal.isFinite_toFloat`: when a decimal has a finite double.
-/

namespace FormulaSheet

namespace Text

/-- The number that digits of any script denote. -/
def ofDigits (ds : List Point) : Nat :=
  ds.foldl (fun n c => n * 10 + (digitValue? c).getD 0) 0

theorem digitValue?_eq_some {c : Point} {d : Nat} (h : digitValue? c = some d) :
    d < 10 ∧ ∃ z ∈ zeros, c.toNat = z + d := by
  rw [digitValue?, Option.map_eq_some_iff] at h
  obtain ⟨z, hz, rfl⟩ := h
  have hm := List.mem_of_find?_eq_some hz
  have hc := List.find?_some hz
  simp only [Bool.and_eq_true, decide_eq_true_eq] at hc
  exact ⟨by omega, z, hm, by omega⟩

/-- Among the characters of ASCII, the digits are those of ASCII. -/
theorem digitValue?_of_ascii {c : Point} (h : c.toNat < 0x7F) :
    digitValue? c = if Number.isAsciiDigit c then some (c.toNat - 0x30) else none := by
  have hzeros : ∀ z ∈ zeros, z = 0x30 ∨ 0x7F ≤ z := by decide
  cases hd : Number.isAsciiDigit c with
  | true =>
    rw [Number.isAsciiDigit_iff] at hd
    obtain ⟨others, hothers⟩ : ∃ others, zeros = 0x30 :: others := ⟨_, rfl⟩
    rw [digitValue?, hothers, List.find?_cons_of_pos]
    · rfl
    · simp only [Bool.and_eq_true, decide_eq_true_eq]
      omega
  | false =>
    have hn : ¬ (0x30 ≤ c.toNat ∧ c.toNat ≤ 0x39) := by
      rw [← Number.isAsciiDigit_iff, hd]
      exact Bool.false_ne_true
    cases hv : digitValue? c with
    | none => rfl
    | some d =>
      obtain ⟨hlt, z, hz, hc⟩ := digitValue?_eq_some hv
      rcases hzeros z hz with rfl | hz <;> omega

end Text

namespace Number

/-! ## Characters -/

theorem isBlank_of_isAsciiBlank {c : Point} (h : isAsciiBlank c = true) :
    Text.isBlank c = true := by
  simp only [isAsciiBlank, Bool.or_eq_true, Bool.and_eq_true, beq_iff_eq, decide_eq_true_eq,
    Point.le_def] at h
  rcases h with rfl | h
  · decide
  · have h₁ : 0x09 ≤ c.toNat := h.1
    have h₂ : c.toNat ≤ 0x0D := h.2
    simp only [Text.isBlank, Bool.or_eq_true, Bool.and_eq_true, decide_eq_true_eq, beq_iff_eq]
    omega

/-- A character beyond ASCII that is neither a blank nor a digit is kept, and so is no character of
ASCII. -/
theorem foldChar_cases (c : Point) :
    c.toNat < 0x7F ∧ foldChar c = c ∨
      0x7F ≤ c.toNat ∧ Text.isBlank c = true ∧ foldChar c = ' ' ∨
      (∃ d, Text.digitValue? c = some d ∧ foldChar c = Text.digitChar d) ∨
      0x7F ≤ c.toNat ∧ Text.digitValue? c = none ∧ foldChar c = c := by
  rw [foldChar]
  split
  · exact .inl ⟨by assumption, rfl⟩
  · split
    · exact .inr (.inl ⟨by omega, by assumption, rfl⟩)
    · cases hv : Text.digitValue? c with
      | some d => exact .inr (.inr (.inl ⟨d, rfl, rfl⟩))
      | none => exact .inr (.inr (.inr ⟨by omega, rfl, rfl⟩))

/-- **Digits of every script** and nothing else become digits of ASCII. -/
theorem isAsciiDigit_foldChar (c : Point) : isAsciiDigit (foldChar c) = Text.isDecimalDigit c := by
  rcases foldChar_cases c with ⟨hc, hf⟩ | ⟨-, hb, hf⟩ | ⟨d, hd, hf⟩ | ⟨hc, hn, hf⟩
  · rw [hf, Text.isDecimalDigit, Text.digitValue?_of_ascii hc]
    cases isAsciiDigit c <;> rfl
  · have hn : Text.isDecimalDigit c = false := by
      rw [Bool.eq_false_iff]
      intro hd
      rw [Text.not_isBlank_of_isDecimalDigit hd] at hb
      cases hb
    rw [hf, hn]
    rfl
  · rw [hf, Text.isDecimalDigit, hd, Text.isAsciiDigit_digitChar (Text.digitValue?_eq_some hd).1]
    rfl
  · rw [hf, Text.isDecimalDigit, hn, Option.isSome_none, Bool.eq_false_iff, Ne, isAsciiDigit_iff]
    omega

/-- Every digit keeps its value. -/
theorem digitValue_foldChar {c : Point} (h : Text.isDecimalDigit c = true) :
    (foldChar c).toNat - 0x30 = (Text.digitValue? c).getD 0 := by
  rcases foldChar_cases c with ⟨hc, hf⟩ | ⟨-, hb, -⟩ | ⟨d, hd, hf⟩ | ⟨-, hn, -⟩
  · have hd : isAsciiDigit c = true := by
      rw [← hf, isAsciiDigit_foldChar]
      exact h
    rw [hf, Text.digitValue?_of_ascii hc, if_pos hd]
    rfl
  · rw [Text.not_isBlank_of_isDecimalDigit h] at hb
    cases hb
  · rw [hf, Text.digitChar_toNat (Text.digitValue?_eq_some hd).1, hd]
    exact Nat.add_sub_cancel_left 0x30 d
  · rw [Text.isDecimalDigit, hn] at h
    cases h

/-- The character of ASCII is neither a digit nor the space. -/
structure IsMark (x : Point) : Prop where
  ascii : x.toNat < 0x7F
  not_digit : isAsciiDigit x = false
  ne_space : x ≠ ' '

/-- **Marks** come of themselves only. -/
theorem foldChar_eq_iff {c x : Point} (hx : IsMark x) : foldChar c = x ↔ c = x := by
  constructor
  · intro h
    rcases foldChar_cases c with ⟨-, hf⟩ | ⟨-, -, hf⟩ | ⟨d, hd, hf⟩ | ⟨-, -, hf⟩
    · exact hf.symm.trans h
    · exact absurd (h.symm.trans hf) hx.ne_space
    · have hdigit := Text.isAsciiDigit_digitChar (Text.digitValue?_eq_some hd).1
      rw [← hf, h, hx.not_digit] at hdigit
      cases hdigit
    · exact hf.symm.trans h
  · rintro rfl
    rw [foldChar, if_pos hx.ascii]

theorem not_isAsciiBlank_foldChar {c : Point} (h : Text.isBlank c = false) :
    isAsciiBlank (foldChar c) = false := by
  rw [Bool.eq_false_iff]
  intro hb
  have hblank := isBlank_of_isAsciiBlank hb
  rcases foldChar_cases c with ⟨-, hf⟩ | ⟨-, hc, -⟩ | ⟨d, hd, hf⟩ | ⟨-, -, hf⟩
  · rw [hf, h] at hblank
    cases hblank
  · rw [h] at hc
    cases hc
  · have hdigit := Text.isAsciiDigit_digitChar (Text.digitValue?_eq_some hd).1
    rw [hf, Text.not_isBlank_of_isAsciiDigit hdigit] at hblank
    cases hblank
  · rw [hf, h] at hblank
    cases hblank

/-- A text that was trimmed needs no more trimming. -/
theorem normalize_eq_map {s : List Point} (h : Text.trim s = s) : normalize s = s.map foldChar := by
  have hsolid (t : List Point) (ht : Text.StartsSolid t) :
      (t.map foldChar).dropWhile isAsciiBlank = t.map foldChar := by
    cases t with
    | nil => rfl
    | cons c t =>
      have hc := not_isAsciiBlank_foldChar (ht c rfl)
      rw [List.map_cons, List.dropWhile_cons_of_neg (by simp [hc])]
  have hfront : Text.StartsSolid s :=
    Text.startsSolid_of_prefix_trim ⟨[], by rw [List.append_nil, h]⟩
  have hback : Text.StartsSolid s.reverse := by
    intro c hc
    have hleft := Text.trimLeft_of_startsSolid hfront
    rw [Text.trim, hleft] at h
    rw [← h, Text.trimRight, List.reverse_reverse] at hc
    exact Text.startsSolid_trimLeft _ c hc
  rw [normalize, hsolid s hfront, ← List.map_reverse, hsolid _ hback, ← List.map_reverse,
    List.reverse_reverse]

theorem ofDecimal_map_foldChar {ds : List Point} (h : ∀ c ∈ ds, Text.isDecimalDigit c = true) :
    Text.ofDecimal (ds.map foldChar) = Text.ofDigits ds := by
  have hfold (n : Nat) : (ds.map foldChar).foldl (fun n c => n * 10 + (c.toNat - 0x30)) n =
      ds.foldl (fun n c => n * 10 + (Text.digitValue? c).getD 0) n := by
    induction ds generalizing n with
    | nil => rfl
    | cons c ds ih =>
      rw [List.map_cons, List.foldl_cons, List.foldl_cons,
        digitValue_foldChar (h c List.mem_cons_self)]
      exact ih (fun x hx => h x (List.mem_cons_of_mem c hx)) _
  exact hfold 0

/-! ## Finite decimals -/

/-- What a decimal denotes, without its sign. -/
def Decimal.size (d : Decimal) : ℚ :=
  d.coefficient * 10 ^ d.exponent

/-- What a decimal denotes is the quotient that is rounded. -/
theorem Decimal.ratio_eq (d : Decimal) : ((d.coefficient * Nat.pow 10 d.exponent.toNat : ℕ) : ℚ) /
    ((Nat.pow 10 (-d.exponent).toNat : ℕ) : ℚ) = d.size := by
  rw [size, Binary64.zpow_eq_div (by norm_num), Nat.pow_eq, Nat.pow_eq]
  push_cast
  rw [mul_div_assoc]

/-- The first digit of a decimal brackets it. -/
theorem Decimal.size_bounds {d : Decimal} (h : 0 < d.coefficient) :
    (10 : ℚ) ^ (Binary64.log10 d.coefficient + d.exponent) ≤ d.size ∧
      d.size < 10 ^ (Binary64.log10 d.coefficient + d.exponent + 1) := by
  have h₁ := Binary64.pow_log10_le h
  have h₂ := Binary64.lt_pow_log10 d.coefficient
  rw [Nat.pow_eq] at h₁ h₂
  have hpos : (0 : ℚ) < 10 ^ d.exponent := by positivity
  have hcast : (10 : ℚ) ^ ((Binary64.log10 d.coefficient : ℤ) + 1) =
      ((10 ^ (Binary64.log10 d.coefficient + 1) : ℕ) : ℚ) := by
    push_cast
    rw [← zpow_natCast]
    rfl
  constructor
  · rw [zpow_add₀ (by norm_num), size, zpow_natCast]
    gcongr
    exact_mod_cast h₁
  · rw [add_right_comm, zpow_add₀ (by norm_num), size, hcast]
    gcongr

theorem overflow_le_pow : Binary64.overflow ≤ (10 : ℚ) ^ (311 : ℤ) := by
  have hten : (2 : ℚ) ^ 33 ≤ 10 ^ 10 := by norm_num
  calc Binary64.overflow ≤ 2 ^ 54 * 2 ^ 970 := Binary64.overflow_le
    _ = 2 * (2 ^ 33) ^ 31 := by
        rw [← pow_mul, ← pow_add, ← pow_succ']
    _ ≤ 10 * (10 ^ 10) ^ 31 := by
        gcongr
        norm_num
    _ = (10 : ℚ) ^ (311 : ℤ) := by
        rw [← pow_mul, ← pow_succ']
        rfl

/-- **A decimal has a finite double** exactly if it lies below the bound for finite doubles. -/
theorem Decimal.isFinite_toFloat (d : Decimal) :
    d.toFloat.isFinite = true ↔ d.size < Binary64.overflow := by
  rw [toFloat]
  split
  · -- zero, or so small that nothing but zero is near
    rename_i h
    have hzero : (Binary64.nearest d.negative 0 1).isFinite = true := by
      rw [Binary64.isFinite_nearest _ one_pos, Nat.cast_zero, zero_div]
      exact Binary64.overflow_pos
    refine ⟨fun _ => ?_, fun _ => hzero⟩
    rcases Nat.eq_zero_or_pos d.coefficient with hc | hc
    · rw [size, hc, Nat.cast_zero, zero_mul]
      exact Binary64.overflow_pos
    · simp only [hc.ne', decide_false, Bool.false_or, decide_eq_true_eq] at h
      refine (size_bounds hc).2.trans_le ?_
      calc (10 : ℚ) ^ (Binary64.log10 d.coefficient + d.exponent + 1) ≤ 10 ^ (0 : ℤ) :=
            zpow_le_zpow_right₀ (by norm_num) (by omega)
        _ ≤ Binary64.overflow := by
            rw [zpow_zero, Binary64.overflow]
            exact one_le_mul_of_one_le_of_one_le (by norm_num) (one_le_pow₀ one_le_two)
  · rename_i h
    simp only [Bool.or_eq_true, decide_eq_true_eq, not_or] at h
    have hc := Nat.pos_of_ne_zero h.1
    split
    · rename_i htop
      have hlarge : Binary64.overflow ≤ d.size := by
        refine overflow_le_pow.trans (le_trans ?_ (size_bounds hc).1)
        exact zpow_le_zpow_right₀ (by norm_num) (by omega)
      refine iff_of_false ?_ (not_lt.2 hlarge)
      apply Binary64.not_isFinite_nearest
      exact Nat.le_refl 1024
    · have hpos : 0 < Nat.pow 10 (-d.exponent).toNat := Nat.pow_pos (by norm_num)
      rw [Binary64.isFinite_nearest _ hpos, d.ratio_eq]

end Number

end FormulaSheet
