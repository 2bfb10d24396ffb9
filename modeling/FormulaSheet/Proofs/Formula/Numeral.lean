import FormulaSheet.Proofs.Formula.Lexeme
import FormulaSheet.Proofs.Number.Decimal

/-!
# Numbers in formulas

What is a number is decided in two places: where a formula is split into lexemes, by the characters
that come next, and where a formula is evaluated, by reading the token as a double. Both know the
same numbers. To read a token, blanks around it are dropped, and its digits are written in ASCII; a
sign may stand in front, and in other places a single low line between digits would do, but a token
with a low line is refused. The words for infinity and not-a-number are read, but what is read is
not finite, so that these words are no numbers of a formula. A number that is too large is none,
either.

* `Lexeme.value`: what a number in a formula denotes, exactly;
* `readDecimal?_map_foldChar`: with its digits in ASCII, a number is taken apart as it is found;
* `number?_isSome_iff`: the tokens that are numbers.
-/

namespace FormulaSheet

theorem Text.trim_trim (s : List Point) : trim (trim s) = trim s := by
  have hsolid : StartsSolid (trim s) := startsSolid_of_prefix_trim (List.prefix_refl _)
  have hright (t : List Point) : trimRight (trimRight t) = trimRight t := by
    rw [trimRight, trimRight, List.reverse_reverse, List.dropWhile_idempotent]
  rw [trim, trimLeft_of_startsSolid hsolid, trim, hright]

/-! ## The value of a number -/

namespace Lexeme

/-- The power of ten that an exponent stands for; zero if the exponent is missing. -/
def powerValue (power : List Point) : ℤ :=
  let (sign, ds) := sign power.tail
  if sign = [Point.char '-'] then -(Text.ofDigits ds : ℤ) else Text.ofDigits ds

/-- The number of digits behind the point. -/
def places (mantissa : List Point) : ℕ :=
  (mantissa.dropWhile Text.isDecimalDigit).tail.length

/-- **What a number denotes**: its digits as a natural number, times the power of ten that the point
and the exponent make. -/
def value (s : List Point) : ℚ :=
  match mantissa? s with
  | some (mantissa, power) =>
    Text.ofDigits (mantissa.filter Text.isDecimalDigit) *
      10 ^ (powerValue power - places mantissa)
  | none => 0

theorem mantissa?_of_point {s rest : List Point}
    (h : s.dropWhile Text.isDecimalDigit = .char '.' :: rest) : mantissa? s =
      if (s.takeWhile Text.isDecimalDigit).isEmpty && (rest.takeWhile Text.isDecimalDigit).isEmpty
      then none
      else some
        (s.takeWhile Text.isDecimalDigit ++ Point.char '.' :: rest.takeWhile Text.isDecimalDigit,
        rest.dropWhile Text.isDecimalDigit) := by
  simp only [mantissa?, h]

theorem mantissa?_of_no_point {s : List Point}
    (h : ∀ rest, s.dropWhile Text.isDecimalDigit ≠ .char '.' :: rest) : mantissa? s =
      if (s.takeWhile Text.isDecimalDigit).isEmpty then none
      else some (s.takeWhile Text.isDecimalDigit, s.dropWhile Text.isDecimalDigit) := by
  rw [mantissa?]
  split
  · rename_i rest hr
    exact absurd hr (h rest)
  · rfl

theorem number?_eq_self_iff {s : List Point} :
    number? s = some (s, []) ↔ ∃ mantissa power, mantissa? s = some (mantissa, power) ∧
      exponent power = (power, []) := by
  constructor
  · intro h
    obtain ⟨⟨mantissa, power⟩, hm, he⟩ := Option.map_eq_some_iff.1 h
    simp only [Prod.mk.injEq] at he
    have happend := exponent_append power
    rw [he.2, List.append_nil] at happend
    exact ⟨mantissa, power, hm, Prod.ext happend he.2⟩
  · rintro ⟨mantissa, power, hm, he⟩
    simp only [number?, hm, Option.map_some, he, (mantissa?_fits hm).2]

/-- A whole text is an exponent if digits are all that follows its mark and its sign. -/
theorem exponent_eq_self_iff {c : Point} {rest : List Point} :
    exponent (c :: rest) = (c :: rest, []) ↔
      (c = 'e' ∨ c = 'E') ∧ IsRun Text.isDecimalDigit (sign rest).2 := by
  have happend := sign_append rest
  have hsplit := List.takeWhile_append_dropWhile (p := Text.isDecimalDigit) (l := (sign rest).2)
  constructor
  · intro h
    simp only [exponent] at h
    split at h
    · rename_i hc
      simp only [Bool.and_eq_true, Bool.or_eq_true, beq_iff_eq, Bool.not_eq_true',
        List.isEmpty_eq_false_iff] at hc
      rw [(Prod.mk.inj h).2, List.append_nil] at hsplit
      exact ⟨hc.1, hsplit ▸ isRun_takeWhile hc.2⟩
    · exact absurd (Prod.mk.inj h).1.symm (List.cons_ne_nil _ _)
  · rintro ⟨hc, hd⟩
    have hmark : (c == 'e' || c == 'E') = true := by simpa using hc
    have htake := List.takeWhile_eq_self_iff.2 hd.2
    have hdrop := List.dropWhile_eq_nil_iff.2 hd.2
    simp only [exponent, htake, hdrop, hmark, List.isEmpty_eq_false_iff.2 hd.1, Bool.not_false,
      Bool.and_self, if_true, List.cons_append, happend]

theorem isNumber_of_number? {s : List Point} (h : number? s = some (s, [])) : IsNumber s :=
  fits_of_ofKind? (show Lexeme.ofKind? .number s = some (s, []) from h)

theorem IsNumber.not_mem_line {s : List Point} (h : IsNumber s) : .char '_' ∉ s := by
  intro hc
  rcases h.mem hc with hd | hm
  · exact absurd hd (by decide)
  · exact absurd hm (by decide)

/-- A number starts with a digit or a point. -/
theorem IsNumber.exists_cons {s : List Point} (h : IsNumber s) :
    ∃ c rest, s = c :: rest ∧ (Text.isDecimalDigit c = true ∨ c = '.') := by
  obtain ⟨mantissa, power, hm, -, rfl⟩ := h
  obtain ⟨c, rest, rfl⟩ : ∃ c rest, mantissa = c :: rest := by
    refine List.exists_cons_of_ne_nil ?_
    cases hm with
    | whole hd => exact hd.1
    | pointed => exact List.append_ne_nil_of_right_ne_nil _ (List.cons_ne_nil _ _)
  exact ⟨c, rest ++ power, rfl, hm.mem List.mem_cons_self⟩

theorem sign_cases (s : List Point) :
    (sign s).1 = [] ∨ (sign s).1 = [Point.char '+'] ∨ (sign s).1 = [Point.char '-'] := by
  unfold sign
  split
  · exact .inr (.inl rfl)
  · exact .inr (.inr rfl)
  · exact .inl rfl

/-- A sign in front of a number is found. -/
theorem sign_append_number {sg s : List Point}
    (hsg : sg = [] ∨ sg = [Point.char '+'] ∨ sg = [Point.char '-'])
    (h : IsNumber s) : sign (sg ++ s) = (sg, s) := by
  rcases hsg with rfl | rfl | rfl
  · obtain ⟨c, rest, rfl, hc⟩ := h.exists_cons
    rw [List.nil_append]
    unfold sign
    split
    · rename_i he
      cases he
      exact absurd hc (by decide)
    · rename_i he
      cases he
      exact absurd hc (by decide)
    · rfl
  · rfl
  · rfl

end Lexeme

/-! ## Digits in ASCII -/

namespace Number

theorem isAsciiDigit_comp_foldChar : isAsciiDigit ∘ foldChar = Text.isDecimalDigit :=
  funext isAsciiDigit_foldChar

theorem takeWhile_map_foldChar (s : List Point) :
    (s.map foldChar).takeWhile isAsciiDigit = (s.takeWhile Text.isDecimalDigit).map foldChar := by
  rw [List.takeWhile_map, isAsciiDigit_comp_foldChar]

theorem dropWhile_map_foldChar (s : List Point) :
    (s.map foldChar).dropWhile isAsciiDigit = (s.dropWhile Text.isDecimalDigit).map foldChar := by
  rw [List.dropWhile_map, isAsciiDigit_comp_foldChar]

theorem isMark_of_mem {x : Point}
    (h : x ∈ [Point.char '.', .char 'e', .char 'E', .char '+', .char '-', .char '_']) :
    IsMark x := by
  simp only [List.mem_cons, List.not_mem_nil, or_false] at h
  rcases h with rfl | rfl | rfl | rfl | rfl | rfl <;> exact ⟨by decide, by decide, by decide⟩

/-- The sign is found as it stands. -/
theorem takeSign_map_foldChar (s : List Point) :
    takeSign (s.map foldChar) =
      (decide ((Lexeme.sign s).1 = [Point.char '-']), (Lexeme.sign s).2.map foldChar) := by
  cases s with
  | nil => rfl
  | cons c s =>
    by_cases hp : c = '+'
    · rw [hp]
      rfl
    by_cases hm : c = '-'
    · rw [hm]
      rfl
    have hsign : Lexeme.sign (c :: s) = ([], c :: s) := by
      unfold Lexeme.sign
      split <;> simp_all
    rw [hsign, List.map_cons]
    unfold takeSign
    split
    · rename_i he
      exact absurd ((foldChar_eq_iff (isMark_of_mem (by decide))).1 (List.cons.inj he).1) hm
    · rename_i he
      exact absurd ((foldChar_eq_iff (isMark_of_mem (by decide))).1 (List.cons.inj he).1) hp
    · rfl

/-- An exponent is read if it is found and nothing follows it. -/
theorem readExponent?_map_foldChar (power : List Point) : readExponent? (power.map foldChar) =
    if Lexeme.exponent power = (power, []) then some (Lexeme.powerValue power) else none := by
  cases power with
  | nil => rfl
  | cons c rest =>
    have hmark : (decide (foldChar c = 'e') || decide (foldChar c = 'E')) =
        decide (c = 'e' ∨ c = 'E') := by
      rw [Bool.decide_or]
      simp only [foldChar_eq_iff (isMark_of_mem (x := 'e') (by decide)),
        foldChar_eq_iff (isMark_of_mem (x := 'E') (by decide))]
    have hall : ((Lexeme.sign rest).2.map foldChar).all isAsciiDigit =
        (Lexeme.sign rest).2.all Text.isDecimalDigit := by
      rw [List.all_map, isAsciiDigit_comp_foldChar]
    rw [List.map_cons, readExponent?, takeSign_map_foldChar, hmark]
    simp only [hall, List.isEmpty_map, decide_eq_true_eq]
    by_cases h : Lexeme.exponent (c :: rest) = (c :: rest, [])
    · obtain ⟨hc, hne, hd⟩ := Lexeme.exponent_eq_self_iff.1 h
      have hkeep : ((Lexeme.sign rest).2.isEmpty ||
          !(Lexeme.sign rest).2.all Text.isDecimalDigit) = false := by
        simp [hne, List.all_eq_true.2 hd]
      rw [if_pos h, if_pos hc, hkeep, ofDecimal_map_foldChar hd]
      rfl
    · rw [if_neg h]
      split
      · rename_i hc
        have hdrop : ((Lexeme.sign rest).2.isEmpty ||
            !(Lexeme.sign rest).2.all Text.isDecimalDigit) = true := by
          by_contra hn
          simp only [Bool.or_eq_true, List.isEmpty_iff, Bool.not_eq_true', Bool.eq_false_iff, Ne,
            not_or, not_not, List.all_eq_true] at hn
          exact h (Lexeme.exponent_eq_self_iff.2 ⟨hc, hn⟩)
        rw [if_pos hdrop]
      · rfl

/-- The fraction is found as it stands. -/
theorem takeFraction_map_foldChar_point (s : List Point) :
    takeFraction ((.char '.' :: s).map foldChar) =
      ((s.takeWhile Text.isDecimalDigit).map foldChar,
        (s.dropWhile Text.isDecimalDigit).map foldChar) := by
  rw [← takeWhile_map_foldChar, ← dropWhile_map_foldChar]
  rfl

theorem takeFraction_map_foldChar {s : List Point} (h : ∀ rest, s ≠ .char '.' :: rest) :
    takeFraction (s.map foldChar) = ([], s.map foldChar) := by
  unfold takeFraction
  split
  · rename_i he
    cases s with
    | nil => cases he
    | cons c s =>
      rw [(foldChar_eq_iff (isMark_of_mem (by decide))).1 (List.cons.inj he).1] at h
      exact absurd rfl (h s)
  · rfl

theorem filter_digits {ds : List Point} (h : ∀ c ∈ ds, Text.isDecimalDigit c = true) :
    ds.filter Text.isDecimalDigit = ds :=
  List.filter_eq_self.2 h

/-- **With its digits in ASCII** a number is taken apart as it is found. -/
theorem readDecimal?_map_foldChar (negative : Bool) (s : List Point) :
    readDecimal? negative (s.map foldChar) =
      (Lexeme.mantissa? s).bind fun (mantissa, power) =>
        (readExponent? (power.map foldChar)).map fun e =>
          ⟨negative, Text.ofDigits (mantissa.filter Text.isDecimalDigit),
            e - Lexeme.places mantissa⟩ := by
  have hw : ∀ c ∈ s.takeWhile Text.isDecimalDigit, Text.isDecimalDigit c = true :=
    List.all_eq_true.1 List.all_takeWhile
  by_cases hpoint : ∃ rest, s.dropWhile Text.isDecimalDigit = .char '.' :: rest
  · obtain ⟨rest, hr⟩ := hpoint
    have hf : ∀ c ∈ rest.takeWhile Text.isDecimalDigit, Text.isDecimalDigit c = true :=
      List.all_eq_true.1 List.all_takeWhile
    rw [readDecimal?, takeWhile_map_foldChar, dropWhile_map_foldChar, hr,
      takeFraction_map_foldChar_point, Lexeme.mantissa?_of_point hr]
    generalize s.takeWhile Text.isDecimalDigit = whole at hw
    generalize rest.takeWhile Text.isDecimalDigit = fraction at hf
    have hfilter :
        (whole ++ Point.char '.' :: fraction).filter Text.isDecimalDigit = whole ++ fraction := by
      rw [List.filter_append, filter_digits hw, List.filter_cons_of_neg (by decide),
        filter_digits hf]
    have hplaces : Lexeme.places (whole ++ Point.char '.' :: fraction) = fraction.length := by
      rw [Lexeme.places, List.dropWhile_append_of_pos hw, List.dropWhile_cons_of_neg (by decide),
        List.tail_cons]
    have hdigits : ∀ c ∈ whole ++ fraction, Text.isDecimalDigit c = true := fun c hc =>
      (List.mem_append.1 hc).elim (hw c) (hf c)
    simp only [List.isEmpty_map, List.length_map, ← List.map_append]
    split
    · rfl
    · simp only [Option.bind_some, hfilter, hplaces, ofDecimal_map_foldChar hdigits]
      exact (Option.map_eq_bind ..).symm
  · rw [not_exists] at hpoint
    rw [readDecimal?, takeWhile_map_foldChar, dropWhile_map_foldChar,
      takeFraction_map_foldChar hpoint, Lexeme.mantissa?_of_no_point hpoint]
    generalize s.takeWhile Text.isDecimalDigit = whole at hw
    have hplaces : Lexeme.places whole = 0 := by
      rw [Lexeme.places, List.dropWhile_eq_nil_iff.2 hw]
      rfl
    simp only [List.isEmpty_map, List.isEmpty_nil, Bool.and_true, List.append_nil]
    split
    · rfl
    · simp only [Option.bind_some, filter_digits hw, hplaces, ofDecimal_map_foldChar hw]
      exact (Option.map_eq_bind ..).symm

/-- **A number with a finite double** is one that is found and is small enough. -/
theorem isSome_readDecimal? (negative : Bool) (s : List Point) :
    (((readDecimal? negative (s.map foldChar)).map Decimal.toFloat).filter Float.isFinite).isSome
        = true ↔
      Lexeme.number? s = some (s, []) ∧ Lexeme.value s < Binary64.overflow := by
  rw [readDecimal?_map_foldChar, Lexeme.number?_eq_self_iff, Lexeme.value]
  cases Lexeme.mantissa? s with
  | none => simp
  | some parts =>
    obtain ⟨mantissa, power⟩ := parts
    simp only [Option.bind_some, readExponent?_map_foldChar]
    by_cases he : Lexeme.exponent power = (power, [])
    · simp [he, Option.filter_some, apply_ite Option.isSome, Decimal.isFinite_toFloat, Decimal.size]
    · simp [he]

/-- No number is one of the words that are read as doubles. -/
theorem map_lowerAscii_ne {s w : List Point} {c : Point} (h : Lexeme.IsNumber s)
    (hd : isAsciiDigit c = false) (hc : c ≠ '.') : (s.map foldChar).map lowerAscii ≠ c :: w := by
  obtain ⟨x, rest, rfl, hx⟩ := h.exists_cons
  intro he
  have hhead : lowerAscii (foldChar x) = c := (List.cons.inj he).1
  rcases hx with hx | rfl
  · rw [← isAsciiDigit_foldChar] at hx
    rw [lowerAscii_of_isAsciiDigit hx] at hhead
    rw [hhead, hd] at hx
    cases hx
  · exact hc hhead.symm

/-- **What is read without low lines** is finite exactly if it is a number behind its sign. -/
theorem isSome_readNumeral? {s : List Point} (h : .char '_' ∉ s) :
    (((readNumeral? (s.map foldChar)).map Numeral.toFloat).filter Float.isFinite).isSome = true ↔
      Lexeme.number? (Lexeme.sign s).2 = some ((Lexeme.sign s).2, []) ∧
        Lexeme.value (Lexeme.sign s).2 < Binary64.overflow := by
  have hline : .char '_' ∉ s.map foldChar := by
    intro hm
    obtain ⟨c, hc, hf⟩ := List.mem_map.1 hm
    rw [(foldChar_eq_iff (isMark_of_mem (by decide))).1 hf] at hc
    exact h hc
  rw [readNumeral?, dropSeparators_of_not_mem hline (by simp)]
  simp only [Option.bind_eq_bind, Option.bind_some, takeSign_map_foldChar]
  generalize (Lexeme.sign s).2 = rest
  split
  · rename_i hword
    simp only [Bool.or_eq_true, decide_eq_true_eq] at hword
    refine iff_of_false ?_ fun hn => ?_
    · rw [Option.map_some, Option.filter_some, Numeral.toFloat, if_neg]
      · exact Bool.false_ne_true
      · apply Binary64.not_isFinite_nearest
        exact Nat.le_refl 1024
    · have hnumber := Lexeme.isNumber_of_number? hn.1
      exact hword.elim (map_lowerAscii_ne hnumber (by decide) (by decide))
        (map_lowerAscii_ne hnumber (by decide) (by decide))
  · split
    · rename_i hword
      refine iff_of_false ?_ fun hn => ?_
      · have hnan : (0.0 / 0.0 : Float).isFinite = false := rfl
        simp [Numeral.toFloat, Option.filter_some, hnan]
      · exact map_lowerAscii_ne (Lexeme.isNumber_of_number? hn.1) (by decide) (by decide) hword
    · rw [Option.map_map]
      exact isSome_readDecimal? _ rest

end Number

/-- **The tokens that are numbers**: behind an optional sign, what is found as a number and is small
enough for a finite double. -/
theorem Token.number?_isSome_iff (token : Text) : (number? false token).isSome = true ↔
    ∃ sign s, Text.trim token.toList = sign ++ s ∧
      (sign = [] ∨ sign = [Point.char '+'] ∨ sign = [Point.char '-']) ∧
      Lexeme.number? s = some (s, []) ∧
      Lexeme.value s < Binary64.overflow := by
  have hnormal := Number.normalize_eq_map (Text.trim_trim token.toList)
  rw [number?]
  generalize Text.trim token.toList = t at hnormal
  -- whatever sign stands in front, it is the one that is found
  have hsign :
      (∃ sign s, t = sign ++ s ∧ (sign = [] ∨ sign = [Point.char '+'] ∨ sign = [Point.char '-']) ∧
      Lexeme.number? s = some (s, []) ∧ Lexeme.value s < Binary64.overflow) ↔
      Lexeme.number? (Lexeme.sign t).2 = some ((Lexeme.sign t).2, []) ∧
        Lexeme.value (Lexeme.sign t).2 < Binary64.overflow := by
    constructor
    · rintro ⟨sign, s, rfl, hs, hn, hv⟩
      rw [Lexeme.sign_append_number hs (Lexeme.isNumber_of_number? hn)]
      exact ⟨hn, hv⟩
    · rintro ⟨hn, hv⟩
      exact ⟨_, _, (Lexeme.sign_append t).symm, Lexeme.sign_cases t, hn, hv⟩
  rw [hsign]
  by_cases hempty : t = []
  · subst hempty
    simp [Lexeme.sign, Lexeme.number?, Lexeme.mantissa?]
  by_cases hline : .char '_' ∈ t
  · refine iff_of_false ?_ fun hn => ?_
    · simp [hempty, hline]
    · have hrest := (Lexeme.isNumber_of_number? hn.1).not_mem_line
      rw [← Lexeme.sign_append t] at hline
      rcases List.mem_append.1 hline with hs | hs
      · rcases Lexeme.sign_cases t with he | he | he <;> simp [he] at hs
      · exact hrest hs
  · rw [← Number.isSome_readNumeral? hline, ← hnormal]
    simp [hempty, hline, Number.floatOfText?]

end FormulaSheet
