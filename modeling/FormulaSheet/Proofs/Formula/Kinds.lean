import FormulaSheet.Proofs.Formula.Display
import FormulaSheet.Proofs.Formula.Numeral
import FormulaSheet.Proofs.Label.Column

/-!
# The kinds of tokens

The kind of a lexeme is forgotten when the lexeme becomes a token, and what a token is, is asked of
its text again. The answers are those that the kind leads one to expect: each lexeme starts in a way
that no lexeme of another kind does, or else one of the kinds is tried before the other.

* `number?_eq_none_of_start`: what starts with neither a digit, a point nor a sign is no number;
* `isLabel_append_iff`: when letters and digits are a label;
* `agrees_of_isFirst`: the questions asked about a token are answered by the kind of its lexeme;
* `Formula.kinds_agree`: numbers, kinds of tokens and labels.
-/

namespace FormulaSheet

/-! ## Labels -/

namespace Label

/-- A label starts with a capital. -/
theorem exists_capital_of_isLabel {text : Text} (h : isLabel text = true) :
    ∃ c rest, text.toList = c :: rest ∧ isCapital c = true := by
  obtain ⟨c, letters, -, hc, -, -, -, he⟩ := exists_of_isLabel h
  rcases eq_or_eq_append_dropFinalLineFeed text.toList with ht | ht
  · exact ⟨c, letters, ht.trans he, hc⟩
  · exact ⟨c, letters ++ [Point.char '\n'], by rw [ht, he, List.cons_append], hc⟩

theorem isLabel_eq_false_of_start {text : Text} {c : Point} {rest : List Point}
    (ht : text.toList = c :: rest) (hc : isCapital c = false) : isLabel text = false := by
  rw [Bool.eq_false_iff]
  intro h
  obtain ⟨d, rest', hd, hcapital⟩ := exists_capital_of_isLabel h
  rw [ht, List.cons.injEq] at hd
  rw [← hd.1, hc] at hcapital
  cases hcapital

/-- Digits are a row number if they start with no zero. -/
theorem isRowNumber_iff {digits : List Point} (hne : digits ≠ [])
    (hd : ∀ c ∈ digits, Number.isAsciiDigit c = true) :
    isRowNumber digits = true ↔ digits.head? ≠ some (.char '0') := by
  cases digits with
  | nil => exact absurd rfl hne
  | cons c digits =>
    have hc := hd c List.mem_cons_self
    have hall : digits.all Number.isAsciiDigit = true :=
      List.all_eq_true.2 fun x hx => hd x (List.mem_cons_of_mem c hx)
    have hzero : c = '0' ↔ c.toNat = 0x30 := by
      rw [← Point.toNat_inj]
      rfl
    rw [Number.isAsciiDigit_iff] at hc
    simp only [isRowNumber, hall, Bool.and_true, Bool.and_eq_true, decide_eq_true_eq, Point.le_def,
      List.head?_cons, Ne, Option.some.injEq, hzero]
    change 0x31 ≤ c.toNat ∧ c.toNat ≤ 0x39 ↔ _
    omega

/-- **Letters and digits** are a label if the digits start with no zero. -/
theorem isLabel_append_iff {letters digits : List Point} (hl : IsColumn letters)
    (hne : digits ≠ []) (hd : ∀ c ∈ digits, Number.isAsciiDigit c = true) :
    isLabel (Text.ofList (letters ++ digits)) = true ↔ digits.head? ≠ some (.char '0') := by
  rw [← isRowNumber_iff hne hd, isLabel, split?_append_digits hl hne hd]
  cases isRowNumber digits <;> simp

/-- **Whatever is no label** is reported as such, and nothing else is. -/
theorem isLabel_iff_position {text : Text} :
    isLabel text = true ↔ ∀ e, position text ≠ .error (.label e) := by
  rw [isLabel, Option.isSome_iff_ne_none]
  constructor
  · intro h e he
    rcases position_eq_error he with ⟨hs, -⟩ | ⟨letters, row, -, -, hf⟩
    · exact h hs
    · cases hf
  · intro h hs
    refine h ⟨text, ""⟩ ?_
    rw [position, hs]

end Label

/-! ## Numbers -/

theorem Text.isDecimalDigit_eq_false {c : Point} (h : c.toNat < 0x7F)
    (hd : Number.isAsciiDigit c = false) : isDecimalDigit c = false := by
  rw [isDecimalDigit, digitValue?_of_ascii h, hd]
  rfl

namespace Token

theorem number?_eq_of_trim {blankIsZero : Bool} {token : Text}
    (h : Text.trim token.toList ≠ []) : number? blankIsZero token = number? false token := by
  rw [number?, number?]
  simp only [List.isEmpty_iff, h, if_false]

/-- The number that is read starts with a digit, a point or a sign. -/
theorem number?_eq_none_of_start {blankIsZero : Bool} {token : Text} {c : Point}
    {rest : List Point} (ht : Text.trim token.toList = c :: rest)
    (hd : Text.isDecimalDigit c = false) (hc : c ∉ [Point.char '.', .char '+', .char '-']) :
    number? blankIsZero token = none := by
  rw [number?_eq_of_trim (ht ▸ List.cons_ne_nil c rest), ← Option.not_isSome_iff_eq_none,
    number?_isSome_iff, ht]
  rintro ⟨sign, s, he, hs, hn, -⟩
  rcases hs with rfl | rfl | rfl
  · obtain ⟨d, tail, rfl, hstart⟩ := (Lexeme.isNumber_of_number? hn).exists_cons
    obtain ⟨rfl, -⟩ := List.cons.inj he
    rcases hstart with hstart | rfl
    · rw [hd] at hstart
      cases hstart
    · exact hc (by decide)
  · obtain ⟨rfl, -⟩ := List.cons.inj he
    exact hc (by decide)
  · obtain ⟨rfl, -⟩ := List.cons.inj he
    exact hc (by decide)

theorem isOperator_eq_false_of_start {token : Text} {c : Point} {rest : List Point}
    (ht : token.toList = c :: rest) (hc : c ∉ [Point.char '+', .char '-', .char '*', .char '/']) :
    isOperator token = false := by
  rw [Bool.eq_false_iff]
  intro h
  simp only [isOperator, isAdditive, isMultiplicative, Bool.or_eq_true, beq_iff_eq] at h
  rcases h with (rfl | rfl) | (rfl | rfl) <;>
  · obtain ⟨rfl, -⟩ := List.cons.inj ht
    exact hc (by decide)

end Token

/-! ## Lexemes and their tokens -/

namespace Lexeme

/-- **The answers that a kind leads one to expect.** A cell is no number, and a label if its row has
no zero in front; a number is one unless it is too large, and no label; a word is neither, and so is
a symbol, and only symbols are operators. -/
def Agrees (l : Lexeme) : Prop :=
  match l.kind with
  | .cell => (∀ blankIsZero, Token.number? blankIsZero l.token = none) ∧
      (Label.isLabel l.token = true ↔ (l.chars.dropWhile isLetter).head? ≠ some (.char '0')) ∧
      Token.isOperator l.token = false
  | .number => (∀ blankIsZero, (Token.number? blankIsZero l.token).isSome = true ↔
        value l.chars < Binary64.overflow) ∧
      Label.isLabel l.token = false ∧ Token.isOperator l.token = false
  | .word => (∀ blankIsZero, Token.number? blankIsZero l.token = none) ∧
      Label.isLabel l.token = false ∧ Token.isOperator l.token = false
  | .symbol => (∀ blankIsZero, Token.number? blankIsZero l.token = none) ∧
      Label.isLabel l.token = false

theorem IsNumber.number?_eq {s : List Point} (h : IsNumber s) : number? s = some (s, []) := by
  change ofKind? .number s = _
  exact ofKind?_eq_some_iff.2 ⟨List.append_nil s, List.prefix_rfl, h, fun _ ho _ => ho.length_le⟩

theorem trim_of_fits {kind : LexemeKind} {chars : List Point} (h : kind.Fits chars) :
    Text.trim chars = chars :=
  Text.trim_eq_self fun _ hc => not_isBlank_of_fits h hc

/-- What starts a word starts no number and is no operator. -/
theorem not_mark_of_startsWord {c : Point} (h : startsWord c = true) :
    Text.isDecimalDigit c = false ∧
      c ∉ [Point.char '.', .char '+', .char '-', .char '*', .char '/'] := by
  have hbounds : 0x41 ≤ c.toNat ∧ c.toNat ≤ 0x7A := by
    rw [startsWord, Bool.or_eq_true, isLetter_iff, beq_iff_eq] at h
    rcases h with h | rfl
    · omega
    · decide
  refine ⟨Text.isDecimalDigit_eq_false (by omega) ?_, fun hc => ?_⟩
  · rw [Bool.eq_false_iff, Ne, Number.isAsciiDigit_iff]
    omega
  · simp only [List.mem_cons, List.not_mem_nil, or_false] at hc
    rcases hc with rfl | rfl | rfl | rfl | rfl <;> exact absurd hbounds.1 (by decide)

/-- A token that starts like a word is neither a number nor an operator. -/
theorem number?_isOperator_of_startsWord {token : Text} {c : Point} {rest : List Point}
    (hc : startsWord c = true) (htrim : Text.trim token.toList = token.toList)
    (ht : token.toList = c :: rest) :
    (∀ blankIsZero, Token.number? blankIsZero token = none) ∧ Token.isOperator token = false := by
  obtain ⟨hd, hm⟩ := not_mark_of_startsWord hc
  refine ⟨fun b => Token.number?_eq_none_of_start (htrim.trans ht) hd fun h => hm ?_,
    Token.isOperator_eq_false_of_start ht fun h => hm ?_⟩
  · simp only [List.mem_cons, List.not_mem_nil, or_false] at h ⊢
    rcases h with h | h | h <;> simp [h]
  · exact List.mem_cons_of_mem _ h

theorem agrees_of_cell {chars : List Point} (h : IsCell chars) : Agrees ⟨.cell, chars⟩ := by
  obtain ⟨letters, digits, hl, hd, hdigits, htoken⟩ := h.exists_upper
  have hspelling : ∀ c ∈ letters ++ digits, Text.isBlank c = false := by
    intro c hc
    rcases List.mem_append.1 hc with hc | hc
    · exact not_isBlank_of_isLetter (isLetter_of_isCapital (hl.2 c hc))
    · exact not_isBlank_of_isAsciiDigit (hd.2 c hc)
  have hlabel := Label.isLabel_append_iff hl hd.1 hd.2
  obtain ⟨c, rest, rfl⟩ := List.exists_cons_of_ne_nil hl.1
  have hstart : startsWord c = true := by
    rw [startsWord, isLetter_of_isCapital (hl.2 c List.mem_cons_self), Bool.true_or]
  have htrim : Text.trim (Text.ofList (c :: rest ++ digits)).toList =
      (Text.ofList (c :: rest ++ digits)).toList := by
    rw [Text.toList_ofList, Text.trim_eq_self hspelling]
  obtain ⟨hnumber, hoperator⟩ :=
    number?_isOperator_of_startsWord hstart htrim Text.toList_ofList
  simp only [Agrees, token, htoken, hdigits]
  exact ⟨hnumber, hlabel, hoperator⟩

theorem agrees_of_number {chars : List Point} (h : IsNumber chars) : Agrees ⟨.number, chars⟩ := by
  have htrim : Text.trim (Text.ofList chars).toList = chars := by
    rw [Text.toList_ofList]
    exact trim_of_fits (show LexemeKind.number.Fits chars from h)
  obtain ⟨c, rest, hcons, hc⟩ := h.exists_cons
  have ht : (Text.ofList chars).toList = c :: rest := Text.toList_ofList.trans hcons
  have hne : Text.trim (Text.ofList chars).toList ≠ [] := by
    rw [htrim, hcons]
    exact List.cons_ne_nil c rest
  simp only [Agrees, token]
  refine ⟨fun b => ?_, ?_, ?_⟩
  · rw [Token.number?_eq_of_trim hne, Token.number?_isSome_iff, htrim]
    constructor
    · rintro ⟨sign, s, rfl, hs, hn, hv⟩
      -- no sign stands in front of a number that is one by itself
      have hnone := sign_append_number (.inl (Eq.refl [])) h
      rw [List.nil_append, sign_append_number hs (isNumber_of_number? hn), Prod.mk.injEq] at hnone
      rw [hnone.1, List.nil_append]
      exact hv
    · exact fun hv => ⟨[], chars, rfl, .inl rfl, h.number?_eq, hv⟩
  · refine Label.isLabel_eq_false_of_start ht ?_
    rw [Bool.eq_false_iff]
    intro hcapital
    have hstart : startsWord c = true := by
      rw [startsWord, isLetter_of_isCapital hcapital, Bool.true_or]
    obtain ⟨hd, hm⟩ := not_mark_of_startsWord hstart
    rcases hc with hc | rfl
    · rw [hd] at hc
      cases hc
    · exact hm (by decide)
  · refine Token.isOperator_eq_false_of_start ht fun hm => ?_
    simp only [List.mem_cons, List.not_mem_nil, or_false] at hm
    rcases hm with rfl | rfl | rfl | rfl <;> exact absurd hc (by decide)

theorem agrees_of_word {chars s : List Point} (h : IsFirst ⟨.word, chars⟩ s) :
    Agrees ⟨.word, chars⟩ := by
  obtain ⟨c, rest, hc, hrest, rfl⟩ := h.longest.fits
  have htrim : Text.trim (Text.ofList (c :: rest)).toList = (Text.ofList (c :: rest)).toList := by
    rw [Text.toList_ofList]
    exact trim_of_fits h.longest.fits
  obtain ⟨hnumber, hoperator⟩ := number?_isOperator_of_startsWord hc htrim Text.toList_ofList
  simp only [Agrees, token]
  refine ⟨hnumber, ?_, hoperator⟩
  -- a label in place of the word would have been taken for a cell
  rw [Bool.eq_false_iff]
  intro hlabel
  obtain ⟨letters, row, hsplit⟩ := Label.isLabel_iff_exists_split.1 hlabel
  obtain ⟨hs, hne, hcapital, hrow⟩ := Label.eq_append_of_split? hsplit
  have hdigits := Label.isAsciiDigit_of_isRowNumber hrow
  have hcell : IsCell (letters ++ row) := by
    refine ⟨letters, row, ⟨hne, fun x hx => isLetter_of_isCapital (hcapital x hx)⟩, ⟨?_, hdigits⟩,
      rfl⟩
    rintro rfl
    cases hrow
  have hstarts : letters ++ row <+: c :: rest := by
    rw [← hs, Text.toList_ofList]
    rcases Label.eq_or_eq_append_dropFinalLineFeed (c :: rest) with he | he
    · rw [← he]
    · exact ⟨[Point.char '\n'], he.symm⟩
  exact h.first .cell Nat.two_pos _ (hstarts.trans h.longest.starts) hcell

theorem agrees_of_symbol {chars : List Point} (h : IsSymbol chars) : Agrees ⟨.symbol, chars⟩ := by
  have htrim : Text.trim (Text.ofList chars).toList = chars := by
    rw [Text.toList_ofList]
    exact trim_of_fits (show LexemeKind.symbol.Fits chars from h)
  obtain ⟨c, hc, rfl⟩ := h
  have hne : Text.trim (Text.ofList [c]).toList ≠ [] := by
    rw [htrim]
    exact List.cons_ne_nil c []
  simp only [isSymbol, Bool.or_eq_true, beq_iff_eq] at hc
  simp only [Agrees, token]
  refine ⟨fun b => ?_, Label.isLabel_eq_false_of_start (c := c) Text.toList_ofList ?_⟩
  · rw [Token.number?_eq_of_trim hne, ← Option.not_isSome_iff_eq_none, Token.number?_isSome_iff,
      htrim]
    rintro ⟨sign, s, he, -, hn, -⟩
    -- the symbol would be all of the number
    obtain ⟨d, rest, rfl, hd⟩ := (isNumber_of_number? hn).exists_cons
    rcases List.append_eq_singleton_iff.1 he.symm with ⟨-, he⟩ | ⟨-, he⟩
    · obtain ⟨rfl, -⟩ := List.cons.inj he
      rcases hc with ((((rfl | rfl) | rfl) | rfl) | rfl) | rfl <;> exact absurd hd (by decide)
    · cases he
  · rcases hc with ((((rfl | rfl) | rfl) | rfl) | rfl) | rfl <;> decide

/-- **The questions asked about a token** are answered by the kind of its lexeme. -/
theorem agrees_of_isFirst {l : Lexeme} {s : List Point} (h : l.IsFirst s) : l.Agrees := by
  obtain ⟨kind, chars⟩ := l
  cases kind with
  | cell => exact agrees_of_cell h.longest.fits
  | number => exact agrees_of_number h.longest.fits
  | word => exact agrees_of_word h
  | symbol => exact agrees_of_symbol h.longest.fits

end Lexeme

/-- **Numbers, kinds of tokens and labels.** A text is a number exactly if, without the blanks
around it and behind an optional sign, it is all of a number as a formula has it, and its exact
value is near enough to a finite double. The tokens of every text that can be split answer as the
kinds of their lexemes lead one to expect. A text is a label exactly if looking for its position
does not report that it is none. -/
theorem Formula.kinds_agree :
    (∀ token : Text, (Token.number? false token).isSome = true ↔
      ∃ sign s, Text.trim token.toList = sign ++ s ∧
        (sign = [] ∨ sign = [Point.char '+'] ∨ sign = [Point.char '-']) ∧
        Lexeme.number? s = some (s, []) ∧
        Lexeme.value s < Binary64.overflow) ∧
    (∀ (text : Text) (tokens : List Text), tokenize text = .ok tokens →
      ∃ ls, Lexeme.Splits (body text) ls [] ∧ ls.map Lexeme.token = tokens ∧
        ∀ l ∈ ls, l.Agrees) ∧
    ∀ s : Text, Label.isLabel s = true ↔ ∀ e, Label.position s ≠ .error (.label e) := by
  refine ⟨Token.number?_isSome_iff, fun text tokens h => ?_, fun s => Label.isLabel_iff_position⟩
  obtain ⟨ls, hs, ht⟩ := tokenize_eq_ok_iff.1 h
  refine ⟨ls, hs, ht, fun l hl => ?_⟩
  obtain ⟨s, hfirst⟩ := hs.exists_isFirst l hl
  exact Lexeme.agrees_of_isFirst hfirst

/-- A text with tokens of every kind, and a number with blanks around it and a sign. -/
theorem Formula.kinds_agree_of_sum :
    tokenize "inf + a01 - .5e-3" = .ok ["inf", "+", "A01", "-", ".5e-3"] ∧
      (∃ ls : List Lexeme, ls.map Lexeme.token = ["inf", "+", "A01", "-", ".5e-3"] ∧
        ∀ l ∈ ls, l.Agrees) ∧
      (Token.number? false " -7 ").isSome = true := by
  have htokens : tokenize "inf + a01 - .5e-3" = .ok ["inf", "+", "A01", "-", ".5e-3"] := by cbv
  obtain ⟨hnumber, hagree, -⟩ := kinds_agree
  obtain ⟨ls, -, hls, hl⟩ := hagree _ _ htokens
  have hvalue : Lexeme.value [Point.char '7'] < Binary64.overflow := by
    have hmantissa : Lexeme.mantissa? [Point.char '7'] = some ([Point.char '7'], []) := by decide
    have hdigits : Text.ofDigits ([Point.char '7'].filter Text.isDecimalDigit) = 7 := by decide
    have hplaces : Lexeme.powerValue [] - Lexeme.places [Point.char '7'] = 0 := by decide
    have hpower : (1 : ℚ) ≤ 2 ^ 970 := one_le_pow₀ one_le_two
    rw [Lexeme.value, hmantissa]
    calc (Text.ofDigits ([Point.char '7'].filter Text.isDecimalDigit) : ℚ) *
          10 ^ (Lexeme.powerValue [] - Lexeme.places [Point.char '7'])
        < (2 ^ 54 - 1) * 1 := by
          rw [hdigits, hplaces]
          norm_num
      _ ≤ (2 ^ 54 - 1) * 2 ^ 970 := mul_le_mul_of_nonneg_left hpower (by norm_num)
  refine ⟨htokens, ⟨ls, hls, hl⟩,
    (hnumber _).2 ⟨[Point.char '-'], [Point.char '7'], ?_, .inr (.inr rfl), rfl, hvalue⟩⟩
  decide

end FormulaSheet
