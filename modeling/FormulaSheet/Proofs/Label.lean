import FormulaSheet.Formula.Token
import FormulaSheet.Proofs.Text.Digit
import Mathlib.Data.List.TakeWhile

/-!
# Labels and numbers

The evaluation of a formula asks first whether a token is a number, and only then whether it is a
label. Which question comes first does not matter: no label is a number. A number may start with a
letter, since the words for infinity and not-a-number are numbers, but these words have no digits
and a label has one.

* `eq_append_of_split?`, `exists_of_isLabel`: how a label is spelt;
* `number?_eq_none_of_isLabel`: no label is a number.
-/

namespace FormulaSheet

/-! ## Characters -/

theorem Label.isCapital_iff {c : Point} : isCapital c = true ↔ 0x41 ≤ c.toNat ∧ c.toNat ≤ 0x5A := by
  simp only [isCapital, Bool.and_eq_true, decide_eq_true_eq, Point.le_def]
  rfl

/-- Whether the character may stand in a label. -/
def Label.isSpelling (c : Point) : Bool :=
  isCapital c || Number.isAsciiDigit c

namespace Label

theorem isSpelling_bounds {c : Point} (h : isSpelling c = true) :
    0x30 ≤ c.toNat ∧ c.toNat ≤ 0x5A := by
  rw [isSpelling, Bool.or_eq_true, isCapital_iff, Number.isAsciiDigit_iff] at h
  omega

theorem not_blank_of_isSpelling {c : Point} (h : isSpelling c = true) : Text.isBlank c = false := by
  have hb := isSpelling_bounds h
  simp only [Text.isBlank, Bool.or_eq_false_iff, Bool.and_eq_false_iff, decide_eq_false_iff_not,
    beq_eq_false_iff_ne]
  omega

theorem not_asciiBlank_of_isSpelling {c : Point} (h : isSpelling c = true) :
    Number.isAsciiBlank c = false := by
  have hb := isSpelling_bounds h
  have hn : ¬ c ≤ '\r' := by
    simp only [Point.le_def]
    change ¬ c.toNat ≤ 0x0D
    omega
  have hs : c ≠ ' ' := by
    rintro rfl
    exact absurd hb.1 (by decide)
  simp [Number.isAsciiBlank, hn, hs]

theorem foldChar_of_isSpelling {c : Point} (h : isSpelling c = true) : Number.foldChar c = c := by
  have hb := isSpelling_bounds h
  rw [Number.foldChar, if_pos (by omega)]

theorem ne_line_of_isSpelling {c : Point} (h : isSpelling c = true) : c ≠ '_' := by
  rintro rfl
  exact absurd (isSpelling_bounds h).2 (by decide)

/-! ## Spelling -/

theorem dropWhile_of_isSpelling {p : Point → Bool} (hp : ∀ x, isSpelling x = true → p x = false)
    {s : List Point} (h : ∀ x ∈ s, isSpelling x = true) : s.dropWhile p = s := by
  rw [List.dropWhile_eq_self_iff]
  intro hl
  rw [hp _ (h _ (List.getElem_mem hl))]
  exact Bool.false_ne_true

theorem isAsciiDigit_of_isRowNumber {row : List Point} (h : isRowNumber row = true) :
    ∀ c ∈ row, Number.isAsciiDigit c = true := by
  cases row with
  | nil => cases h
  | cons c ds =>
    simp only [isRowNumber, Bool.and_eq_true, decide_eq_true_eq] at h
    intro x hx
    rcases List.mem_cons.1 hx with rfl | hx
    · have h0 : '0' ≤ x := Nat.le_trans (by decide : Point.toNat '0' ≤ Point.toNat '1') h.1.1
      simp [Number.isAsciiDigit, h0, h.1.2]
    · exact List.all_eq_true.1 h.2 x hx

/-- The parts of a label are what it is spelt with. -/
theorem eq_append_of_split? {label : Text} {letters row : List Point}
    (h : split? label = some (letters, row)) :
    dropFinalLineFeed label.toList = letters ++ row ∧ letters ≠ [] ∧
      (∀ c ∈ letters, isCapital c = true) ∧ isRowNumber row = true := by
  simp only [split?, Option.ite_none_right_eq_some, Bool.and_eq_true, Bool.not_eq_true',
    List.isEmpty_eq_false_iff, Option.some.injEq, Prod.mk.injEq] at h
  obtain ⟨⟨hn, hr⟩, hl, hrow⟩ := h
  have hs := List.takeWhile_append_dropWhile (p := isCapital) (l := dropFinalLineFeed label.toList)
  have hc : ∀ c ∈ (dropFinalLineFeed label.toList).takeWhile isCapital, isCapital c = true :=
    List.all_eq_true.1 List.all_takeWhile
  rw [hl] at hn hs hc
  rw [hrow] at hr hs
  exact ⟨hs.symm, hn, hc, hr⟩

/-- **How a label is spelt**: capital letters, then digits. -/
theorem exists_of_isLabel {text : Text} (h : isLabel text = true) :
    ∃ c letters d, isCapital c = true ∧ Number.isAsciiDigit d = true ∧ d ∈ letters ∧
      (∀ x ∈ c :: letters, isSpelling x = true) ∧ dropFinalLineFeed text.toList = c :: letters := by
  obtain ⟨letters, row, hsplit⟩ := isLabel_iff_exists_split.1 h
  obtain ⟨hs, hn, hc, hr⟩ := eq_append_of_split? hsplit
  have hd := isAsciiDigit_of_isRowNumber hr
  cases letters with
  | nil => exact absurd rfl hn
  | cons c letters =>
    cases row with
    | nil => cases hr
    | cons d digits =>
      refine ⟨c, letters ++ d :: digits, d, hc c List.mem_cons_self, hd d List.mem_cons_self,
        List.mem_append_right _ List.mem_cons_self, fun x hx => ?_, hs⟩
      rw [← List.cons_append, List.mem_append] at hx
      rw [isSpelling, Bool.or_eq_true]
      exact hx.imp (hc x) (hd x)

theorem eq_or_eq_append_dropFinalLineFeed (text : List Point) :
    text = dropFinalLineFeed text ∨ text = dropFinalLineFeed text ++ [Point.char '\n'] := by
  rw [dropFinalLineFeed]
  split
  · rename_i h
    refine .inr ?_
    rw [List.getLast?_eq_some_iff] at h
    obtain ⟨init, rfl⟩ := h
    rw [List.dropLast_concat]
  · exact .inl rfl

/-- A label has no other characters than capitals and digits, but for a line feed at its end. -/
theorem isSpelling_or_of_isLabel {text : Text} (h : isLabel text = true) {c : Point}
    (hc : c ∈ text.toList) : isSpelling c = true ∨ c = '\n' := by
  obtain ⟨_, _, _, -, -, -, hs, he⟩ := exists_of_isLabel h
  rcases eq_or_eq_append_dropFinalLineFeed text.toList with ht | ht
  · exact .inl (hs c (he ▸ ht ▸ hc))
  · rw [ht, List.mem_append, List.mem_singleton] at hc
    exact hc.imp_left fun hc => hs c (he ▸ hc)

/-- Trimming leaves of a label what is in front of the line feed. -/
theorem trim_of_isSpelling {text : List Point}
    (h : ∀ x ∈ dropFinalLineFeed text, isSpelling x = true) :
    Text.trim text = dropFinalLineFeed text := by
  have htext := eq_or_eq_append_dropFinalLineFeed text
  generalize dropFinalLineFeed text = s at h htext
  cases s with
  | nil => rcases htext with rfl | rfl <;> rfl
  | cons c s =>
    have hleft : Text.trimLeft text = text := by
      rcases htext with rfl | rfl <;>
        exact Text.trimLeft_cons_of_not_blank _ (not_blank_of_isSpelling (h c List.mem_cons_self))
    have hright : (c :: s).reverse.dropWhile Text.isBlank = (c :: s).reverse :=
      dropWhile_of_isSpelling (fun _ => not_blank_of_isSpelling) fun x hx =>
        h x (List.mem_reverse.1 hx)
    rw [Text.trim, hleft, Text.trimRight]
    -- a line feed behind the label is the only blank
    rcases htext with rfl | rfl
    · rw [hright, List.reverse_reverse]
    · rw [List.reverse_append, List.reverse_singleton, List.singleton_append,
        List.dropWhile_cons_of_pos (by decide), hright, List.reverse_reverse]

end Label

/-! ## No label is a number -/

namespace Number

theorem dropSeparators_of_not_mem {s : List Point} (h : .char '_' ∉ s) {prev : Option Point}
    (hp : prev ≠ some (.char '_')) : dropSeparators prev s = some s := by
  induction s generalizing prev with
  | nil => rw [dropSeparators, if_neg hp]
  | cons c s ih =>
    obtain ⟨hc, hs⟩ := List.ne_and_not_mem_of_not_mem_cons h
    rw [dropSeparators, if_neg (Ne.symm hc), ih hs (fun he => hc (Option.some.inj he).symm)]
    simp [hp]

theorem normalize_of_isSpelling {s : List Point} (h : ∀ x ∈ s, Label.isSpelling x = true) :
    normalize s = s := by
  have hd {r : List Point} (hr : ∀ x ∈ r, Label.isSpelling x = true) :
      r.dropWhile isAsciiBlank = r :=
    Label.dropWhile_of_isSpelling (fun _ => Label.not_asciiBlank_of_isSpelling) hr
  have hf : s.map foldChar = s := by
    rw [List.map_congr_left fun x hx => Label.foldChar_of_isSpelling (h x hx), List.map_id']
  rw [normalize, hf, hd h, hd fun x hx => h x (List.mem_reverse.1 hx), List.reverse_reverse]

theorem lowerAscii_of_isAsciiDigit {d : Point} (h : isAsciiDigit d = true) : lowerAscii d = d := by
  have hn : ¬ ('A' ≤ d ∧ d ≤ 'Z') := by
    intro hc
    have hc' : Label.isCapital d = true := by simp [Label.isCapital, hc.1, hc.2]
    rw [Label.isCapital_iff] at hc'
    rw [isAsciiDigit_iff] at h
    omega
  rw [lowerAscii, if_neg (by simpa using hn)]

/-- No sign is taken in front of any other character. -/
theorem takeSign_of_ne {c : Point} (hm : c ≠ '-') (hp : c ≠ '+') (s : List Point) :
    takeSign (c :: s) = (false, c :: s) := by
  unfold takeSign
  split
  · rename_i he
    exact absurd (List.cons.inj he).1 hm
  · rename_i he
    exact absurd (List.cons.inj he).1 hp
  · rfl

theorem takeSign_of_isCapital {c : Point} (hc : Label.isCapital c = true) (s : List Point) :
    takeSign (c :: s) = (false, c :: s) := by
  refine takeSign_of_ne ?_ ?_ s
  · rintro rfl
    exact absurd hc (by decide)
  · rintro rfl
    exact absurd hc (by decide)

theorem takeSign_of_isAsciiDigit {c : Point} (hc : isAsciiDigit c = true) (s : List Point) :
    takeSign (c :: s) = (false, c :: s) := by
  refine takeSign_of_ne ?_ ?_ s
  · rintro rfl
    exact absurd hc (by decide)
  · rintro rfl
    exact absurd hc (by decide)

theorem readDecimal?_of_isCapital {c : Point} (hc : Label.isCapital c = true) (negative : Bool)
    (s : List Point) : readDecimal? negative (c :: s) = none := by
  have hcd : isAsciiDigit c = false := by
    have hcb := Label.isCapital_iff.1 hc
    rw [Bool.eq_false_iff, Ne, isAsciiDigit_iff]
    omega
  have hpoint : takeFraction (c :: s) = ([], c :: s) := by
    unfold takeFraction
    split
    · rename_i he
      cases he
      exact absurd hc (by decide)
    · rfl
  simp [readDecimal?, hcd, hpoint]

/-- What starts with a capital and has a digit is no numeral: the words that are have no digits. -/
theorem readNumeral?_eq_none {c d : Point} {s : List Point} (hc : Label.isCapital c = true)
    (hd : isAsciiDigit d = true) (hm : d ∈ s) (hl : .char '_' ∉ c :: s) :
    readNumeral? (c :: s) = none := by
  -- lower case keeps the digit, and no word has one
  have hword (w : List Point) (hw : w.any isAsciiDigit = false) : (c :: s).map lowerAscii ≠ w := by
    rintro rfl
    have hx := List.any_eq_false.1 hw (lowerAscii d)
      (List.mem_map_of_mem (List.mem_cons_of_mem c hm))
    rw [lowerAscii_of_isAsciiDigit hd] at hx
    exact hx hd
  rw [readNumeral?, dropSeparators_of_not_mem hl (by simp)]
  simp only [Option.bind_eq_bind, Option.bind_some, takeSign_of_isCapital hc]
  have hinf := hword ("inf" : Text).toList rfl
  have hinfinity := hword ("infinity" : Text).toList rfl
  have hnan := hword ("nan" : Text).toList rfl
  rw [if_neg (by simp only [hinf, hinfinity, decide_false, Bool.or_self, Bool.false_eq_true,
    not_false_eq_true]), if_neg hnan, readDecimal?_of_isCapital hc]
  rfl

end Number

/-- **No label is a number.** -/
theorem Token.number?_eq_none_of_isLabel {blankIsZero : Bool} {token : Text}
    (h : Label.isLabel token = true) : number? blankIsZero token = none := by
  obtain ⟨c, letters, d, hc, hd, hm, hs, he⟩ := Label.exists_of_isLabel h
  have hl : .char '_' ∉ c :: letters := fun hl => Label.ne_line_of_isSpelling (hs _ hl) rfl
  have ht : Text.trim token.toList = c :: letters := by
    rw [Label.trim_of_isSpelling (he ▸ hs), he]
  have hf : Number.floatOfText? (Text.ofList (c :: letters)) = none := by
    rw [Number.floatOfText?, Text.toList_ofList, Number.normalize_of_isSpelling hs,
      Number.readNumeral?_eq_none hc hd hm hl]
    rfl
  rw [number?, ht, List.isEmpty_cons, hf]
  simp

end FormulaSheet
