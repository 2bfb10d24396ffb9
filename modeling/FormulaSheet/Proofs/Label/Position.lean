import FormulaSheet.Proofs.Label
import Mathlib.Data.List.Induction

/-!
# Labels and their positions

A label is the letters of a column and the number of a row. Letters count without a zero and row
numbers do not start with one, so that a column has one spelling and so has a row. Beside the
spelling of its position a label can only have the line feed that is allowed at its end.

* `lettersOfNumber_numberOfLetters`, `decimal_of_isRowNumber`: the two spellings;
* `ofPosition_of_position`: the label of a position is any label that names it, without the line
  feed.
-/

namespace FormulaSheet

/-! ## Row numbers -/

namespace Text

/-- A further digit goes behind those of a positive number. -/
theorem decimal_mul_ten_add {n d : Nat} (hn : 0 < n) (hd : d < 10) :
    decimal (n * 10 + d) = decimal n ++ [digitChar d] := by
  have hdiv : (n * 10 + d) / 10 = n := by omega
  have hmod : (n * 10 + d) % 10 = d := by omega
  rw [decimal, if_neg (by omega), hdiv, hmod]

theorem exists_digitChar {c : Point} (h : Number.isAsciiDigit c = true) :
    ∃ d, d < 10 ∧ c = digitChar d ∧ c.toNat - 0x30 = d := by
  rw [Number.isAsciiDigit_iff] at h
  have hc : c = digitChar (c.toNat - 0x30) := by
    have hback : 0x30 + (c.toNat - 0x30) = c.toNat := by omega
    rw [digitChar, hback, Point.ofNat_toNat]
  exact ⟨c.toNat - 0x30, by omega, hc, rfl⟩

/-- Behind the notation of a positive number any digits are the notation of a number. -/
theorem decimal_ofDecimal_append {s ds : List Point} (hs : decimal (ofDecimal s) = s)
    (hpos : 0 < ofDecimal s) (hd : ∀ c ∈ ds, Number.isAsciiDigit c = true) :
    decimal (ofDecimal (s ++ ds)) = s ++ ds ∧ 0 < ofDecimal (s ++ ds) := by
  induction ds generalizing s with
  | nil =>
    rw [List.append_nil]
    exact ⟨hs, hpos⟩
  | cons c ds ih =>
    obtain ⟨d, hlt, hc, hv⟩ := exists_digitChar (hd c List.mem_cons_self)
    have hnext : ofDecimal (s ++ [c]) = ofDecimal s * 10 + d := by
      rw [ofDecimal_append_singleton, hv]
    have hs' : decimal (ofDecimal (s ++ [c])) = s ++ [c] := by
      rw [hnext, decimal_mul_ten_add hpos hlt, hs, hc]
    have happ : s ++ c :: ds = s ++ [c] ++ ds := by simp
    rw [happ]
    exact ih hs' (by omega) fun x hx => hd x (List.mem_cons_of_mem c hx)

/-- A number of so many digits is less than the power of ten. -/
theorem ofDecimal_lt {ds : List Point} (hd : ∀ c ∈ ds, Number.isAsciiDigit c = true) {k : Nat}
    (hk : ds.length ≤ k) : ofDecimal ds < Nat.pow 10 k := by
  induction ds using List.reverseRecOn generalizing k with
  | nil => exact Nat.pow_pos (by decide)
  | append_singleton ds c ih =>
    rw [List.length_append, List.length_singleton] at hk
    obtain ⟨k, rfl⟩ := Nat.exists_eq_add_of_le' (show 1 ≤ k by omega)
    obtain ⟨d, hlt, -, hv⟩ := exists_digitChar (hd c (by simp))
    have hds := ih (fun x hx => hd x (List.mem_append_left _ hx)) (Nat.le_of_succ_le_succ hk)
    have hpow : Nat.pow 10 (k + 1) = Nat.pow 10 k * 10 := Nat.pow_succ 10 k
    rw [ofDecimal_append_singleton, hv, hpow]
    omega

end Text

namespace Label

/-- **A row number** is the notation of a positive number. -/
theorem decimal_of_isRowNumber {row : List Point} (h : isRowNumber row = true) :
    Text.decimal (Text.ofDecimal row) = row ∧ 0 < Text.ofDecimal row := by
  have hall := isAsciiDigit_of_isRowNumber h
  cases row with
  | nil => cases h
  | cons c ds =>
    simp only [isRowNumber, Bool.and_eq_true, decide_eq_true_eq, Point.le_def] at h
    obtain ⟨d, hlt, hc, hv⟩ := Text.exists_digitChar (hall c List.mem_cons_self)
    have hone : 0x31 ≤ c.toNat := h.1.1
    have hc' : Text.ofDecimal [c] = d := by
      rw [Text.ofDecimal, List.foldl_cons, List.foldl_nil, hv, Nat.zero_mul, Nat.zero_add]
    have hfirst : Text.decimal (Text.ofDecimal [c]) = [c] := by
      rw [hc', Text.decimal, if_pos hlt, hc]
    exact Text.decimal_ofDecimal_append (s := [c]) hfirst (by omega) fun x hx =>
      hall x (List.mem_cons_of_mem c hx)

/-! ## Letters of columns -/

/-- The number of the column that letters name, counted from one. -/
def numberOfLetters (letters : List Point) : Nat :=
  letters.foldl (fun n c => n * 26 + (c.toNat - 0x40)) 0

theorem numberOfLetters_append_singleton (letters : List Point) (c : Point) :
    numberOfLetters (letters ++ [c]) = numberOfLetters letters * 26 + (c.toNat - 0x40) := by
  simp [numberOfLetters]

/-- A further letter goes behind those of a number. -/
theorem lettersOfNumber_mul_add {n d : Nat} (hd : d < 26) :
    lettersOfNumber (n * 26 + (d + 1)) = lettersOfNumber n ++ [Point.ofNat (0x41 + d)] := by
  have hdiv : (n * 26 + (d + 1) - 1) / 26 = n := by omega
  have hmod : (n * 26 + (d + 1) - 1) % 26 = d := by omega
  rw [lettersOfNumber, if_neg (by omega), hdiv, hmod]

/-- **Letters** are the letters of the number that they name. -/
theorem lettersOfNumber_numberOfLetters {letters : List Point}
    (h : ∀ c ∈ letters, isCapital c = true) :
    lettersOfNumber (numberOfLetters letters) = letters := by
  induction letters using List.reverseRecOn with
  | nil =>
    rw [numberOfLetters, List.foldl_nil, lettersOfNumber]
    rfl
  | append_singleton letters c ih =>
    have hc := isCapital_iff.1 (h c (by simp))
    have hletters := ih fun x hx => h x (List.mem_append_left _ hx)
    -- the last letter counts from one, and its number starts at that of the letter A
    have hlast : c.toNat - 0x40 = c.toNat - 0x41 + 1 := by omega
    have hback : 0x41 + (c.toNat - 0x41) = c.toNat := by omega
    rw [numberOfLetters_append_singleton, hlast, lettersOfNumber_mul_add (by omega), hletters,
      hback, Point.ofNat_toNat]

/-- Counted from zero, the column of capitals is one less than their number. -/
theorem columnOfLetters_eq {letters : List Point} (h : ∀ c ∈ letters, isCapital c = true) :
    columnOfLetters letters = (numberOfLetters letters : Int) - 1 := by
  have hfold : letters.foldl (fun n c => n * 26 + ((c.toNat : Int) - 0x41 + 1)) 0 =
      (numberOfLetters letters : Int) := by
    induction letters using List.reverseRecOn with
    | nil => rfl
    | append_singleton letters c ih =>
      have hc := isCapital_iff.1 (h c (by simp))
      have hletters := ih fun x hx => h x (List.mem_append_left _ hx)
      rw [List.foldl_append, List.foldl_cons, List.foldl_nil, hletters,
        numberOfLetters_append_singleton]
      omega
  rw [columnOfLetters, hfold]

theorem numberOfLetters_pos {letters : List Point} (hn : letters ≠ [])
    (h : ∀ c ∈ letters, isCapital c = true) : 0 < numberOfLetters letters := by
  rcases Nat.eq_zero_or_pos (numberOfLetters letters) with hz | hpos
  · -- zero has no letters
    have hl := lettersOfNumber_numberOfLetters h
    rw [hz, lettersOfNumber, if_pos rfl] at hl
    exact absurd hl.symm hn
  · exact hpos

/-! ## Positions -/

/-- Rows and columns count from zero. -/
theorem position_nonneg {label : Text} {p : Position} (h : position label = .ok p) :
    0 ≤ p.row ∧ 0 ≤ p.column := by
  obtain ⟨letters, row, hs, -, rfl⟩ := position_eq_ok_iff.1 h
  obtain ⟨-, hn, hc, hr⟩ := eq_append_of_split? hs
  have hrow := (decimal_of_isRowNumber hr).2
  have hcolumn := numberOfLetters_pos hn hc
  rw [columnOfLetters_eq hc]
  exact ⟨by simp only; omega, by simp only; omega⟩

/-- **The label of a position** is any label that names it, without a line feed at its end. -/
theorem ofPosition_of_position {label : Text} {p : Position} (h : position label = .ok p) :
    ofPosition p = .ok (Text.ofList (dropFinalLineFeed label.toList)) := by
  obtain ⟨letters, row, hs, hl, rfl⟩ := position_eq_ok_iff.1 h
  obtain ⟨hd, hn, hc, hr⟩ := eq_append_of_split? hs
  have hrow : ((Text.ofDecimal row : Int) - 1 + 1) = Text.ofDecimal row := by omega
  have hcolumn : lettersOfColumn (columnOfLetters letters) = letters := by
    have hnumber : (columnOfLetters letters + 1).toNat = numberOfLetters letters := by
      rw [columnOfLetters_eq hc]
      omega
    rw [lettersOfColumn, hnumber, lettersOfNumber_numberOfLetters hc]
  -- a number that was read can be written
  have hw : Number.isWritable (Text.ofDecimal row : Int) = true := by
    have hlt := Text.ofDecimal_lt (isAsciiDigit_of_isRowNumber hr) hl
    rw [Number.isWritable, decide_eq_true_eq, Int.natAbs_natCast]
    exact hlt
  have htext : Text.intText (Text.ofDecimal row : Int) = Text.ofList row := by
    change Text.natText (Text.ofDecimal row) = _
    rw [Text.natText, (decimal_of_isRowNumber hr).1]
  simp only [ofPosition, hrow, hw, if_true, hcolumn, htext, hd, Text.ofList_append]

/-- Labels of one position are the same but for a line feed at the end. -/
theorem dropFinalLineFeed_eq_of_position {label other : Text} {p : Position}
    (h : position label = .ok p) (ho : position other = .ok p) :
    dropFinalLineFeed label.toList = dropFinalLineFeed other.toList := by
  have he := Except.ok.inj ((ofPosition_of_position h).symm.trans (ofPosition_of_position ho))
  exact Text.ofList_inj.1 he

end Label

end FormulaSheet
