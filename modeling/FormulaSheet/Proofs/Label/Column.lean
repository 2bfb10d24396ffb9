import FormulaSheet.Proofs.Label.Position

/-!
# Columns and their letters

Letters that count without a zero miss no number and name none twice: every column has letters, and
all letters are those of a column. A further letter stands for the numbers between one multiple of
26 and the next, so that the columns come in the order in which an index has its entries, shorter
ones first.

* `numberOfLetters_lettersOfNumber`: the number of the letters of a number;
* `numberOfLetters_lt_iff`: numbers are in the order of their letters;
* `position_of_ofPosition`: the label of a position names it;
* `columns_correspond`: columns and letters, positions and labels.
-/

namespace FormulaSheet.Label

/-- The letters name a column: there is one, and all are capitals. -/
def IsColumn (letters : List Point) : Prop :=
  letters ≠ [] ∧ ∀ c ∈ letters, isCapital c = true

/-- The first text comes before the second in an index: it is shorter, or as long and before it in
the alphabet. -/
def ComesBefore (a b : List Point) : Prop :=
  a.length < b.length ∨ a.length = b.length ∧ a < b

/-! ## Every number has letters -/

theorem isCapital_ofNat {d : Nat} (h : d < 26) : isCapital (Point.ofNat (0x41 + d)) = true := by
  have all : ∀ d < 26, isCapital (Point.ofNat (0x41 + d)) = true := by decide
  exact all d h

theorem isCapital_of_mem_lettersOfNumber {n : Nat} {c : Point} (h : c ∈ lettersOfNumber n) :
    isCapital c = true := by
  induction n using lettersOfNumber.induct with
  | case1 =>
    rw [lettersOfNumber, if_pos rfl] at h
    cases h
  | case2 n hn ih =>
    rw [lettersOfNumber, if_neg hn, List.mem_append, List.mem_singleton] at h
    rcases h with h | rfl
    · exact ih h
    · exact isCapital_ofNat (Nat.mod_lt _ (by decide))

/-- **The letters of a number** name it. -/
theorem numberOfLetters_lettersOfNumber (n : Nat) : numberOfLetters (lettersOfNumber n) = n := by
  induction n using lettersOfNumber.induct with
  | case1 =>
    rw [lettersOfNumber, if_pos rfl]
    rfl
  | case2 n hn ih =>
    -- the quotient and the remainder are those of the number below, whose last letter counts from A
    have hmod : (n - 1) % 26 < 26 := Nat.mod_lt _ (by decide)
    have hlast : (Point.ofNat (0x41 + (n - 1) % 26)).toNat = 0x41 + (n - 1) % 26 := by
      have all : ∀ d < 26, (Point.ofNat (0x41 + d)).toNat = 0x41 + d := by decide
      exact all _ hmod
    rw [lettersOfNumber, if_neg hn, numberOfLetters_append_singleton, ih, hlast]
    omega

theorem lettersOfNumber_ne_nil {n : Nat} (h : 0 < n) : lettersOfNumber n ≠ [] := by
  rw [lettersOfNumber, if_neg (Nat.ne_of_gt h)]
  exact List.append_ne_nil_of_right_ne_nil _ (List.cons_ne_nil _ _)

/-! ## The order of the letters -/

/-- Of texts of the same length, those with a further letter are in the order of the letters in
front, and only then in that of the last. -/
theorem append_singleton_lt_iff {a b : List Point} (h : a.length = b.length) {x y : Point} :
    a ++ [x] < b ++ [y] ↔ a < b ∨ a = b ∧ x < y := by
  induction a generalizing b with
  | nil =>
    obtain rfl := List.length_eq_zero_iff.1 h.symm
    simp [List.cons_lt_cons_iff]
  | cons c a ih =>
    cases b with
    | nil => cases h
    | cons d b =>
      rw [List.cons_append, List.cons_append, List.cons_lt_cons_iff, List.cons_lt_cons_iff,
        ih (Nat.succ.inj h), List.cons.injEq]
      tauto

theorem comesBefore_append_singleton_iff {a b : List Point} {x y : Point} :
    ComesBefore (a ++ [x]) (b ++ [y]) ↔ ComesBefore a b ∨ a = b ∧ x < y := by
  simp only [ComesBefore, List.length_append, List.length_singleton, Nat.add_lt_add_iff_right,
    Nat.add_right_cancel_iff]
  constructor
  · rintro (h | ⟨hl, h⟩)
    · exact .inl (.inl h)
    · rw [append_singleton_lt_iff hl] at h
      exact h.imp (fun h => .inr ⟨hl, h⟩) id
  · rintro ((h | ⟨hl, h⟩) | ⟨rfl, h⟩)
    · exact .inl h
    · exact .inr ⟨hl, (append_singleton_lt_iff hl).2 (.inl h)⟩
    · exact .inr ⟨rfl, (append_singleton_lt_iff rfl).2 (.inr ⟨rfl, h⟩)⟩

/-- Letters of one number are the same. -/
theorem eq_of_numberOfLetters {a b : List Point} (ha : ∀ c ∈ a, isCapital c = true)
    (hb : ∀ c ∈ b, isCapital c = true) (h : numberOfLetters a = numberOfLetters b) : a = b := by
  rw [← lettersOfNumber_numberOfLetters ha, h, lettersOfNumber_numberOfLetters hb]

/-- **Numbers** are in the order of their letters. -/
theorem numberOfLetters_lt_iff {a b : List Point} (ha : ∀ c ∈ a, isCapital c = true)
    (hb : ∀ c ∈ b, isCapital c = true) :
    numberOfLetters a < numberOfLetters b ↔ ComesBefore a b := by
  -- by the last letters, as the number of letters is made from that of those in front
  induction a using List.reverseRecOn generalizing b with
  | nil =>
    cases b with
    | nil => simp [ComesBefore, numberOfLetters]
    | cons c b =>
      have hpos := numberOfLetters_pos (List.cons_ne_nil c b) hb
      exact ⟨fun _ => .inl (Nat.succ_pos _), fun _ => hpos⟩
  | append_singleton a x ih =>
    induction b using List.reverseRecOn with
    | nil =>
      constructor
      · intro h
        exact absurd h (Nat.not_lt_zero _)
      · rintro (h | ⟨h, -⟩)
        · exact absurd h (Nat.not_lt_zero _)
        · exact absurd (List.length_eq_zero_iff.1 h) (by simp)
    | append_singleton b y _ =>
      have hx := isCapital_iff.1 (ha x (by simp))
      have hy := isCapital_iff.1 (hb y (by simp))
      have ha' : ∀ c ∈ a, isCapital c = true := fun c hc => ha c (List.mem_append_left _ hc)
      have hb' : ∀ c ∈ b, isCapital c = true := fun c hc => hb c (List.mem_append_left _ hc)
      have hlast : x < y ↔ x.toNat < y.toNat := Iff.rfl
      rw [comesBefore_append_singleton_iff, ← ih ha' hb', hlast, numberOfLetters_append_singleton,
        numberOfLetters_append_singleton]
      constructor
      · intro h
        rcases Nat.lt_or_ge (numberOfLetters a) (numberOfLetters b) with hlt | hge
        · exact .inl hlt
        · have heq : numberOfLetters a = numberOfLetters b := by omega
          exact .inr ⟨eq_of_numberOfLetters ha' hb' heq, by omega⟩
      · rintro (h | ⟨rfl, h⟩)
        · omega
        · omega

/-! ## Columns -/

/-- The number of a column is that of its letters, counted from one. -/
theorem numberOfLetters_of_isColumn {letters : List Point} (h : IsColumn letters) :
    0 ≤ columnOfLetters letters ∧
      (columnOfLetters letters + 1).toNat = numberOfLetters letters := by
  have hpos := numberOfLetters_pos h.1 h.2
  rw [columnOfLetters_eq h.2]
  omega

theorem isColumn_lettersOfColumn (n : Nat) : IsColumn (lettersOfColumn n) := by
  have hn : ((n : Int) + 1).toNat = n + 1 := by omega
  rw [lettersOfColumn, hn]
  exact ⟨lettersOfNumber_ne_nil (Nat.succ_pos n), fun _ => isCapital_of_mem_lettersOfNumber⟩

theorem columnOfLetters_lettersOfColumn (n : Nat) : columnOfLetters (lettersOfColumn n) = n := by
  have hn : ((n : Int) + 1).toNat = n + 1 := by omega
  rw [columnOfLetters_eq (isColumn_lettersOfColumn n).2, lettersOfColumn, hn,
    numberOfLetters_lettersOfNumber]
  omega

theorem lettersOfColumn_columnOfLetters {letters : List Point} (h : IsColumn letters) :
    lettersOfColumn (columnOfLetters letters) = letters := by
  rw [lettersOfColumn, (numberOfLetters_of_isColumn h).2, lettersOfNumber_numberOfLetters h.2]

/-! ## Labels of positions -/

theorem isRowNumber_decimal {n : Nat} (h : 0 < n) : isRowNumber (Text.decimal n) = true := by
  have hd : ∀ c ∈ Text.decimal n, Number.isAsciiDigit c = true := fun _ =>
    Text.isAsciiDigit_of_mem_decimal
  obtain ⟨c, ds, hn, hc⟩ := Text.exists_decimal_of_pos h
  rw [hn] at hd ⊢
  have hfirst := Number.isAsciiDigit_iff.1 (hd c List.mem_cons_self)
  have hne : c.toNat ≠ 0x30 := fun he => hc (by rw [← Point.ofNat_toNat c, he]; rfl)
  have hlow : '1' ≤ c := by
    rw [Point.le_def]
    change 0x31 ≤ c.toNat
    omega
  have hhigh : c ≤ '9' := by
    rw [Point.le_def]
    exact hfirst.2
  have hrest : ds.all Number.isAsciiDigit = true :=
    List.all_eq_true.2 fun x hx => hd x (List.mem_cons_of_mem c hx)
  simp [isRowNumber, hlow, hhigh, hrest]

/-- Letters and digits are the parts of the label that they make up, if the digits are a row
number. -/
theorem split?_append_digits {letters digits : List Point} (hl : IsColumn letters)
    (hne : digits ≠ []) (hd : ∀ c ∈ digits, Number.isAsciiDigit c = true) :
    split? (Text.ofList (letters ++ digits)) =
      if isRowNumber digits then some (letters, digits) else none := by
  -- the label ends in a digit
  have hlast : (letters ++ digits).getLast? ≠ some (.char '\n') := by
    intro h
    rw [List.getLast?_append, List.getLast?_eq_some_getLast hne, Option.some_or,
      Option.some.injEq] at h
    exact absurd (hd '\n' (h ▸ List.getLast_mem hne)) (by decide)
  have hwhole : dropFinalLineFeed (letters ++ digits) = letters ++ digits := if_neg hlast
  have hparts : (letters ++ digits).takeWhile isCapital = letters ∧
      (letters ++ digits).dropWhile isCapital = digits := by
    cases digits with
    | nil => exact absurd rfl hne
    | cons c digits =>
      have hdigit := Number.isAsciiDigit_iff.1 (hd c List.mem_cons_self)
      have hcapital : ¬ isCapital c = true := by
        rw [isCapital_iff]
        omega
      rw [List.takeWhile_append_of_pos hl.2, List.takeWhile_cons_of_neg hcapital, List.append_nil,
        List.dropWhile_append_of_pos hl.2, List.dropWhile_cons_of_neg hcapital]
      exact ⟨rfl, rfl⟩
  simp [split?, hwhole, hparts.1, hparts.2, hl.1]

/-- Letters and a row number are the parts of the label that they make up. -/
theorem split?_append {letters row : List Point} (hl : IsColumn letters)
    (hr : isRowNumber row = true) :
    split? (Text.ofList (letters ++ row)) = some (letters, row) := by
  have hne : row ≠ [] := by
    rintro rfl
    cases hr
  rw [split?_append_digits hl hne (isAsciiDigit_of_isRowNumber hr), if_pos hr]

/-- **The label of a position** names it. -/
theorem position_of_ofPosition {p : Position} {label : Text} (hr : 0 ≤ p.row)
    (hc : 0 ≤ p.column) (h : ofPosition p = .ok label) : position label = .ok p := by
  obtain ⟨row, column⟩ := p
  obtain ⟨k, rfl⟩ := Int.eq_ofNat_of_zero_le hr
  obtain ⟨n, rfl⟩ := Int.eq_ofNat_of_zero_le hc
  rw [ofPosition] at h
  split at h
  · rename_i hw
    have htext : Text.intText ((k : Int) + 1) = Text.ofList (Text.decimal (k + 1)) := rfl
    rw [htext, ← Text.ofList_append] at h
    cases h
    have hlt : k + 1 < Nat.pow 10 Number.maxDigits := by
      rw [Number.isWritable, decide_eq_true_eq] at hw
      exact hw
    refine position_eq_ok_iff.2 ⟨_, _, split?_append (isColumn_lettersOfColumn n)
      (isRowNumber_decimal (Nat.succ_pos k)), Text.length_decimal_le (by decide) hlt, ?_⟩
    rw [columnOfLetters_lettersOfColumn, Text.ofDecimal_decimal]
    simp
  · cases h

/-- A position whose row number has few enough digits has a label. -/
theorem exists_ofPosition {p : Position} (hr : 0 ≤ p.row)
    (hd : (Text.decimal (p.row + 1).toNat).length ≤ Number.maxDigits) :
    ∃ label, ofPosition p = .ok label := by
  have hlt := Text.ofDecimal_lt (fun _ => Text.isAsciiDigit_of_mem_decimal) hd
  rw [Text.ofDecimal_decimal] at hlt
  have habs : (p.row + 1).natAbs = (p.row + 1).toNat := by omega
  have hw : Number.isWritable (p.row + 1) = true := by
    rw [Number.isWritable, habs, decide_eq_true_eq]
    exact hlt
  exact ⟨_, if_pos hw⟩

/-- **Label arithmetic.** Columns and the texts of one capital or more correspond to each other, and
columns come in the order of their letters: by length, and then by the alphabet. A position whose
row number has no more digits than are converted has a label that names it. Different positions have
different labels. -/
theorem columns_correspond :
    (∀ n : Nat, IsColumn (lettersOfColumn n) ∧ columnOfLetters (lettersOfColumn n) = n) ∧
    (∀ letters, IsColumn letters →
      0 ≤ columnOfLetters letters ∧ lettersOfColumn (columnOfLetters letters) = letters) ∧
    (∀ letters others, IsColumn letters → IsColumn others →
      (columnOfLetters letters < columnOfLetters others ↔ ComesBefore letters others)) ∧
    (∀ p : Position, 0 ≤ p.row → 0 ≤ p.column →
      (Text.decimal (p.row + 1).toNat).length ≤ Number.maxDigits →
      ∃ label, ofPosition p = .ok label ∧ position label = .ok p) ∧
    ∀ (p q : Position) (label : Text), 0 ≤ p.row → 0 ≤ p.column → 0 ≤ q.row → 0 ≤ q.column →
      ofPosition p = .ok label → ofPosition q = .ok label → p = q := by
  refine ⟨fun n => ⟨isColumn_lettersOfColumn n, columnOfLetters_lettersOfColumn n⟩,
    fun letters h => ⟨(numberOfLetters_of_isColumn h).1, lettersOfColumn_columnOfLetters h⟩,
    fun letters others h ho => ?_, fun p hr hc hd => ?_, fun p q label hr hc hr' hc' hp hq => ?_⟩
  · rw [columnOfLetters_eq h.2, columnOfLetters_eq ho.2, ← numberOfLetters_lt_iff h.2 ho.2]
    omega
  · obtain ⟨label, hl⟩ := exists_ofPosition hr hd
    exact ⟨label, hl, position_of_ofPosition hr hc hl⟩
  · have hpq := (position_of_ofPosition hr hc hp).symm.trans (position_of_ofPosition hr' hc' hq)
    exact Except.ok.inj hpq

/-- The column behind the last one with a single letter. -/
theorem columns_correspond_of_two_letters :
    lettersOfColumn (columnOfLetters [Point.char 'A', .char 'A']) = [Point.char 'A', .char 'A'] ∧
      columnOfLetters [Point.char 'Z'] < columnOfLetters [Point.char 'A', .char 'A'] ∧
      ∃ label, ofPosition ⟨0, 26⟩ = .ok label ∧ position label = .ok ⟨0, 26⟩ := by
  have hlast : IsColumn [Point.char 'Z'] := ⟨List.cons_ne_nil _ _, List.all_eq_true.1 rfl⟩
  have hnext : IsColumn [Point.char 'A', .char 'A'] :=
    ⟨List.cons_ne_nil _ _, List.all_eq_true.1 rfl⟩
  obtain ⟨-, hletters, horder, hlabel, -⟩ := columns_correspond
  have hdigits : (Text.decimal 1).length ≤ Number.maxDigits :=
    (Text.length_decimal_le Nat.one_pos (by decide)).trans (by decide)
  exact ⟨(hletters _ hnext).2, (horder _ _ hlast hnext).2 (.inl (by decide)),
    hlabel ⟨0, 26⟩ (by decide) (by decide) hdigits⟩

end FormulaSheet.Label
