import FormulaSheet.Fault

/-!
# Cell labels

A cell is addressed by a label such as `B12`: the letters of its column and the number of its row.
Columns are numbered in letters without a zero: after `Z` comes `AA`. This module converts between
labels and positions, which count rows and columns from zero.

A label is capital letters followed by a row number without a leading zero. One line feed at the end
of a label is allowed; the label with the line feed and the one without name the same position.

* `isLabel_iff_exists_split`: a label is what splits into letters and a row number;
* `position_eq_ok_iff`, `position_eq_error`: the labels that name a position, and the others.
-/

namespace FormulaSheet

/-- The place of a cell in the grid, counted from zero. -/
structure Position where
  /-- the row -/
  row : Int
  /-- the column -/
  column : Int
  deriving DecidableEq, Repr

namespace Label

/-! ## Columns -/

/-- The column that letters name, counted from zero. Other characters than capitals count by their
distance from the letter A as well. -/
def columnOfLetters (letters : List Point) : Int :=
  letters.foldl (fun n c => n * 26 + ((c.toNat : Int) - 0x41 + 1)) 0 - 1

/-- The letters of the column with the given number, counted from one. -/
def lettersOfNumber (n : Nat) : List Point :=
  if n = 0 then [] else lettersOfNumber ((n - 1) / 26) ++ [Point.ofNat (0x41 + (n - 1) % 26)]

/-- The letters of a column, counted from zero. A negative column has none. -/
def lettersOfColumn (column : Int) : List Point :=
  lettersOfNumber (column + 1).toNat

/-! ## Labels -/

/-- Whether the character is an ASCII capital. -/
def isCapital (c : Point) : Bool :=
  'A' ≤ c && c ≤ 'Z'

/-- Whether the text is a row number: ASCII digits without a leading zero. -/
def isRowNumber : List Point → Bool
  | [] => false
  | c :: ds => '1' ≤ c && c ≤ '9' && ds.all Number.isAsciiDigit

/-- The text without a line feed at its end. -/
def dropFinalLineFeed (s : List Point) : List Point :=
  if s.getLast? = some (.char '\n') then s.dropLast else s

/-- The letters and the row number of a label. -/
def split? (label : Text) : Option (List Point × List Point) :=
  let s := dropFinalLineFeed label.toList
  let letters := s.takeWhile isCapital
  let row := s.dropWhile isCapital
  if !letters.isEmpty && isRowNumber row then some (letters, row) else none

/-- Whether a text is a label. -/
def isLabel (text : Text) : Bool :=
  (split? text).isSome

/-- The position that a label names. A row number with too many digits is not read. -/
def position (label : Text) : Except Fault Position :=
  match split? label with
  | none => .error (.label ⟨label, ""⟩)
  | some (letters, row) =>
    if Number.maxDigits < row.length then .error (.tooManyDigits row.length)
    else .ok ⟨(Text.ofDecimal row : Int) - 1, columnOfLetters letters⟩

/-- The label of a position. -/
def ofPosition (p : Position) : Except Fault Text :=
  if Number.isWritable (p.row + 1) then
    .ok (Text.ofList (lettersOfColumn p.column) ++ Text.intText (p.row + 1))
  else .error .integerTooLong

theorem isLabel_iff_exists_split {text : Text} :
    isLabel text = true ↔ ∃ letters row, split? text = some (letters, row) := by
  simp [isLabel, Option.isSome_iff_exists]

/-- **A label names a position** exactly if it has letters and a row number that is not too long to
be read. -/
theorem position_eq_ok_iff {label : Text} {p : Position} :
    position label = .ok p ↔ ∃ letters row, split? label = some (letters, row) ∧
      row.length ≤ Number.maxDigits ∧
      p = ⟨(Text.ofDecimal row : Int) - 1, columnOfLetters letters⟩ := by
  rw [position]
  cases hs : split? label with
  | none => simp
  | some parts =>
    obtain ⟨letters, row⟩ := parts
    simp only [Option.some.injEq, Prod.mk.injEq]
    constructor
    · intro h
      split at h
      · cases h
      · rename_i hl
        exact ⟨letters, row, ⟨rfl, rfl⟩, Nat.not_lt.1 hl, (Except.ok.inj h).symm⟩
    · rintro ⟨_, _, ⟨rfl, rfl⟩, hl, rfl⟩
      rw [if_neg (Nat.not_lt.2 hl)]

/-- What names no position is no label, or its row number is too long. -/
theorem position_eq_error {label : Text} {f : Fault} (h : position label = .error f) :
    (split? label = none ∧ f = .label ⟨label, ""⟩) ∨
      ∃ letters row, split? label = some (letters, row) ∧ Number.maxDigits < row.length ∧
        f = .tooManyDigits row.length := by
  rw [position] at h
  split at h
  · rename_i hs
    exact .inl ⟨hs, (Except.error.inj h).symm⟩
  · rename_i letters row hs
    split at h
    · rename_i hl
      exact .inr ⟨letters, row, hs, hl, (Except.error.inj h).symm⟩
    · cases h

end Label

end FormulaSheet
