import FormulaSheet.Formula.Failure
import FormulaSheet.Label
import FormulaSheet.Register

/-!
# Sheets

A sheet is a grid of cells. Each cell that was stored has a formula, a value that is kept from the
last calculation, and an error. Cells that were never stored read as empty cells; reading does not
store them.

Cells are stored under their labels as they were given. A label that names a position outside the
grid is refused, so that every stored label names a position inside; this, and that no label is
stored twice, belongs to the type `Sheet`.

* `locate_eq_ok_iff`, `locate_eq_error`: the labels that a grid admits, and the others;
* `set_eq_ok_iff`, `set_eq_error`: what is stored, and when nothing is;
* `get_put_self`: what was stored under a label is read from it.
* `get_put_of_ne`: storing under one label changes no other.
-/

namespace FormulaSheet

/-- A cell: its formula as tokens, the value kept for it, and the error kept for it. -/
structure Cell where
  /-- the tokens of the formula -/
  formula : List Value
  /-- the value of the last calculation -/
  value : Float
  /-- the error of the last calculation; the empty text if there was none -/
  error : Value

namespace Cell

/-- The cell at a label where nothing was stored. -/
def empty : Cell :=
  ⟨[], 0.0, .str Failure.emptyCode⟩

/-- The cell of the given formula, value and error. Where the error is null, a cell with a formula
has no error and a cell without one has the error of the empty formula. -/
def ofValues (formula value error : Value) : Except Fault Cell := do
  let error := match error with
    | .null => if formula.isTrue then .str "" else .str Failure.emptyCode
    | e => e
  let tokens ← formula.elements
  .ok ⟨tokens, ← value.toFloat, error⟩

end Cell

/-- The extent of a sheet. -/
structure Grid where
  /-- the number of columns -/
  columns : Int
  /-- the number of rows -/
  rows : Int
  /-- there is a column -/
  columns_pos : 1 ≤ columns
  /-- there is a row -/
  rows_pos : 1 ≤ rows

namespace Grid

/-- The extent with the given numbers of columns and rows. -/
def ofSize (columns rows : Int) : Except Fault Grid :=
  if h : 1 ≤ columns ∧ 1 ≤ rows then .ok ⟨columns, rows, h.1, h.2⟩ else .error .emptyGrid

/-- The extent of a sheet where nothing is said about it. -/
def standard : Grid :=
  ⟨26, 100, by decide, by decide⟩

/-- The refusal of a label that names a position outside the grid. -/
def outside (g : Grid) (label : Text) : Fault :=
  if Number.isWritable g.columns && Number.isWritable g.rows then
    .label ⟨label, "Cell label " ++ Text.quoted label ++ " is outside the " ++
      Text.intText g.columns ++ "x" ++ Text.intText g.rows ++ " sheet"⟩
  else .integerTooLong

/-- The position inside the grid that a label names. -/
def locate (g : Grid) (label : Text) : Except Fault Position :=
  match Label.position label with
  | .error f => .error f
  | .ok p => if p.row < g.rows ∧ p.column < g.columns then .ok p else .error (g.outside label)

/-- Whether a label names a position inside the grid. -/
def Admits (g : Grid) (label : Text) : Prop :=
  ∃ p, g.locate label = .ok p

theorem locate_eq_ok_iff {g : Grid} {label : Text} {p : Position} :
    g.locate label = .ok p ↔
      Label.position label = .ok p ∧ p.row < g.rows ∧ p.column < g.columns := by
  rw [locate]
  cases Label.position label with
  | error f => simp
  | ok q =>
    simp only [Except.ok.injEq]
    constructor
    · intro h
      split at h
      · rename_i hin
        cases h
        exact ⟨rfl, hin⟩
      · cases h
    · rintro ⟨rfl, hin⟩
      rw [if_pos hin]

/-- A label is refused if it names no position, or one outside. -/
theorem locate_eq_error {g : Grid} {label : Text} {f : Fault} (h : g.locate label = .error f) :
    Label.position label = .error f ∨ f = g.outside label := by
  rw [locate] at h
  split at h
  · rename_i hp
    exact .inl (hp.trans h)
  · split at h
    · cases h
    · exact .inr (Except.error.inj h).symm

/-- **A label** is what a grid admits. -/
theorem Admits.isLabel {g : Grid} {label : Text} (h : g.Admits label) :
    Label.isLabel label = true := by
  obtain ⟨p, hp⟩ := h
  obtain ⟨letters, row, hs, -⟩ := Label.position_eq_ok_iff.1 (locate_eq_ok_iff.1 hp).1
  exact Label.isLabel_iff_exists_split.2 ⟨letters, row, hs⟩

theorem standard_admits_first : standard.Admits "A1" :=
  ⟨⟨0, 0⟩, rfl⟩

end Grid

/-- A grid of cells. -/
structure Sheet where
  /-- its extent -/
  grid : Grid
  /-- the stored cells, under their labels in the order in which they were first stored -/
  cells : Register Cell
  /-- no label is stored twice -/
  nodup : cells.names.Nodup
  /-- every stored label names a position inside the grid -/
  admitted : ∀ label ∈ cells.names, grid.Admits label

namespace Sheet

/-- The sheet of the given extent without cells. -/
def blank (g : Grid) : Sheet :=
  ⟨g, [], by simp [Register.names], by simp [Register.names]⟩

/-- The cell at a label: the stored one, or an empty one if the label names a position inside. -/
def get (s : Sheet) (label : Text) : Except Fault Cell :=
  match s.cells.find? label with
  | some cell => .ok cell
  | none => (s.grid.locate label).map fun _ => Cell.empty

/-- Stores a cell under a label that names a position inside. -/
def put (s : Sheet) (label : Text) (cell : Cell) (h : s.grid.Admits label) : Sheet where
  grid := s.grid
  cells := s.cells.put label cell
  nodup := Register.names_put_nodup s.nodup
  admitted other ho := by
    rcases Register.mem_names_put ho with rfl | ho
    · exact h
    · exact s.admitted other ho

/-- Stores a cell made of the given formula, value and error. -/
def set (s : Sheet) (label : Text) (formula value error : Value) : Except Fault (Cell × Sheet) :=
  match h : s.grid.locate label with
  | .error f => .error f
  | .ok p => (Cell.ofValues formula value error).map fun cell =>
      (cell, s.put label cell ⟨p, h⟩)

/-- Whether a cell is stored under the label. -/
def contains (s : Sheet) (label : Text) : Bool :=
  (s.cells.find? label).isSome

/-- The number of stored cells. -/
def size (s : Sheet) : Nat :=
  s.cells.length

/-- Whether the position that the first label names comes before that of the second, row by row, or
is the same. -/
def precedes (a b : Text) : Bool :=
  match Label.position a, Label.position b with
  | .ok p, .ok q => p.row < q.row || (p.row == q.row && p.column ≤ q.column)
  | _, _ => true

/-- The stored labels row by row; labels of one position in the order in which they were stored. -/
def labels (s : Sheet) : List Text :=
  s.cells.names.mergeSort precedes

/-- A call that stores puts a cell made of what it was given. -/
theorem set_eq_ok_iff {s t : Sheet} {label : Text} {formula value error : Value} {cell : Cell} :
    s.set label formula value error = .ok (cell, t) ↔
      Cell.ofValues formula value error = .ok cell ∧ ∃ h, t = s.put label cell h := by
  rw [set]
  split
  · rename_i f hl
    constructor
    · intro h
      cases h
    · rintro ⟨-, ⟨p, hp⟩, -⟩
      rw [hl] at hp
      cases hp
  · rename_i p hl
    cases Cell.ofValues formula value error with
    | error f =>
      constructor
      · intro h
        cases h
      · rintro ⟨h, -⟩
        cases h
    | ok cell' =>
      constructor
      · intro h
        cases h
        exact ⟨rfl, ⟨p, hl⟩, rfl⟩
      · rintro ⟨h, ha, rfl⟩
        cases h
        rfl

/-- A call that stores nothing was refused for its label, or for what it was given. -/
theorem set_eq_error {s : Sheet} {label : Text} {formula value error : Value} {f : Fault}
    (h : s.set label formula value error = .error f) :
    s.grid.locate label = .error f ∨ Cell.ofValues formula value error = .error f := by
  rw [set] at h
  split at h
  · rename_i hl
    cases h
    exact .inl hl
  · refine .inr ?_
    cases hc : Cell.ofValues formula value error with
    | error f' =>
      rw [hc] at h
      cases h
      rfl
    | ok cell =>
      rw [hc] at h
      cases h

theorem get_put_self (s : Sheet) (label : Text) (cell : Cell) (h : s.grid.Admits label) :
    (s.put label cell h).get label = .ok cell := by
  simp [get, put, Register.find?_put_self]

theorem get_put_of_ne (s : Sheet) {label other : Text} (cell : Cell) (h : s.grid.Admits label)
    (ho : other ≠ label) : (s.put label cell h).get other = s.get other := by
  simp [get, put, Register.find?_put_of_ne ho]

end Sheet

end FormulaSheet
