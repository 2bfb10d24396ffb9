import FormulaSheet.Formula.Lexeme
import FormulaSheet.Sheet

/-!
# Sheets from specifications

A sheet file is a mapping with the size of the grid and the cells under their labels. A cell is a
mapping with its formula as text, its value and its error; a plain value in place of it is its
formula. This module builds the sheet that such a mapping describes. Values are stored as they are
given: building a sheet calculates nothing.
-/

namespace FormulaSheet.Sheet

/-- The mapping that describes a cell: the entry itself, or one with the entry as its formula. -/
def cellSpec : Value → Value
  | .map entries => .map entries
  | v => .map [(.str "formula", v)]

/-- The tokens of the formula that a cell is described with. -/
def specFormula (spec : Value) : Except Fault (List Text) :=
  match (spec.entry? "formula").getD (.str "") with
  | .null => .ok []
  | v => do (Formula.tokenize (← v.text)).mapError Fault.formula

/-- Stores the cell that an entry describes. -/
def addSpec (s : Sheet) (label spec : Value) : Except Fault Sheet := do
  let label := Text.upper (← label.text)
  let spec := cellSpec spec
  let tokens ← specFormula spec
  let (_, s) ← s.set label (.list (tokens.map .str)) ((spec.entry? "value").getD (.float 0.0))
    ((spec.entry? "error").getD .null)
  .ok s

/-- The entries for the cells of a sheet; none if nothing is said about cells. -/
def specCells (spec : Value) : Except Fault (List (Value × Value)) :=
  match (spec.entry? "cells").getD .null with
  | .map entries => .ok entries
  | v => if v.isTrue then .error .noEntries else .ok []

/-- The sheet that a mapping describes. Nothing else describes one. -/
def ofSpec (spec : Value) : Except Fault Sheet := do
  match spec with
  | .map _ => do
    let columns ← ((spec.entry? "n_cols").getD (.int 26)).toInt
    let rows ← ((spec.entry? "n_rows").getD (.int 100)).toInt
    let grid ← Grid.ofSize columns rows
    (← specCells spec).foldlM (fun s e => addSpec s e.1 e.2) (blank grid)
  | _ => .error .noEntries

end FormulaSheet.Sheet
