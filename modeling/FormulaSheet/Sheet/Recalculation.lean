import FormulaSheet.Formula.Evaluator

/-!
# Recalculating a cell

The value of a cell is calculated from its formula and stored with it. Recalculating evaluates the
formula of a cell on behalf of the cell, so that circular references are found, and stores what came
out; the formula stays. If the evaluation fails the sheet stays as it was.
-/

namespace FormulaSheet.Sheet

/-- Stores what an evaluation of a cell came out with. -/
def store (s : Sheet) (label : Text) (cell : Cell) (outcome : Except Fault Outcome) :
    Except Fault (Outcome × Sheet) := do
  let o ← outcome
  let (_, s) ← s.set label (.list cell.formula) (.float o.value) o.error
  .ok (o, s)

/-- Recalculates the cell at a label. Gives the evaluation, if there is a cell to evaluate, and what
became of the sheet. -/
def recalculate (s : Sheet) (e : Evaluator) (label : Text) :
    Except Fault (Evaluated × Except Fault (Outcome × Sheet)) :=
  match s.get label with
  | .error f => .error f
  | .ok cell =>
    let evaluated := e.evaluate s.source (some label) (.list cell.formula)
    .ok (evaluated, s.store label cell evaluated.outcome)

end FormulaSheet.Sheet
