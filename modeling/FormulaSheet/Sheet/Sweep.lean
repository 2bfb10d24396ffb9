import FormulaSheet.Formula.Evaluator

/-!
# Evaluating all cells

A sweep evaluates the formula of every cell of a sheet, row by row, against the values that are kept
in the sheet. Nothing is stored, so every formula sees the sheet as it is. One evaluator serves for
all cells; what it remembers from one has no influence on the next.

* `sweep_reset`: a sweep gives the same whatever the evaluator remembers.
-/

namespace FormulaSheet.Sheet

/-- What a sweep finds for a cell. -/
structure Row where
  /-- the label of the cell -/
  label : Text
  /-- the value of its formula -/
  value : Float
  /-- the code of the error; empty if there is none -/
  error : Value

/-- Whether the cell has an error. -/
def Row.hasError (r : Row) : Bool :=
  r.error.isTrue

/-- What a sweep gives: what the event log is to know, and the rows unless something failed. -/
structure Swept where
  /-- what the event log is to know, in order -/
  notices : List Notice
  /-- a row for every cell with a formula, in order -/
  rows : Except Fault (List Row)

/-- Adds what one cell gave in front of what the others give. -/
def Swept.after (notices : List Notice) (row : Row) (s : Swept) : Swept :=
  ⟨notices ++ s.notices, s.rows.map (row :: ·)⟩

/-- Evaluates the cells at labels, leaving out those without a formula. -/
def sweepLabels (s : Sheet) (e : Evaluator) : List Text → Swept
  | [] => ⟨[], .ok []⟩
  | label :: labels =>
    match s.get label with
    | .error f => ⟨[], .error f⟩
    | .ok cell =>
      if cell.formula.isEmpty then sweepLabels s e labels
      else
        let evaluated := e.evaluate s.source (some label) (.list cell.formula)
        match evaluated.outcome with
        | .error f => ⟨evaluated.notices, .error f⟩
        | .ok o =>
          (sweepLabels s evaluated.evaluator labels).after evaluated.notices
            ⟨label, o.value, o.error⟩

/-- Evaluates all cells. -/
def sweep (s : Sheet) (e : Evaluator) : Swept :=
  sweepLabels s e s.labels

/-- A sweep depends on nothing of the evaluator but its options. -/
theorem sweepLabels_reset (s : Sheet) (e : Evaluator) (labels : List Text) :
    sweepLabels s e.reset labels = sweepLabels s e labels := by
  induction labels with
  | nil => rfl
  | cons label labels ih =>
    rw [sweepLabels, sweepLabels]
    split
    · rfl
    · rw [ih, Evaluator.evaluate_reset]

theorem sweep_reset (s : Sheet) (e : Evaluator) : s.sweep e.reset = s.sweep e :=
  sweepLabels_reset s e s.labels

end FormulaSheet.Sheet
