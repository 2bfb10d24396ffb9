import FormulaSheet.Proofs.Formula.Outcome
import FormulaSheet.Proofs.Sheet.Calls
import FormulaSheet.Sheet.Sweep

/-!
# Rows of a sweep

A sweep uses one evaluator for all cells, one after the other. Each of its rows is nevertheless what
an evaluator finds that has evaluated nothing before: an evaluation leaves nothing behind but the
options, and the sheet is never changed. So the rows are those of the cells with a formula, each for
itself, in the order of the labels.

The error of a row is the empty text or a value that counts as true. Whoever asks whether it counts
as true so asks whether there is one.

* `rows_sweepLabels`, `notices_sweepLabels`: the cells that are left, whatever the evaluator
  remembers;
* `names_formulas`: which cells a sweep has rows for;
* `exists_rows`, `returns_of_rows`: a sweep has rows exactly if all evaluations return;
* `Row.hasError_iff`: when a row has an error.
-/

namespace FormulaSheet

/-! ## Errors that count -/

theorem Setting.isTrue_code_of_reference {s : Setting} {label : Text} {x : Float} {g : Failure}
    (h : (s.reference label).result = .ok (x, some g)) : g.code.isTrue = true := by
  cases reference_ok_iff.1 h with
  | circular _ => rfl
  | unresolved _ _ _ => rfl
  | read _ _ hr =>
    rcases Content.failure_of_reading hr with ⟨rfl, -⟩ | ⟨rfl, ht, -⟩
    · rfl
    · exact ht

namespace Evaluator

/-- The error of an outcome is the empty text, or it counts as true. -/
theorem isTrue_error_of_evaluate {e : Evaluator} {source : Source} {origin : Option Text}
    {formula : Value} {o : Outcome} (h : (e.evaluate source origin formula).outcome = .ok o) :
    o.error = .str "" ∨ o.error.isTrue = true := by
  rw [evaluate] at h
  split at h
  · cases h
  rename_i tokens _
  obtain ⟨f, -, he⟩ | ⟨e', notes, failure, -, hn, hc, he⟩ :=
    evaluateTokens_cases e.options source origin tokens
  · rw [he] at h
    cases h
  · rw [he] at h
    rw [outcome_conclude hn h]
    have hrules : HoldsOfRules fun g => g.code.isTrue = true := ⟨rfl, rfl, rfl, rfl⟩
    cases hf : failure with
    | none => exact .inl rfl
    | some g =>
      exact .inr (hc.holds hrules rfl (fun _ _ _ => Setting.isTrue_code_of_reference) hf)

end Evaluator

namespace Sheet

variable {s : Sheet} {o : Options}

/-! ## The cells that a sweep has rows for -/

/-- Whether a cell with a formula is stored under the label. -/
def hasFormula (s : Sheet) (label : Text) : Bool :=
  (s.cells.find? label).any fun cell => !cell.formula.isEmpty

/-- The stored cells that have a formula, row by row. -/
def formulas (s : Sheet) : Register Cell :=
  s.listing.filter fun e => !e.2.formula.isEmpty

theorem mem_formulas {label : Text} {cell : Cell} :
    (label, cell) ∈ s.formulas ↔ s.cells.find? label = some cell ∧ cell.formula ≠ [] := by
  simp [formulas, mem_listing]

/-- **The labels** of the cells with a formula, in the order of all labels. -/
theorem names_formulas (s : Sheet) : s.formulas.names = s.labels.filter s.hasFormula := by
  have hp : ∀ e ∈ s.listing, (!e.2.formula.isEmpty) = s.hasFormula e.1 := fun e he => by
    rw [hasFormula, mem_listing.1 he, Option.any_some]
  rw [formulas, List.filter_congr hp, ← names_listing, Register.names, Register.names,
    List.filter_map]
  rfl

/-! ## Rows -/

/-- The evaluation of the formula of a cell, by an evaluator that has evaluated nothing. -/
def evaluated (s : Sheet) (o : Options) (label : Text) (cell : Cell) : Evaluated :=
  (Evaluator.ofOptions o).evaluate s.source (some label) (.list cell.formula)

/-- The row of a cell, if the evaluation of its formula returns. -/
def rowOf (s : Sheet) (o : Options) (e : Text × Cell) : Except Fault Row :=
  (s.evaluated o e.1 e.2).outcome.map fun out => ⟨e.1, out.value, out.error⟩

/-- A sweep goes over the cells with a formula. At each of them the evaluator does what one does
that has evaluated nothing. -/
theorem sweepLabels_cons (e : Evaluator) {label : Text} (labels : List Text) {cell : Cell}
    (h : s.get label = .ok cell) (hf : cell.formula ≠ []) :
    ∃ e' : Evaluator, e'.options = e.options ∧ s.sweepLabels e (label :: labels) =
      match (s.evaluated e.options label cell).outcome with
      | .error f => ⟨(s.evaluated e.options label cell).notices, .error f⟩
      | .ok out => (s.sweepLabels e' labels).after (s.evaluated e.options label cell).notices
          ⟨label, out.value, out.error⟩ := by
  refine ⟨_, Evaluator.options_evaluate e s.source (some label) (.list cell.formula), ?_⟩
  have hfresh : e.evaluate s.source (some label) (.list cell.formula) =
      s.evaluated e.options label cell :=
    Evaluator.evaluate_eq_of_options rfl _ _ _
  rw [sweepLabels, h]
  cases ho : (s.evaluated e.options label cell).outcome with
  | error f => simp only [hfresh, List.isEmpty_iff, if_neg hf, ho]
  | ok out => simp only [hfresh, List.isEmpty_iff, if_neg hf, ho]

theorem sweepLabels_cons_of_empty (e : Evaluator) {label : Text} (labels : List Text)
    {cell : Cell} (h : s.get label = .ok cell) (hf : cell.formula = []) :
    s.sweepLabels e (label :: labels) = s.sweepLabels e labels := by
  rw [sweepLabels, h]
  simp only [hf, List.isEmpty_nil, if_true]

/-- **The rows** of the cells that are left are those of the cells with a formula, each for
itself. -/
theorem rows_sweepLabels (e : Evaluator) {r : Register Cell}
    (h : ∀ x ∈ r, s.get x.1 = .ok x.2) : (s.sweepLabels e r.names).rows =
      (r.filter fun x => !x.2.formula.isEmpty).mapM (s.rowOf e.options) := by
  induction r generalizing e with
  | nil => rfl
  | cons x r ih =>
    have hx := h x List.mem_cons_self
    have hr := fun y hy => h y (List.mem_cons_of_mem x hy)
    rw [Register.names_cons]
    by_cases hf : x.2.formula = []
    · rw [sweepLabels_cons_of_empty e _ hx hf, ih e hr, List.filter_cons_of_neg (by simp [hf])]
    · obtain ⟨e', ho, hs⟩ := sweepLabels_cons e (Register.names r) hx hf
      rw [hs, List.filter_cons_of_pos (by simp [hf]), List.mapM_cons, rowOf]
      cases (s.evaluated e.options x.1 x.2).outcome with
      | error f => rfl
      | ok out =>
        rw [← ho, ← ih e' hr]
        rfl

/-- What the event log is to know of a sweep that has rows is what it is to know of each of its
evaluations. -/
theorem notices_sweepLabels (e : Evaluator) {r : Register Cell}
    (h : ∀ x ∈ r, s.get x.1 = .ok x.2) {rows : List Row}
    (hrows : (s.sweepLabels e r.names).rows = .ok rows) : (s.sweepLabels e r.names).notices =
      (r.filter fun x => !x.2.formula.isEmpty).flatMap fun x =>
        (s.evaluated e.options x.1 x.2).notices := by
  induction r generalizing e rows with
  | nil => rfl
  | cons x r ih =>
    have hx := h x List.mem_cons_self
    have hr := fun y hy => h y (List.mem_cons_of_mem x hy)
    rw [Register.names_cons] at hrows ⊢
    by_cases hf : x.2.formula = []
    · rw [sweepLabels_cons_of_empty e _ hx hf] at hrows ⊢
      rw [ih e hr hrows, List.filter_cons_of_neg (by simp [hf])]
    · obtain ⟨e', ho, hs⟩ := sweepLabels_cons e (Register.names r) hx hf
      rw [hs] at hrows ⊢
      rw [List.filter_cons_of_pos (by simp [hf]), List.flatMap_cons]
      cases hout : (s.evaluated e.options x.1 x.2).outcome with
      | error f =>
        rw [hout] at hrows
        cases hrows
      | ok out =>
        rw [hout] at hrows
        obtain ⟨rest, hrest, -⟩ := map_eq_ok_iff.1 hrows
        rw [← ho, ← ih e' hr hrest]
        rfl

theorem get_of_mem_listing : ∀ x ∈ s.listing, s.get x.1 = .ok x.2 := fun x hx => by
  rw [get, mem_listing.1 hx]

theorem sweep_eq (s : Sheet) (e : Evaluator) : s.sweep e = s.sweepLabels e s.listing.names := by
  rw [sweep, names_listing]

/-- The rows are those of the cells of a sheet that have a formula. -/
structure AreRows (s : Sheet) (o : Options) (rows : List Row) : Prop where
  /-- there is one row for each of these cells, in the order of the labels -/
  labels : rows.map Row.label = s.labels.filter s.hasFormula
  /-- a row is what an evaluator that has evaluated nothing returns for the formula of the cell -/
  returned : ∀ row ∈ rows, ∃ cell, s.cells.find? row.label = some cell ∧
    (s.evaluated o row.label cell).outcome = .ok ⟨row.value, row.error⟩

/-- **If all evaluations return**, a sweep has the rows of the cells with a formula, whatever the
evaluator remembers, and the event log is to know what it is to know of each of them. -/
theorem exists_rows {e : Evaluator}
    (h : ∀ label cell, s.cells.find? label = some cell → cell.formula ≠ [] →
      ∃ out, (s.evaluated e.options label cell).outcome = .ok out) :
    ∃ rows, (s.sweep e).rows = .ok rows ∧ s.AreRows e.options rows ∧
      (s.sweep e).notices =
      s.formulas.flatMap fun x => (s.evaluated e.options x.1 x.2).notices := by
  obtain ⟨rows, hrows⟩ : ∃ rows, s.formulas.mapM (s.rowOf e.options) = .ok rows := by
    refine exists_of_forall_mapM fun x hx => ?_
    obtain ⟨hf, hne⟩ := mem_formulas.1 hx
    obtain ⟨out, hout⟩ := h x.1 x.2 hf hne
    exact ⟨_, map_eq_ok_iff.2 ⟨out, hout, rfl⟩⟩
  have hlabels : rows.map Row.label = s.formulas.names := by
    refine map_of_mapM (fun x row hrow => ?_) hrows
    obtain ⟨out, -, rfl⟩ := map_eq_ok_iff.1 hrow
    rfl
  have hr : (s.sweep e).rows = .ok rows := by
    rw [sweep_eq, rows_sweepLabels e get_of_mem_listing]
    exact hrows
  refine ⟨rows, hr, ⟨hlabels.trans s.names_formulas, fun row hm => ?_⟩, ?_⟩
  · obtain ⟨x, hx, hrow⟩ := exists_of_mem_results hrows hm
    obtain ⟨out, hout, rfl⟩ := map_eq_ok_iff.1 hrow
    exact ⟨x.2, (mem_formulas.1 hx).1, hout⟩
  · rw [sweep_eq] at hr ⊢
    exact notices_sweepLabels e get_of_mem_listing hr

/-- If a sweep has rows then all evaluations return. -/
theorem returns_of_rows {e : Evaluator} {rows : List Row} (h : (s.sweep e).rows = .ok rows)
    {label : Text} {cell : Cell} (hf : s.cells.find? label = some cell)
    (hne : cell.formula ≠ []) : ∃ out, (s.evaluated e.options label cell).outcome = .ok out := by
  rw [sweep_eq, rows_sweepLabels e get_of_mem_listing] at h
  obtain ⟨row, -, hrow⟩ := exists_of_mem_of_mapM h (mem_formulas.2 ⟨hf, hne⟩)
  obtain ⟨out, hout, -⟩ := map_eq_ok_iff.1 hrow
  exact ⟨out, hout⟩

/-- **A row has an error** exactly if the error is not the empty text. -/
theorem AreRows.hasError_iff {rows : List Row} (h : s.AreRows o rows) {row : Row}
    (hm : row ∈ rows) : row.hasError = true ↔ row.error ≠ .str "" := by
  obtain ⟨cell, -, hout⟩ := h.returned row hm
  rw [Row.hasError]
  constructor
  · intro ht he
    rw [he] at ht
    cases ht
  · exact (Evaluator.isTrue_error_of_evaluate hout).resolve_left

/-- The error of a row is a text, or octets that are one. -/
theorem AreRows.plainText {rows : List Row} (h : s.AreRows o rows) {row : Row}
    (hm : row ∈ rows) : row.error.plainText?.isSome = true := by
  obtain ⟨cell, -, hout⟩ := h.returned row hm
  exact Evaluator.plainText_of_evaluate hout

end Sheet

end FormulaSheet
