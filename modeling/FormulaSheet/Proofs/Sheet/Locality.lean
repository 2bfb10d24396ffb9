import FormulaSheet.Proofs.Formula.Locality
import FormulaSheet.Proofs.Formula.Reference
import FormulaSheet.Proofs.Sheet.References
import FormulaSheet.Proofs.Value

/-!
# What a formula sees of a sheet

Two sheets may differ in what was calculated for their cells: in the values and errors of cells with
a formula. A formula that is evaluated in both sees the difference only where it refers to such a
cell.

* `SameButForResults`: the relation between two such sheets, and that it is an equivalence;
* `SameButForResults.evaluate_eq`: a formula gives the same in both sheets if they agree on the
  cells with a formula that it refers to.
-/

namespace FormulaSheet

namespace Sheet

/-- A cell with a formula is stored under the label. -/
def HoldsFormula (s : Sheet) (label : Text) : Prop :=
  ∃ cell, s.cells.find? label = some cell ∧ cell.formula ≠ []

/-- Two sheets that differ in nothing but the values and errors of cells with a formula. -/
structure SameButForResults (s t : Sheet) : Prop where
  grid : s.grid = t.grid
  names : s.cells.names = t.cells.names
  cell : ∀ label cell, s.cells.find? label = some cell → ∃ cell', t.cells.find? label = some cell' ∧
    cell'.formula = cell.formula ∧ (cell.formula = [] → cell' = cell)

variable {s t u : Sheet} {c : LabelClass} {label : Text}

namespace SameButForResults

theorem refl (s : Sheet) : s.SameButForResults s :=
  ⟨rfl, rfl, fun _ cell h => ⟨cell, h, rfl, fun _ => rfl⟩⟩

theorem symm (h : s.SameButForResults t) : t.SameButForResults s := by
  refine ⟨h.grid.symm, h.names.symm, fun label cell' ht => ?_⟩
  obtain ⟨cell, hs⟩ := Register.exists_of_mem_names (h.names ▸ Register.mem_names_of_find? ht)
  obtain ⟨cell'', ht', hf, hp⟩ := h.cell label cell hs
  obtain rfl : cell' = cell'' := Option.some.inj (ht.symm.trans ht')
  exact ⟨cell, hs, hf.symm, fun he => (hp (hf ▸ he)).symm⟩

theorem trans (h : s.SameButForResults t) (h' : t.SameButForResults u) : s.SameButForResults u := by
  refine ⟨h.grid.trans h'.grid, h.names.trans h'.names, fun label cell hs => ?_⟩
  obtain ⟨cell', ht, hf, hp⟩ := h.cell label cell hs
  obtain ⟨cell'', hu, hf', hp'⟩ := h'.cell label cell' ht
  exact ⟨cell'', hu, hf'.trans hf, fun he => (hp' (hf.trans he)).trans (hp he)⟩

theorem find?_eq_none (h : s.SameButForResults t) (hs : s.cells.find? label = none) :
    t.cells.find? label = none := by
  refine Register.find?_eq_none fun hm => ?_
  obtain ⟨cell, hf⟩ := Register.exists_of_mem_names (h.names ▸ hm)
  rw [hs] at hf
  cases hf

theorem refers (h : s.SameButForResults t) {other : Text} (hr : s.Refers c label other) :
    t.Refers c label other := by
  obtain ⟨cell, hf, hm, hc⟩ := hr
  obtain ⟨cell', hf', he, -⟩ := h.cell label cell hf
  exact ⟨cell', hf', he ▸ hm, hc⟩

theorem holdsFormula (h : s.SameButForResults t) (hs : s.HoldsFormula label) :
    t.HoldsFormula label := by
  obtain ⟨cell, hf, hn⟩ := hs
  obtain ⟨cell', hf', he, -⟩ := h.cell label cell hf
  exact ⟨cell', hf', he ▸ hn⟩

theorem sameFormulas (h : s.SameButForResults t) : s.source.SameFormulas t.source := by
  refine ⟨?_, fun label => ?_⟩
  · simp only [source, h.grid]
  · rw [find?_source, find?_source]
    cases hs : s.cells.find? label with
    | none => rw [h.find?_eq_none hs]
    | some cell =>
      obtain ⟨cell', ht, hf, -⟩ := h.cell label cell hs
      rw [ht]
      simp [Cell.content, hf]

/-- A label is looked up with as many calls. -/
theorem framesAt_eq (h : s.SameButForResults t) : s.framesAt = t.framesAt := by
  funext label
  rw [framesAt, framesAt]
  cases hs : s.cells.find? label with
  | none => rw [h.find?_eq_none hs]
  | some cell =>
    obtain ⟨cell', ht, -⟩ := h.cell label cell hs
    rw [ht]
    rfl

/-- What is seen at a label is the same, unless there is a cell with a formula in which the sheets
differ. -/
theorem lookup_eq (h : s.SameButForResults t)
    (hl : s.HoldsFormula label → t.cells.find? label = s.cells.find? label) :
    s.source.lookup label = t.source.lookup label := by
  rw [lookup_source, lookup_source, get, get, h.grid]
  cases hs : s.cells.find? label with
  | none => rw [h.find?_eq_none hs]
  | some cell =>
    obtain ⟨cell', ht, -, hp⟩ := h.cell label cell hs
    by_cases hf : cell.formula = []
    · rw [ht, hp hf]
    · rw [hl ⟨cell, hs, hf⟩, hs]

/-- **A formula gives the same in both sheets** if they agree on the cells with a formula that it
refers to. -/
theorem evaluate_eq (h : s.SameButForResults t) {cell : Cell} (e : Evaluator)
    (hc : s.cells.find? label = some cell)
    (hr : ∀ other, s.Refers e.options.labels label other → s.HoldsFormula other →
      t.cells.find? other = s.cells.find? other) :
    e.evaluate s.source (some label) (.list cell.formula) =
      e.evaluate t.source (some label) (.list cell.formula) := by
  rw [Evaluator.evaluate, Evaluator.evaluate]
  cases hx : Evaluator.tokensOf (.list cell.formula) with
  | error f => rfl
  | ok tokens =>
    refine Evaluator.evaluateTokens_eq ⟨rfl, rfl, rfl, fun room token hm hl => ?_⟩
    have hsame : s.source.lookup token = t.source.lookup token := by
      refine h.lookup_eq fun hf => hr token ?_ hf
      obtain ⟨v, hv, htext⟩ := exists_of_mem_results (f := Value.text) hx hm
      obtain ⟨cell', hs, -⟩ := hf
      -- what is stored under the token shows that the token is a label, so it was a text before
      have hlabel := (s.admitted token (Register.mem_names_of_find? hs)).isLabel
      rw [Value.eq_str_of_text htext hlabel] at hv
      exact ⟨cell, hc, hv, hl⟩
    refine Setting.referenceIn_eq ?_ ?_ ?_ ?_ ?_ ?_ room
    · exact h.sameFormulas
    · rfl
    · rfl
    · rfl
    · exact h.framesAt_eq
    · exact hsame

end SameButForResults

end Sheet

end FormulaSheet
