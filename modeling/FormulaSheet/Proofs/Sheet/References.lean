import FormulaSheet.Formula.Reach
import FormulaSheet.Proofs.Register
import FormulaSheet.Proofs.Result
import Mathlib.Logic.Relation

/-!
# The references of a sheet

A sheet is a graph: a stored cell refers to the labels among the tokens of its formula. Storing a
cell replaces what its label refers to, and nothing else.

* `leads_of_transGen`: what can be reached in the graph is what references lead to;
* `refers_put_self`, `refers_put_of_ne`: what a label refers to after a cell was stored.
-/

namespace FormulaSheet.Sheet

variable {s t : Sheet} {c : LabelClass} {label other : Text}

/-- The formula that is stored under the first label mentions the second. -/
def Refers (s : Sheet) (c : LabelClass) (label other : Text) : Prop :=
  ∃ cell, s.cells.find? label = some cell ∧ .str other ∈ cell.formula ∧ c.holds other = true

/-- No label leads back to itself. -/
def Acyclic (s : Sheet) (c : LabelClass) : Prop :=
  ∀ label, ¬ Relation.TransGen (s.Refers c) label label

theorem find?_source (s : Sheet) (label : Text) :
    s.source.stored.find? label = (s.cells.find? label).map Cell.content :=
  Register.find?_map Cell.content label s.cells

theorem mentions_of_refers (h : s.Refers c label other) : s.source.Mentions c label other := by
  obtain ⟨cell, hf, hm, hc⟩ := h
  refine ⟨cell.content, cell.formula, ?_, rfl, hm, hc⟩
  rw [Source.lookup, find?_source, hf]
  rfl

theorem leads_of_transGen (h : Relation.TransGen (s.Refers c) label other) :
    s.source.Leads c label other := by
  induction h using Relation.TransGen.head_induction_on with
  | single hr => exact .mention (mentions_of_refers hr)
  | head hr _ ih => exact .step (mentions_of_refers hr) ih

/-! ## Storing -/

theorem find?_put (s : Sheet) (label : Text) (cell : Cell) (h : s.grid.Admits label)
    (other : Text) : (s.put label cell h).cells.find? other =
      if other = label then some cell else s.cells.find? other := by
  split
  · rename_i he
    rw [he]
    exact Register.find?_put_self label cell s.cells
  · rename_i hn
    exact Register.find?_put_of_ne hn cell s.cells

theorem refers_put_self {cell : Cell} {h : s.grid.Admits label} :
    (s.put label cell h).Refers c label other ↔ .str other ∈ cell.formula ∧
      c.holds other = true := by
  rw [Refers]
  simp only [find?_put, if_true, Option.some.injEq]
  constructor
  · rintro ⟨cell', rfl, hm⟩
    exact hm
  · intro hm
    exact ⟨cell, rfl, hm⟩

theorem refers_put_of_ne {cell : Cell} {h : s.grid.Admits label} {via : Text} (hn : via ≠ label) :
    (s.put label cell h).Refers c via other ↔ s.Refers c via other := by
  rw [Refers, Refers]
  simp only [find?_put, if_neg hn]

/-- A cell that is made of given values has the tokens of the formula, the double of the value, and
the error unless it is null. -/
theorem eq_of_ofValues {formula value error : Value} {cell : Cell}
    (h : Cell.ofValues formula value error = .ok cell) :
    formula.elements = .ok cell.formula ∧ value.toFloat = .ok cell.value ∧
      (error ≠ .null → cell.error = error) := by
  unfold Cell.ofValues at h
  obtain ⟨tokens, hf, h⟩ := bind_eq_ok_iff.1 h
  obtain ⟨x, hv, h⟩ := bind_eq_ok_iff.1 h
  cases h
  refine ⟨hf, hv, fun hn => ?_⟩
  split
  · exact absurd rfl hn
  · rfl

end FormulaSheet.Sheet
