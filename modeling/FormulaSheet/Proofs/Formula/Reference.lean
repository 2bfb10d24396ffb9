import FormulaSheet.Formula.Evaluator
import FormulaSheet.Proofs.Formula.Reading
import FormulaSheet.Proofs.Register
import FormulaSheet.Proofs.Result

/-!
# What references yield

A reference is checked for leading back, looked up, and read. `ReferenceStep` lists the ways in
which this can end, and `Sheet.trusted?` says on its own, in terms of the cells of a sheet, when a
reference has a value: the label is not circular, and the cell has a formula and no error.

* `reference_ok_iff`: a reference ends in one of three ways;
* `Sheet.trusts_trusted?`: over a sheet whose errors are texts, a reference has no failure
  exactly if it can be trusted;
* `code_ne_empty_of_reference`: a failure that comes from a reference has a code.
-/

namespace FormulaSheet

/-! ## Lookup -/

/-- What a sheet shows at a label is the content of the cell there. -/
theorem Sheet.lookup_source (sheet : Sheet) (label : Text) :
    sheet.source.lookup label = (sheet.get label).map Cell.content := by
  have hf : sheet.source.stored.find? label = (sheet.cells.find? label).map Cell.content :=
    Register.find?_map Cell.content label sheet.cells
  rw [Source.lookup, hf, Sheet.get]
  cases sheet.cells.find? label with
  | some cell => rfl
  | none =>
    simp only [Option.map_none, Sheet.source]
    cases sheet.grid.locate label with
    | error f => rfl
    | ok p => rfl

theorem Sheet.lookup_eq_error_iff {sheet : Sheet} {label : Text} {f : Fault} :
    sheet.source.lookup label = .error f ↔ sheet.get label = .error f := by
  rw [lookup_source, map_eq_error_iff]

theorem Sheet.lookup_of_get {sheet : Sheet} {label : Text} {cell : Cell}
    (h : sheet.get label = .ok cell) : sheet.source.lookup label = .ok cell.content := by
  rw [lookup_source, h]
  rfl

theorem Sheet.exists_get_of_lookup {sheet : Sheet} {label : Text} {c : Content}
    (h : sheet.source.lookup label = .ok c) :
    ∃ cell, sheet.get label = .ok cell ∧ cell.content = c :=
  map_eq_ok_iff.1 (sheet.lookup_source label ▸ h)

/-- A cell that is shown at a label is stored, or it is the empty one. -/
theorem Sheet.find?_or_eq_empty_of_get {sheet : Sheet} {label : Text} {cell : Cell}
    (h : sheet.get label = .ok cell) :
    sheet.cells.find? label = some cell ∨ cell = Cell.empty := by
  rw [get] at h
  split at h
  · rename_i cell' hf
    cases h
    exact .inl hf
  · obtain ⟨p, -, hp⟩ := map_eq_ok_iff.1 h
    exact .inr hp.symm

/-! ## The ways in which a reference ends -/

namespace Setting

/-- A reference to a label ends with a value and a failure. -/
inductive ReferenceStep (s : Setting) (label : Text) : Float → Option Failure → Prop
  /-- the label leads back -/
  | circular : (s.isCircular label).result = .ok true →
      ReferenceStep s label 0.0 (some .circular)
  /-- the label is refused -/
  | unresolved {f : Fault} : (s.isCircular label).result = .ok false →
      s.source.lookup label = .error f → f.isFormulaFault = true →
      ReferenceStep s label 0.0 (some .reference)
  /-- there is a cell -/
  | read {c : Content} {x : Float} {g : Option Failure} : (s.isCircular label).result = .ok false →
      s.source.lookup label = .ok c → c.reading = .ok (x, g) → ReferenceStep s label x g

variable {s : Setting} {label : Text}

theorem fetch_some_iff {c : Content} :
    (s.fetch label).result = .ok (some c) ↔ s.source.lookup label = .ok c := by
  rw [fetch, Traced.noting_result]
  cases s.source.lookup label with
  | ok c' => simp [Traced.pure_eq]
  | error f => cases hf : f.isFormulaFault <;> simp [hf, Traced.halt]

theorem fetch_none_iff : (s.fetch label).result = .ok none ↔
    ∃ f, s.source.lookup label = .error f ∧ f.isFormulaFault = true := by
  rw [fetch, Traced.noting_result]
  cases s.source.lookup label with
  | ok c' => simp [Traced.pure_eq]
  | error f => cases hf : f.isFormulaFault <;> simp [hf, Traced.halt]

theorem not_isCut_fetch : ¬ (s.fetch label).IsCut := by
  rw [fetch, Traced.isCut_noting]
  split
  · exact Traced.not_isCut_pure
  · split
    · exact Traced.not_isCut_pure
    · exact Traced.not_isCut_fault

theorem ofExcept_ok_iff {α : Type} {r : Except Fault α} {a : α} :
    (Traced.ofExcept r).result = .ok a ↔ r = .ok a := by
  cases r <;> simp [Traced.ofExcept]

/-- **A reference** ends in one of the ways of `ReferenceStep`. -/
theorem reference_ok_iff {x : Float} {g : Option Failure} :
    (s.reference label).result = .ok (x, g) ↔ s.ReferenceStep label x g := by
  rw [reference, Traced.bind_ok_iff]
  constructor
  · rintro ⟨circular, hc, h⟩
    cases circular with
    | true =>
      rw [if_pos rfl, Traced.noting_result, Traced.pure_ok_iff] at h
      cases h
      exact .circular hc
    | false =>
      rw [if_neg Bool.false_ne_true, Traced.bind_ok_iff] at h
      obtain ⟨content, hf, h⟩ := h
      cases content with
      | none =>
        cases h
        obtain ⟨f, hl, hff⟩ := fetch_none_iff.1 hf
        exact .unresolved hc hl hff
      | some c => exact .read hc (fetch_some_iff.1 hf) (ofExcept_ok_iff.1 h)
  · intro h
    cases h with
    | circular hc => exact ⟨true, hc, rfl⟩
    | unresolved hc hl hf =>
      refine ⟨false, hc, ?_⟩
      rw [if_neg Bool.false_ne_true]
      exact Traced.bind_ok_iff.2 ⟨none, fetch_none_iff.2 ⟨_, hl, hf⟩, rfl⟩
    | read hc hl hr =>
      refine ⟨false, hc, ?_⟩
      rw [if_neg Bool.false_ne_true]
      exact Traced.bind_ok_iff.2 ⟨some _, fetch_some_iff.2 hl, ofExcept_ok_iff.2 hr⟩

end Setting

/-! ## Failures that come from references have codes -/

/-- A reference to a content fails for want of a formula, or with the error that is kept, if that
counts and does not stand for none. -/
theorem Content.failure_of_reading {c : Content} {x : Float} {g : Failure}
    (h : c.reading = .ok (x, some g)) :
    g = .reference ∧ c.formula.elements = .ok [] ∨
      g = .stored c.error ∧ c.error.isTrue = true ∧ isClear c.error = false := by
  rw [reading] at h
  split at h
  · rename_i hc
    split at h
    · rename_i ht
      cases h
      exact .inr ⟨rfl, ht, by simpa using hc⟩
    · cases h
  · split at h
    · cases h
    · rename_i hf
      cases h
      exact .inl ⟨rfl, hf⟩
    · obtain ⟨y, -, hy⟩ := map_eq_ok_iff.1 h
      cases hy

theorem Content.code_ne_empty_of_reading {c : Content} {x : Float} {g : Failure}
    (h : c.reading = .ok (x, some g)) : g.code ≠ .str "" := by
  refine Failure.code_ne_empty fun e he => ?_
  rcases failure_of_reading h with ⟨rfl, -⟩ | ⟨rfl, ht, -⟩
  · cases he
  · cases he
    exact ht

theorem Setting.code_ne_empty_of_reference {s : Setting} {label : Text} {x : Float} {g : Failure}
    (h : (s.reference label).result = .ok (x, some g)) : g.code ≠ .str "" := by
  cases reference_ok_iff.1 h with
  | circular _ => simp [Failure.code]
  | unresolved _ _ _ => simp [Failure.code]
  | read _ _ hr => exact Content.code_ne_empty_of_reading hr

/-! ## References that can be trusted -/

/-- Every error that is stored in the sheet is a text. -/
def Sheet.HasTextErrors (sheet : Sheet) : Prop :=
  ∀ label cell, sheet.cells.find? label = some cell → ∃ text, cell.error = .str text

/-- Storing a cell whose error is a text keeps the errors texts. -/
theorem Sheet.HasTextErrors.put {sheet : Sheet} (hs : sheet.HasTextErrors) {label text : Text}
    {cell : Cell} (hc : cell.error = .str text) (h : sheet.grid.Admits label) :
    (sheet.put label cell h).HasTextErrors := by
  intro other cell' hf
  by_cases ho : other = label
  · subst ho
    obtain rfl := Option.some.inj ((Register.find?_put_self other cell sheet.cells).symm.trans hf)
    exact ⟨text, hc⟩
  · exact hs other cell' ((Register.find?_put_of_ne ho cell sheet.cells).symm.trans hf)

/-- Whether a reference to the cell yields its value: it has a formula, and its error is empty or
the one of the empty formula. -/
def Cell.isTrusted (cell : Cell) : Bool :=
  !cell.formula.isEmpty && Content.isClear cell.error

/-- The value of a reference to the label, if it has one: the label passes the check for circular
references, where there is one, and leads to a cell that can be trusted. -/
def Sheet.trusted? (sheet : Sheet) (o : Options) (origin : Option Text) (label : Text) :
    Option Float :=
  match ((Evaluator.setting o sheet.source origin).isCircular label).result, sheet.get label with
  | .ok false, .ok cell => if cell.isTrusted then some cell.value else none
  | _, _ => none

theorem Sheet.trusted?_eq_some_iff {sheet : Sheet} {o : Options} {origin : Option Text}
    {label : Text} {x : Float} :
    sheet.trusted? o origin label = some x ↔
      ((Evaluator.setting o sheet.source origin).isCircular label).result = .ok false ∧
        ∃ cell, sheet.get label = .ok cell ∧ cell.isTrusted = true ∧ cell.value = x := by
  rw [trusted?]
  constructor
  · intro h
    split at h
    · rename_i cell hc hg
      split at h
      · rename_i ht
        exact ⟨hc, cell, hg, ht, Option.some.inj h⟩
      · cases h
    · cases h
  · rintro ⟨hc, cell, hg, ht, hx⟩
    simp only [hc, hg, ht, if_true, hx]

/-- A cell whose error is a text is read without a failure exactly if it can be trusted. -/
theorem Cell.reading_none_iff {cell : Cell} {x : Float} (ht : ∃ text, cell.error = .str text) :
    cell.content.reading = .ok (x, none) ↔ cell.isTrusted = true ∧ cell.value = x := by
  obtain ⟨text, ht⟩ := ht
  rw [Content.reading, isTrusted]
  cases hc : Content.isClear cell.error with
  | false =>
    have hne : cell.error.isTrue = true := by
      rw [ht] at hc ⊢
      simp only [Content.isClear, Bool.or_eq_false_iff] at hc
      simp [Value.isTrue, bne, hc.1]
    simp [content, hc, hne]
  | true =>
    cases hf : cell.formula with
    | nil => simp [content, hc, hf, Value.elements]
    | cons v vs => simp [content, hc, hf, Value.elements, Value.toFloat, Except.map]

theorem Sheet.get_hasTextError {sheet : Sheet} (ht : sheet.HasTextErrors) {label : Text}
    {cell : Cell} (h : sheet.get label = .ok cell) : ∃ text, cell.error = .str text := by
  rcases find?_or_eq_empty_of_get h with hf | rfl
  · exact ht label cell hf
  · exact ⟨Failure.emptyCode, rfl⟩

/-- **Over a sheet whose errors are texts**, the references without a failure are those that can be
trusted. -/
theorem Sheet.trusts_trusted? {sheet : Sheet} (ht : sheet.HasTextErrors) (o : Options)
    (origin : Option Text) :
    (Evaluator.setting o sheet.source origin).Trusts (sheet.trusted? o origin) := by
  intro label x
  have hl : (Evaluator.setting o sheet.source origin).source.lookup label =
      (sheet.get label).map Cell.content := sheet.lookup_source label
  rw [Setting.reference_ok_iff, trusted?_eq_some_iff]
  constructor
  · intro h
    cases h with
    | @read c _ _ hc hs hr =>
      obtain ⟨cell, hg, rfl⟩ := sheet.exists_get_of_lookup hs
      obtain ⟨htr, hx⟩ := (Cell.reading_none_iff (sheet.get_hasTextError ht hg)).1 hr
      exact ⟨hc, cell, hg, htr, hx⟩
  · rintro ⟨hc, cell, hg, htr, hx⟩
    refine .read hc (c := cell.content) ?_ ?_
    · rw [hl, hg]
      rfl
    · exact (Cell.reading_none_iff (sheet.get_hasTextError ht hg)).2 ⟨htr, hx⟩

end FormulaSheet
