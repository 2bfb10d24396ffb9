import FormulaSheet.Proofs.Formula.Record
import FormulaSheet.Sheet.Spec

/-!
# Sheets from specifications

A sheet may hold tokens of any type. A sheet that was built from a specification holds what formula
texts were split into, and so only texts.

* `ofSpec_eq`: the parts of building a sheet;
* `exists_of_specFormula`: a cell is described with the tokens of a text;
* `isOfTexts_ofSpec`: every cell of such a sheet is made of the tokens of a text;
* `hasTextTokens_ofSpec`: every formula of such a sheet is made of texts;
* `HasTextTokens.isPlain`: to references, such a sheet is plain.
-/

namespace FormulaSheet

/-- The cell is made of the tokens of a formula text, and of any value and any error. -/
def Cell.IsOfText (cell : Cell) : Prop :=
  ∃ text tokens value error, Formula.tokenize text = .ok tokens ∧
    ofValues (.list (tokens.map .str)) value error = .ok cell

namespace Sheet

/-- The extent that a specification gives its sheet. -/
def specGrid (spec : Value) : Except Fault Grid := do
  let columns ← ((spec.entry? "n_cols").getD (.int 26)).toInt
  let rows ← ((spec.entry? "n_rows").getD (.int 100)).toInt
  Grid.ofSize columns rows

/-- **A mapping** is built as the sheet of its extent, in which its cells are stored one after the
other. -/
theorem ofSpec_eq (entries : List (Value × Value)) : ofSpec (.map entries) =
    specGrid (.map entries) >>= fun g => specCells (.map entries) >>= fun cells =>
      cells.foldlM (fun s e => addSpec s e.1 e.2) (blank g) := by
  rw [ofSpec, specGrid]
  cases ((Value.entry? "n_cols" (.map entries)).getD (.int 26)).toInt with
  | error f => rfl
  | ok columns =>
    cases ((Value.entry? "n_rows" (.map entries)).getD (.int 100)).toInt with
    | error f => rfl
    | ok rows => rfl

/-- The tokens of the formulas that are stored in the sheet are texts. -/
def HasTextTokens (sheet : Sheet) : Prop :=
  ∀ label cell, sheet.cells.find? label = some cell →
    ∃ tokens : List Text, cell.formula = tokens.map .str

/-- The cells that are stored in the sheet are made of the tokens of texts. -/
def IsOfTexts (sheet : Sheet) : Prop :=
  ∀ label cell, sheet.cells.find? label = some cell → cell.IsOfText

/-- The tokens that a cell is described with are those of a text. Where the formula is null, these
are the tokens of the empty text. -/
theorem exists_of_specFormula {spec : Value} {tokens : List Text}
    (h : specFormula spec = .ok tokens) : ∃ text, Formula.tokenize text = .ok tokens := by
  have hempty : Formula.tokenize "" = .ok [] := by cbv
  rw [specFormula] at h
  split at h
  · cases h
    exact ⟨"", hempty⟩
  · obtain ⟨text, -, h⟩ := bind_eq_ok_iff.1 h
    refine ⟨text, ?_⟩
    cases ht : Formula.tokenize text with
    | error e =>
      rw [ht] at h
      cases h
    | ok found =>
      rw [ht] at h
      cases h
      rfl

theorem isOfTexts_blank (g : Grid) : (blank g).IsOfTexts := by
  intro label cell h
  cases h

theorem IsOfTexts.put {sheet : Sheet} (hs : sheet.IsOfTexts) {label : Text} {cell : Cell}
    (h : sheet.grid.Admits label) (hc : cell.IsOfText) : (sheet.put label cell h).IsOfTexts := by
  intro other cell' hf
  by_cases ho : other = label
  · subst ho
    obtain rfl : cell = cell' := by simpa [Sheet.put, Register.find?_put_self] using hf
    exact hc
  · refine hs other cell' ?_
    simpa [Sheet.put, Register.find?_put_of_ne ho] using hf

theorem IsOfTexts.addSpec {sheet sheet' : Sheet} (hs : sheet.IsOfTexts) {label spec : Value}
    (h : sheet.addSpec label spec = .ok sheet') : sheet'.IsOfTexts := by
  obtain ⟨name, -, h⟩ := bind_eq_ok_iff.1 h
  obtain ⟨tokens, ht, h⟩ := bind_eq_ok_iff.1 h
  obtain ⟨text, ht⟩ := exists_of_specFormula ht
  obtain ⟨⟨cell, sheet''⟩, hset, h⟩ := bind_eq_ok_iff.1 h
  cases h
  obtain ⟨hc, ha, rfl⟩ := set_eq_ok_iff.1 hset
  exact hs.put ha ⟨text, tokens, _, _, ht, hc⟩

/-- **Every cell** of a sheet from a specification is made of the tokens of a text. -/
theorem isOfTexts_ofSpec {spec : Value} {sheet : Sheet} (h : ofSpec spec = .ok sheet) :
    sheet.IsOfTexts := by
  cases spec with
  | map entries =>
    rw [ofSpec_eq] at h
    obtain ⟨g, -, h⟩ := bind_eq_ok_iff.1 h
    obtain ⟨cells, -, h⟩ := bind_eq_ok_iff.1 h
    exact invariant_of_foldlM (P := IsOfTexts) (fun s e s' hs he => hs.addSpec he) h
      (isOfTexts_blank g)
  | _ => cases h

/-- A cell that is made of texts has them as its formula. -/
theorem formula_of_ofValues {tokens : List Text} {value error : Value} {cell : Cell}
    (h : Cell.ofValues (.list (tokens.map .str)) value error = .ok cell) :
    cell.formula = tokens.map .str := by
  obtain ⟨tokens', ht, h⟩ := bind_eq_ok_iff.1 h
  cases ht
  obtain ⟨x, -, h⟩ := bind_eq_ok_iff.1 h
  cases h
  rfl

/-- **Every formula** of a sheet from a specification is made of texts. -/
theorem hasTextTokens_ofSpec {spec : Value} {sheet : Sheet} (h : ofSpec spec = .ok sheet) :
    sheet.HasTextTokens := by
  intro label cell hf
  obtain ⟨-, tokens, _, _, -, hc⟩ := isOfTexts_ofSpec h label cell hf
  exact ⟨tokens, formula_of_ofValues hc⟩

theorem HasTextTokens.isPlain {sheet : Sheet} (hs : sheet.HasTextTokens) :
    sheet.source.IsPlain := by
  have hf (label : Text) : sheet.source.stored.find? label =
      (sheet.cells.find? label).map Cell.content :=
    Register.find?_map Cell.content label sheet.cells
  constructor
  · intro label c h
    rw [hf] at h
    obtain ⟨cell, hc, rfl⟩ := Option.map_eq_some_iff.1 h
    obtain ⟨tokens, ht⟩ := hs label cell hc
    exact ⟨tokens, congrArg Value.list ht⟩
  · intro label c h
    rw [hf] at h
    obtain ⟨cell, -, rfl⟩ := Option.map_eq_some_iff.1 h
    exact ⟨cell.value, rfl⟩

end Sheet

end FormulaSheet
