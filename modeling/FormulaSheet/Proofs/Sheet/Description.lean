import FormulaSheet.Proofs.Formula.Display
import FormulaSheet.Proofs.Sheet.Calls
import FormulaSheet.Proofs.Sheet.Spec

/-!
# Describing a sheet

A sheet is described by its size and, row by row, by what is stored under its labels: the formula as
the text that displays it, the value and the error. This is a specification again. The sheet that is
built from it is the sheet that was described, up to the order in which the cells were stored.

Each part of a description is read back by what read it first: a label that was accepted is its own
upper case, the tokens of a text are the tokens of the text that displays them, a double is itself,
and a stored error is never null, so that it is not replaced.

* `upper_of_isLabel`: a label is its own upper case;
* `addSpec_description`: a described cell is stored as it was;
* `foldlM_addSpec_description`: described cells are stored one behind the other;
* `ofSpec_description`: a sheet is rebuilt from its description.
-/

namespace FormulaSheet

/-! ## Labels -/

/-- A label is its own upper case, with a line feed at its end or without. -/
theorem Label.upper_of_isLabel {label : Text} (h : isLabel label = true) :
    Text.upper label = label := by
  refine Text.upper_of_ascii_upper fun x hx => ?_
  rcases isSpelling_or_of_isLabel h hx with hs | rfl
  · have hb := isSpelling_bounds hs
    omega
  · decide

/-! ## Cells -/

namespace Cell

/-- The texts among the tokens of the formula of the cell. -/
def texts (cell : Cell) : List Text :=
  cell.formula.filterMap fun
    | .str text => some text
    | _ => none

/-- The mapping that describes a cell. -/
def description (cell : Cell) : Value :=
  .map [(.str "formula", .str (Formula.detokenize cell.texts)), (.str "value", .float cell.value),
    (.str "error", cell.error)]

theorem texts_of_formula {cell : Cell} {tokens : List Text}
    (h : cell.formula = tokens.map .str) : cell.texts = tokens := by
  rw [texts, h, List.filterMap_map]
  exact List.filterMap_some

variable {cell : Cell}

/-- The formula of a cell that was made of a text is all texts, which are read back from the text
that displays them. -/
theorem IsOfText.tokenize (h : cell.IsOfText) :
    cell.formula = cell.texts.map .str ∧
      Formula.tokenize (Formula.detokenize cell.texts) = .ok cell.texts := by
  obtain ⟨text, tokens, value, error, ht, hc⟩ := h
  have hf := Sheet.formula_of_ofValues hc
  rw [texts_of_formula hf]
  exact ⟨hf, Formula.tokenize_detokenize_of_isNormal fun t hm =>
    Formula.exists_isNormal_of_mem ht hm⟩

/-- An error that is null is replaced when the cell is made. -/
theorem error_ne_null_of_ofValues {formula value error : Value}
    (h : ofValues formula value error = .ok cell) : cell.error ≠ .null := by
  obtain ⟨tokens, -, h⟩ := bind_eq_ok_iff.1 h
  obtain ⟨x, -, h⟩ := bind_eq_ok_iff.1 h
  cases h
  dsimp only
  split
  · split <;> exact nofun
  · assumption

/-- A cell that was made of a text is made again of what it holds. -/
theorem IsOfText.ofValues_eq (h : cell.IsOfText) :
    ofValues (.list (cell.texts.map .str)) (.float cell.value) cell.error = .ok cell := by
  have hf := h.tokenize.1
  obtain ⟨_, _, _, _, _, hc⟩ := h
  have hne := error_ne_null_of_ofValues hc
  rw [← hf]
  obtain ⟨formula, value, error⟩ := cell
  simp only [ofValues, Value.elements, Value.toFloat]
  cases error with
  | null => exact absurd rfl hne
  | _ => rfl

end Cell

namespace Sheet

variable {s t : Sheet}

/-! ## Storing what is described -/

theorem specFormula_eq_ok {spec : Value} {text : Text} {tokens : List Text}
    (hf : (spec.entry? "formula").getD (.str "") = .str text)
    (ht : Formula.tokenize text = .ok tokens) : specFormula spec = .ok tokens := by
  rw [specFormula, hf]
  change Except.mapError Fault.formula (Formula.tokenize text) = _
  rw [ht]
  rfl

/-- An entry is stored under the upper case of its label. -/
theorem addSpec_eq_ok {label spec : Value} {name : Text} {tokens : List Text} {cell : Cell}
    (hn : label.text = .ok name) (ht : specFormula (cellSpec spec) = .ok tokens)
    (hc : Cell.ofValues (.list (tokens.map .str))
      ((Value.entry? "value" (cellSpec spec)).getD (.float 0.0))
      ((Value.entry? "error" (cellSpec spec)).getD .null) = .ok cell)
    (hl : t.grid.Admits (Text.upper name)) :
    t.addSpec label spec = .ok (t.put (Text.upper name) cell hl) := by
  have hset := set_eq_ok_iff.2 ⟨hc, hl, rfl⟩
  exact bind_eq_ok_iff.2 ⟨name, hn, bind_eq_ok_iff.2 ⟨tokens, ht, bind_eq_ok_iff.2 ⟨_, hset, rfl⟩⟩⟩

/-- **A described cell** is stored as it was, under the label that it was stored under. -/
theorem addSpec_description {label : Text} (hl : t.grid.Admits label) {cell : Cell}
    (hc : cell.IsOfText) :
    t.addSpec (.str label) cell.description = .ok (t.put label cell hl) := by
  have hupper := Label.upper_of_isLabel hl.isLabel
  have hspec : specFormula (cellSpec cell.description) = .ok cell.texts :=
    specFormula_eq_ok rfl hc.tokenize.2
  have hadd : t.addSpec (.str label) cell.description = .ok (t.put (Text.upper label) cell _) :=
    addSpec_eq_ok rfl hspec hc.ofValues_eq (hupper.symm ▸ hl)
  simpa only [hupper] using hadd

/-- Described cells are stored one behind the other, if their labels are new. -/
theorem foldlM_addSpec_description {r : Register Cell}
    (h : ∀ e ∈ r, t.grid.Admits e.1 ∧ e.2.IsOfText) (hd : (t.cells ++ r).names.Nodup) :
    ∃ t', (r.map fun e => (Value.str e.1, e.2.description)).foldlM
        (fun s e => addSpec s e.1 e.2) t = .ok t' ∧
      t'.grid = t.grid ∧ t'.cells = t.cells ++ r := by
  induction r generalizing t with
  | nil => exact ⟨t, rfl, rfl, (List.append_nil _).symm⟩
  | cons e r ih =>
    obtain ⟨hl, hc⟩ := h e List.mem_cons_self
    have hnew : e.1 ∉ t.cells.names := by
      intro hm
      rw [Register.names, List.map_append] at hd
      exact (List.nodup_append.1 hd).2.2 _ hm _ List.mem_cons_self rfl
    have hput : (t.put e.1 e.2 hl).cells = t.cells ++ [e] := Register.put_of_not_mem e.2 hnew
    have happ : (t.put e.1 e.2 hl).cells ++ r = t.cells ++ e :: r := by
      rw [hput, List.append_assoc, List.singleton_append]
    obtain ⟨t', hrest, hgrid, hcells⟩ := ih (t := t.put e.1 e.2 hl)
      (fun e' he' => h e' (List.mem_cons_of_mem e he')) (happ ▸ hd)
    refine ⟨t', ?_, hgrid, hcells.trans happ⟩
    rw [List.map_cons, List.foldlM_cons, addSpec_description hl hc]
    exact hrest

/-! ## Whole sheets -/

/-- The specification that describes a sheet. -/
def description (s : Sheet) : Value :=
  .map [(.str "n_cols", .int s.grid.columns), (.str "n_rows", .int s.grid.rows),
    (.str "cells", .map (s.listing.map fun e => (.str e.1, e.2.description)))]

/-- **A sheet is rebuilt from its description**: if a sheet was built from a specification, its
formulas are texts, and its description builds a sheet that has the same extent, lists the same
labels in the same order and has under every label the same formula, value and error. -/
theorem ofSpec_description {spec : Value} (h : ofSpec spec = .ok s) :
    (∀ label cell, s.cells.find? label = some cell → cell.formula = cell.texts.map .str) ∧
      ∃ t, ofSpec s.description = .ok t ∧ t.grid = s.grid ∧ t.labels = s.labels ∧
        (∀ label, t.cells.find? label = s.cells.find? label) ∧
        ∀ label, t.get label = s.get label := by
  have htexts := isOfTexts_ofSpec h
  refine ⟨fun label cell hf => (htexts label cell hf).tokenize.1, ?_⟩
  have hentries : ∀ e ∈ s.listing, s.grid.Admits e.1 ∧ e.2.IsOfText := fun e he => by
    have hf := mem_listing.1 he
    exact ⟨s.admitted e.1 (Register.mem_names_of_find? hf), htexts e.1 e.2 hf⟩
  have hd : ((blank s.grid).cells ++ s.listing).names.Nodup := by
    change s.listing.names.Nodup
    rw [names_listing]
    exact s.nodup_labels
  obtain ⟨t, hfold, hgrid, hcells⟩ := foldlM_addSpec_description (t := blank s.grid) hentries hd
  have hsize : Grid.ofSize s.grid.columns s.grid.rows = .ok s.grid :=
    dif_pos ⟨s.grid.columns_pos, s.grid.rows_pos⟩
  have hfind (label : Text) : t.cells.find? label = s.cells.find? label := by
    rw [hcells]
    exact find?_listing s label
  have ht : ofSpec s.description = .ok t := by
    rw [description, ofSpec_eq]
    exact bind_eq_ok_iff.2 ⟨s.grid, hsize, bind_eq_ok_iff.2 ⟨_, rfl, hfold⟩⟩
  refine ⟨t, ht, hgrid, ?_, hfind, fun label => ?_⟩
  · rw [labels, hcells]
    change s.listing.names.mergeSort precedes = s.labels
    rw [names_listing, mergeSort_labels]
  · rw [get, get, hfind, hgrid]
    rfl

/-- A specification with labels in lower case, and with a stored error that is a number. -/
def lowerCaseSpec : Value :=
  .map [(.str "n_cols", .str "3"), (.str "cells", .map [
    (.str "c2", .str " = a1+.5("),
    (.str "a1", .map [(.str "value", .float 7.0), (.str "error", .int 5)])])]

theorem ofSpec_description_of_lower_case :
    ∃ s, ofSpec lowerCaseSpec = .ok s ∧ ∃ t, ofSpec s.description = .ok t ∧
      t.labels = s.labels ∧ t.get "A1" = .ok ⟨[], 7.0, .int 5⟩ ∧
      t.get "C2" = .ok ⟨[.str "A1", .str "+", .str ".5", .str "("], 0.0, .str ""⟩ := by
  let first : Cell := ⟨[.str "A1", .str "+", .str ".5", .str "("], 0.0, .str ""⟩
  let second : Cell := ⟨[], 7.0, .int 5⟩
  let secondSpec : Value := .map [(.str "value", .float 7.0), (.str "error", .int 5)]
  let s₀ := blank ⟨3, 100, by decide, by decide⟩
  let s₁ := s₀.put "C2" first ⟨⟨1, 2⟩, rfl⟩
  let s₂ := s₁.put "A1" second ⟨⟨0, 0⟩, rfl⟩
  have hformula : specFormula (cellSpec (.str " = a1+.5(")) = .ok ["A1", "+", ".5", "("] :=
    specFormula_eq_ok rfl (by cbv)
  have hempty : specFormula (cellSpec secondSpec) = .ok [] := specFormula_eq_ok rfl (by cbv)
  have hfirst : s₀.addSpec (.str "c2") (.str " = a1+.5(") = .ok s₁ := by
    have hc : Cell.ofValues (.list ([("A1" : Text), "+", ".5", "("].map .str)) (.float 0.0) .null =
        .ok first := rfl
    exact addSpec_eq_ok (Value.text_str "c2") hformula hc _
  have hsecond : s₁.addSpec (.str "a1") secondSpec = .ok s₂ := by
    have hc : Cell.ofValues (.list ([].map .str)) (.float 7.0) (.int 5) = .ok second := rfl
    exact addSpec_eq_ok (Value.text_str "a1") hempty hc _
  have hs : ofSpec lowerCaseSpec = .ok s₂ := by
    have hg : specGrid lowerCaseSpec = .ok s₀.grid := rfl
    rw [lowerCaseSpec, ofSpec_eq]
    refine bind_eq_ok_iff.2 ⟨s₀.grid, hg, bind_eq_ok_iff.2 ⟨_, rfl, ?_⟩⟩
    exact bind_eq_ok_iff.2 ⟨s₁, hfirst, bind_eq_ok_iff.2 ⟨s₂, hsecond, rfl⟩⟩
  obtain ⟨-, t, ht, -, hlabels, -, hget⟩ := ofSpec_description hs
  exact ⟨s₂, hs, t, ht, hlabels, hget "A1", hget "C2"⟩

end Sheet

end FormulaSheet
