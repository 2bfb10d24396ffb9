import FormulaSheet.Proofs.Formula.Guard
import FormulaSheet.Proofs.Sheet.Description
import FormulaSheet.Settings

/-!
# What references contribute to a value

An error that is stored with a cell is to make every formula fail that refers to the cell. It is
looked at twice: a reference asks whether it is one of the two texts that stand for no error, and
the formula that the reference stands in asks whether it counts as true. Between the two questions
some values are lost. They are no texts and count as false all the same, so that the reference gives
up the value that is kept for the cell, and then nobody takes notice (`Value.IsMute`).

This module says what a reference contributes to a formula that has a value, for sheets from
specifications and without the check for circular references: the kept value or, in place of a mute
error, zero.

* `Cell.reading_eq_ok_none_iff`: a cell is read without a failure exactly if it contributes;
* `Sheet.trusts_contribution?`: without the check, these are the references with a value;
* `evaluate_of_contributions`: a formula has the value of its tree over what its references
  contribute;
* `evaluate_of_mute_error`: a mute error is read as zero.
-/

namespace FormulaSheet

/-! ## Errors that nobody takes notice of -/

/-- The value counts as false, but it is not the empty text. As the error of a cell it neither
stands for no error nor is it passed on. -/
inductive Value.IsMute : Value → Prop
  /-- not true -/
  | bool : IsMute (.bool false)
  /-- the integer zero -/
  | int : IsMute (.int 0)
  /-- one of the two zeros among the doubles -/
  | float {x : Float} : (x == 0) = true → IsMute (.float x)
  /-- an empty sequence -/
  | list : IsMute (.list [])
  /-- an empty mapping -/
  | map : IsMute (.map [])
  /-- no octets -/
  | octets : IsMute (.octets [])
  /-- an empty set -/
  | set : IsMute (.set [])

/-- Apart from null, which is never stored, the mute errors are those that get lost between the two
questions. -/
theorem Value.isMute_iff {v : Value} (hn : v ≠ .null) :
    v.IsMute ↔ Content.isClear v = false ∧ v.isTrue = false := by
  constructor
  · intro h
    cases h with
    | float hx => exact ⟨rfl, by simp [isTrue, hx]⟩
    | _ => exact ⟨rfl, rfl⟩
  · rintro ⟨hc, ht⟩
    cases v with
    | null => exact absurd rfl hn
    | bool b =>
      obtain rfl : b = false := ht
      exact .bool
    | int n =>
      obtain rfl : n = 0 := by simpa [isTrue] using ht
      exact .int
    | float x => exact .float (by simpa [isTrue] using ht)
    | str s =>
      obtain rfl : s = "" := by simpa [isTrue] using ht
      cases hc
    | list items =>
      obtain rfl : items = [] := by simpa [isTrue] using ht
      exact .list
    | map entries =>
      obtain rfl : entries = [] := by simpa [isTrue] using ht
      exact .map
    | octets s =>
      obtain rfl : s = [] := by simpa [isTrue] using ht
      exact .octets
    | timestamp t => cases ht
    | set members =>
      obtain rfl : members = [] := by simpa [isTrue] using ht
      exact .set

/-! ## What a cell contributes -/

/-- What a reference to the cell contributes to a formula, if it does not make it fail: the value
that is kept for a cell with a formula and without an error, and zero for a cell whose error gets
lost. -/
def Cell.contribution? (cell : Cell) : Option Float :=
  if Content.isClear cell.error then
    if cell.formula.isEmpty then none else some cell.value
  else if cell.error.isTrue then none
  else some 0.0

/-- **A cell is read** without a failure exactly if it contributes to the formula that refers to
it. -/
theorem Cell.reading_eq_ok_none_iff {cell : Cell} {x : Float} :
    cell.content.reading = .ok (x, none) ↔ cell.contribution? = some x := by
  rw [Content.reading, contribution?]
  cases hc : Content.isClear cell.error with
  | false => cases ht : cell.error.isTrue <;> simp [content, hc, ht]
  | true =>
    cases hf : cell.formula with
    | nil => simp [content, hc, hf, Value.elements]
    | cons v vs => simp [content, hc, hf, Value.elements, Value.toFloat, Except.map]

/-- A cell that contributes can be trusted, or its error gets lost. -/
theorem Cell.of_contribution? {cell : Cell} {x : Float} (h : cell.contribution? = some x) :
    cell.isTrusted = true ∧ x = cell.value ∨
      Content.isClear cell.error = false ∧ cell.error.isTrue = false ∧ x = 0.0 := by
  rw [contribution?] at h
  split at h
  · rename_i hc
    split at h
    · cases h
    · rename_i hf
      exact .inl ⟨by simp [isTrusted, hc, hf], (Option.some.inj h).symm⟩
  · rename_i hc
    split at h
    · cases h
    · rename_i ht
      exact .inr ⟨by simpa using hc, by simpa using ht, (Option.some.inj h).symm⟩

namespace Sheet

variable {sheet : Sheet} {label : Text}

/-- What a reference to the label contributes to a formula. -/
def contribution? (sheet : Sheet) (label : Text) : Option Float :=
  match sheet.get label with
  | .ok cell => cell.contribution?
  | .error _ => none

/-- The value that is kept for the cell at a label. -/
def kept? (sheet : Sheet) (label : Text) : Option Float :=
  (sheet.get label).toOption.map Cell.value

theorem contribution?_eq_some_iff {x : Float} :
    sheet.contribution? label = some x ↔
      ∃ cell, sheet.get label = .ok cell ∧ cell.contribution? = some x := by
  rw [contribution?]
  cases sheet.get label with
  | ok cell => simp
  | error f => simp

theorem kept?_of_get {cell : Cell} (h : sheet.get label = .ok cell) :
    sheet.kept? label = some cell.value := by
  rw [kept?, h]
  rfl

/-- **Without the check for circular references**, the references without a failure are those that
contribute. -/
theorem trusts_contribution? {o : Options} {origin : Option Text}
    (hg : o.checkCycles = false ∨ origin = none) :
    (Evaluator.setting o sheet.source origin).Trusts sheet.contribution? := by
  have hfree : (Evaluator.setting o sheet.source origin).guarded = none := by
    rcases hg with hg | rfl <;> simp [Evaluator.setting, *]
  have hcircular (label : Text) :
      ((Evaluator.setting o sheet.source origin).isCircular label).result = .ok false := by
    rw [Setting.isCircular, hfree]
    rfl
  intro label x
  rw [Setting.reference_ok_iff, contribution?_eq_some_iff]
  constructor
  · intro h
    cases h with
    | read _ hs hr =>
      obtain ⟨cell, hget, rfl⟩ := exists_get_of_lookup hs
      exact ⟨cell, hget, Cell.reading_eq_ok_none_iff.1 hr⟩
  · rintro ⟨cell, hget, hx⟩
    exact .read (hcircular label) (lookup_of_get hget) (Cell.reading_eq_ok_none_iff.2 hx)

/-- No cell of a sheet from a specification has null as its error. -/
theorem error_ne_null_of_get {spec : Value} (hs : ofSpec spec = .ok sheet) {cell : Cell}
    (h : sheet.get label = .ok cell) : cell.error ≠ .null := by
  rcases find?_or_eq_empty_of_get h with hf | rfl
  · obtain ⟨_, _, _, _, -, hc⟩ := isOfTexts_ofSpec hs label cell hf
    exact Cell.error_ne_null_of_ofValues hc
  · exact nofun

end Sheet

/-! ## What a formula makes of it -/

/-- The value of a tree depends on the values of its own labels only. -/
theorem Tree.value?_congr {number? label? other? : Text → Option Float} {t : Tree}
    (h : ∀ label ∈ t.labels, label? label = other? label) :
    t.value? number? label? = t.value? number? other? := by
  induction t with
  | number token => rfl
  | label token => exact h token List.mem_cons_self
  | group inner ih => exact ih h
  | operation left op right ihl ihr =>
    rw [value?, value?, ihl fun label hm => h label (List.mem_append_left _ hm),
      ihr fun label hm => h label (List.mem_append_right _ hm)]

/-- The labels of a tree are tokens of the formula that count as labels. -/
theorem Derives.of_mem_labels {labels : LabelClass} {blankIsZero : Bool} {p : Part}
    {ts : List Text} {t : Tree} (h : Derives labels blankIsZero p ts t) {token : Text}
    (hm : token ∈ t.labels) :
    (token ∈ ts ∧ IsReference labels blankIsZero token) ∨
      ∃ rank left, p = .tail rank left ∧ token ∈ left.labels := by
  induction h with
  | number _ => cases hm
  | group _ ih =>
    obtain ⟨hts, hr⟩ | ⟨_, _, hp, -⟩ := ih hm
    · exact .inl ⟨List.mem_cons_of_mem _ (List.mem_append_left _ hts), hr⟩
    · cases hp
  | label hr => exact .inl ⟨hm, List.mem_singleton.1 hm ▸ hr⟩
  | @chain rank _ _ _ _ _ _ iht ihu =>
    obtain ⟨hus, hr⟩ | ⟨_, _, hp, hl⟩ := ihu hm
    · exact .inl ⟨List.mem_append_right _ hus, hr⟩
    · cases hp
      obtain ⟨hts, hr⟩ | ⟨_, _, hp, -⟩ := iht hl
      · exact .inl ⟨List.mem_append_left _ hts, hr⟩
      · exact absurd hp (rank.operand_ne_tail _ _)
  | stop => exact .inr ⟨_, _, rfl, hm⟩
  | @more rank _ _ _ left _ _ _ _ _ iht ihu =>
    obtain ⟨hus, hr⟩ | ⟨_, _, hp, hl⟩ := ihu hm
    · exact .inl ⟨List.mem_cons_of_mem _ (List.mem_append_right _ hus), hr⟩
    · -- what stands in front of the rest is the operation on the next operand
      cases hp
      rcases List.mem_append.1 hl with hl | hl
      · exact .inr ⟨_, _, rfl, hl⟩
      · obtain ⟨hts, hr⟩ | ⟨_, _, hp, -⟩ := iht hl
        · exact .inl ⟨List.mem_cons_of_mem _ (List.mem_append_left _ hts), hr⟩
        · exact absurd hp (rank.operand_ne_tail _ _)

theorem IsFormula.of_mem_labels {labels : LabelClass} {blankIsZero : Bool} {tokens : List Text}
    {t : Tree} (h : IsFormula labels blankIsZero tokens t) {token : Text}
    (hm : token ∈ t.labels) : token ∈ tokens ∧ IsReference labels blankIsZero token := by
  obtain h | ⟨_, _, hp, -⟩ := Derives.of_mem_labels h hm
  · exact h
  · cases hp

/-- The token stands in the formula as a label, and as nothing else. -/
structure StandsAsLabel (o : Options) (tokens : List Text) (token : Text) : Prop where
  mem : token ∈ tokens
  isReference : IsReference o.labels o.blankIsZero token
  not_isSign : ¬ IsSign token

/-- **What references contribute.** Let an evaluation over a sheet from a specification return,
where circular references are not looked for. Its outcome has no error exactly if the tokens are an
expression that has a value over what the references contribute, and this is the value of the
outcome; the tokens have one tree. This is so unless the evaluation is cut, and it is not if there
is room for the nesting of the parentheses and, beneath them, for what a reference calls.

If it has no error, every reference contributes the value that is kept for a cell that can be
trusted, or else zero for a cell with a mute error. So the outcome has an error if one of the cells
that the formula refers to has one that is neither mute nor stands for none; and if none of them is
mute, the value of the outcome is the one over the kept values. -/
theorem evaluate_of_contributions {spec : Value} {sheet : Sheet}
    (hs : Sheet.ofSpec spec = .ok sheet) (e : Evaluator) {origin : Option Text}
    (hg : e.options.checkCycles = false ∨ origin = none) {tokens : List Text} {out : Outcome}
    (h : (e.evaluate sheet.source origin (.list (tokens.map .str))).outcome = .ok out) :
    let s := Evaluator.setting e.options sheet.source origin
    (out.ok = true ↔ ¬ (s.run tokens).IsCut ∧
      ∃ t, IsFormula e.options.labels e.options.blankIsZero tokens t ∧
        (∀ t', IsFormula e.options.labels e.options.blankIsZero tokens t' → t' = t) ∧
        t.value? (Token.number? e.options.blankIsZero) sheet.contribution? = some out.value) ∧
      (∀ base depth, base + depth = e.options.stack.levels → s.HasRoom base →
        ∀ t x, IsFormula e.options.labels e.options.blankIsZero tokens t → t.nesting < depth →
          t.value? (Token.number? e.options.blankIsZero) sheet.contribution? = some x →
          ¬ (s.run tokens).IsCut) ∧
      (out.ok = true → ∀ label, StandsAsLabel e.options tokens label →
        ∃ cell, sheet.get label = .ok cell ∧
          (cell.isTrusted = true ∧ sheet.contribution? label = some cell.value ∨
            cell.error.IsMute ∧ sheet.contribution? label = some 0.0)) ∧
      (∀ label cell, StandsAsLabel e.options tokens label → sheet.get label = .ok cell →
        Content.isClear cell.error = false → ¬ cell.error.IsMute → out.ok = false) ∧
      ((∀ label cell, label ∈ tokens →
          IsReference e.options.labels e.options.blankIsZero label →
          sheet.get label = .ok cell → ¬ cell.error.IsMute) →
        out.ok = true → ∃ t, IsFormula e.options.labels e.options.blankIsZero tokens t ∧
          t.value? (Token.number? e.options.blankIsZero) sheet.kept? = some out.value) := by
  have htrusts : (Evaluator.setting e.options sheet.source origin).Trusts sheet.contribution? :=
    Sheet.trusts_contribution? hg
  rw [Evaluator.evaluate_texts] at h
  intro s
  have htree : out.ok = true ↔ ¬ (s.run tokens).IsCut ∧
      ∃ t, IsFormula e.options.labels e.options.blankIsZero tokens t ∧
      (∀ t', IsFormula e.options.labels e.options.blankIsZero tokens t' → t' = t) ∧
      t.value? (Token.number? e.options.blankIsZero) sheet.contribution? = some out.value := by
    constructor
    · intro hok
      rw [Evaluator.eq_of_ok hok, Evaluator.outcome_clear_iff] at h
      obtain ⟨hcut, t, hd, hv⟩ := (Setting.run_ok_iff htrusts).1 h.2
      exact ⟨hcut, t, hd, fun t' hd' => hd'.unique hd, hv⟩
    · rintro ⟨hcut, t, hd, -, hv⟩
      have hclear := Evaluator.outcome_clear_iff.2
        ⟨hd.ne_nil, (Setting.run_ok_iff htrusts).2 ⟨hcut, t, hd, hv⟩⟩
      rw [Except.ok.inj (h.symm.trans hclear)]
      rfl
  have hcontributes (hok : out.ok = true) (label : Text)
      (hl : StandsAsLabel e.options tokens label) : ∃ cell, sheet.get label = .ok cell ∧
        (cell.isTrusted = true ∧ sheet.contribution? label = some cell.value ∨
          cell.error.IsMute ∧ sheet.contribution? label = some 0.0) := by
    obtain ⟨-, t, hd, -, hv⟩ := htree.1 hok
    obtain ⟨x, hx⟩ := Tree.exists_of_mem_labels hv
      (Derives.mem_labels hd hl.mem hl.isReference.not_number hl.not_isSign)
    obtain ⟨cell, hget, hcell⟩ := Sheet.contribution?_eq_some_iff.1 hx
    refine ⟨cell, hget, ?_⟩
    rcases Cell.of_contribution? hcell with ⟨ht, rfl⟩ | ⟨hc, ht, rfl⟩
    · exact .inl ⟨ht, hx⟩
    · exact .inr ⟨(Value.isMute_iff (Sheet.error_ne_null_of_get hs hget)).2 ⟨hc, ht⟩, hx⟩
  refine ⟨htree, fun base depth hb hroom t x hd hn hv => Traced.not_isCut_of_ok
    (Setting.run_ok_of_room htrusts hb hroom hd hn hv), hcontributes,
    fun label cell hl hget hc hmute => ?_, fun hmute hok => ?_⟩
  · rw [← Bool.not_eq_true]
    intro hok
    obtain ⟨cell', hget', hcases⟩ := hcontributes hok label hl
    cases hget.symm.trans hget'
    rcases hcases with ⟨ht, -⟩ | ⟨hm, -⟩
    · rw [Cell.isTrusted, hc, Bool.and_false] at ht
      cases ht
    · exact hmute hm
  · obtain ⟨-, t, hd, -, hv⟩ := htree.1 hok
    refine ⟨t, hd, (Tree.value?_congr fun label hm => ?_).trans hv⟩
    obtain ⟨x, hx⟩ := Tree.exists_of_mem_labels hv hm
    obtain ⟨cell, hget, hcell⟩ := Sheet.contribution?_eq_some_iff.1 hx
    obtain ⟨htokens, hreference⟩ := hd.of_mem_labels hm
    rw [Sheet.kept?_of_get hget, hx]
    rcases Cell.of_contribution? hcell with ⟨-, rfl⟩ | ⟨hc, ht, -⟩
    · rfl
    · have hm := (Value.isMute_iff (Sheet.error_ne_null_of_get hs hget)).2 ⟨hc, ht⟩
      exact absurd hm (hmute label cell htokens hreference hget)

/-- The specification of a sheet with a formula, a value and an error in `A1`. -/
def Sheet.specOfFirst (value error : Value) : Value :=
  .map [(.str "cells", .map [(.str "A1",
    .map [(.str "formula", .str "7"), (.str "value", value), (.str "error", error)])])]

/-- The sheet that it describes. -/
def Sheet.withFirst (value : Float) (error : Value) : Sheet :=
  (blank .standard).put "A1" ⟨[.str "7"], value, error⟩ Grid.standard_admits_first

theorem Sheet.ofSpec_specOfFirst {value error : Value} {x : Float} (hv : value.toFloat = .ok x)
    (he : error ≠ .null) : ofSpec (specOfFirst value error) = .ok (withFirst x error) := by
  let entry : Value :=
    .map [(.str "formula", .str "7"), (.str "value", value), (.str "error", error)]
  have hformula : specFormula (cellSpec entry) = .ok ["7"] := specFormula_eq_ok rfl (by cbv)
  have hc :
      Cell.ofValues (.list ([("7" : Text)].map .str)) value error = .ok ⟨[.str "7"], x, error⟩ := by
    refine bind_eq_ok_iff.2 ⟨_, rfl, bind_eq_ok_iff.2 ⟨x, hv, ?_⟩⟩
    cases error with
    | null => exact absurd rfl he
    | _ => rfl
  have hadd : (blank .standard).addSpec (.str "A1") entry = .ok (withFirst x error) :=
    addSpec_eq_ok (Value.text_str "A1") hformula hc _
  have hgrid : specGrid (specOfFirst value error) = .ok .standard := rfl
  rw [specOfFirst, ofSpec_eq]
  refine bind_eq_ok_iff.2 ⟨.standard, hgrid, bind_eq_ok_iff.2 ⟨_, rfl, ?_⟩⟩
  exact bind_eq_ok_iff.2 ⟨_, hadd, rfl⟩

/-- A kept error that is a text is neither mute nor told to stand for none. -/
theorem evaluate_of_kept_error :
    Sheet.ofSpec (Sheet.specOfFirst (.float 7.0) (.str "late")) =
        .ok (Sheet.withFirst 7.0 (.str "late")) ∧
      ∃ out, ((Evaluator.ofOptions .standard).evaluate
          (Sheet.withFirst 7.0 (.str "late")).source none
            (.list ([("A1" : Text)].map .str))).outcome =
            .ok out ∧ out.ok = false := by
  have hs : Sheet.ofSpec (Sheet.specOfFirst (.float 7.0) (.str "late")) = .ok _ :=
    Sheet.ofSpec_specOfFirst rfl (by simp)
  have htest : ((Evaluator.ofOptions .standard).evaluate
      (Sheet.withFirst 7.0 (.str "late")).source none
        (.list ([("A1" : Text)].map .str))).outcome.toOption.any (fun _ => true) = true := by
    decide +kernel
  obtain ⟨out, h, -⟩ := exists_ok_of_any htest
  have hlabel : StandsAsLabel .standard ["A1"] "A1" :=
    ⟨List.mem_cons_self, .of_isLabel rfl, not_isSign_of_isLabel rfl⟩
  refine ⟨hs, out, h,
    (evaluate_of_contributions hs _ (.inr rfl) h).2.2.2.1 "A1" _ hlabel rfl rfl ?_⟩
  exact nofun

/-- **A mute error is read as zero**: `A1` keeps the value seven and the error zero, and the formula
that refers to it has the value zero and no error. -/
theorem evaluate_of_mute_error :
    ∃ sheet options tokens out, Sheet.ofSpec (Sheet.specOfFirst (.float 7.0) (.int 0)) = .ok sheet ∧
      Settings.options .standard (.map []) = .ok options ∧ Formula.tokenize "A1" = .ok tokens ∧
      ((Evaluator.ofOptions options).evaluate sheet.source none
        (.list (tokens.map .str))).outcome = .ok out ∧
      out.ok = true ∧ out.value = 0.0 ∧ sheet.kept? "A1" = some 7.0 ∧ out.value ≠ 7.0 := by
  have htokens : Formula.tokenize "A1" = .ok ["A1"] := by cbv
  refine ⟨Sheet.withFirst 7.0 (.int 0), .standard, _, ⟨0.0, .str ""⟩,
    Sheet.ofSpec_specOfFirst rfl (by simp), rfl, htokens, ?_, rfl, rfl, rfl, by decide⟩
  have hr : (Evaluator.run .standard (Sheet.withFirst 7.0 (.int 0)).source none ["A1"]).result =
      .ok ⟨0.0, [], none⟩ := rfl
  rw [Evaluator.evaluate_texts]
  exact Evaluator.outcome_clear_iff.2 ⟨List.cons_ne_nil _ _, hr⟩

end FormulaSheet
