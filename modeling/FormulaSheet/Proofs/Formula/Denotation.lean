import FormulaSheet.Proofs.Formula.Outcome

/-!
# Evaluation is denotation

An evaluation ends without an error exactly if all its tokens are one expression of the grammar
whose tree has a value; the outcome is then this value. The two directions are
`Setting.expression_sound` and `Derives.reads`.

* `expression_ok_iff`: tokens are read to their end without a failure exactly if they are an
  expression with a value;
* `Setting.run_ok_iff`: on a stack this is so unless the evaluation is cut;
* `outcome_eq_ok_iff_exists_tree`: the same of evaluators, over sheets whose errors are texts.
-/

namespace FormulaSheet

theorem Derives.ne_nil {labels : LabelClass} {blankIsZero : Bool} {p : Part} {ts : List Text}
    {t : Tree} (h : Derives labels blankIsZero p ts t) (hp : ∀ rank left, p ≠ .tail rank left) :
    ts ≠ [] := by
  induction h with
  | number _ => exact List.cons_ne_nil _ _
  | group _ _ => exact List.cons_ne_nil _ _
  | label _ => exact List.cons_ne_nil _ _
  | @chain rank _ _ _ _ _ _ iht _ =>
    intro hn
    exact iht rank.operand_ne_tail (List.append_eq_nil_iff.1 hn).1
  | stop => exact absurd rfl (hp _ _)
  | more _ _ _ _ _ => exact absurd rfl (hp _ _)

theorem IsFormula.ne_nil {labels : LabelClass} {blankIsZero : Bool} {tokens : List Text}
    {t : Tree} (h : IsFormula labels blankIsZero tokens t) : tokens ≠ [] :=
  Derives.ne_nil h fun _ _ hp => by cases hp

/-- **Tokens are read to their end** without a failure exactly if they are an expression, nested
less deep than the bound, whose tree has a value. -/
theorem Setting.expression_ok_iff {s : Setting} {label? : Text → Option Float}
    (ht : s.Trusts label?) {depth : Nat} {tokens : List Text} {x : Float} :
    (s.expression depth tokens none).result = .ok ⟨x, [], none⟩ ↔
      ∃ t, IsFormula s.labels s.blankIsZero tokens t ∧ t.nesting < depth ∧
        s.treeValue? label? t = some x := by
  constructor
  · intro h
    obtain ⟨-, ts, t, hts, hd, hn, hv⟩ := expression_sound ht depth h rfl
    rw [List.append_nil] at hts
    subst hts
    exact ⟨t, hd, hn, hv⟩
  · rintro ⟨t, hd, hn, hv⟩
    cases depth with
    | zero => exact absurd hn (Nat.not_lt_zero _)
    | succ depth =>
      have hr := Derives.reads ht hd (Nat.le_of_lt_succ hn) hv (Part.endsBefore_nil _)
      rw [expression_eq_level, ← List.append_nil tokens]
      exact hr

/-- On a stack, an expression that is nested less deep than there is room for is read to its end. -/
theorem Setting.run_ok_of_room {s : Setting} {label? : Text → Option Float} (ht : s.Trusts label?)
    {base depth : Nat} (hb : base + depth = s.stack.levels) (hroom : s.HasRoom base)
    {tokens : List Text} {t : Tree} (hd : IsFormula s.labels s.blankIsZero tokens t)
    (hn : t.nesting < depth) {x : Float} (hv : s.treeValue? label? t = some x) :
    (s.run tokens).result = .ok ⟨x, [], none⟩ := by
  have hr := (expression_ok_iff ht).2 ⟨t, hd, hn, hv⟩
  rw [run_eq_of_room hb hroom (Traced.not_isCut_of_ok hr)]
  exact hr

/-- **On a stack** tokens are read to their end without a failure exactly if they are an expression
whose tree has a value, unless the evaluation is cut. -/
theorem Setting.run_ok_iff {s : Setting} {label? : Text → Option Float} (ht : s.Trusts label?)
    {tokens : List Text} {x : Float} :
    (s.run tokens).result = .ok ⟨x, [], none⟩ ↔
      ¬ (s.run tokens).IsCut ∧ ∃ t, IsFormula s.labels s.blankIsZero tokens t ∧
        s.treeValue? label? t = some x := by
  constructor
  · intro h
    obtain ⟨t, hd, -, hv⟩ := (expression_ok_iff ht).1 (expression_of_run h 0)
    exact ⟨Traced.not_isCut_of_ok h, t, hd, hv⟩
  · rintro ⟨hc, t, hd, hv⟩
    -- an evaluation that is not cut is the same with levels enough for the tree
    rw [run_eq_of_not_isCut hc (t.nesting + 1)]
    exact (expression_ok_iff ht).2 ⟨t, hd, Nat.lt_add_right _ (Nat.lt_succ_self _), hv⟩

/-- **Evaluation is denotation.** Over a sheet whose errors are texts, an evaluation ends without an
error exactly if its tokens are an expression whose tree has a value: every number and every
reference has a value, and no divisor is zero. The outcome is this value, and the tokens have no
other tree. This is so unless the evaluation is cut, and it is not if there is room for the nesting
of the parentheses and, beneath them, for what a reference calls. -/
theorem outcome_eq_ok_iff_exists_tree {sheet : Sheet} (hs : sheet.HasTextErrors) (e : Evaluator)
    (origin : Option Text) (tokens : List Text) (x : Float) :
    let done := e.evaluate sheet.source origin (.list (tokens.map .str))
    let s := Evaluator.setting e.options sheet.source origin
    let denotes (t : Tree) := IsFormula e.options.labels e.options.blankIsZero tokens t ∧
      t.value? (Token.number? e.options.blankIsZero) (sheet.trusted? e.options origin) = some x
    (done.outcome = .ok ⟨x, .str ""⟩ ↔ ¬ (s.run tokens).IsCut ∧ ∃ t, denotes t ∧
      ∀ t', IsFormula e.options.labels e.options.blankIsZero tokens t' → t' = t) ∧
    ∀ base depth, base + depth = e.options.stack.levels → s.HasRoom base →
      ∀ t, denotes t → t.nesting < depth → done.outcome = .ok ⟨x, .str ""⟩ := by
  have ht := Sheet.trusts_trusted? hs e.options origin
  rw [Evaluator.evaluate_texts]
  intro done s denotes
  rw [Evaluator.outcome_clear_iff]
  refine ⟨?_, fun base depth hb hroom t ⟨hd, hv⟩ hn =>
    ⟨hd.ne_nil, Setting.run_ok_of_room ht hb hroom hd hn hv⟩⟩
  rw [Setting.run_ok_iff ht]
  constructor
  · rintro ⟨-, hc, t, hd, hv⟩
    exact ⟨hc, t, ⟨hd, hv⟩, fun t' hd' => hd'.unique hd⟩
  · rintro ⟨hc, t, ⟨hd, hv⟩, -⟩
    exact ⟨hd.ne_nil, hc, t, hd, hv⟩

/-- A sheet in which `A1` holds seven. -/
def Sheet.sevenInA1 : Sheet :=
  (blank .standard).put "A1" ⟨[.str "7"], 7.0, .str ""⟩ ⟨⟨0, 0⟩, rfl⟩

theorem Sheet.sevenInA1_hasTextErrors : sevenInA1.HasTextErrors := by
  intro label cell h
  have hf : Register.find? label [("A1", (⟨[.str "7"], 7.0, .str ""⟩ : Cell))] = some cell := h
  rw [Register.find?] at hf
  split at hf
  · cases hf
    exact ⟨"", rfl⟩
  · cases hf

/-- A sheet in which `B1` refers to `A1`, where there is seven. -/
def Sheet.sevenThroughB1 : Sheet :=
  sevenInA1.put "B1" ⟨[.str "A1"], 7.0, .str ""⟩ ⟨⟨0, 1⟩, rfl⟩

/-- The sum in parentheses is multiplied, and not its second operand. -/
theorem outcome_of_product_of_sum :
    ((Evaluator.ofOptions .standard).evaluate Sheet.sevenInA1.source none
        (.list ([("(" : Text), "A1", "+", "A1", ")", "*", "A1"].map .str))).outcome =
      .ok ⟨(7.0 + 7.0) * 7.0, .str ""⟩ := by
  have hl : IsReference .pattern false "A1" := .of_isLabel rfl
  have plus : Operator.plus.rank = .sum := rfl
  have times : Operator.times.rank = .product := rfl
  have ha : Derives .pattern false Rank.product.operand ["A1"] (.label "A1") := .label hl
  have ht : Derives .pattern false Rank.sum.operand ["A1"] (.label "A1") := .chain ha .stop
  have hs : Derives .pattern false (.chain .sum) ["A1", "+", "A1"]
      (.operation (.label "A1") .plus (.label "A1")) := .chain ht (.more plus ht .stop)
  have hg : Derives .pattern false Rank.product.operand ["(", "A1", "+", "A1", ")"]
      (.group (.operation (.label "A1") .plus (.label "A1"))) := .group hs
  have hp : Derives .pattern false Rank.sum.operand ["(", "A1", "+", "A1", ")", "*", "A1"]
      (.operation (.group (.operation (.label "A1") .plus (.label "A1"))) .times (.label "A1")) :=
    .chain hg (.more times ha .stop)
  have hf : IsFormula .pattern false ["(", "A1", "+", "A1", ")", "*", "A1"] _ := .chain hp .stop
  have hroom := Sheet.sevenInA1.hasRoom_of_standard (o := .standard) rfl none
  exact (outcome_eq_ok_iff_exists_tree Sheet.sevenInA1_hasTextErrors _ none _ _).2 1 330 rfl hroom
    _ ⟨hf, rfl⟩ (by decide)

end FormulaSheet
