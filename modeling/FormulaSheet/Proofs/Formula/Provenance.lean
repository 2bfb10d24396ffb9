import FormulaSheet.Proofs.Formula.Denotation
import FormulaSheet.Proofs.Formula.Notices
import FormulaSheet.Proofs.Formula.Reachability

/-!
# Where errors come from

The error of an evaluation is a text among others: the texts of the program's own errors may be
stored with cells, and what is stored with a cell that a formula refers to is passed on as it is.
What a failure says about the formula and the sheet is therefore told of the failure and not of its
code (`Sheet.Explains`). Whatever else failed in the formula, the last failure has its reason; and
where no cell that the formula refers to has the code for its error, the code tells the failure.

* `Sheet.explains_of_arises`: what a failure that arises in an evaluation says;
* `Evaluator.exists_explains`: so there is a reason for the error of every evaluation;
* `Evaluator.error_cases`: which errors there are, and what they imply.
-/

namespace FormulaSheet

/-! ## Codes of failures -/

/-- But for errors that are stored with cells, the code tells the failure. -/
theorem Failure.eq_of_code {g g' : Failure} (hg : ∀ e, g ≠ .stored e) (hg' : ∀ e, g' ≠ .stored e)
    (h : g.code = g'.code) : g = g' := by
  cases g with
  | stored e => exact absurd rfl (hg e)
  | _ =>
    cases g' with
    | stored e => exact absurd rfl (hg' e)
    | _ => first | rfl | simp [code, emptyCode] at h

namespace Sheet

/-! ## Reasons for failures -/

/-- The error is kept for a cell to which one of the tokens refers. -/
def Stores (sheet : Sheet) (c : LabelClass) (tokens : List Text) (error : Value) : Prop :=
  ∃ label ∈ tokens, c.holds label = true ∧ ∃ cell, sheet.get label = .ok cell ∧ cell.error = error

/-- The sheet refuses the label, or shows a cell without a formula there. -/
def Dangles (sheet : Sheet) (label : Text) : Prop :=
  (∃ f, sheet.get label = .error f) ∨ ∃ cell, sheet.get label = .ok cell ∧ cell.formula = []

/-- What there is in the tokens and in the sheet if an evaluation has the failure and some of the
tokens are left. -/
inductive Explains (sheet : Sheet) (o : Options) (origin : Option Text) (tokens : List Text) :
    List Text → Failure → Prop
  /-- there is no token -/
  | empty {rest : List Text} : tokens = [] → Explains sheet o origin tokens rest .empty
  /-- nothing, since any token may be out of place -/
  | invalid {rest : List Text} : Explains sheet o origin tokens rest .invalid
  /-- no token is left -/
  | incomplete : Explains sheet o origin tokens [] .incomplete
  /-- a parenthesis that opens -/
  | parentheses {rest : List Text} : ("(" : Text) ∈ tokens →
      Explains sheet o origin tokens rest .parentheses
  /-- nothing, since any operand may be zero -/
  | divisionByZero {rest : List Text} : Explains sheet o origin tokens rest .divisionByZero
  /-- a label without a formula -/
  | reference {rest : List Text} {label : Text} : label ∈ tokens →
      o.labels.holds label = true → sheet.Dangles label →
      Explains sheet o origin tokens rest .reference
  /-- a label from which one comes to the cell of the formula -/
  | circular {rest : List Text} {cell label : Text} : o.checkCycles = true →
      origin = some cell → label ∈ tokens → o.labels.holds label = true →
      sheet.source.ComesTo o.labels label cell → Explains sheet o origin tokens rest .circular
  /-- a cell with this error, which is not one that stands for none -/
  | stored {rest : List Text} {error : Value} : sheet.Stores o.labels tokens error →
      Content.isClear error = false → Explains sheet o origin tokens rest (.stored error)

variable {sheet : Sheet} {o : Options} {origin : Option Text} {tokens rest : List Text}
  {g g' : Failure}

/-- **What a failure says** that arises in an evaluation over the sheet. -/
theorem explains_of_arises
    (h : (Evaluator.setting o sheet.source origin).Arises tokens rest g) :
    sheet.Explains o origin tokens rest g := by
  cases h with
  | incomplete => exact .incomplete
  | parentheses ho => exact .parentheses ho
  | divisionByZero => exact .divisionByZero
  | invalid => exact .invalid
  | @reference _ label x _ hm href hr =>
    cases Setting.reference_ok_iff.1 hr with
    | circular hc =>
      have hfires : (Evaluator.setting o sheet.source origin).fires label = true := by
        rw [Setting.fires, hc]
      obtain ⟨cell, hg⟩ := Setting.exists_guarded_of_fires hfires
      have ho : origin = some cell := (Evaluator.guarded_eq_of_fires hfires).symm.trans hg
      have hcheck : o.checkCycles = true := by
        cases hcheck : o.checkCycles with
        | true => rfl
        | false => simp [Evaluator.setting, hcheck] at hg
      have hback := (Setting.eq_true_iff_comesTo_of_isCircular hg hc).1 rfl
      exact .circular hcheck ho hm href.holds hback
    | unresolved _ hl _ => exact .reference hm href.holds (.inl ⟨_, lookup_eq_error_iff.1 hl⟩)
    | read _ hl hc =>
      obtain ⟨cell, hg, rfl⟩ := sheet.exists_get_of_lookup hl
      obtain ⟨rfl, hf⟩ | ⟨rfl, -, hclear⟩ := Content.failure_of_reading hc
      · exact .reference hm href.holds (.inr ⟨cell, hg, Except.ok.inj hf⟩)
      · exact .stored ⟨label, hm, href.holds, cell, hg, rfl⟩ hclear

/-- **The code tells the failure** if no cell that the formula refers to has it for its error. -/
theorem Explains.eq_of_code (h : sheet.Explains o origin tokens rest g)
    (hg' : ∀ e, g' ≠ .stored e) (hcode : g.code = g'.code)
    (hs : ¬ sheet.Stores o.labels tokens g.code) : g = g' := by
  refine Failure.eq_of_code (fun e he => ?_) hg' hcode
  subst he
  cases h with
  | stored hstores _ => exact hs hstores

/-- The code of a failure for want of tokens is not stored with a cell so that it counts. -/
theorem Explains.eq_empty (h : sheet.Explains o origin tokens rest g)
    (hcode : g.code = .str Failure.emptyCode) : g = .empty := by
  refine Failure.eq_of_code (fun e he => ?_) (fun e he => by cases he) hcode
  subst he
  cases h with
  | stored _ hclear =>
    rw [Failure.code] at hcode
    rw [hcode] at hclear
    cases hclear

end Sheet

namespace Evaluator

variable {o : Options} {sheet : Sheet} {origin : Option Text} {tokens : List Text}

/-- **There is a reason** for the error of every evaluation: it is the code of a failure that says
something about the tokens and the sheet, with as many tokens left as the evaluation leaves. -/
theorem exists_explains {out : Outcome}
    (h : (evaluateTokens o sheet.source origin tokens).outcome = .ok out) :
    ∃ rest failure, out.error = Failure.codeOf failure ∧
      (evaluateTokens o sheet.source origin tokens).evaluator.remaining = rest.length ∧
      ∀ g, failure = some g → sheet.Explains o origin tokens rest g := by
  by_cases hn : tokens = []
  · subst hn
    rw [evaluateTokens_nil] at h
    refine ⟨[], some .empty, congrArg Outcome.error (outcome_conclude rfl h), rfl, fun g hg => ?_⟩
    cases hg
    exact .empty rfl
  cases hr : (run o sheet.source origin tokens).result with
  | error halt =>
    cases halt with
    | fault f =>
      rw [evaluateTokens_of_fault hn hr] at h
      cases h
    | cut c =>
      obtain ⟨rfl, hremaining⟩ := remaining_of_cut hn h ⟨c, hr⟩
      refine ⟨tokens, some .invalid, rfl, hremaining, fun g hg => ?_⟩
      cases hg
      exact .invalid
  | ok step =>
    have hle : step.rest.length ≤ tokens.length := (Setting.run_shrinks hr).length_le
    rw [evaluateTokens_of_step hn hr] at h ⊢
    refine ⟨step.rest, step.verdict, congrArg Outcome.error (outcome_conclude rfl h), ?_,
      fun g hg => ?_⟩
    · rw [evaluator_conclude rfl]
      exact Nat.sub_sub_self hle
    · obtain rfl | hf := Step.of_verdict hg
      · exact .invalid
      · exact Sheet.explains_of_arises (Setting.arises_of_run hr hf)

/-- If no cell that the formula refers to has the code of a failure for its error, the code has the
reason of this failure. -/
theorem explains_of_error {out : Outcome}
    (h : (evaluateTokens o sheet.source origin tokens).outcome = .ok out) {g : Failure}
    (hg : ∀ e, g ≠ .stored e) (he : out.error = g.code)
    (hs : ¬ sheet.Stores o.labels tokens out.error) :
    ∃ rest, (evaluateTokens o sheet.source origin tokens).evaluator.remaining = rest.length ∧
      sheet.Explains o origin tokens rest g := by
  obtain ⟨rest, failure, hcode, hremaining, hexplains⟩ := exists_explains h
  refine ⟨rest, hremaining, ?_⟩
  cases failure with
  | none =>
    have hne : g.code ≠ .str "" := Failure.code_ne_empty fun e he => absurd he (hg e)
    exact absurd (he.symm.trans hcode) hne
  | some g' =>
    have hg' := hexplains g' rfl
    rw [hcode] at he hs
    rw [← hg'.eq_of_code hg he hs]
    exact hg'

/-- The error is that of the empty formula exactly if there is no token. -/
theorem error_eq_empty_iff {out : Outcome}
    (h : (evaluateTokens o sheet.source origin tokens).outcome = .ok out) :
    out.error = .str Failure.emptyCode ↔ tokens = [] := by
  obtain ⟨rest, failure, hcode, -, hexplains⟩ := exists_explains h
  constructor
  · intro he
    rw [hcode] at he
    cases failure with
    | none => simp [Failure.codeOf, Failure.emptyCode] at he
    | some g =>
      have hg := hexplains g rfl
      obtain rfl := hg.eq_empty he
      cases hg with
      | empty hn => exact hn
  · intro hn
    subst hn
    rw [evaluateTokens_nil] at h
    exact congrArg Outcome.error (outcome_conclude rfl h)

/-- **Where the error of an evaluation comes from.** It is that of the empty formula exactly if
there is no token. Else it is empty, or one of six codes, or the error of a cell to which one of the
labels among the tokens refers. If no such cell has this error, then the code for a missing operand
implies that all tokens were read; the one for circular references that they were looked for and
that one comes from a label to the cell of the formula; the one for references that a label is
refused or leads to a cell without a formula; and the one for parentheses that one was opened. -/
theorem error_cases {e : Evaluator} {out : Outcome}
    (h : (e.evaluate sheet.source origin (.list (tokens.map .str))).outcome = .ok out) :
    (out.error = .str "#EMPTY!" ↔ tokens = []) ∧
    (tokens ≠ [] → out.error = .str "" ∨
      out.error ∈
        [("#ERR!" : Text), "#PARTIAL!", "#PAREN!", "#DIV/0!", "#REF!", "#CIRC!"].map Value.str ∨
      sheet.Stores e.options.labels tokens out.error) ∧
    (¬ sheet.Stores e.options.labels tokens out.error →
      (out.error = .str "#PARTIAL!" →
        (e.evaluate sheet.source origin (.list (tokens.map .str))).evaluator.remaining = 0) ∧
      (out.error = .str "#CIRC!" → e.options.checkCycles = true ∧ ∃ cell, origin = some cell ∧
        ∃ label ∈ tokens, e.options.labels.holds label = true ∧
          sheet.source.ComesTo e.options.labels label cell) ∧
      (out.error = .str "#REF!" →
        ∃ label ∈ tokens, e.options.labels.holds label = true ∧ sheet.Dangles label) ∧
      (out.error = .str "#PAREN!" → ("(" : Text) ∈ tokens)) := by
  rw [evaluate_texts] at h ⊢
  refine ⟨error_eq_empty_iff h, fun hn => ?_, fun hs => ⟨fun he => ?_, fun he => ?_, fun he => ?_,
    fun he => ?_⟩⟩
  · obtain ⟨rest, failure, hcode, -, hexplains⟩ := exists_explains h
    rw [hcode]
    cases failure with
    | none => exact .inl rfl
    | some g =>
      cases hexplains g rfl with
      | empty hempty => exact absurd hempty hn
      | stored hstores _ => exact .inr (.inr hstores)
      | _ => exact .inr (.inl (by simp [Failure.codeOf, Failure.code]))
  · obtain ⟨rest, hremaining, hwhy⟩ := explains_of_error h (g := .incomplete) (by simp) he hs
    cases hwhy with
    | incomplete => exact hremaining
  · obtain ⟨rest, -, hwhy⟩ := explains_of_error h (g := .circular) (by simp) he hs
    cases hwhy with
    | circular hc ho hm hl hback => exact ⟨hc, _, ho, _, hm, hl, hback⟩
  · obtain ⟨rest, -, hwhy⟩ := explains_of_error h (g := .reference) (by simp) he hs
    cases hwhy with
    | reference hm hl hd => exact ⟨_, hm, hl, hd⟩
  · obtain ⟨rest, -, hwhy⟩ := explains_of_error h (g := .parentheses) (by simp) he hs
    cases hwhy with
    | parentheses ho => exact ho

/-- A formula for `A1` refers to an empty cell and to `B1`, which refers to `A1`. The last of its
failures is that the second reference leads back. -/
theorem error_cases_of_circle :
    let tokens : List Text := ["Z9", "+", "B1"]
    ∃ out, ((ofOptions .standard).evaluate Sheet.sevenThroughB1.source (some "A1")
        (.list (tokens.map .str))).outcome = .ok out ∧
      out.error = .str "#CIRC!" ∧
      ¬ Sheet.sevenThroughB1.Stores .pattern tokens out.error ∧
      ∃ label ∈ tokens, Sheet.sevenThroughB1.source.ComesTo .pattern label "A1" := by
  intro tokens
  have htest : ((ofOptions .standard).evaluate Sheet.sevenThroughB1.source (some "A1")
      (.list ([("Z9" : Text), "+", "B1"].map .str))).outcome.toOption.any
        (fun out => out.error.plainText? == some ("#CIRC!" : Text)) = true := by
    decide +kernel
  obtain ⟨out, h, he⟩ := exists_ok_of_any htest
  have htexts : Sheet.sevenThroughB1.HasTextErrors := Sheet.sevenInA1_hasTextErrors.put rfl _
  have herror : out.error = .str "#CIRC!" := by
    obtain ⟨code, hcode⟩ := exists_code_of_outcome htexts h
    rw [hcode] at he ⊢
    rw [Option.some.inj (eq_of_beq he)]
  have hs : ¬ Sheet.sevenThroughB1.Stores .pattern tokens out.error := by
    rw [herror]
    rintro ⟨label, hm, hl, cell, hg, hcell⟩
    simp only [tokens, List.mem_cons, List.not_mem_nil, or_false] at hm
    obtain rfl | rfl | rfl := hm
    · obtain rfl := Except.ok.inj hg
      simp [Cell.empty, Failure.emptyCode] at hcell
    · exact absurd hl (by decide)
    · obtain rfl := Except.ok.inj hg
      simp at hcell
  obtain ⟨-, cell, hcell, label, hm, -, hback⟩ := ((error_cases h).2.2 hs).2.1 herror
  cases hcell
  exact ⟨out, h, herror, hs, label, hm, hback⟩

end Evaluator

end FormulaSheet
