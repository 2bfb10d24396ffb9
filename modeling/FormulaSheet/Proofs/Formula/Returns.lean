import Mathlib
import FormulaSheet.Proofs.Formula.Outcome
import FormulaSheet.Proofs.Formula.Record
import FormulaSheet.Proofs.Sheet.Spec
import FormulaSheet.Settings

/-!
# Evaluations that return

An evaluation is to report whatever goes wrong in its outcome. Two things are not reported there. A
label can be refused for another reason than that it names no cell: its row number, or the size of
the sheet that the message would give, has too many digits. And an error that is stored with a cell
can be of a type that the event log does not take. Nothing else keeps an evaluation over a sheet
from a specification from returning.

* `Sheet.answers_of_short`, `Sheet.not_answers_of_long`: which labels a sheet answers for;
* `lookups_subset`: an evaluation looks up no other labels than its rule;
* `evaluate_returns_iff`: an evaluation returns exactly if the sheet answers for every label that
  was looked up and the failure has a code that is a text; if the numbers are short enough and the
  stored errors are texts, it returns;
* `evaluate_of_number_error`: an error that is a number is not reported.
-/

namespace FormulaSheet

/-! ## What a sheet answers for -/

namespace Sheet

/-- The sheet shows a cell at the label, or refuses the label as one that names no cell of it. -/
def Answers (sheet : Sheet) (label : Text) : Prop :=
  ∀ f, sheet.get label = .error f → f.isFormulaFault = true

variable {sheet : Sheet} {label : Text}

theorem answers_iff : sheet.Answers label ↔ ∀ f, ¬ sheet.source.Refuses label f := by
  constructor
  · rintro h f ⟨hf, hff⟩
    rw [h f (lookup_eq_error_iff.1 hf)] at hff
    cases hff
  · intro h f hf
    cases hff : f.isFormulaFault with
    | true => rfl
    | false => exact absurd ⟨lookup_eq_error_iff.2 hf, hff⟩ (h f)

/-- **A sheet answers for a label** if the numbers of its columns and rows can be written and the
row number of the label can be read. -/
theorem answers_of_short (hc : Number.isWritable sheet.grid.columns = true)
    (hr : Number.isWritable sheet.grid.rows = true)
    (hd : ∀ letters row, Label.split? label = some (letters, row) →
      row.length ≤ Number.maxDigits) : sheet.Answers label := by
  intro f hf
  rw [get] at hf
  split at hf
  · cases hf
  · have hl := map_eq_error_iff.1 hf
    rcases Grid.locate_eq_error hl with hp | hout
    · rcases Label.position_eq_error hp with ⟨-, rfl⟩ | ⟨letters, row, hsplit, hlong, -⟩
      · rfl
      · exact absurd hlong (Nat.not_lt.2 (hd letters row hsplit))
    · rw [hout, Grid.outside, if_pos (Bool.and_eq_true_iff.2 ⟨hc, hr⟩)]
      rfl

/-- A sheet does not answer for a label whose row number cannot be read. -/
theorem not_answers_of_long {letters row : List Point}
    (hsplit : Label.split? label = some (letters, row)) (hd : Number.maxDigits < row.length) :
    ¬ sheet.Answers label := by
  have hl : sheet.grid.locate label = .error (.tooManyDigits row.length) := by
    simp only [Grid.locate, Label.position, hsplit, if_pos hd]
  -- no cell is stored under such a label
  have hf : sheet.cells.find? label = none := by
    refine Register.find?_eq_none fun hm => ?_
    obtain ⟨p, hp⟩ := sheet.admitted label hm
    rw [hl] at hp
    cases hp
  intro h
  have hg : sheet.get label = .error (.tooManyDigits row.length) := by
    simp only [get, hf, hl, Except.map]
  cases h _ hg

end Sheet

/-! ## The parts of an evaluation -/

namespace Evaluator

variable {o : Options} {source : Source} {origin : Option Text} {tokens : List Text}

theorem lookups_conclude (e : Evaluator) (notes : List Note) (failure : Option Failure) :
    (e.conclude origin notes failure).lookups = lookupsOf notes := by
  cases failure with
  | none => rfl
  | some g =>
    rw [conclude, fail]
    split <;> rfl

theorem Concludes.subset {t : Traced Step} {notes : List Note} {failure : Option Failure}
    (h : Concludes t tokens notes failure) : notes ⊆ t.notes := by
  cases h with
  | nil _ => exact List.nil_subset _
  | cut _ => exact List.Subset.refl _
  | step _ => exact List.Subset.refl _

/-- Where something is concluded, no label that was looked up is refused. -/
theorem Concludes.answer {t : Traced Step} {refused : Text → Fault → Prop} {notes : List Note}
    {failure : Option Failure} (ht : t.Accounts refused) (h : Concludes t tokens notes failure)
    {label : Text} (hm : .lookup label ∈ notes) (f : Fault) : ¬ refused label f := by
  cases h with
  | nil _ => cases hm
  | cut hr => exact ht.answer (fun f hf => by rw [hr] at hf; cases hf) label hm f
  | step hr => exact ht.answer (fun f hf => by rw [hr] at hf; cases hf) label hm f

/-- No other labels are looked up than by the rule. -/
theorem lookups_subset {label : Text}
    (h : label ∈ (evaluateTokens o source origin tokens).lookups) :
    .lookup label ∈ (run o source origin tokens).notes := by
  rcases evaluateTokens_cases o source origin tokens with
    ⟨f, -, he⟩ | ⟨e, notes, failure, -, -, hc, he⟩
  · rw [he] at h
    exact mem_lookupsOf.1 h
  · rw [he, lookups_conclude] at h
    exact hc.subset (mem_lookupsOf.1 h)

/-- **An evaluation over plain contents returns** exactly if no label that it looked up is refused
and the code of its failure is a text. -/
theorem evaluateTokens_returns_iff (hs : source.IsPlain) :
    (∃ out, (evaluateTokens o source origin tokens).outcome = .ok out) ↔
      (∀ label ∈ (evaluateTokens o source origin tokens).lookups, ∀ f, ¬ source.Refuses label f) ∧
        ∀ g, (evaluateTokens o source origin tokens).evaluator.failure = some g →
          g.code.plainText?.isSome = true := by
  have ht : (run o source origin tokens).Accounts source.Refuses :=
    Setting.run_accounts (s := setting o source origin) hs tokens
  rcases evaluateTokens_cases o source origin tokens with
    ⟨f, hr, he⟩ | ⟨e, notes, failure, -, hn, hc, he⟩
  · rw [he]
    constructor
    · rintro ⟨out, h⟩
      cases h
    · rintro ⟨h, -⟩
      obtain ⟨label, hm, href⟩ := ht.fault f hr
      exact absurd href (h label (mem_lookupsOf.2 hm) f)
  · rw [he, lookups_conclude, failure_conclude hn, conclude_returns_iff]
    exact ⟨fun h => ⟨fun label hm => hc.answer ht (mem_lookupsOf.1 hm), h⟩, fun h => h.2⟩

end Evaluator

/-! ## Sheets over which evaluations return -/

theorem Failure.plainText_rules : HoldsOfRules fun g => g.code.plainText?.isSome = true :=
  ⟨rfl, rfl, rfl, rfl⟩

namespace Sheet

/-- The label is one of the tokens, or a token of a formula that is stored in the sheet. -/
def Concerns (sheet : Sheet) (tokens : List Text) (label : Text) : Prop :=
  label ∈ tokens ∨
    ∃ other cell, sheet.cells.find? other = some cell ∧ .str label ∈ cell.formula

/-- Nothing about the sheet keeps the evaluation of the tokens from returning: the numbers of its
columns and rows can be written, the row numbers of the labels that may be looked up can be read,
and the stored errors that count are texts. -/
structure IsOrdinary (sheet : Sheet) (tokens : List Text) : Prop where
  columns : Number.isWritable sheet.grid.columns = true
  rows : Number.isWritable sheet.grid.rows = true
  labels : ∀ label, sheet.Concerns tokens label → ∀ letters row,
    Label.split? label = some (letters, row) → row.length ≤ Number.maxDigits
  errors : ∀ label cell, sheet.cells.find? label = some cell → cell.error.isTrue = true →
    cell.error.plainText?.isSome = true

variable {sheet : Sheet} {tokens : List Text}

theorem concerns_of_mentions {c : LabelClass} {label other : Text}
    (h : sheet.source.Mentions c label other) : sheet.Concerns tokens other := by
  obtain ⟨content, elements, hl, he, hm, -⟩ := h
  obtain ⟨cell, hg, rfl⟩ := exists_get_of_lookup hl
  cases he
  rcases find?_or_eq_empty_of_get hg with hf | rfl
  · exact .inr ⟨label, cell, hf, hm⟩
  · cases hm

/-- An ordinary sheet answers for every label that an evaluation looks up. -/
theorem IsOrdinary.answers (h : sheet.IsOrdinary tokens) {o : Options} {origin : Option Text}
    {label : Text}
    (hl : label ∈ (Evaluator.evaluateTokens o sheet.source origin tokens).lookups) :
    sheet.Answers label := by
  have hlooks : (Evaluator.run o sheet.source origin tokens).LooksUp (sheet.Concerns tokens) :=
    Setting.run_looksUp (fun _ _ _ hm => concerns_of_mentions hm) fun _ hm _ => .inl hm
  have hd := h.labels label (hlooks label (Evaluator.lookups_subset hl))
  exact answers_of_short h.columns h.rows hd

/-- Over an ordinary sheet the code of every failure is a text. -/
theorem IsOrdinary.plainText (h : sheet.IsOrdinary tokens) {o : Options} {origin : Option Text}
    {g : Failure} (hg : (Evaluator.evaluateTokens o sheet.source origin tokens).evaluator.failure =
      some g) : g.code.plainText?.isSome = true := by
  have href (label : Text) (x : Float) (g : Failure)
      (hr : ((Evaluator.setting o sheet.source origin).reference label).result =
        .ok (x, some g)) : g.code.plainText?.isSome = true := by
    cases Setting.reference_ok_iff.1 hr with
    | circular _ => rfl
    | unresolved _ _ _ => rfl
    | @read c _ _ _ hl hc =>
      obtain ⟨cell, hget, rfl⟩ := exists_get_of_lookup hl
      rcases Content.failure_of_reading hc with ⟨rfl, -⟩ | ⟨rfl, ht, -⟩
      · rfl
      · rcases find?_or_eq_empty_of_get hget with hf | rfl
        · exact h.errors label cell hf ht
        · rfl
  rcases Evaluator.evaluateTokens_cases o sheet.source origin tokens with
    ⟨f, -, he⟩ | ⟨e, notes, failure, -, hn, hc, he⟩
  · rw [he] at hg
    cases hg
  · rw [he, Evaluator.failure_conclude hn] at hg
    exact hc.holds Failure.plainText_rules rfl href hg

end Sheet

/-- **An evaluation** over a sheet from a specification returns exactly if the sheet answers for
every label that it looked up, and the code of its failure, if there is one, is a text. What it
returns is what the evaluator keeps. If the sheet is ordinary for the tokens, it does return. -/
theorem evaluate_returns_iff {spec : Value} {sheet : Sheet} (hs : Sheet.ofSpec spec = .ok sheet)
    (e : Evaluator) (origin : Option Text) (tokens : List Text) :
    let done := e.evaluate sheet.source origin (.list (tokens.map .str))
    ((∃ o, done.outcome = .ok o) ↔
      (∀ label ∈ done.lookups, sheet.Answers label) ∧
        ∀ g, done.evaluator.failure = some g → g.code.plainText?.isSome = true) ∧
    (∀ o, done.outcome = .ok o → o = done.evaluator.outcome) ∧
    (sheet.IsOrdinary tokens → ∃ o, done.outcome = .ok o) := by
  intro done
  have hdone : done = Evaluator.evaluateTokens e.options sheet.source origin tokens :=
    Evaluator.evaluate_texts e sheet.source origin tokens
  have hiff : (∃ o, done.outcome = .ok o) ↔ (∀ label ∈ done.lookups, sheet.Answers label) ∧
      ∀ g, done.evaluator.failure = some g → g.code.plainText?.isSome = true := by
    simp only [Sheet.answers_iff, hdone]
    exact Evaluator.evaluateTokens_returns_iff (Sheet.hasTextTokens_ofSpec hs).isPlain
  rw [hdone] at hiff ⊢
  refine ⟨hiff, fun o ho => ?_, fun h => hiff.2 ⟨fun label => h.answers, fun g => h.plainText⟩⟩
  rcases Evaluator.evaluateTokens_cases e.options sheet.source origin tokens with
    ⟨f, -, he⟩ | ⟨e', notes, failure, -, hn, -, he⟩
  · rw [he] at ho
    cases ho
  · rw [he] at ho ⊢
    exact Evaluator.outcome_eq_of_conclude hn ho

/-- An evaluation over a sheet without cells returns. -/
theorem evaluate_returns_of_blank :
    Sheet.ofSpec (.map []) = .ok (.blank .standard) ∧
      (Sheet.blank .standard).IsOrdinary ["B2"] ∧
      ∃ o, ((Evaluator.ofOptions .standard).evaluate (Sheet.blank .standard).source none
        (.list ([("B2" : Text)].map .str))).outcome = .ok o := by
  have hs : Sheet.ofSpec (.map []) = .ok (.blank .standard) := rfl
  have ho : (Sheet.blank .standard).IsOrdinary ["B2"] := by
    refine ⟨Number.isWritable_of_le (by decide), Number.isWritable_of_le (by decide), ?_,
      fun label cell hf => by cases hf⟩
    rintro label (hm | ⟨_, _, hf, _⟩) letters row hsplit
    · cases List.mem_singleton.1 hm
      cases hsplit
      decide
    · cases hf
  exact ⟨hs, ho, (evaluate_returns_iff hs _ none ["B2"]).2.2 ho⟩

/-- A specification of a sheet in which the error of a cell is a number. -/
def Sheet.numberErrorSpec : Value :=
  .map [(.str "cells",
    .map [(.str "A1", .map [(.str "formula", .null), (.str "error", .int 5)])])]

/-- The sheet that it describes. -/
def Sheet.numberErrorInA1 : Sheet :=
  (blank .standard).put "A1" ⟨[], 0.0, .int 5⟩ Grid.standard_admits_first

/-- **A stored error can keep an evaluation from returning**: the number that is stored as the error
of `A1` is not reported for a formula that refers to this cell, as the event log does not take
it. -/
theorem evaluate_of_number_error :
    ∃ sheet options tokens, Sheet.ofSpec Sheet.numberErrorSpec = .ok sheet ∧
      Settings.options .standard (.map []) = .ok options ∧ Formula.tokenize "A1" = .ok tokens ∧
      ∀ o, ((Evaluator.ofOptions options).evaluate sheet.source none
        (.list (tokens.map .str))).outcome ≠ .ok o := by
  have htokens : Formula.tokenize "A1" = .ok ["A1"] := by cbv
  refine ⟨Sheet.numberErrorInA1, .standard, _, rfl, rfl, htokens, fun o h => ?_⟩
  have hr : (Evaluator.run .standard Sheet.numberErrorInA1.source none ["A1"]).result =
      .ok ⟨0.0, [], some (.stored (.int 5))⟩ := rfl
  have hc : Evaluator.evaluateTokens .standard Sheet.numberErrorInA1.source none ["A1"] = _ :=
    Evaluator.evaluateTokens_of_step (List.cons_ne_nil _ _) hr
  rw [Evaluator.evaluate_texts, Evaluator.ofOptions, hc] at h
  have hp := (Evaluator.conclude_returns_iff _ _ _ _).1 ⟨o, h⟩ (.stored (.int 5)) rfl
  cases hp

end FormulaSheet
