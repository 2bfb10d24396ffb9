import FormulaSheet.Proofs.Formula.Reference
import FormulaSheet.Proofs.Formula.Room

/-!
# Outcomes

An evaluator runs the rule for expressions and concludes from where the rule ends: tokens that are
left over are a failure of their own, and a failure becomes the code of an error. This module says
what evaluators add to the rules.

* `Setting.arises_of_run`: where the failure of an evaluation comes from (`Setting.Arises`); so a
  property of failures that those of the rules and of the references have is one of every failure of
  an evaluation (`Setting.Arises.holds`);
* `conclude_returns_iff`: what is concluded is an outcome exactly if its error is a text;
* `evaluateTokens_of_step`: an evaluation whose rule ends is concluded from where it ends
  (`Step.verdict`);
* `evaluateTokens_cases`: every evaluation is concluded or given up;
* `outcome_clear_iff`: an outcome has no error exactly if all tokens were read without a failure.
-/

namespace FormulaSheet

/-! ## Where failures come from -/

/-- What is true of the failures that the rules themselves find. -/
structure HoldsOfRules (P : Failure → Prop) : Prop where
  incomplete : P .incomplete
  parentheses : P .parentheses
  divisionByZero : P .divisionByZero
  invalid : P .invalid

namespace Setting

/-- Where a failure comes from when some of the tokens are left. The rules find it themselves, and
they miss an operand only where no token is left; or it comes from a reference. -/
inductive Arises (s : Setting) (all : List Text) : List Text → Failure → Prop
  /-- an operand is missing behind the last token -/
  | incomplete : Arises s all [] .incomplete
  /-- a parenthesis that was opened is not closed -/
  | parentheses {rest : List Text} : ("(" : Text) ∈ all → Arises s all rest .parentheses
  /-- a divisor is zero -/
  | divisionByZero {rest : List Text} : Arises s all rest .divisionByZero
  /-- a token is out of place -/
  | invalid {rest : List Text} : Arises s all rest .invalid
  /-- a reference fails -/
  | reference {rest : List Text} {label : Text} {x : Float} {g : Failure} : label ∈ all →
      IsReference s.labels s.blankIsZero label → (s.reference label).result = .ok (x, some g) →
      Arises s all rest g

variable {s : Setting} {all rest rest' : List Text} {g : Failure} {P : Failure → Prop}

/-- A failure still comes from where it came from when more tokens were read. -/
theorem Arises.of_suffix (h : s.Arises all rest g) (hs : rest' <:+ rest) :
    s.Arises all rest' g := by
  cases h with
  | incomplete =>
    rw [List.suffix_nil.1 hs]
    exact .incomplete
  | parentheses ho => exact .parentheses ho
  | divisionByZero => exact .divisionByZero
  | invalid => exact .invalid
  | reference hm hl hr => exact .reference hm hl hr

/-- A property of the failures that the rules find and of those of references is one of every
failure. -/
theorem Arises.holds (h : s.Arises all rest g) (hP : HoldsOfRules P)
    (hr : ∀ label x g, (s.reference label).result = .ok (x, some g) → P g) : P g := by
  cases h with
  | incomplete => exact hP.incomplete
  | parentheses _ => exact hP.parentheses
  | divisionByZero => exact hP.divisionByZero
  | invalid => exact hP.invalid
  | reference _ _ href => exact hr _ _ _ href

/-- Wherever in the tokens the rule starts: if it is known where the failure in front of the rule
comes from, so it is of the one behind it. -/
def Traces (s : Setting) (all : List Text) (r : Rule) : Prop :=
  ∀ ⦃tokens failure step⦄, tokens <:+ all → (r tokens failure).result = .ok step →
    (∀ g, failure = some g → s.Arises all tokens g) →
    ∀ g, step.failure = some g → s.Arises all step.rest g

theorem level_traces {rank : Rank} {operand : Rule} (hs : operand.Shrinks)
    (ho : s.Traces all operand) : s.Traces all (level rank operand) := by
  intro tokens failure last hsuffix h hf
  obtain ⟨first, hr, hc⟩ := (level_ok_iff hs).1 h
  -- from here on the failure behind the first operand takes the place of the one in front of it
  have h1 := ho hsuffix hr hf
  have hfirst := (hs hr).trans hsuffix
  clear hr h hf hsuffix
  induction hc with
  | stop _ => exact h1
  | @more _ _ token rest _ _ r _ _ hr _ _ ih =>
    have hrest : rest <:+ all := (List.suffix_cons _ _).trans hfirst
    have h2 := ho hrest hr fun g hg => (h1 g hg).of_suffix (List.suffix_cons _ _)
    exact ih h2 ((hs hr).trans hrest)
  | abandon _ _ _ =>
    intro g hg
    cases hg
    exact .divisionByZero

theorem factor_traces {inner : Rule} (hi : s.Traces all inner) : s.Traces all (s.factor inner) := by
  intro tokens failure step hsuffix h hf
  have htail {token : Text} {rest : List Text} (ht : tokens = token :: rest) :
      rest <:+ all ∧ ∀ g, failure = some g → s.Arises all rest g := by
    subst ht
    exact ⟨(List.suffix_cons _ _).trans hsuffix,
      fun g hg => (hf g hg).of_suffix (List.suffix_cons _ _)⟩
  cases factor_ok_iff.1 h with
  | incomplete =>
    intro g hg
    cases hg
    exact .incomplete
  | number _ => exact (htail rfl).2
  | closed hr =>
    obtain ⟨hrest, hf'⟩ := htail rfl
    exact fun g hg => (hi hrest hr hf' g hg).of_suffix (List.suffix_cons _ _)
  | unclosed _ _ =>
    intro g hg
    cases hg
    exact .parentheses (hsuffix.subset List.mem_cons_self)
  | @label token rest f g x hl hr =>
    cases g with
    | none => exact (htail rfl).2
    | some g =>
      intro g' hg'
      cases hg'
      exact .reference (hsuffix.subset List.mem_cons_self) hl hr
  | invalid _ _ _ =>
    intro g hg
    cases hg
    exact .invalid

/-- **Every failure** of an evaluation is one of those that the rules find, or comes from a
reference to one of the labels among the tokens. -/
theorem expression_traces (all : List Text) (depth : Nat) : s.Traces all (s.expression depth) := by
  induction depth with
  | zero =>
    intro tokens failure step _ h
    exact absurd h Traced.halt_ne_ok
  | succ depth ih =>
    rw [expression_eq]
    have hf : (s.factor (s.expression depth)).Shrinks := factor_shrinks (expression_shrinks depth)
    exact level_traces (level_shrinks hf) (level_traces hf (factor_traces ih))

/-- Where the failure of an evaluation comes from. -/
theorem arises_of_run {tokens : List Text} {step : Step}
    (h : (s.run tokens).result = .ok step) (hg : step.failure = some g) :
    s.Arises tokens step.rest g :=
  expression_traces tokens _ List.suffix_rfl (expression_of_run h 0) (fun g hn => by cases hn) g hg

/-- A failure of an evaluation does not have the empty code, which stands for success. -/
theorem code_ne_empty_of_run {tokens : List Text} {step : Step}
    (h : (s.run tokens).result = .ok step) (hg : step.failure = some g) :
    g.code ≠ .str "" := by
  have hP : HoldsOfRules fun g => g.code ≠ .str "" :=
    ⟨by simp [Failure.code], by simp [Failure.code], by simp [Failure.code], by simp [Failure.code]⟩
  exact (arises_of_run h hg).holds hP fun label x g hr => code_ne_empty_of_reference hr

end Setting

/-! ## Conclusions -/

/-- The failure of an evaluation whose rule ended with the step: that of the rule, or else tokens
that are left over. -/
def Step.verdict (step : Step) : Option Failure :=
  step.failure.or (if step.rest.isEmpty then none else some .invalid)

theorem Step.verdict_eq_none_iff {step : Step} :
    step.verdict = none ↔ step.failure = none ∧ step.rest = [] := by
  rw [verdict, Option.or_eq_none_iff]
  cases step.rest with
  | nil => simp
  | cons token rest => simp

theorem Step.of_verdict {step : Step} {g : Failure} (h : step.verdict = some g) :
    g = .invalid ∨ step.failure = some g := by
  rw [verdict] at h
  rcases Option.or_eq_some_iff.1 h with hf | ⟨-, hr⟩
  · exact .inr hf
  · split at hr
    · cases hr
    · cases hr
      exact .inl rfl

namespace Evaluator

theorem tokensOf_texts (tokens : List Text) : tokensOf (.list (tokens.map .str)) = .ok tokens := by
  have hm : (tokens.map Value.str).mapM Value.text = .ok tokens := by
    induction tokens with
    | nil => rfl
    | cons token tokens ih =>
      rw [List.map_cons, List.mapM_cons, Value.text_str, ih]
      rfl
  exact hm

/-- A formula of texts is evaluated as they are. -/
theorem evaluate_texts (e : Evaluator) (source : Source) (origin : Option Text)
    (tokens : List Text) : e.evaluate source origin (.list (tokens.map .str)) =
      evaluateTokens e.options source origin tokens := by
  rw [evaluate, tokensOf_texts]

/-- Ends an evaluation with a failure or without one. -/
def conclude (e : Evaluator) (origin : Option Text) (notes : List Note) :
    Option Failure → Evaluated
  | none => ⟨e, noticesOf notes, lookupsOf notes, .ok e.outcome⟩
  | some failure => e.fail origin notes failure

/-- The outcome of an evaluation that is concluded is its value with the code of the failure. -/
theorem outcome_conclude {e : Evaluator} (he : e.failure = none) {origin : Option Text}
    {notes : List Note} {failure : Option Failure} {o : Outcome}
    (h : (e.conclude origin notes failure).outcome = .ok o) :
    o = ⟨e.result, Failure.codeOf failure⟩ := by
  cases failure with
  | none =>
    cases h
    rw [outcome, error, he]
  | some g =>
    rw [conclude, fail] at h
    split at h
    · cases h
      rfl
    · cases h
    · cases h

/-- The evaluator that is left by a conclusion has the failure, and is otherwise as it was. -/
theorem evaluator_conclude {e : Evaluator} (he : e.failure = none) (origin : Option Text)
    (notes : List Note) (failure : Option Failure) :
    (e.conclude origin notes failure).evaluator = { e with failure } := by
  cases failure with
  | none => exact congrArg (fun failure => { e with failure }) he
  | some g =>
    rw [conclude, fail]
    split <;> rfl

theorem failure_conclude {e : Evaluator} (he : e.failure = none) {origin : Option Text}
    (notes : List Note) (failure : Option Failure) :
    (e.conclude origin notes failure).evaluator.failure = failure := by
  rw [evaluator_conclude he]

/-- What is concluded is what the evaluator that is left shows. -/
theorem outcome_eq_of_conclude {e : Evaluator} (he : e.failure = none) {origin : Option Text}
    {notes : List Note} {failure : Option Failure} {o : Outcome}
    (h : (e.conclude origin notes failure).outcome = .ok o) :
    o = (e.conclude origin notes failure).evaluator.outcome := by
  rw [outcome_conclude he h, evaluator_conclude he]
  rfl

/-- What is concluded returns exactly if the code of the failure is a text. -/
theorem conclude_returns_iff (e : Evaluator) (origin : Option Text) (notes : List Note)
    (failure : Option Failure) :
    (∃ out, (e.conclude origin notes failure).outcome = .ok out) ↔
      ∀ g, failure = some g → g.code.plainText?.isSome = true := by
  cases failure with
  | none =>
    refine ⟨fun _ g hg => ?_, fun _ => ⟨_, rfl⟩⟩
    cases hg
  | some g =>
    rw [conclude, fail]
    constructor
    · rintro ⟨out, h⟩ g' hg'
      cases hg'
      split at h
      · rename_i hp
        exact Option.isSome_iff_exists.2 ⟨_, hp⟩
      · cases h
      · cases h
    · intro h
      obtain ⟨code, hp⟩ := Option.isSome_iff_exists.1 (h g rfl)
      -- what is a text, or octets that are one, can be told
      have ht : ∃ text, g.code.text = .ok text := by
        cases hc : g.code with
        | str s => exact ⟨s, rfl⟩
        | octets s => exact ⟨_, rfl⟩
        | _ =>
          rw [hc] at hp
          cases hp
      obtain ⟨text, ht⟩ := ht
      simp only [ht, hp]
      exact ⟨_, rfl⟩

/-- An error of an outcome is a text, or octets that are one. -/
theorem plainText_of_outcome_conclude {e : Evaluator} (he : e.failure = none)
    {origin : Option Text} {notes : List Note} {failure : Option Failure} {o : Outcome}
    (h : (e.conclude origin notes failure).outcome = .ok o) : o.error.plainText?.isSome = true := by
  rw [outcome_conclude he h]
  cases failure with
  | none => rfl
  | some g => exact (conclude_returns_iff e origin notes (some g)).1 ⟨o, h⟩ g rfl

/-- The evaluator that has not read any of the tokens. -/
def unread (o : Options) (tokens : List Text) : Evaluator :=
  ⟨o, tokens, 0, 0.0, none⟩

/-- The evaluator that has read the tokens up to a step. -/
def readTo (o : Options) (tokens : List Text) (step : Step) : Evaluator :=
  ⟨o, tokens, tokens.length - step.rest.length, step.value, none⟩

/-- What an evaluator reads the tokens as. -/
abbrev run (o : Options) (source : Source) (origin : Option Text) (tokens : List Text) :
    Traced Step :=
  (setting o source origin).run tokens

variable {o : Options} {source : Source} {origin : Option Text} {tokens : List Text}

theorem evaluateTokens_nil : evaluateTokens o source origin [] =
    (unread o []).conclude origin [] (some .empty) :=
  rfl

theorem evaluateTokens_of_cut {c : Cut} (hn : tokens ≠ [])
    (hr : (run o source origin tokens).result = .error (.cut c)) :
    evaluateTokens o source origin tokens = (unread o tokens).conclude origin
      (run o source origin tokens).notes (some .invalid) := by
  simp only [evaluateTokens, hr, List.isEmpty_iff, if_neg hn]
  rfl

theorem evaluateTokens_of_fault {f : Fault} (hn : tokens ≠ [])
    (hr : (run o source origin tokens).result = .error (.fault f)) :
    evaluateTokens o source origin tokens = ⟨unread o tokens,
      noticesOf (run o source origin tokens).notes, lookupsOf (run o source origin tokens).notes,
      .error f⟩ := by
  simp only [evaluateTokens, hr, List.isEmpty_iff, if_neg hn]
  rfl

/-- An evaluation that returns was not given up for a fault. -/
theorem calm_of_outcome {out : Outcome}
    (h : (evaluateTokens o source origin tokens).outcome = .ok out) :
    (run o source origin tokens).Calm := by
  intro f hr
  by_cases hn : tokens = []
  · subst hn
    obtain he | he := (setting o source origin).run_nil
    · cases (congrArg Traced.result he).symm.trans hr
    · cases (congrArg Traced.result he).symm.trans hr
  · rw [evaluateTokens_of_fault hn hr] at h
    cases h

theorem evaluateTokens_of_step {step : Step} (hn : tokens ≠ [])
    (hr : (run o source origin tokens).result = .ok step) :
    evaluateTokens o source origin tokens = (readTo o tokens step).conclude origin
      (run o source origin tokens).notes step.verdict := by
  simp only [evaluateTokens, hr, List.isEmpty_iff, if_neg hn]
  rcases step with ⟨x, rest, failure⟩
  cases failure with
  | some g => rfl
  | none =>
    cases rest with
    | nil => rfl
    | cons token rest => rfl

/-- What an evaluation concludes from its rule, if that is not given up by a fault: the record of
what was done, and the failure. Without tokens the rule does not come into it. -/
inductive Concludes (t : Traced Step) (tokens : List Text) : List Note → Option Failure → Prop
  /-- there is no token -/
  | nil : tokens = [] → Concludes t tokens [] (some .empty)
  /-- the rule was cut -/
  | cut {c : Cut} : t.result = .error (.cut c) → Concludes t tokens t.notes (some .invalid)
  /-- the rule has ended -/
  | step {step : Step} : t.result = .ok step → Concludes t tokens t.notes step.verdict

/-- A property of failures that those of the rules and of the references have, and the one of the
empty formula, is one of the failure that is concluded. -/
theorem Concludes.holds {P : Failure → Prop} (hP : HoldsOfRules P) (hempty : P .empty)
    (hr : ∀ label x g,
      ((setting o source origin).reference label).result = .ok (x, some g) → P g)
    {notes : List Note} {failure : Option Failure}
    (h : Concludes (run o source origin tokens) tokens notes failure) {g : Failure}
    (hg : failure = some g) : P g := by
  cases h with
  | nil _ =>
    cases hg
    exact hempty
  | cut _ =>
    cases hg
    exact hP.invalid
  | step hs =>
    rcases Step.of_verdict hg with rfl | hf
    · exact hP.invalid
    · exact (Setting.arises_of_run hs hf).holds hP hr

/-- **An evaluation** is given up by a fault of its rule, or it is concluded from it by an evaluator
that had no failure before. -/
theorem evaluateTokens_cases (o : Options) (source : Source) (origin : Option Text)
    (tokens : List Text) :
    (∃ f, (run o source origin tokens).result = .error (.fault f) ∧
        evaluateTokens o source origin tokens = ⟨unread o tokens,
          noticesOf (run o source origin tokens).notes,
          lookupsOf (run o source origin tokens).notes, .error f⟩) ∨
      ∃ e notes failure, e.options = o ∧ e.failure = none ∧
        Concludes (run o source origin tokens) tokens notes failure ∧
        evaluateTokens o source origin tokens = conclude e origin notes failure := by
  by_cases hn : tokens = []
  · subst hn
    exact .inr ⟨_, _, _, rfl, rfl, .nil rfl, evaluateTokens_nil⟩
  cases hr : (run o source origin tokens).result with
  | error halt =>
    cases halt with
    | cut c => exact .inr ⟨_, _, _, rfl, rfl, .cut hr, evaluateTokens_of_cut hn hr⟩
    | fault f => exact .inl ⟨f, rfl, evaluateTokens_of_fault hn hr⟩
  | ok step => exact .inr ⟨_, _, _, rfl, rfl, .step hr, evaluateTokens_of_step hn hr⟩

/-- An evaluation keeps the options of the evaluator. -/
theorem options_evaluate (e : Evaluator) (source : Source) (origin : Option Text)
    (formula : Value) : (e.evaluate source origin formula).evaluator.options = e.options := by
  rw [evaluate]
  split
  · rfl
  · rename_i tokens _
    rcases evaluateTokens_cases e.options source origin tokens with
      ⟨f, -, he⟩ | ⟨e', notes, failure, ho, hn, -, he⟩
    · rw [he]
      rfl
    · rw [he, ← ho]
      rw [evaluator_conclude hn]

/-- Of an evaluator only the options count. -/
theorem evaluate_eq_of_options {e e' : Evaluator} (h : e.options = e'.options) (source : Source)
    (origin : Option Text) (formula : Value) :
    e.evaluate source origin formula = e'.evaluate source origin formula := by
  rw [evaluate, evaluate, reset, reset, h]

/-- The error of an outcome is a text, or octets that are one. -/
theorem plainText_of_evaluate {e : Evaluator} {source : Source} {origin : Option Text}
    {formula : Value} {o : Outcome} (h : (e.evaluate source origin formula).outcome = .ok o) :
    o.error.plainText?.isSome = true := by
  rw [evaluate] at h
  split at h
  · cases h
  · rename_i tokens _
    rcases evaluateTokens_cases e.options source origin tokens with
      ⟨f, -, he⟩ | ⟨e', notes, failure, -, hn, -, he⟩
    · rw [he] at h
      cases h
    · rw [he] at h
      exact plainText_of_outcome_conclude hn h

/-! ## Outcomes without an error -/

/-- Neither a failure of the rules nor tokens behind the expression have the code of success. -/
theorem code_ne_empty_of_verdict {step : Step} {g : Failure}
    (h : (run o source origin tokens).result = .ok step)
    (hv : step.verdict = some g) : g.code ≠ .str "" := by
  rcases Step.of_verdict hv with rfl | hf
  · simp [Failure.code]
  · exact Setting.code_ne_empty_of_run h hf

/-- **An outcome has no error** exactly if there are tokens, and all of them were read without a
failure. -/
theorem outcome_clear_iff {x : Float} :
    (evaluateTokens o source origin tokens).outcome = .ok ⟨x, .str ""⟩ ↔
      tokens ≠ [] ∧ (run o source origin tokens).result = .ok ⟨x, [], none⟩ := by
  have hne {e : Evaluator} {notes : List Note} {g : Failure} (he : e.failure = none)
      (hg : g.code ≠ .str "") :
      (e.conclude origin notes (some g)).outcome ≠ .ok ⟨x, .str ""⟩ := by
    intro h
    exact hg (congrArg Outcome.error (outcome_conclude he h)).symm
  by_cases hn : tokens = []
  · subst hn
    rw [evaluateTokens_nil]
    constructor
    · intro h
      exact absurd h (hne rfl (g := .empty) (by simp [Failure.code, Failure.emptyCode]))
    · rintro ⟨h, -⟩
      exact absurd rfl h
  cases hr : (run o source origin tokens).result with
  | error halt =>
    -- an evaluation that is cut is concluded, one that is given up by a fault is not
    simp only [reduceCtorEq, and_false, iff_false]
    cases halt with
    | cut c =>
      rw [evaluateTokens_of_cut hn hr]
      exact hne rfl (by simp [Failure.code])
    | fault f =>
      rw [evaluateTokens_of_fault hn hr]
      intro h
      cases h
  | ok step =>
    rw [evaluateTokens_of_step hn hr]
    cases hv : step.verdict with
    | none =>
      obtain ⟨hf, hrest⟩ := Step.verdict_eq_none_iff.1 hv
      rcases step with ⟨y, rest, failure⟩
      subst hf hrest
      simp [hn, conclude, outcome, error, Failure.codeOf, readTo]
    | some g =>
      have hg := code_ne_empty_of_verdict hr hv
      constructor
      · intro h
        exact absurd h (hne rfl hg)
      · rintro ⟨-, hs⟩
        cases hs
        cases hv

end Evaluator

end FormulaSheet
