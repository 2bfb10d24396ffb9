import FormulaSheet.Proofs.Formula.Denotation
import FormulaSheet.Proofs.Formula.Session

/-!
# How far a formula is looked at

A formula is read from left to right, and nothing is looked at but what is read and the token that
comes next. Whether an expression goes on, and whether a parenthesis is closed, is decided by this
one token; a token that should close a parenthesis and does not is read with it. So what stands
behind the next token has no influence, and if a formula is cut where its reading has ended, it is
read in the same way to its end.

The end of a formula is no token. A rule that has met it has read everything, so that nothing can be
put behind what it has read: `MayFollow` allows the end in place of a token, but no token in place
of the end.

* `expressionOf_looksOneAhead`: the rule for expressions does the same in front of other tokens;
* `expressionOf_consumes`: it reads at least one token;
* `evaluate_of_take`: an evaluation is that of the tokens that are read.
-/

namespace FormulaSheet

/-! ## What may follow -/

/-- The second tokens may stand in place of the first behind what was read: the same token comes
next, or none. -/
def MayFollow (rest rest' : List Text) : Prop :=
  rest' = [] ∨ rest'.head? = rest.head?

variable {rest rest' : List Text}

theorem MayFollow.eq_nil (h : MayFollow [] rest') : rest' = [] := by
  rcases h with h | h
  · exact h
  · exact List.head?_eq_none_iff.1 h

theorem MayFollow.append (h : MayFollow rest rest') (front : List Text) :
    MayFollow (front ++ rest) (front ++ rest') := by
  cases front with
  | nil => exact h
  | cons token front => exact .inr rfl

theorem MayFollow.cons (token : Text) (rest rest' : List Text) :
    MayFollow (token :: rest) (token :: rest') :=
  .inr rfl

/-- A chain that ends in front of tokens ends in front of those that may stand in their place. -/
theorem MayFollow.not_continues (h : MayFollow rest rest') {rank : Rank}
    (hr : rank.continues rest = false) : rank.continues rest' = false := by
  rcases h with rfl | h
  · rfl
  · rw [Rank.continues, h]
    exact hr

/-- What a rule has read with one token in front is this token. -/
theorem eq_singleton_of_cons_eq {token : Text} {front : List Text}
    (h : token :: rest = front ++ rest) : front = [token] := by
  have hfront : [token] ++ rest = front ++ rest := h
  exact (List.append_cancel_right hfront).symm

/-- Tokens that agree with others up to the first one left over go on with that one. -/
theorem exists_cons_of_take {front others : List Text} (hn : rest ≠ [])
    (h : others.take (front.length + 1) = (front ++ rest).take (front.length + 1)) :
    ∃ token tail tail', rest = token :: tail ∧ others = front ++ token :: tail' := by
  obtain ⟨token, tail, rfl⟩ := List.exists_cons_of_ne_nil hn
  have hstart : (front ++ token :: tail).take (front.length + 1) = front ++ [token] := by
    rw [List.take_length_add_append]
    rfl
  refine ⟨token, tail, others.drop (front.length + 1), rfl, ?_⟩
  calc others = others.take (front.length + 1) ++ others.drop (front.length + 1) :=
        (List.take_append_drop _ _).symm
    _ = front ++ [token] ++ others.drop (front.length + 1) := by rw [h, hstart]
    _ = front ++ token :: others.drop (front.length + 1) := List.append_assoc _ _ _

/-! ## Rules that look one token ahead -/

/-- The rule looks at no token behind the next one: what it has read it reads in the same way in
front of all tokens that may follow. -/
def Rule.LooksOneAhead (r : Rule) : Prop :=
  ∀ ⦃front tokens rest' failure step⦄, (r tokens failure).result = .ok step →
    tokens = front ++ step.rest → MayFollow step.rest rest' →
    (r (front ++ rest') failure).result = .ok { step with rest := rest' }

variable {rank : Rank} {operand : Rule}

theorem ChainRun.looksOneAhead (hs : operand.Shrinks) (ho : operand.LooksOneAhead)
    {step last : Step} (h : ChainRun rank operand step last) {front : List Text}
    (hfront : step.rest = front ++ last.rest) (hm : MayFollow last.rest rest') :
    ChainRun rank operand { step with rest := front ++ rest' } { last with rest := rest' } := by
  induction h generalizing front with
  | @stop step hc =>
    obtain rfl := List.self_eq_append_left.1 hfront
    exact .stop (hm.not_continues hc)
  | @more x y token rest failure op r last hop hr hx hrun ih =>
    -- the operand has read `read`, and the rest of the chain reads `more`
    obtain ⟨more, hmore⟩ := hrun.suffix hs
    obtain ⟨read, rfl⟩ := hs hr
    rw [← hmore, ← List.cons_append, ← List.append_assoc] at hfront
    obtain rfl := List.append_cancel_right hfront
    have hm' : MayFollow r.rest (more ++ rest') := hmore ▸ hm.append more
    have hr' := ho hr rfl hm'
    have hrun' := ih hmore.symm hm
    rw [← List.append_assoc] at hr'
    exact .more hop hr' hx hrun'
  | @abandon x token rest failure op r hop hr hx =>
    obtain ⟨read, rfl⟩ := hs hr
    rw [← List.cons_append] at hfront
    obtain rfl := List.append_cancel_right hfront
    exact .abandon hop (ho hr rfl hm) hx

theorem level_looksOneAhead (hs : operand.Shrinks) (ho : operand.LooksOneAhead) :
    (level rank operand).LooksOneAhead := by
  intro front tokens rest' failure last h hfront hm
  obtain ⟨first, hfirst, hrun⟩ := (level_ok_iff hs).1 h
  obtain ⟨more, hmore⟩ := hrun.suffix hs
  obtain ⟨read, rfl⟩ := hs hfirst
  rw [← hmore, ← List.append_assoc] at hfront
  obtain rfl := List.append_cancel_right hfront
  have hm' : MayFollow first.rest (more ++ rest') := hmore ▸ hm.append more
  have hfirst' := ho hfirst rfl hm'
  rw [← List.append_assoc] at hfirst'
  exact (level_ok_iff hs).2 ⟨_, hfirst', hrun.looksOneAhead hs ho hmore.symm hm⟩

/-- Of tokens of which there are some the rule reads at least one. -/
def Rule.Consumes (r : Rule) : Prop :=
  ∀ ⦃tokens failure step⦄, (r tokens failure).result = .ok step → tokens ≠ [] →
    step.rest.length < tokens.length

theorem level_consumes (hs : operand.Shrinks) (ho : operand.Consumes) :
    (level rank operand).Consumes := by
  intro tokens failure last h hn
  obtain ⟨first, hfirst, hrun⟩ := (level_ok_iff hs).1 h
  exact Nat.lt_of_le_of_lt (hrun.suffix hs).length_le (ho hfirst hn)

namespace Grammar

variable {g : Grammar} {inner : Rule}

theorem factor_looksOneAhead (hs : inner.Shrinks) (hi : inner.LooksOneAhead) :
    (g.factor inner).LooksOneAhead := by
  intro front tokens rest' failure step h hfront hm
  cases factor_ok_iff.1 h with
  | incomplete =>
    obtain ⟨rfl, -⟩ := List.append_eq_nil_iff.1 hfront.symm
    obtain rfl := hm.eq_nil
    rfl
  | number hx =>
    obtain rfl := eq_singleton_of_cons_eq hfront
    exact factor_ok_iff.2 (.number hx)
  | @closed rest tail f f' x hr =>
    obtain ⟨read, rfl⟩ := hs hr
    have hclose : ("(" : Text) :: (read ++ [(")" : Text)]) ++ tail = front ++ tail := by
      rw [← hfront, List.cons_append, List.append_assoc]
      rfl
    obtain rfl := List.append_cancel_right hclose
    have hr' := hi hr rfl (MayFollow.cons ")" tail rest')
    rw [List.cons_append, List.append_assoc]
    exact factor_ok_iff.2 (.closed hr')
  | @unclosed rest f r hr hc =>
    obtain ⟨read, rfl⟩ := hs hr
    rcases r with ⟨x, left, f'⟩
    cases left with
    | nil =>
      -- the end of the formula was met, and stays where it is
      obtain rfl := hm.eq_nil
      have hend : ("(" : Text) :: read = front := by simpa using hfront
      subst hend
      have hstep : g.FactorStep inner ("(" :: (read ++ [])) failure ⟨x, [], some .parentheses⟩ :=
        .unclosed hr hc
      exact factor_ok_iff.2 hstep
    | cons token tail =>
      -- the token is read in place of the closing parenthesis
      have htoken : ("(" : Text) :: (read ++ [token]) ++ tail = front ++ tail := by
        rw [List.tail_cons] at hfront
        rw [← hfront, List.cons_append, List.append_assoc]
        rfl
      obtain rfl := List.append_cancel_right htoken
      have hr' := hi hr rfl (MayFollow.cons token tail rest')
      rw [List.cons_append, List.append_assoc]
      exact factor_ok_iff.2 (.unclosed hr' hc)
  | label hl hr =>
    obtain rfl := eq_singleton_of_cons_eq hfront
    exact factor_ok_iff.2 (.label hl hr)
  | invalid hx ho hl =>
    obtain rfl := eq_singleton_of_cons_eq hfront
    exact factor_ok_iff.2 (.invalid hx ho hl)

theorem factor_consumes (hs : inner.Shrinks) : (g.factor inner).Consumes := by
  intro tokens failure step h hn
  cases factor_ok_iff.1 h with
  | incomplete => exact absurd rfl hn
  | closed hr =>
    have hle := (hs hr).length_le
    simp only [List.length_cons] at hle ⊢
    omega
  | @unclosed rest f r hr hc =>
    have hle := (hs hr).length_le
    simp only [List.length_cons, List.length_tail]
    omega
  | number _ => exact Nat.lt_succ_self _
  | label _ _ => exact Nat.lt_succ_self _
  | invalid _ _ _ => exact Nat.lt_succ_self _

end Grammar

/-- **The rule for expressions** looks at what it reads and at the next token. -/
theorem expressionOf_looksOneAhead (g : Nat → Grammar) (depth : Nat) :
    (expressionOf g depth).LooksOneAhead := by
  induction depth with
  | zero =>
    intro front tokens rest' failure step h
    exact absurd h Traced.halt_ne_ok
  | succ depth ih =>
    have hi : (expressionOf g depth).Shrinks := expressionOf_shrinks g depth
    have hf : ((g depth).factor (expressionOf g depth)).Shrinks := Grammar.factor_shrinks hi
    rw [expressionOf_eq]
    exact level_looksOneAhead (level_shrinks hf)
      (level_looksOneAhead hf (Grammar.factor_looksOneAhead hi ih))

theorem expressionOf_consumes (g : Nat → Grammar) (depth : Nat) :
    (expressionOf g depth).Consumes := by
  cases depth with
  | zero =>
    intro tokens failure step h
    exact absurd h Traced.halt_ne_ok
  | succ depth =>
    have hi : (expressionOf g depth).Shrinks := expressionOf_shrinks g depth
    have hf : ((g depth).factor (expressionOf g depth)).Shrinks := Grammar.factor_shrinks hi
    rw [expressionOf_eq]
    exact level_consumes (level_shrinks hf) (level_consumes hf (Grammar.factor_consumes hi))

/-! ## Evaluations -/

namespace Evaluator

variable {o : Options} {source : Source} {origin : Option Text} {tokens : List Text}
  {step : Step}

/-- What an evaluation returns whose rule has ended. -/
theorem outcome_of_step_iff (hn : tokens ≠ []) (hr : (run o source origin tokens).result = .ok step)
    {out : Outcome} : (evaluateTokens o source origin tokens).outcome = .ok out ↔
      out = ⟨step.value, Failure.codeOf step.verdict⟩ ∧
        ∀ g, step.verdict = some g → g.code.plainText?.isSome = true := by
  rw [evaluateTokens_of_step hn hr]
  constructor
  · intro h
    exact ⟨outcome_conclude rfl h, (conclude_returns_iff _ _ _ _).1 ⟨out, h⟩⟩
  · rintro ⟨rfl, hcode⟩
    obtain ⟨out, h⟩ := (conclude_returns_iff (readTo o tokens step) origin
      (run o source origin tokens).notes step.verdict).2 hcode
    rw [h, outcome_conclude rfl h]
    rfl

/-- What remains of an evaluation whose rule has ended is what the rule has left. -/
theorem remaining_of_step (hn : tokens ≠ []) (hr : (run o source origin tokens).result = .ok step) :
    (evaluateTokens o source origin tokens).evaluator.remaining = step.rest.length := by
  rw [remaining, tokens_evaluateTokens, ← drop_position_of_step hn hr, List.length_drop]

/-- The evaluation of tokens fails for no other reason than that some of them are left over. -/
def FailsForRest (o : Options) (source : Source) (origin : Option Text) (tokens : List Text) :
    Prop :=
  ∃ step, (run o source origin tokens).result = .ok step ∧ step.failure = none ∧ step.rest ≠ []

/-- A rule that has not ended was given up, and the evaluation does not return unless it was cut. -/
theorem exists_step_of_outcome (hn : tokens ≠ []) {out : Outcome}
    (h : (evaluateTokens o source origin tokens).outcome = .ok out)
    (hd : ¬ (run o source origin tokens).IsCut) :
    ∃ step, (run o source origin tokens).result = .ok step := by
  cases hr : (run o source origin tokens).result with
  | ok step => exact ⟨step, rfl⟩
  | error halt =>
    cases halt with
    | cut c => exact absurd ⟨c, hr⟩ hd
    | fault f =>
      rw [evaluateTokens_of_fault hn hr] at h
      cases h

section Cut

variable {front rest rest' : List Text} {x : Float} {failure : Option Failure}
  (hr : (run o source origin (front ++ rest)).result = .ok ⟨x, rest, failure⟩)

include hr

/-- The same is read in front of whatever may follow. -/
theorem run_of_mayFollow (hm : MayFollow rest rest') :
    (run o source origin (front ++ rest')).result = .ok ⟨x, rest', failure⟩ :=
  expressionOf_looksOneAhead _ _ hr rfl hm

theorem run_of_cut : (run o source origin front).result = .ok ⟨x, [], failure⟩ := by
  have hcut := run_of_mayFollow hr (.inl rfl)
  rwa [List.append_nil] at hcut

theorem length_pos_of_run (hn : front ++ rest ≠ []) : 1 ≤ front.length := by
  have hlt : rest.length < (front ++ rest).length :=
    expressionOf_consumes _ _ hr hn
  rw [List.length_append] at hlt
  omega

end Cut

/-- The tokens left over are the failure if there is no other. -/
theorem verdict_of_rest {x : Float} {rest : List Text} (hrest : rest ≠ []) :
    (⟨x, rest, none⟩ : Step).verdict = some .invalid := by
  rw [Step.verdict, Option.none_or, if_neg (by simpa using hrest)]

/-- To cut the tokens left over makes no difference if there are none, or another failure. -/
theorem verdict_of_cut {x : Float} {rest : List Text} {failure : Option Failure}
    (h : failure = none → rest = []) :
    (⟨x, [], failure⟩ : Step).verdict = (⟨x, rest, failure⟩ : Step).verdict := by
  cases failure with
  | some g => rfl
  | none => rw [h rfl]

end Evaluator

open Evaluator in
/-- **An evaluation is that of the tokens that are read.** Let an evaluation of some tokens return,
without having been cut. Then at least one token was read. Cut behind those
that were read, the tokens are read to their end and have the same value; they have the same error,
or none if the evaluation has failed for nothing but the tokens left over. And if tokens were left
over, then whatever has the same tokens up to the first of these has the same value and the same
error, and the same tokens of it are read. -/
theorem evaluate_of_take {e : Evaluator} {source : Source} {origin : Option Text}
    {tokens : List Text} (hn : tokens ≠ []) {out : Outcome}
    (h : (e.evaluate source origin (.list (tokens.map .str))).outcome = .ok out)
    (hd : ¬ (run e.options source origin tokens).IsCut) :
    let done tokens := e.evaluate source origin (.list (tokens.map .str))
    let count := tokens.length - (done tokens).evaluator.remaining
    1 ≤ count ∧
    (done (tokens.take count)).evaluator.remaining = 0 ∧
    (FailsForRest e.options source origin tokens → out.error = .str "#ERR!" ∧
      (done (tokens.take count)).outcome = .ok ⟨out.value, .str ""⟩) ∧
    (¬ FailsForRest e.options source origin tokens →
      (done (tokens.take count)).outcome = .ok out) ∧
    (count < tokens.length → ∀ others : List Text,
      others.take (count + 1) = tokens.take (count + 1) →
      (done others).outcome = .ok out ∧
        others.length - (done others).evaluator.remaining = count) := by
  simp only [evaluate_texts] at h ⊢
  obtain ⟨⟨x, rest, failure⟩, hr⟩ := exists_step_of_outcome hn h hd
  obtain ⟨rfl, hcode⟩ := (outcome_of_step_iff hn hr).1 h
  -- the tokens are those that were read, and those that are left over
  obtain ⟨front, hfront⟩ := Setting.run_shrinks hr
  dsimp only at hfront hcode ⊢
  subst hfront
  have hcount : (front ++ rest).length - rest.length = front.length := by
    rw [List.length_append, Nat.add_sub_cancel]
  have hpos := length_pos_of_run hr hn
  have hfront : front ≠ [] := List.ne_nil_of_length_pos hpos
  have hcut := run_of_cut hr
  rw [remaining_of_step hn hr, hcount, List.take_left' rfl]
  refine ⟨hpos, remaining_of_step hfront hcut, ?_, ?_, ?_⟩
  · rintro ⟨step, hr', hnone, hrest⟩
    cases hr.symm.trans hr'
    obtain rfl : failure = none := hnone
    rw [verdict_of_rest hrest]
    refine ⟨rfl, (outcome_of_step_iff hfront hcut).2 ⟨rfl, fun g hg => ?_⟩⟩
    cases hg
  · intro hnot
    have hverdict : (⟨x, [], failure⟩ : Step).verdict = (⟨x, rest, failure⟩ : Step).verdict :=
      verdict_of_cut fun hnone => by_contra fun hrest => hnot ⟨_, hr, hnone, hrest⟩
    refine (outcome_of_step_iff hfront hcut).2 ⟨by rw [hverdict], ?_⟩
    rw [hverdict]
    exact hcode
  · intro hlt others hothers
    have hrest : rest ≠ [] := by
      rintro rfl
      simp at hlt
    obtain ⟨token, tail, tail', rfl, rfl⟩ := exists_cons_of_take hrest hothers
    have hother := run_of_mayFollow hr (MayFollow.cons token tail tail')
    have hne : front ++ token :: tail' ≠ [] := by simp
    refine ⟨(outcome_of_step_iff hne hother).2 ⟨rfl, hcode⟩, ?_⟩
    rw [remaining_of_step hne hother, List.length_append, Nat.add_sub_cancel]

/-- A parenthesis that is closed by the wrong token, with a sum behind it and a token left over. -/
theorem evaluate_of_take_unclosed :
    let done tokens := (Evaluator.ofOptions .standard).evaluate Sheet.sevenInA1.source none
      (.list ((tokens : List Text).map .str))
    (done ["(", "A1", "A1", "+", "A1", ")"]).outcome = .ok ⟨7.0 + 7.0, .str "#PAREN!"⟩ ∧
      (done ["(", "A1", "A1", "+", "A1"]).outcome = .ok ⟨7.0 + 7.0, .str "#PAREN!"⟩ ∧
      (done ["(", "A1", "A1", "+", "A1", ")", "*", "("]).outcome =
        .ok ⟨7.0 + 7.0, .str "#PAREN!"⟩ := by
  have hr : (Evaluator.run .standard Sheet.sevenInA1.source none
      [("(" : Text), "A1", "A1", "+", "A1", ")"]).result =
        .ok ⟨7.0 + 7.0, [")"], some .parentheses⟩ := rfl
  have hn : [("(" : Text), "A1", "A1", "+", "A1", ")"] ≠ [] := List.cons_ne_nil _ _
  have h : ((Evaluator.ofOptions .standard).evaluate Sheet.sevenInA1.source none
      (.list ([("(" : Text), "A1", "A1", "+", "A1", ")"].map .str))).outcome =
        .ok ⟨7.0 + 7.0, .str "#PAREN!"⟩ := by
    rw [Evaluator.evaluate_texts]
    refine (Evaluator.outcome_of_step_iff hn hr).2 ⟨rfl, fun g hg => ?_⟩
    cases hg
    rfl
  have hrest : ¬ Evaluator.FailsForRest .standard Sheet.sevenInA1.source none
      ["(", "A1", "A1", "+", "A1", ")"] := by
    rintro ⟨step, hr', hf, -⟩
    cases hr.symm.trans hr'
    cases hf
  have hremaining : ((Evaluator.ofOptions .standard).evaluate Sheet.sevenInA1.source none
      (.list ([("(" : Text), "A1", "A1", "+", "A1", ")"].map .str))).evaluator.remaining = 1 := by
    rw [Evaluator.evaluate_texts]
    exact Evaluator.remaining_of_step hn hr
  have hd : ¬ (Evaluator.run .standard Sheet.sevenInA1.source none
      [("(" : Text), "A1", "A1", "+", "A1", ")"]).IsCut := Traced.not_isCut_of_ok hr
  obtain ⟨-, -, -, hcut, hothers⟩ :=
    evaluate_of_take (e := Evaluator.ofOptions .standard) hn h hd
  rw [hremaining] at hcut hothers
  exact ⟨h, hcut hrest, (hothers (by decide) _ rfl).1⟩

end FormulaSheet
