import FormulaSheet.Proofs.Formula.Chain

/-!
# Evaluations side by side

What an evaluation comes to depends on what its references yield, and on nothing else about the
cells. Two evaluations of the same tokens go through the tokens in step for as long as their
references yield the same.

A relation between results with their records that is kept when one thing is done after the other
(`Traced.Relates`) therefore holds of two evaluations as soon as it holds of their references.
Taken for equality it says that an evaluation is local; taken for a property of one side, that the
property is one of every evaluation.

* `expressionOf_related`: what is related in the references is related in the evaluations;
* `expressionOf_related_add`: the same for evaluations one of which has room for more nesting.
-/

namespace FormulaSheet

namespace Traced

/-- A relation between results with their records that holds where nothing was done for the same
result, and that is kept when one thing is done after the other. -/
structure Relates (R : ∀ {α : Type}, Traced α → Traced α → Prop) : Prop where
  pure : ∀ {α : Type} (a : α), R (pure a : Traced α) (pure a)
  bind : ∀ {α β : Type} {t t' : Traced α} {f f' : α → Traced β}, R t t' →
    (∀ a, t.result = .ok a → R (f a) (f' a)) → R (t >>= f) (t' >>= f')

end Traced

open Traced

/-! ## Rules that are related -/

section Rules

variable {R : ∀ {α : Type}, Traced α → Traced α → Prop} {all : List Text}

/-- Whatever part of the tokens the two rules start from, what they do is related. -/
def Rule.RelatedFrom (R : ∀ {α : Type}, Traced α → Traced α → Prop) (all : List Text)
    (r r' : Rule) : Prop :=
  ∀ ⦃tokens⦄, tokens <:+ all → ∀ failure, R (r tokens failure) (r' tokens failure)

variable {rank : Rank} {operand operand' : Rule}

theorem chain_related (hR : Relates @R) (hs : operand.Shrinks)
    (ho : Rule.RelatedFrom @R all operand operand') (n : Nat) {step : Step}
    (hsuffix : step.rest <:+ all) :
    R (chain rank operand n step) (chain rank operand' n step) := by
  induction n generalizing step with
  | zero => exact hR.pure step
  | succ n ih =>
    rcases step with ⟨x, tokens, failure⟩
    cases tokens with
    | nil => exact hR.pure _
    | cons token rest =>
      cases hop : rank.operator? token with
      | none =>
        simp only [chain, hop]
        exact hR.pure _
      | some op =>
        have hrest : rest <:+ all := (List.suffix_cons _ _).trans hsuffix
        rw [chain_of_operator hop, chain_of_operator hop]
        refine hR.bind (ho hrest failure) fun r hr => ?_
        split
        · exact ih ((hs hr).trans hrest)
        · exact hR.pure _

theorem level_related (rank : Rank) (hR : Relates @R) (hs : operand.Shrinks)
    (ho : Rule.RelatedFrom @R all operand operand') :
    Rule.RelatedFrom @R all (level rank operand) (level rank operand') := by
  intro tokens hsuffix failure
  refine hR.bind (ho hsuffix failure) fun first hr => ?_
  exact chain_related hR hs ho _ ((hs hr).trans hsuffix)

/-- Two grammars in which the same counts as a number and as a label, and whose references to the
labels among the tokens are related. -/
structure Grammar.Related (R : ∀ {α : Type}, Traced α → Traced α → Prop) (all : List Text)
    (g g' : Grammar) : Prop where
  labels : g'.labels = g.labels
  blankIsZero : g'.blankIsZero = g.blankIsZero
  reference : ∀ label ∈ all, g.labels.holds label = true →
    R (g.reference label) (g'.reference label)

theorem Grammar.Related.factor (hR : Relates @R) {g g' : Grammar} (h : g.Related @R all g')
    {inner inner' : Rule} (hi : Rule.RelatedFrom @R all inner inner') :
    Rule.RelatedFrom @R all (g.factor inner) (g'.factor inner') := by
  intro tokens hsuffix failure
  cases tokens with
  | nil => exact hR.pure _
  | cons token rest =>
    rw [Grammar.factor, Grammar.factor, h.labels, h.blankIsZero]
    cases Token.number? g.blankIsZero token with
    | some x => exact hR.pure _
    | none =>
      dsimp only
      split
      · refine hR.bind (hi ((List.suffix_cons _ _).trans hsuffix) failure) fun r _ => ?_
        split <;> exact hR.pure _
      · split
        · rename_i hl
          exact hR.bind (h.reference token (hsuffix.subset List.mem_cons_self) hl) fun _ _ =>
            hR.pure _
        · exact hR.pure _

/-- The rules for expressions are related at every depth, if they are at the one that nothing is
nested in, and what they depend on is. One of them may be nested deeper than the other. -/
theorem expressionOf_related_add (hR : Relates @R) (g g' : Nat → Grammar) (base : Nat)
    (hbase : Rule.RelatedFrom @R all (expressionOf g 0) (expressionOf g' base))
    (hg : ∀ depth, (g depth).Related @R all (g' (base + depth))) (depth : Nat) :
    Rule.RelatedFrom @R all (expressionOf g depth) (expressionOf g' (base + depth)) := by
  induction depth with
  | zero => exact hbase
  | succ depth ih =>
    have hs : ((g depth).factor (expressionOf g depth)).Shrinks :=
      Grammar.factor_shrinks (expressionOf_shrinks g depth)
    rw [expressionOf_eq, ← Nat.add_assoc, expressionOf_eq]
    exact level_related .sum hR (level_shrinks hs)
      (level_related .product hR hs ((hg depth).factor hR ih))

/-- **What is related in the references** of a formula is related in its evaluations. -/
theorem expressionOf_related (hR : Relates @R)
    (hcut : R (halt (.cut .reading) : Traced Step) (halt (.cut .reading))) {g g' : Nat → Grammar}
    (hg : ∀ depth, (g depth).Related @R all (g' depth)) (depth : Nat) :
    Rule.RelatedFrom @R all (expressionOf g depth) (expressionOf g' depth) := by
  have h := expressionOf_related_add hR g g' 0 (fun _ _ _ => hcut)
    (fun depth => by rw [Nat.zero_add]; exact hg depth) depth
  rwa [Nat.zero_add] at h

end Rules

end FormulaSheet
