import FormulaSheet.Formula.Evaluator
import FormulaSheet.Proofs.Formula.Parallel
import FormulaSheet.Proofs.Formula.Walk

/-!
# Evaluation is local

Of the cells in a source an evaluation sees no more than its references do: the contents at the
labels among its tokens, and, where circular references are looked for, the formulas behind them. So
two sources that agree on this much, and take as many calls to look up a label, give the same
evaluation, with the same record and whatever the evaluation comes to.

* `Setting.SeesSame.run_eq`: evaluations are the same in two settings whose references agree;
* `Setting.referenceIn_eq`: references agree if formulas do and the contents at the label are the
  same;
* `Evaluator.evaluateTokens_eq`: evaluators conclude the same.
-/

namespace FormulaSheet

theorem Traced.bind_congr {α β : Type} {t : Traced α} {f g : α → Traced β}
    (h : ∀ a, t.result = .ok a → f a = g a) : (t >>= f) = (t >>= g) := by
  rcases t with ⟨notes, result⟩
  cases result with
  | error halt => rfl
  | ok a => rw [bind_ok, bind_ok, h a rfl]

/-! ## Rules that agree -/

namespace Setting

/-- Two settings on stacks of the same size, in which the same counts as a number and as a label,
and in which the labels among the tokens yield the same. -/
structure SeesSame (s s' : Setting) (tokens : List Text) : Prop where
  labels : s.labels = s'.labels
  blankIsZero : s.blankIsZero = s'.blankIsZero
  stack : s.stack = s'.stack
  reference : ∀ room, ∀ token ∈ tokens, s.labels.holds token = true →
    s.referenceIn room token = s'.referenceIn room token

variable {s s' : Setting} {tokens : List Text}

/-- **Evaluations** are the same in both settings. -/
theorem SeesSame.run_eq (h : s.SeesSame s' tokens) : s.run tokens = s'.run tokens := by
  have hR : Traced.Relates fun {_} t t' => t = t' :=
    ⟨fun _ => rfl, fun {_ _ _ _ _ _} ht hf => ht ▸ Traced.bind_congr hf⟩
  have hg (depth : Nat) : (s.grammarIn depth).Related (fun {_} t t' => t = t') tokens
      (s'.grammarIn depth) := by
    refine ⟨h.labels.symm, h.blankIsZero.symm, fun label hm hl => ?_⟩
    rw [grammarIn, grammarIn, ← h.stack]
    exact h.reference _ label hm hl
  rw [run, run, ← h.stack]
  exact expressionOf_related hR rfl hg s.stack.levels (List.suffix_refl tokens) none

/-! ## References that agree -/

/-- **References agree** if the formulas behind them are the same and they see the same content. -/
theorem referenceIn_eq (hs : s.source.SameFormulas s'.source) (hl : s.labels = s'.labels)
    (hg : s.guarded = s'.guarded) (hstack : s.stack = s'.stack)
    (hframes : s.source.frames = s'.source.frames) {label : Text}
    (h : s.source.lookup label = s'.source.lookup label) (room : Nat) :
    s.referenceIn room label = s'.referenceIn room label := by
  have hc : s.isCircular label = s'.isCircular label := by
    rw [isCircular, isCircular, hg]
    cases s'.guarded with
    | none => rfl
    | some origin => simp only [hl, hs.reaches_eq]
  have hfits : s.fitsWalk room = s'.fitsWalk room := by
    funext n
    simp only [fitsWalk, hframes, hstack]
  have hf : s.fetch label = s'.fetch label := by
    rw [fetch, fetch, h]
  simp only [referenceIn, hc, hfits, hf, hg, hframes, hstack]

end Setting

/-! ## Evaluations that agree -/

/-- **Evaluators conclude the same** from what they see. -/
theorem Evaluator.evaluateTokens_eq {o : Options} {source source' : Source}
    {origin : Option Text} {tokens : List Text}
    (h : (setting o source origin).SeesSame (setting o source' origin) tokens) :
    evaluateTokens o source origin tokens = evaluateTokens o source' origin tokens := by
  rw [evaluateTokens, evaluateTokens, h.run_eq]

end FormulaSheet
