import FormulaSheet.Formula.Evaluation

/-!
# Evaluations on a stack without a bound

With room for every call, what a reference yields does not depend on how deep it is nested: it is
checked for leading back, looked up and read. These are the rules that most of the theory is about.
Those that an evaluation follows are theirs, unless they are cut.
-/

namespace FormulaSheet.Setting

variable (s : Setting)

/-- What a reference to the label yields, where there is room for what it calls. -/
def reference (label : Text) : Traced (Float × Option Failure) := do
  if ← s.isCircular label then
    Traced.noting (.circular (s.guarded.getD "") label) (pure (0.0, some .circular))
  else
    match ← s.fetch label with
    | none => pure (0.0, some .reference)
    | some c => Traced.ofExcept c.reading

/-- What the rules depend on, where there is room for every call. -/
abbrev grammar : Grammar :=
  ⟨s.labels, s.blankIsZero, s.reference⟩

/-- The rule for factors, given the rule for what stands in parentheses. -/
abbrev factor (inner : Rule) : Rule :=
  s.grammar.factor inner

/-- The rule for expressions, for nesting up to the given depth. -/
def expression : Nat → Rule :=
  expressionOf fun _ => s.grammar

end FormulaSheet.Setting
