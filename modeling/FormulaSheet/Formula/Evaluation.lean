import FormulaSheet.Formula.Reach
import FormulaSheet.Formula.Stack
import FormulaSheet.Formula.Token

/-!
# Evaluation of formulas

The tokens of a formula follow the grammar

    expression := term { ("+" | "-") term }
    term       := factor { ("*" | "/") factor }
    factor     := number | "(" expression ")" | label

and are evaluated while they are read, from left to right. A failure does not stop the reading: what
follows is read and calculated with all the same, and a later failure takes the place of an earlier
one. Only a division by zero gives up the rest of its term.

Each grammar rule takes the tokens from its place on and the failure so far, and gives the value,
the tokens behind it and the failure then. A rule is built from the rule for its parts; the rule for
expressions, which contains itself in parentheses, is built up by the depth of the nesting. The
deeper it is nested, the less room there is for the calls that follow a reference, so what a
reference comes to depends on the depth.

* `expressionOf_succ` unfolds the rule for expressions by one level of nesting.
-/

namespace FormulaSheet

/-- Where a grammar rule ends. -/
structure Step where
  /-- the value up to here -/
  value : Float
  /-- the tokens that are left -/
  rest : List Text
  /-- the failure up to here -/
  failure : Option Failure

/-- A grammar rule: from the tokens and the failure so far. -/
abbrev Rule : Type :=
  List Text → Option Failure → Traced Step

/-- The value of a term that divides by zero. -/
def infinity : Float :=
  Binary64.nearest false (Nat.pow 2 1024) 1

/-! ## The rules -/

/-- What the rules depend on. -/
structure Grammar where
  /-- what counts as a label -/
  labels : LabelClass
  /-- whether a blank token is the number zero -/
  blankIsZero : Bool
  /-- what a reference to a label yields -/
  reference : Text → Traced (Float × Option Failure)

/-- The rule for factors, given the rule for what stands in parentheses. A token that should close a
parenthesis and does not is passed over. -/
def Grammar.factor (g : Grammar) (inner : Rule) : Rule := fun tokens failure =>
  match tokens with
  | [] => pure ⟨0.0, [], some .incomplete⟩
  | token :: rest =>
    match Token.number? g.blankIsZero token with
    | some x => pure ⟨x, rest, failure⟩
    | none =>
      if token = "(" then do
        let step ← inner rest failure
        if step.rest.head? = some (")" : Text) then pure ⟨step.value, step.rest.tail, step.failure⟩
        else pure ⟨step.value, step.rest.tail, some .parentheses⟩
      else if g.labels.holds token then do
        let (x, f) ← g.reference token
        pure ⟨x, rest, f.or failure⟩
      else pure ⟨0.0, rest, some .invalid⟩

/-- Goes on with a term behind its first factor, for at most the given number of operators. -/
def products (factor : Rule) : Nat → Step → Traced Step
  | 0, step => pure step
  | n + 1, step =>
    match step.rest with
    | [] => pure step
    | op :: rest =>
      if op = "*" then do
        let r ← factor rest step.failure
        products factor n ⟨step.value * r.value, r.rest, r.failure⟩
      else if op = "/" then do
        let r ← factor rest step.failure
        if r.value == 0 then pure ⟨infinity, r.rest, some .divisionByZero⟩
        else products factor n ⟨step.value / r.value, r.rest, r.failure⟩
      else pure step

/-- The rule for terms, given the rule for factors. -/
def term (factor : Rule) : Rule := fun tokens failure => do
  let step ← factor tokens failure
  products factor step.rest.length step

/-- Goes on with an expression behind its first term, for at most the given number of operators. -/
def sums (term : Rule) : Nat → Step → Traced Step
  | 0, step => pure step
  | n + 1, step =>
    match step.rest with
    | [] => pure step
    | op :: rest =>
      if op = "+" then do
        let r ← term rest step.failure
        sums term n ⟨step.value + r.value, r.rest, r.failure⟩
      else if op = "-" then do
        let r ← term rest step.failure
        sums term n ⟨step.value - r.value, r.rest, r.failure⟩
      else pure step

/-- The rule for a sum of terms, given the rule for terms. -/
def sum (term : Rule) : Rule := fun tokens failure => do
  let step ← term tokens failure
  sums term step.rest.length step

/-- The rule for expressions, for nesting up to the given depth. What the rules depend on is given
for each depth that is left. -/
def expressionOf (g : Nat → Grammar) : Nat → Rule
  | 0 => fun _ _ => Traced.halt (.cut .reading)
  | depth + 1 => sum (term ((g depth).factor (expressionOf g depth)))

theorem expressionOf_succ (g : Nat → Grammar) (depth : Nat) :
    expressionOf g (depth + 1) = sum (term ((g depth).factor (expressionOf g depth))) :=
  rfl

/-! ## References -/

/-- What an evaluation depends on besides the tokens. -/
structure Setting where
  /-- where references lead -/
  source : Source
  /-- what counts as a label -/
  labels : LabelClass
  /-- whether a blank token is the number zero -/
  blankIsZero : Bool
  /-- the cell that no reference may lead back to, if there is one -/
  guarded : Option Text
  /-- the calls that there is room for -/
  stack : Stack

namespace Setting

variable (s : Setting)

/-- Whether a reference to the label leads back to the guarded cell. -/
def isCircular (label : Text) : Traced Bool :=
  match s.guarded with
  | none => pure false
  | some origin =>
    if label = origin then pure true else s.source.reaches s.labels origin [] [label]

/-- The content at a label, if the label is not refused. -/
def fetch (label : Text) : Traced (Option Content) :=
  Traced.noting (.lookup label) <|
    match s.source.lookup label with
    | .ok c => pure (some c)
    | .error f => if f.isFormulaFault then pure none else Traced.halt (.fault f)

/-- Whether there is room for something on the way along references: a label is looked up there,
and its tokens are looked at, beneath the call of the reference and the call of the walk. -/
def fitsWalk (room : Nat) : Note → Bool
  | .lookup label => 2 + max (s.source.frames label) s.stack.look ≤ room
  | .circular _ _ => true

/-- What a reference to the label yields, with so much room beneath the factor. Where a reference
leads back, the event log is told before anything is yielded. -/
def referenceIn (room : Nat) (label : Text) : Traced (Float × Option Failure) := do
  if ← (s.isCircular label).within (s.fitsWalk room) then
    if 1 + s.stack.warning ≤ room then
      Traced.noting (.circular (s.guarded.getD "") label) (pure (0.0, some .circular))
    else Traced.halt (.cut .telling)
  else if 1 + s.source.frames label ≤ room then
    match ← s.fetch label with
    | none => pure (0.0, some .reference)
    | some c => Traced.ofExcept c.reading
  else Traced.halt (.cut .reading)

/-- What the rules depend on, where so many expressions may still be nested. -/
def grammarIn (depth : Nat) : Grammar :=
  ⟨s.labels, s.blankIsZero, s.referenceIn (s.stack.room depth)⟩

/-- The rule for expressions, for nesting up to the given depth. -/
def expressionIn : Nat → Rule :=
  expressionOf s.grammarIn

/-- Reads tokens as an expression, with nesting as deep as there is room for. -/
def run (tokens : List Text) : Traced Step :=
  s.expressionIn s.stack.levels tokens none

end Setting

end FormulaSheet
