import FormulaSheet.Formula.Evaluation

/-!
# Evaluators

An evaluator evaluates one formula after the other and remembers the last one: its value, its
failure and how far it was read. The options say what counts as a number and as a label, and whether
circular references are looked for; they are looked for only where the cell of the formula is known.

`Evaluator.evaluate` gives the outcome together with the evaluator afterwards and everything that an
observer can see: the notices for the event log, and the labels that were looked up. Nothing of the
evaluator before the call enters into it but the options.

* `evaluate_reset`: an evaluation after a reset is the same.
-/

namespace FormulaSheet

/-- The options of an evaluator, and the stack that it is called on. -/
structure Options where
  /-- whether a blank token is the number zero -/
  blankIsZero : Bool
  /-- whether circular references are looked for -/
  checkCycles : Bool
  /-- what counts as a label -/
  labels : LabelClass
  /-- the calls that there is room for in an evaluation -/
  stack : Stack

/-- The options where nothing is said about them. -/
def Options.standard : Options :=
  ⟨false, true, .pattern, .standard⟩

/-- Something that the event log is to know about an evaluation. -/
inductive Notice where
  /-- a reference leads back to the cell of the formula -/
  | circular (origin label : Text)
  /-- a formula has no value: its tokens, its cell, how many tokens were read, and the error, as it
  is told and by its code -/
  | failed (tokens : List Text) (origin : Option Text) (position : Nat) (error code : Text)
  deriving DecidableEq, Repr

/-- An evaluator, after the last formula that it evaluated. -/
structure Evaluator where
  /-- its options -/
  options : Options
  /-- the tokens of the last formula -/
  tokens : List Text
  /-- how many of them were read -/
  position : Nat
  /-- the value calculated for it -/
  result : Float
  /-- why the value cannot be trusted -/
  failure : Option Failure

/-- What an evaluation gives: a value and the code of its error. -/
structure Outcome where
  /-- the value -/
  value : Float
  /-- the code of the error; empty if there is none -/
  error : Value

/-- Whether the value can be trusted. -/
def Outcome.ok (o : Outcome) : Bool :=
  match o.error with
  | .str s => s == ""
  | _ => false

/-- An evaluation, with all that can be seen of it. -/
structure Evaluated where
  /-- the evaluator afterwards -/
  evaluator : Evaluator
  /-- what the event log is to know, in order -/
  notices : List Notice
  /-- the labels that were looked up, in order -/
  lookups : List Text
  /-- the outcome, unless something failed -/
  outcome : Except Fault Outcome

namespace Evaluator

/-- An evaluator that has evaluated nothing. -/
def ofOptions (options : Options) : Evaluator :=
  ⟨options, [], 0, 0.0, none⟩

/-- The evaluator with what it remembers forgotten. -/
def reset (e : Evaluator) : Evaluator :=
  ofOptions e.options

/-- The code of the error of the last formula. -/
def error (e : Evaluator) : Value :=
  Failure.codeOf e.failure

/-- Whether the last formula failed. -/
def errorOccurred (e : Evaluator) : Bool :=
  e.failure.isSome

/-- How many tokens of the last formula were not read. -/
def remaining (e : Evaluator) : Nat :=
  e.tokens.length - e.position

/-- The outcome of the last formula. -/
def outcome (e : Evaluator) : Outcome :=
  ⟨e.result, e.error⟩

/-- The labels that were looked up according to a record. -/
def lookupsOf (notes : List Note) : List Text :=
  notes.filterMap fun n => match n with
    | .lookup label => some label
    | .circular _ _ => none

/-- The notices that a record gives rise to. -/
def noticesOf (notes : List Note) : List Notice :=
  notes.filterMap fun n => match n with
    | .lookup _ => none
    | .circular origin label => some (.circular origin label)

/-- The tokens of a formula: the texts of its elements. -/
def tokensOf (formula : Value) : Except Fault (List Text) := do
  (← formula.elements).mapM Value.text

/-- Ends an evaluation with a failure. An error that neither is a text nor holds one in its octets
cannot be recorded, and one that cannot be written cannot even be told. -/
def fail (e : Evaluator) (origin : Option Text) (notes : List Note) (failure : Failure) :
    Evaluated :=
  let e := { e with failure := some failure }
  let notices := noticesOf notes
  let lookups := lookupsOf notes
  match failure.code.text, failure.code.plainText? with
  | .ok error, some code =>
    ⟨e, notices ++ [.failed e.tokens origin e.position error code], lookups, .ok e.outcome⟩
  | .ok _, none => ⟨e, notices, lookups, .error .invalidEvent⟩
  | .error f, _ => ⟨e, notices, lookups, .error f⟩

/-- What an evaluation of the evaluator depends on besides the tokens. -/
def setting (o : Options) (source : Source) (origin : Option Text) : Setting :=
  ⟨source, o.labels, o.blankIsZero, if o.checkCycles then origin else none, o.stack⟩

/-- Evaluates tokens. Tokens that are left over make the formula invalid, and so does an evaluation
that is cut. -/
def evaluateTokens (options : Options) (source : Source) (origin : Option Text)
    (tokens : List Text) : Evaluated :=
  let e : Evaluator := ⟨options, tokens, 0, 0.0, none⟩
  if tokens.isEmpty then e.fail origin [] .empty
  else
    let t := (setting options source origin).run tokens
    match t.result with
    | .error (.fault f) => ⟨e, noticesOf t.notes, lookupsOf t.notes, .error f⟩
    | .error (.cut _) => e.fail origin t.notes .invalid
    | .ok step =>
      let e := { e with position := tokens.length - step.rest.length, result := step.value }
      match step.failure with
      | some failure => e.fail origin t.notes failure
      | none =>
        if step.rest.isEmpty then ⟨e, noticesOf t.notes, lookupsOf t.notes, .ok e.outcome⟩
        else e.fail origin t.notes .invalid

/-- Evaluates a formula. -/
def evaluate (e : Evaluator) (source : Source) (origin : Option Text) (formula : Value) :
    Evaluated :=
  match tokensOf formula with
  | .error f => ⟨e.reset, [], [], .error f⟩
  | .ok tokens => evaluateTokens e.options source origin tokens

theorem evaluate_reset (e : Evaluator) (source : Source) (origin : Option Text)
    (formula : Value) : e.reset.evaluate source origin formula = e.evaluate source origin formula :=
  rfl

end Evaluator

end FormulaSheet
