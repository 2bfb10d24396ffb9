import FormulaSheet.Proofs.Formula.Outcome

/-!
# Grammar rules as programs

A grammar rule takes the failure so far and gives the failure then, and what it has done comes with
its result. The same rules can be read as programs, which find failures and follow references where
they come to them. What it means to find a failure or to follow a reference is then up to the monad
in which the programs run (`Effects`): they may be collected, or the event log may be told at once.

Whatever relation there is between a rule and the program that stands for it needs to be looked at
where nothing is done, where one failure is found, where one reference is followed, and where one
thing is done after the other (`Realizes`). It then holds of all the rules, at every depth.

* `Realizes.chain`, `Realizes.level`, `Realizes.factor`: the programs of the parts of the grammar
  stand for their rules;
* `Realizes.expression`: so does the program for expressions.
-/

namespace FormulaSheet

/-- A program for a grammar rule: from the tokens, to the value and the tokens that are left. -/
abbrev Program (M : Type → Type) : Type :=
  List Text → M (Float × List Text)

/-- What the programs for the grammar rules depend on, and what they can do. -/
structure Effects (M : Type → Type) where
  /-- what counts as a label -/
  labels : LabelClass
  /-- whether a blank token is the number zero -/
  blankIsZero : Bool
  /-- finds a failure -/
  fail : Failure → M Unit
  /-- follows a reference to its value, where so many expressions may still be nested -/
  reference : Nat → Text → M Float
  /-- gives up, because there is no room for one more expression -/
  cut : M (Float × List Text)

namespace Effects

variable {M : Type → Type} [Monad M] (fx : Effects M)

/-- The program for factors, given that for what stands in parentheses. -/
def factor (depth : Nat) (inner : Program M) : Program M
  | [] => do
    fx.fail .incomplete
    pure (0.0, [])
  | token :: rest =>
    match Token.number? fx.blankIsZero token with
    | some x => pure (x, rest)
    | none =>
      if token = "(" then do
        let (x, left) ← inner rest
        if left.head? = some (")" : Text) then pure (x, left.tail)
        else do
          fx.fail .parentheses
          pure (x, left.tail)
      else if fx.labels.holds token then do
        let x ← fx.reference depth token
        pure (x, rest)
      else do
        fx.fail .invalid
        pure (0.0, rest)

/-- Goes on with a chain behind its first operand, for at most the given number of operators. -/
def chain (rank : Rank) (operand : Program M) : Nat → Float → Program M
  | 0, x, tokens => pure (x, tokens)
  | _ + 1, x, [] => pure (x, [])
  | n + 1, x, token :: rest =>
    match rank.operator? token with
    | none => pure (x, token :: rest)
    | some op => do
      let (y, left) ← operand rest
      match op.combine? x y with
      | some z => chain rank operand n z left
      | none => do
        fx.fail .divisionByZero
        pure (infinity, left)

/-- The program for a chain, given that for its operands. -/
def level (rank : Rank) (operand : Program M) : Program M := fun tokens => do
  let (x, left) ← operand tokens
  fx.chain rank operand left.length x left

/-- The program for expressions, for nesting up to the given depth. -/
def expression : Nat → Program M
  | 0 => fun _ => fx.cut
  | depth + 1 => fx.level .sum (fx.level .product (fx.factor depth (expression depth)))

end Effects

variable {M : Type → Type} [Monad M]

/-- A relation between what a rule does, as it depends on the failure in front of it, and what a
program does. It holds where neither does anything, where a failure is found, where a reference is
followed and where both give up, and it is kept when one thing is done after the other. -/
structure Realizes (g : Nat → Grammar) (fx : Effects M)
    (R : (Option Failure → Traced Step) → M (Float × List Text) → Prop) : Prop where
  labels : ∀ depth, (g depth).labels = fx.labels
  blankIsZero : ∀ depth, (g depth).blankIsZero = fx.blankIsZero
  pure : ∀ x rest, R (fun f => pure ⟨x, rest, f⟩) (pure (x, rest))
  fail : HoldsOfRules fun failure => ∀ x rest, R (fun _ => Pure.pure ⟨x, rest, some failure⟩)
    (fx.fail failure >>= fun _ => Pure.pure (x, rest))
  reference : ∀ depth token rest, R
    (fun f => (g depth).reference token >>= fun r => Pure.pure ⟨r.1, rest, r.2.or f⟩)
    (fx.reference depth token >>= fun x => Pure.pure (x, rest))
  cut : R (fun _ => Traced.halt (.cut .reading)) fx.cut
  bind : ∀ {t m k p}, R t m → (∀ x rest, R (fun f => k ⟨x, rest, f⟩) (p (x, rest))) →
    R (fun f => t f >>= k) (m >>= p)

namespace Realizes

/-- The program stands for the rule, whatever the tokens are. -/
def Of (R : (Option Failure → Traced Step) → M (Float × List Text) → Prop) (r : Rule)
    (p : Program M) : Prop :=
  ∀ tokens, R (r tokens) (p tokens)

variable {g : Nat → Grammar} {fx : Effects M}
  {R : (Option Failure → Traced Step) → M (Float × List Text) → Prop} {rank : Rank}
  {operand inner : Rule} {operandProgram innerProgram : Program M}

theorem chain (h : Realizes g fx R) (ho : Of R operand operandProgram) (n : Nat) (x : Float)
    (tokens : List Text) :
    R (fun f => FormulaSheet.chain rank operand n ⟨x, tokens, f⟩)
      (fx.chain rank operandProgram n x tokens) := by
  induction n generalizing x tokens with
  | zero => exact h.pure x tokens
  | succ n ih =>
    cases tokens with
    | nil => exact h.pure x []
    | cons token rest =>
      cases hop : rank.operator? token with
      | none =>
        simp only [FormulaSheet.chain, Effects.chain, hop]
        exact h.pure x (token :: rest)
      | some op =>
        simp only [chain_of_operator hop, Effects.chain, hop]
        refine h.bind (ho rest) fun y left => ?_
        dsimp only
        cases op.combine? x y with
        | some z => exact ih z left
        | none => exact h.fail.divisionByZero infinity left

theorem level (h : Realizes g fx R) (ho : Of R operand operandProgram) :
    Of R (FormulaSheet.level rank operand) (fx.level rank operandProgram) :=
  fun tokens => h.bind (ho tokens) fun x left => h.chain ho left.length x left

theorem factor (h : Realizes g fx R) (depth : Nat) (hi : Of R inner innerProgram) :
    Of R ((g depth).factor inner) (fx.factor depth innerProgram) := by
  intro tokens
  cases tokens with
  | nil => exact h.fail.incomplete 0.0 []
  | cons token rest =>
    change R (fun f => (g depth).factor inner (token :: rest) f) _
    simp only [Effects.factor, Grammar.factor, h.blankIsZero, h.labels]
    cases Token.number? fx.blankIsZero token with
    | some x => exact h.pure x rest
    | none =>
      dsimp only
      split
      · refine h.bind (hi rest) fun x left => ?_
        by_cases hc : left.head? = some (")" : Text)
        · simp only [if_pos hc]
          exact h.pure x left.tail
        · simp only [if_neg hc]
          exact h.fail.parentheses x left.tail
      · split
        · exact h.reference depth token rest
        · exact h.fail.invalid 0.0 rest

/-- **The program for expressions** stands for the rule for expressions. -/
theorem expression (h : Realizes g fx R) (depth : Nat) :
    Of R (expressionOf g depth) (fx.expression depth) := by
  induction depth with
  | zero => exact fun _ => h.cut
  | succ depth ih =>
    rw [expressionOf_eq]
    exact h.level (h.level (h.factor depth ih))

end Realizes

end FormulaSheet
