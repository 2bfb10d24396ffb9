import FormulaSheet.Proofs.Formula.Unbounded
import FormulaSheet.Proofs.Label

/-!
# Steps of the grammar rules

A term is a chain of factors and an expression is a chain of terms. The two differ only in their
operators, so what is true of chains is proved once: `chain` goes on with a chain for operators of
either rank, and the rule for expressions is a chain of chains of factors (`expression_eq`).

The proofs about the evaluation do not open the rules. They use the relations `FactorStep` and
`ChainRun`, which list the ways in which a factor and a chain can end:

* `factor_ok_iff`: a factor ends in one of six ways;
* `level_ok_iff`: a chain is its first operand and a run over the operators behind it. The bound on
  the number of operators does not show in this, because no rule gives back more tokens than it was
  given (`Rule.Shrinks`).
-/

namespace FormulaSheet

/-! ## Results of evaluations in two parts -/

namespace Traced

variable {α β : Type}

/-- An evaluation in two parts has a result exactly if both parts have one. -/
theorem bind_ok_iff {t : Traced α} {f : α → Traced β} {b : β} :
    (t >>= f).result = .ok b ↔ ∃ a, t.result = .ok a ∧ (f a).result = .ok b := by
  rcases t with ⟨notes, result⟩
  cases result with
  | error h =>
    rw [bind_error]
    constructor
    · intro hb
      cases hb
    · rintro ⟨a, ha, -⟩
      cases ha
  | ok a =>
    rw [bind_ok]
    constructor
    · intro hb
      exact ⟨a, rfl, hb⟩
    · rintro ⟨a', ha, hb⟩
      cases ha
      exact hb

/-- An evaluation in two parts is not given up for a reason that gives up neither part. -/
theorem bind_ne_error {t : Traced α} {f : α → Traced β} {h : Halt} (ht : t.result ≠ .error h)
    (hf : ∀ a, t.result = .ok a → (f a).result ≠ .error h) : (t >>= f).result ≠ .error h := by
  rcases t with ⟨notes, result⟩
  cases result with
  | error h' =>
    intro he
    cases he
    exact ht rfl
  | ok a => exact hf a rfl

theorem pure_ok_iff {a b : α} : (pure a : Traced α).result = .ok b ↔ a = b := by
  rw [pure_eq, Except.ok.injEq]

theorem pure_ne_error {a : α} {h : Halt} : (pure a : Traced α).result ≠ .error h := by
  intro hr
  cases hr

theorem not_isCut_pure {a : α} : ¬ (pure a : Traced α).IsCut := by
  rintro ⟨c, hr⟩
  cases hr

theorem not_isCut_fault {f : Fault} : ¬ (halt (.fault f) : Traced α).IsCut := by
  rintro ⟨c, hr⟩
  cases hr

/-- An evaluation in two parts of which neither is cut is not cut. -/
theorem not_isCut_bind {t : Traced α} {f : α → Traced β} (ht : ¬ t.IsCut)
    (hf : ∀ a, t.result = .ok a → ¬ (f a).IsCut) : ¬ (t >>= f).IsCut :=
  fun ⟨c, hr⟩ => bind_ne_error (fun h => ht ⟨c, h⟩) (fun a ha h => hf a ha ⟨c, h⟩) hr

theorem not_isCut_of_ok {t : Traced α} {a : α} (h : t.result = .ok a) : ¬ t.IsCut := by
  rintro ⟨c, hr⟩
  rw [h] at hr
  cases hr

@[simp]
theorem isCut_noting {n : Note} {t : Traced α} : (noting n t).IsCut ↔ t.IsCut :=
  Iff.rfl

theorem halt_ne_ok {h : Halt} {a : α} : (halt h : Traced α).result ≠ .ok a := by
  intro hr
  cases hr

@[simp]
theorem noting_result (n : Note) (t : Traced α) : (noting n t).result = t.result :=
  rfl

/-- A first part that has a result is followed by the second one. -/
theorem result_bind_of_ok {t : Traced α} {a : α} (h : t.result = .ok a) (f : α → Traced β) :
    (t >>= f).result = (f a).result := by
  rcases t with ⟨notes, result⟩
  cases h
  rfl

/-- A first part that is given up is not followed by anything. -/
theorem result_bind_of_error {t : Traced α} {halt : Halt} (h : t.result = .error halt)
    (f : α → Traced β) : (t >>= f).result = .error halt := by
  rcases t with ⟨notes, result⟩
  cases h
  rfl

/-- An evaluation is not given up for a fault. -/
def Calm (t : Traced α) : Prop :=
  ∀ f, t.result ≠ .error (.fault f)

theorem Calm.of_bind {t : Traced α} {f : α → Traced β} (h : (t >>= f).Calm) : t.Calm :=
  fun fault ht => h fault (result_bind_of_error ht f)

theorem Calm.after {t : Traced α} {f : α → Traced β} (h : (t >>= f).Calm) {a : α}
    (ha : t.result = .ok a) : (f a).Calm :=
  fun fault hf => h fault ((result_bind_of_ok ha f).trans hf)

end Traced

/-! ## Operators -/

/-- An operator between two operands. -/
inductive Operator where
  | plus
  | minus
  | times
  | divided
  deriving DecidableEq, Repr

/-- The two kinds of chains, by how tight their operators bind. -/
inductive Rank where
  /-- an expression, which is a chain of terms -/
  | sum
  /-- a term, which is a chain of factors -/
  | product
  deriving DecidableEq, Repr

/-- The token of an operator. -/
def Operator.token : Operator → Text
  | plus => "+"
  | minus => "-"
  | times => "*"
  | divided => "/"

/-- The chains that an operator stands in. -/
def Operator.rank : Operator → Rank
  | plus | minus => .sum
  | times | divided => .product

/-- The value of an operation. A division by zero has none. -/
def Operator.combine? : Operator → Float → Float → Option Float
  | plus, x, y => some (x + y)
  | minus, x, y => some (x - y)
  | times, x, y => some (x * y)
  | divided, x, y => if y == 0 then none else some (x / y)

/-- The operator of a rank that a token is. -/
def Rank.operator? : Rank → Text → Option Operator
  | sum, token => if token = "+" then some .plus else if token = "-" then some .minus else none
  | product, token =>
    if token = "*" then some .times else if token = "/" then some .divided else none

theorem Rank.operator?_eq_some_iff {rank : Rank} {token : Text} {op : Operator} :
    rank.operator? token = some op ↔ op.token = token ∧ op.rank = rank := by
  constructor
  · intro h
    cases rank <;> simp only [operator?] at h <;> split at h
    · cases h
      exact ⟨by simp [Operator.token, *], rfl⟩
    · split at h <;> cases h
      exact ⟨by simp [Operator.token, *], rfl⟩
    · cases h
      exact ⟨by simp [Operator.token, *], rfl⟩
    · split at h <;> cases h
      exact ⟨by simp [Operator.token, *], rfl⟩
  · rintro ⟨rfl, rfl⟩
    cases op <;> rfl

/-- Whether an operator of the rank stands in front. -/
def Rank.continues (rank : Rank) (tokens : List Text) : Bool :=
  tokens.head?.any fun token => (rank.operator? token).isSome

/-! ## Chains -/

/-- Goes on with a chain behind its first operand, for at most the given number of operators. -/
def chain (rank : Rank) (operand : Rule) : Nat → Step → Traced Step
  | 0, step => pure step
  | n + 1, step =>
    match step.rest with
    | [] => pure step
    | token :: rest =>
      match rank.operator? token with
      | none => pure step
      | some op => do
        let r ← operand rest step.failure
        match op.combine? step.value r.value with
        | some x => chain rank operand n ⟨x, r.rest, r.failure⟩
        | none => pure ⟨infinity, r.rest, some .divisionByZero⟩

theorem chain_of_stop {rank : Rank} {operand : Rule} {step : Step}
    (h : rank.continues step.rest = false) (n : Nat) : chain rank operand n step = pure step := by
  rcases step with ⟨x, tokens, failure⟩
  cases n with
  | zero => rfl
  | succ n =>
    cases tokens with
    | nil => rfl
    | cons token rest =>
      have ht : rank.operator? token = none := by simpa [Rank.continues] using h
      simp only [chain, ht]

theorem chain_of_operator {rank : Rank} {operand : Rule} {token : Text} {op : Operator}
    (h : rank.operator? token = some op) (n : Nat) (x : Float) (rest : List Text)
    (failure : Option Failure) :
    chain rank operand (n + 1) ⟨x, token :: rest, failure⟩ =
      (operand rest failure >>= fun r =>
        match op.combine? x r.value with
        | some y => chain rank operand n ⟨y, r.rest, r.failure⟩
        | none => pure ⟨infinity, r.rest, some .divisionByZero⟩) := by
  simp only [chain, h]

/-- The rule for a chain, given the rule for its operands. -/
def level (rank : Rank) (operand : Rule) : Rule := fun tokens failure => do
  let step ← operand tokens failure
  chain rank operand step.rest.length step

theorem products_eq_chain (factor : Rule) (n : Nat) (step : Step) :
    products factor n step = chain .product factor n step := by
  induction n generalizing step with
  | zero => rfl
  | succ n ih =>
    rw [products, chain]
    cases step.rest with
    | nil => rfl
    | cons token rest =>
      by_cases ht : token = "*"
      · simp only [ht, Rank.operator?, Operator.combine?, if_true, ih]
      · by_cases hd : token = "/"
        · have hop : Rank.product.operator? "/" = some .divided := rfl
          simp only [hd, hop, show ("/" : Text) ≠ "*" by decide, if_false, if_true, ih]
          refine congrArg _ (funext fun r => ?_)
          by_cases hz : (r.value == 0) = true
          · simp only [Operator.combine?, hz, if_true]
          · simp only [Operator.combine?, hz, if_false, Bool.false_eq_true]
        · simp [ht, hd, Rank.operator?]

theorem sums_eq_chain (term : Rule) (n : Nat) (step : Step) :
    sums term n step = chain .sum term n step := by
  induction n generalizing step with
  | zero => rfl
  | succ n ih =>
    rw [sums, chain]
    cases step.rest with
    | nil => rfl
    | cons token rest =>
      by_cases ht : token = "+"
      · simp only [ht, Rank.operator?, Operator.combine?, if_true, ih]
      · by_cases hd : token = "-"
        · simp only [hd, Rank.operator?, Operator.combine?, if_true, ih]
          simp
        · simp [ht, hd, Rank.operator?]

theorem term_eq_level (factor : Rule) : term factor = level .product factor := by
  funext tokens failure
  simp only [term, level, products_eq_chain]

theorem sum_eq_level (term : Rule) : sum term = level .sum term := by
  funext tokens failure
  simp only [sum, level, sums_eq_chain]

/-- **The rule for expressions** is a chain of chains of factors. -/
theorem expressionOf_eq (g : Nat → Grammar) (depth : Nat) :
    expressionOf g (depth + 1) =
      level .sum (level .product ((g depth).factor (expressionOf g depth))) := by
  rw [expressionOf_succ, term_eq_level, sum_eq_level]

theorem Setting.expression_eq (s : Setting) (depth : Nat) :
    s.expression (depth + 1) = level .sum (level .product (s.factor (s.expression depth))) :=
  expressionOf_eq _ depth

/-! ## How a chain can end -/

/-- A rule gives back the tokens that it did not read, and no others. -/
def Rule.Shrinks (r : Rule) : Prop :=
  ∀ ⦃tokens failure step⦄, (r tokens failure).result = .ok step → step.rest <:+ tokens

/-- A chain goes on from one step and ends with another. -/
inductive ChainRun (rank : Rank) (operand : Rule) : Step → Step → Prop
  /-- no operator follows -/
  | stop {step : Step} : rank.continues step.rest = false → ChainRun rank operand step step
  /-- an operator and an operand follow, and more may follow behind them -/
  | more {x y : Float} {token : Text} {rest : List Text} {failure : Option Failure}
      {op : Operator} {r last : Step} : rank.operator? token = some op →
      (operand rest failure).result = .ok r → op.combine? x r.value = some y →
      ChainRun rank operand ⟨y, r.rest, r.failure⟩ last →
      ChainRun rank operand ⟨x, token :: rest, failure⟩ last
  /-- a division by zero follows, behind which the chain is given up -/
  | abandon {x : Float} {token : Text} {rest : List Text} {failure : Option Failure}
      {op : Operator} {r : Step} : rank.operator? token = some op →
      (operand rest failure).result = .ok r → op.combine? x r.value = none →
      ChainRun rank operand ⟨x, token :: rest, failure⟩ ⟨infinity, r.rest, some .divisionByZero⟩

variable {rank : Rank} {operand : Rule}

theorem ChainRun.suffix (ho : operand.Shrinks) {step last : Step}
    (h : ChainRun rank operand step last) : last.rest <:+ step.rest := by
  induction h with
  | stop _ => exact List.suffix_rfl
  | more _ hr _ _ ih => exact ih.trans ((ho hr).trans (List.suffix_cons _ _))
  | abandon _ hr _ => exact (ho hr).trans (List.suffix_cons _ _)

/-- A chain that does not go on has ended. -/
theorem ChainRun.stop_iff {step last : Step} (hs : rank.continues step.rest = false) :
    ChainRun rank operand step last ↔ step = last := by
  constructor
  · intro h
    cases h with
    | stop _ => rfl
    | more ht => simp [Rank.continues, ht] at hs
    | abandon ht => simp [Rank.continues, ht] at hs
  · rintro rfl
    exact .stop hs

/-- With room for as many operators as there are tokens, the bound does not show. -/
theorem chain_ok_iff (ho : operand.Shrinks) {n : Nat} {step last : Step}
    (hn : step.rest.length ≤ n) :
    (chain rank operand n step).result = .ok last ↔ ChainRun rank operand step last := by
  induction n generalizing step with
  | zero =>
    have hs : rank.continues step.rest = false := by
      rw [List.eq_nil_of_length_eq_zero (Nat.le_zero.1 hn)]
      rfl
    rw [chain_of_stop hs, Traced.pure_ok_iff, ChainRun.stop_iff hs]
  | succ n ih =>
    cases hs : rank.continues step.rest with
    | false => rw [chain_of_stop hs, Traced.pure_ok_iff, ChainRun.stop_iff hs]
    | true =>
      rcases step with ⟨x, tokens, failure⟩
      cases tokens with
      | nil => cases hs
      | cons token rest =>
        obtain ⟨op, hop⟩ := Option.isSome_iff_exists.1 (show (rank.operator? token).isSome from hs)
        -- the operand leaves no more than `rest`, so the bound holds behind it as well
        have hl {r : Step} (y : Float) (hr : (operand rest failure).result = .ok r) :
            (⟨y, r.rest, r.failure⟩ : Step).rest.length ≤ n :=
          Nat.le_trans (ho hr).length_le (Nat.le_of_succ_le_succ hn)
        rw [chain_of_operator hop, Traced.bind_ok_iff]
        constructor
        · rintro ⟨r, hr, h⟩
          cases hx : op.combine? x r.value with
          | some y =>
            simp only [hx] at h
            exact .more hop hr hx ((ih (hl y hr)).1 h)
          | none =>
            simp only [hx, Traced.pure_ok_iff] at h
            exact h ▸ .abandon hop hr hx
        · intro h
          cases h with
          | stop h =>
            rw [hs] at h
            cases h
          | more ht hr hx hc =>
            obtain rfl := Option.some.inj (hop.symm.trans ht)
            refine ⟨_, hr, ?_⟩
            simp only [hx]
            exact (ih (hl _ hr)).2 hc
          | abandon ht hr hx =>
            obtain rfl := Option.some.inj (hop.symm.trans ht)
            refine ⟨_, hr, ?_⟩
            simp only [hx]
            rfl

/-- **A chain** is its first operand and what follows it. -/
theorem level_ok_iff (ho : operand.Shrinks) {tokens : List Text} {failure : Option Failure}
    {last : Step} :
    (level rank operand tokens failure).result = .ok last ↔
      ∃ first, (operand tokens failure).result = .ok first ∧ ChainRun rank operand first last := by
  rw [level, Traced.bind_ok_iff]
  simp only [chain_ok_iff ho (Nat.le_refl _)]

theorem level_shrinks (ho : operand.Shrinks) : (level rank operand).Shrinks := by
  intro tokens failure last h
  obtain ⟨first, hf, hc⟩ := (level_ok_iff ho).1 h
  exact (hc.suffix ho).trans (ho hf)

/-! ## How a factor can end -/

/-- What is asked of a token before it counts as a label: it is no number, it opens no parenthesis,
and it is one of the texts that count as labels. -/
structure IsReference (labels : LabelClass) (blankIsZero : Bool) (token : Text) : Prop where
  not_number : Token.number? blankIsZero token = none
  not_open : token ≠ "("
  holds : labels.holds token = true

/-- What has the form of a label is a reference where the texts of this form count as labels. -/
theorem IsReference.of_isLabel {blankIsZero : Bool} {token : Text}
    (h : Label.isLabel token = true) : IsReference .pattern blankIsZero token where
  not_number := Token.number?_eq_none_of_isLabel h
  not_open := by
    rintro rfl
    exact absurd h (by decide)
  holds := h

/-- A factor that starts with the given tokens and failure ends with a step. -/
inductive Grammar.FactorStep (g : Grammar) (inner : Rule) :
    List Text → Option Failure → Step → Prop
  /-- there is no token -/
  | incomplete {f : Option Failure} : FactorStep g inner [] f ⟨0.0, [], some .incomplete⟩
  /-- a number -/
  | number {token : Text} {rest : List Text} {f : Option Failure} {x : Float} :
      Token.number? g.blankIsZero token = some x → FactorStep g inner (token :: rest) f ⟨x, rest, f⟩
  /-- an expression in parentheses -/
  | closed {rest rest' : List Text} {f f' : Option Failure} {x : Float} :
      (inner rest f).result = .ok ⟨x, ")" :: rest', f'⟩ →
      FactorStep g inner ("(" :: rest) f ⟨x, rest', f'⟩
  /-- an expression behind an open parenthesis, and something else than a closing one -/
  | unclosed {rest : List Text} {f : Option Failure} {r : Step} :
      (inner rest f).result = .ok r → r.rest.head? ≠ some (")" : Text) →
      FactorStep g inner ("(" :: rest) f ⟨r.value, r.rest.tail, some .parentheses⟩
  /-- a reference -/
  | label {token : Text} {rest : List Text} {f f' : Option Failure} {x : Float} :
      IsReference g.labels g.blankIsZero token → (g.reference token).result = .ok (x, f') →
      FactorStep g inner (token :: rest) f ⟨x, rest, f'.or f⟩
  /-- a token that starts no factor -/
  | invalid {token : Text} {rest : List Text} {f : Option Failure} :
      Token.number? g.blankIsZero token = none → token ≠ "(" → g.labels.holds token = false →
      FactorStep g inner (token :: rest) f ⟨0.0, rest, some .invalid⟩

theorem number?_open (blankIsZero : Bool) : Token.number? blankIsZero "(" = none := by
  cases blankIsZero <;> decide

namespace Grammar

variable {g : Grammar} {inner : Rule}

/-- **A factor** ends in one of the ways of `FactorStep`. -/
theorem factor_ok_iff {tokens : List Text} {failure : Option Failure} {step : Step} :
    (g.factor inner tokens failure).result = .ok step ↔
      g.FactorStep inner tokens failure step := by
  constructor
  · intro h
    cases tokens with
    | nil =>
      cases h
      exact .incomplete
    | cons token rest =>
      rw [factor] at h
      cases hx : Token.number? g.blankIsZero token with
      | some x =>
        simp only [hx] at h
        cases h
        exact .number hx
      | none =>
        simp only [hx] at h
        by_cases ho : token = "("
        · subst ho
          rw [if_pos rfl, Traced.bind_ok_iff] at h
          obtain ⟨⟨x, tail, f⟩, hr, h⟩ := h
          by_cases hc : tail.head? = some (")" : Text)
          · rw [if_pos hc] at h
            cases h
            obtain ⟨rest', rfl⟩ := List.head?_eq_some_iff.1 hc
            exact .closed hr
          · rw [if_neg hc] at h
            cases h
            exact .unclosed hr hc
        · rw [if_neg ho] at h
          by_cases hl : g.labels.holds token = true
          · rw [if_pos hl, Traced.bind_ok_iff] at h
            obtain ⟨⟨x, f⟩, hr, h⟩ := h
            cases h
            exact .label ⟨hx, ho, hl⟩ hr
          · rw [if_neg hl] at h
            cases h
            exact .invalid hx ho (Bool.eq_false_iff.2 hl)
  · intro h
    cases h with
    | incomplete => rfl
    | number hx => simp only [factor, hx, Traced.pure_eq]
    | closed hr =>
      simp only [factor, number?_open, if_true]
      exact Traced.bind_ok_iff.2 ⟨_, hr, rfl⟩
    | unclosed hr hc =>
      simp only [factor, number?_open, if_true]
      refine Traced.bind_ok_iff.2 ⟨_, hr, ?_⟩
      rw [if_neg hc]
      rfl
    | label hl hr =>
      simp only [factor, hl.not_number, if_neg hl.not_open, hl.holds, if_true]
      exact Traced.bind_ok_iff.2 ⟨_, hr, rfl⟩
    | invalid hx ho hl =>
      simp [factor, hx, ho, hl]

theorem factor_shrinks (hi : inner.Shrinks) : (g.factor inner).Shrinks := by
  intro tokens failure step h
  cases factor_ok_iff.1 h with
  | incomplete => exact List.suffix_rfl
  | number _ => exact List.suffix_cons _ _
  | closed hr => exact (List.suffix_cons _ _).trans ((hi hr).trans (List.suffix_cons _ _))
  | unclosed hr _ => exact (List.tail_suffix _).trans ((hi hr).trans (List.suffix_cons _ _))
  | label _ _ => exact List.suffix_cons _ _
  | invalid _ _ _ => exact List.suffix_cons _ _

end Grammar

/-- No rule for expressions gives back more than it was given. -/
theorem expressionOf_shrinks (g : Nat → Grammar) (depth : Nat) :
    (expressionOf g depth).Shrinks := by
  induction depth with
  | zero =>
    intro tokens failure step h
    exact absurd h Traced.halt_ne_ok
  | succ depth ih =>
    rw [expressionOf_eq]
    exact level_shrinks (level_shrinks (Grammar.factor_shrinks ih))

namespace Setting

variable {s : Setting} {inner : Rule}

/-- A factor that starts with the given tokens and failure ends with a step. -/
abbrev FactorStep (s : Setting) (inner : Rule) : List Text → Option Failure → Step → Prop :=
  s.grammar.FactorStep inner

theorem factor_ok_iff {tokens : List Text} {failure : Option Failure} {step : Step} :
    (s.factor inner tokens failure).result = .ok step ↔ s.FactorStep inner tokens failure step :=
  Grammar.factor_ok_iff

theorem factor_shrinks (hi : inner.Shrinks) : (s.factor inner).Shrinks :=
  Grammar.factor_shrinks hi

theorem expression_shrinks (depth : Nat) : (s.expression depth).Shrinks :=
  expressionOf_shrinks _ depth

end Setting

end FormulaSheet
