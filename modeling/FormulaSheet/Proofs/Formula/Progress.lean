import FormulaSheet.Machine
import FormulaSheet.Proofs.Formula.Placement

/-!
# The calls of the grammar rules end

The rules are built up by the depth of the nesting, and the loops of terms and expressions have a
bound on the number of operators. Neither is needed for the rules to end: `Setting.Runs` says how a
call of a rule goes on and ends without any bound, and counts how many calls of the rule for
expressions are open at once meanwhile. Every call runs to its end, since the loop of a chain reads
an operator before it calls a rule again, and a parenthesis is read before the expression in it.

What a run keeps is proved along the run, and carries over to the rules, which compute it:

* `Runs.suffix`, `Runs.length_lt`: a call leaves the end of its tokens, and a call of a rule reads
  at least one token if there is one;
* `Runs.opens_le`: every open call but the first has its own parenthesis;
* `exists_runs`: every call ends;
* `Runs.result_rule`: the rule for a depth computes the run, unless more calls are open at once than
  the depth allows;
* `Runs.result_ruleIn`, `Runs.result_ruleIn_of_room`: so does the rule on a stack, unless it is cut,
  and it is not where there is room for the open calls;
* `Evaluator.not_isCut_of_frames`: how large a stack keeps an evaluation from being cut;
* `Evaluator.rule_ends`: so the rules of every evaluation end and move on, and 200 parentheses are
  not too many where a thousand calls may be open.
-/

namespace FormulaSheet

/-! ## Calls -/

/-- A call of a grammar rule, or the loop inside of one. -/
inductive Call where
  /-- the rule for factors -/
  | factor
  /-- the rule for expressions or the one for terms -/
  | chain (rank : Rank)
  /-- the loop of a chain, when the value up to there is known -/
  | tail (rank : Rank) (value : Float)

/-- The call that reads an operand of a chain. -/
def Rank.call : Rank → Call
  | sum => .chain .product
  | product => .factor

namespace Call

/-- Whether the call is one of a rule, and not of a loop inside of it. -/
def IsRule : Call → Prop
  | factor | chain _ => True
  | tail _ _ => False

/-- The number of open calls of the rule for expressions that the call is by itself. -/
def weight : Call → Nat
  | chain .sum => 1
  | chain .product | factor | tail _ _ => 0

theorem weight_le_one (c : Call) : c.weight ≤ 1 := by
  cases c with
  | chain rank => cases rank <;> decide
  | factor | tail _ _ => exact Nat.zero_le 1

end Call

/-- The rule of a call, for nesting up to the given depth. The loop of a chain has room for as many
operators as there are tokens. -/
def ruleOf (g : Nat → Grammar) (depth : Nat) : Call → Rule
  | .factor => (g depth).factor (expressionOf g depth)
  | .chain .product => term ((g depth).factor (expressionOf g depth))
  | .chain .sum => expressionOf g depth
  | .tail .product x => fun tokens f =>
    products ((g depth).factor (expressionOf g depth)) tokens.length ⟨x, tokens, f⟩
  | .tail .sum x => fun tokens f =>
    sums (term ((g depth).factor (expressionOf g depth))) tokens.length ⟨x, tokens, f⟩

/-- What is related in the rules for expressions and in the references is so in every call. -/
theorem ruleOf_related {R : ∀ {α : Type}, Traced α → Traced α → Prop} (hR : Traced.Relates @R)
    {all : List Text} {g g' : Nat → Grammar} {depth depth' : Nat}
    (hi : Rule.RelatedFrom @R all (expressionOf g depth) (expressionOf g' depth'))
    (hg : (g depth).Related @R all (g' depth')) (c : Call) :
    Rule.RelatedFrom @R all (ruleOf g depth c) (ruleOf g' depth' c) := by
  have hs : ((g depth).factor (expressionOf g depth)).Shrinks :=
    Grammar.factor_shrinks (expressionOf_shrinks g depth)
  have hfactor := hg.factor hR hi
  have hterm := level_related .product hR hs hfactor
  rw [← term_eq_level, ← term_eq_level] at hterm
  cases c with
  | factor => exact hfactor
  | chain rank =>
    cases rank with
    | sum => exact hi
    | product => exact hterm
  | tail rank x =>
    intro tokens hsuffix f
    cases rank with
    | sum =>
      simp only [ruleOf, sums_eq_chain]
      refine chain_related hR ?_ hterm _ hsuffix
      rw [term_eq_level]
      exact level_shrinks hs
    | product =>
      simp only [ruleOf, products_eq_chain]
      exact chain_related hR hs hfactor _ hsuffix

theorem Rank.isRule_call (rank : Rank) : rank.call.IsRule := by
  cases rank <;> exact True.intro

theorem Rank.weight_call (rank : Rank) : rank.call.weight = 0 := by
  cases rank <;> rfl

/-- Where a factor in parentheses ends, when the expression in it ends with the given step. -/
def Step.close (step : Step) : Step :=
  if step.rest.head? = some (")" : Text) then ⟨step.value, step.rest.tail, step.failure⟩
  else ⟨step.value, step.rest.tail, some .parentheses⟩

theorem Step.rest_close (step : Step) : step.close.rest = step.rest.tail := by
  rw [close]
  split <;> rfl

namespace Setting

/-- A call for the given tokens and failure comes to an end: with a step, or with a fault that a
reference has raised. At most so many calls of the rule for expressions are open at once meanwhile.
-/
inductive Runs (s : Setting) :
    Call → List Text → Option Failure → Except Fault Step → Nat → Prop
  /-- there is no token for a factor -/
  | incomplete {f : Option Failure} : Runs s .factor [] f (.ok ⟨0.0, [], some .incomplete⟩) 0
  /-- a number -/
  | number {token : Text} {rest : List Text} {f : Option Failure} {x : Float} :
      Token.number? s.blankIsZero token = some x →
      Runs s .factor (token :: rest) f (.ok ⟨x, rest, f⟩) 0
  /-- an expression behind a parenthesis that opens -/
  | group {rest : List Text} {f : Option Failure} {outcome : Except Fault Step} {n : Nat} :
      Runs s (.chain .sum) rest f outcome n →
      Runs s .factor ("(" :: rest) f (outcome.map Step.close) n
  /-- a reference -/
  | label {token : Text} {rest : List Text} {f g : Option Failure} {x : Float} :
      IsReference s.labels s.blankIsZero token → (s.reference token).result = .ok (x, g) →
      Runs s .factor (token :: rest) f (.ok ⟨x, rest, g.or f⟩) 0
  /-- a reference that raises a fault -/
  | raise {token : Text} {rest : List Text} {f : Option Failure} {e : Fault} :
      IsReference s.labels s.blankIsZero token → (s.reference token).result = .error (.fault e) →
      Runs s .factor (token :: rest) f (.error e) 0
  /-- a token that starts no factor -/
  | invalid {token : Text} {rest : List Text} {f : Option Failure} :
      Token.number? s.blankIsZero token = none → token ≠ "(" → s.labels.holds token = false →
      Runs s .factor (token :: rest) f (.ok ⟨0.0, rest, some .invalid⟩) 0
  /-- a first operand, and the loop of the chain -/
  | chain {rank : Rank} {tokens : List Text} {f : Option Failure} {first : Step}
      {outcome : Except Fault Step} {n m : Nat} : Runs s rank.call tokens f (.ok first) n →
      Runs s (.tail rank first.value) first.rest first.failure outcome m →
      Runs s (.chain rank) tokens f outcome (max n m + (Call.chain rank).weight)
  /-- a fault in the first operand -/
  | chainRaise {rank : Rank} {tokens : List Text} {f : Option Failure} {e : Fault} {n : Nat} :
      Runs s rank.call tokens f (.error e) n →
      Runs s (.chain rank) tokens f (.error e) (n + (Call.chain rank).weight)
  /-- no operator follows -/
  | stop {rank : Rank} {x : Float} {tokens : List Text} {f : Option Failure} :
      rank.continues tokens = false → Runs s (.tail rank x) tokens f (.ok ⟨x, tokens, f⟩) 0
  /-- an operator and an operand follow, and the loop goes on -/
  | more {rank : Rank} {x y : Float} {token : Text} {rest : List Text} {f : Option Failure}
      {op : Operator} {r : Step} {outcome : Except Fault Step} {n m : Nat} :
      rank.operator? token = some op → Runs s rank.call rest f (.ok r) n →
      op.combine? x r.value = some y → Runs s (.tail rank y) r.rest r.failure outcome m →
      Runs s (.tail rank x) (token :: rest) f outcome (max n m)
  /-- a division by zero follows -/
  | abandon {rank : Rank} {x : Float} {token : Text} {rest : List Text} {f : Option Failure}
      {op : Operator} {r : Step} {n : Nat} : rank.operator? token = some op →
      Runs s rank.call rest f (.ok r) n → op.combine? x r.value = none →
      Runs s (.tail rank x) (token :: rest) f (.ok ⟨infinity, r.rest, some .divisionByZero⟩) n
  /-- an operator follows, and there is a fault in the operand behind it -/
  | moreRaise {rank : Rank} {x : Float} {token : Text} {rest : List Text}
      {f : Option Failure} {op : Operator} {e : Fault} {n : Nat} :
      rank.operator? token = some op → Runs s rank.call rest f (.error e) n →
      Runs s (.tail rank x) (token :: rest) f (.error e) n

variable {s : Setting} {c : Call} {tokens : List Text} {f : Option Failure}
  {outcome : Except Fault Step} {step : Step} {n : Nat}

/-! ## What a run keeps -/

/-- **A call leaves** the end of its tokens. -/
theorem Runs.suffix (h : s.Runs c tokens f outcome n) (ho : outcome = .ok step) :
    step.rest <:+ tokens := by
  induction h generalizing step with
  | incomplete =>
    cases ho
    exact List.suffix_rfl
  | number _ | label _ _ | invalid _ _ _ =>
    cases ho
    exact List.suffix_cons _ _
  | group _ ih =>
    obtain ⟨r, hr, rfl⟩ := map_eq_ok_iff.1 ho
    rw [Step.rest_close]
    exact (List.tail_suffix _).trans ((ih hr).trans (List.suffix_cons _ _))
  | raise _ _ | chainRaise _ _ | moreRaise _ _ _ => cases ho
  | chain _ _ iho iht => exact (iht ho).trans (iho rfl)
  | stop _ =>
    cases ho
    exact List.suffix_rfl
  | more _ _ _ _ iho iht => exact (iht ho).trans ((iho rfl).trans (List.suffix_cons _ _))
  | abandon _ _ _ iho =>
    obtain rfl := Except.ok.inj ho
    exact (iho rfl).trans (List.suffix_cons _ _)

/-- **A call of a rule reads** at least one token if there is one. -/
theorem Runs.length_lt (h : s.Runs c tokens f outcome n) (ho : outcome = .ok step) (hc : c.IsRule)
    (hn : tokens ≠ []) : step.rest.length < tokens.length := by
  induction h generalizing step with
  | incomplete => exact absurd rfl hn
  | number _ | label _ _ | invalid _ _ _ =>
    cases ho
    exact Nat.lt_succ_self _
  | group h _ =>
    obtain ⟨r, hr, rfl⟩ := map_eq_ok_iff.1 ho
    have hle := (h.suffix hr).length_le
    rw [Step.rest_close, List.length_tail, List.length_cons]
    omega
  | raise _ _ | chainRaise _ _ => cases ho
  | @chain rank _ _ _ _ _ _ _ ht iho _ =>
    exact Nat.lt_of_le_of_lt (ht.suffix ho).length_le (iho rfl rank.isRule_call hn)
  | stop _ | more _ _ _ _ _ _ | abandon _ _ _ _ | moreRaise _ _ _ => exact hc.elim

/-- **Every open call** of the rule for expressions but the first has its own parenthesis. -/
theorem Runs.opens_le (h : s.Runs c tokens f outcome n) :
    n ≤ tokens.count ("(" : Text) + c.weight := by
  induction h with
  | incomplete | number _ | label _ _ | raise _ _ | invalid _ _ _ | stop _ => exact Nat.zero_le _
  | group _ ih =>
    rw [List.count_cons_self]
    exact ih
  | @chain rank tokens _ first _ n m ho _ ihn ihm =>
    have hle : first.rest.count ("(" : Text) ≤ tokens.count ("(" : Text) :=
      (ho.suffix rfl).sublist.count_le _
    rw [rank.weight_call] at ihn
    exact Nat.add_le_add_right (Nat.max_le.2 ⟨ihn, Nat.le_trans ihm hle⟩) _
  | @chainRaise rank _ _ _ _ _ ih =>
    rw [rank.weight_call] at ih
    exact Nat.add_le_add_right ih _
  | @more rank _ _ token rest _ _ r _ n m _ ho _ _ ihn ihm =>
    have hle : r.rest.count ("(" : Text) ≤ rest.count ("(" : Text) :=
      (ho.suffix rfl).sublist.count_le _
    rw [rank.weight_call] at ihn
    exact Nat.le_trans (Nat.max_le.2 ⟨ihn, Nat.le_trans ihm hle⟩) List.count_le_count_cons
  | @abandon rank _ _ _ _ _ _ _ _ _ _ ih | @moreRaise rank _ _ _ _ _ _ _ _ _ ih =>
    rw [rank.weight_call] at ih
    exact Nat.le_trans ih List.count_le_count_cons

/-- A fault is one that a reference among the tokens raises. -/
theorem Runs.exists_raise (h : s.Runs c tokens f outcome n) {e : Fault} (ho : outcome = .error e) :
    ∃ token ∈ tokens, IsReference s.labels s.blankIsZero token ∧
      (s.reference token).result = .error (.fault e) := by
  induction h with
  | incomplete | number _ | label _ _ | invalid _ _ _ | stop _ | abandon _ _ _ _ => cases ho
  | raise hl hr =>
    cases ho
    exact ⟨_, List.mem_cons_self, hl, hr⟩
  | group _ ih =>
    obtain ⟨token, hm, h⟩ := ih (map_eq_error_iff.1 ho)
    exact ⟨token, List.mem_cons_of_mem _ hm, h⟩
  | chain h _ _ iht =>
    obtain ⟨token, hm, ht⟩ := iht ho
    exact ⟨token, (h.suffix rfl).subset hm, ht⟩
  | chainRaise _ ih => exact ih ho
  | more _ h _ _ _ iht =>
    obtain ⟨token, hm, ht⟩ := iht ho
    exact ⟨token, List.mem_cons_of_mem _ ((h.suffix rfl).subset hm), ht⟩
  | moreRaise _ _ ih =>
    obtain ⟨token, hm, ht⟩ := ih ho
    exact ⟨token, List.mem_cons_of_mem _ hm, ht⟩

/-! ## Every call ends -/

/-- The call for the tokens comes to an end. -/
def Finishes (s : Setting) (c : Call) (tokens : List Text) (f : Option Failure) : Prop :=
  ∃ outcome n, s.Runs c tokens f outcome n

variable {rank : Rank} {bound : Nat}

/-- A loop ends if the operands behind its operators do. -/
theorem finishes_tail (ho : ∀ ⦃tokens⦄, tokens.length < bound → ∀ f, s.Finishes rank.call tokens f)
    (hb : tokens.length ≤ bound) (x : Float) (f : Option Failure) :
    s.Finishes (.tail rank x) tokens f := by
  induction hl : tokens.length using Nat.strongRecOn generalizing tokens x f with
  | ind length ih =>
    cases tokens with
    | nil => exact ⟨_, _, .stop rfl⟩
    | cons token rest =>
      cases hop : rank.operator? token with
      | none =>
        have hs : rank.continues (token :: rest) = false := by simp [Rank.continues, hop]
        exact ⟨_, _, .stop hs⟩
      | some op =>
        rw [List.length_cons] at hb hl
        have hrest : rest.length < bound := by omega
        obtain ⟨outcome, n, hr⟩ := ho hrest f
        cases outcome with
        | error e => exact ⟨_, _, .moreRaise hop hr⟩
        | ok r =>
          cases hx : op.combine? x r.value with
          | none => exact ⟨_, _, .abandon hop hr hx⟩
          | some y =>
            -- the operator at least was read
            have hle := (hr.suffix rfl).length_le
            obtain ⟨outcome, m, ht⟩ := ih r.rest.length (by omega) (by omega) y r.failure rfl
            exact ⟨_, _, .more hop hr hx ht⟩

/-- A chain ends if its operands do. -/
theorem finishes_chain
    (ho : ∀ ⦃tokens⦄, tokens.length ≤ bound → ∀ f, s.Finishes rank.call tokens f)
    (hb : tokens.length ≤ bound) (f : Option Failure) : s.Finishes (.chain rank) tokens f := by
  obtain ⟨outcome, n, hr⟩ := ho hb f
  cases outcome with
  | error e => exact ⟨_, _, .chainRaise hr⟩
  | ok first =>
    have hle := Nat.le_trans (hr.suffix rfl).length_le hb
    obtain ⟨outcome, m, ht⟩ := finishes_tail (fun _ hl => ho (Nat.le_of_lt hl)) hle
      first.value first.failure
    exact ⟨_, _, .chain hr ht⟩

/-- A factor ends if the expressions for fewer tokens do. -/
theorem finishes_factor
    (hi : ∀ ⦃tokens⦄, tokens.length < bound → ∀ f, s.Finishes (.chain .sum) tokens f)
    (hb : tokens.length ≤ bound) (f : Option Failure) : s.Finishes .factor tokens f := by
  cases tokens with
  | nil => exact ⟨_, _, .incomplete⟩
  | cons token rest =>
    by_cases ho : token = "("
    · subst ho
      obtain ⟨outcome, n, hr⟩ := hi (Nat.lt_of_succ_le hb) f
      exact ⟨_, _, .group hr⟩
    · cases hx : Token.number? s.blankIsZero token with
      | some x => exact ⟨_, _, .number hx⟩
      | none =>
        cases hl : s.labels.holds token with
        | false => exact ⟨_, _, .invalid hx ho hl⟩
        | true =>
          have href : IsReference s.labels s.blankIsZero token := ⟨hx, ho, hl⟩
          cases hr : (s.reference token).result with
          | ok r => exact ⟨_, _, .label href hr⟩
          | error halt =>
            cases halt with
            | fault e => exact ⟨_, _, .raise href hr⟩
            | cut c => exact absurd ⟨c, hr⟩ (not_isCut_reference token)

/-- An expression ends, since one inside of its parentheses has fewer tokens. -/
theorem finishes_sum (bound : Nat) ⦃tokens : List Text⦄ (hb : tokens.length < bound)
    (f : Option Failure) : s.Finishes (.chain .sum) tokens f := by
  induction bound generalizing tokens f with
  | zero => exact absurd hb (Nat.not_lt_zero _)
  | succ bound ih =>
    have hfactor : ∀ ⦃tokens⦄, tokens.length ≤ bound → ∀ f,
        s.Finishes Rank.product.call tokens f := fun _ => finishes_factor ih
    have hterm : ∀ ⦃tokens⦄, tokens.length ≤ bound → ∀ f, s.Finishes Rank.sum.call tokens f :=
      fun _ => finishes_chain hfactor
    exact finishes_chain hterm (Nat.le_of_lt_succ hb) f

/-- **Every call ends.** -/
theorem exists_runs (s : Setting) (c : Call) (tokens : List Text) (f : Option Failure) :
    ∃ outcome n, s.Runs c tokens f outcome n := by
  have hfactor (tokens : List Text) (f : Option Failure) : s.Finishes .factor tokens f :=
    finishes_factor (finishes_sum tokens.length) (Nat.le_refl _) f
  have hchain (rank : Rank) (tokens : List Text) (f : Option Failure) :
      s.Finishes (.chain rank) tokens f := by
    cases rank with
    | sum => exact finishes_sum (tokens.length + 1) (Nat.lt_succ_self _) f
    | product => exact finishes_chain (fun _ _ => hfactor _) (Nat.le_refl _) f
  have hoperand (rank : Rank) (tokens : List Text) (f : Option Failure) :
      s.Finishes rank.call tokens f := by
    cases rank with
    | sum => exact hchain .product tokens f
    | product => exact hfactor tokens f
  cases c with
  | factor => exact hfactor tokens f
  | chain rank => exact hchain rank tokens f
  | tail rank x => exact finishes_tail (fun _ _ => hoperand rank _) (Nat.le_refl _) x f

/-! ## The rules compute the runs -/

/-- The rule of a call, for nesting up to the given depth, where there is room for what references
call. -/
def rule (s : Setting) (depth : Nat) : Call → Rule :=
  ruleOf (fun _ => s.grammar) depth

/-- The rule of a call on the stack, where so many expressions may still be nested. -/
def ruleIn (s : Setting) (depth : Nat) : Call → Rule :=
  ruleOf s.grammarIn depth

/-- What is left of an outcome under a bound on the depth, when so many calls of the rule for
expressions are open at once before it. -/
def within (depth n : Nat) (outcome : Except Fault Step) : Except Halt Step :=
  if n ≤ depth then outcome.mapError .fault else .error (.cut .reading)

theorem within_succ (depth n : Nat) (outcome : Except Fault Step) :
    within (depth + 1) (n + 1) outcome = within depth n outcome := by
  simp only [within, Nat.add_le_add_iff_right]

section Within

variable {depth m : Nat} {t : Traced Step} {k : Step → Traced Step}

/-- A step is followed by what is done behind it, if the bound lets both happen. -/
theorem bind_within (ht : t.result = within depth n (.ok step))
    (hk : (k step).result = within depth m outcome) :
    (t >>= k).result = within depth (max n m) outcome := by
  by_cases hn : n ≤ depth
  · rw [within, if_pos hn] at ht
    rw [Traced.result_bind_of_ok ht, hk, within, within]
    simp only [Nat.max_le, hn, true_and]
  · have hmax : ¬ max n m ≤ depth := fun h => hn (Nat.le_trans (Nat.le_max_left n m) h)
    rw [within, if_neg hn] at ht
    rw [Traced.result_bind_of_error ht, within, if_neg hmax]

/-- A fault is followed by nothing. -/
theorem bind_within_error {e : Fault} (ht : t.result = within depth n (.error e)) :
    (t >>= k).result = within depth n (.error e) := by
  rw [within] at ht ⊢
  split
  · rename_i hn
    rw [if_pos hn] at ht
    exact Traced.result_bind_of_error ht k
  · rename_i hn
    rw [if_neg hn] at ht
    exact Traced.result_bind_of_error ht k

end Within

/-- The rules for a depth come to the result with a call. The loop does so whatever room it has
beyond its tokens. -/
def Yields (s : Setting) (depth : Nat) (c : Call) (tokens : List Text) (f : Option Failure)
    (result : Except Halt Step) : Prop :=
  match c with
  | .factor => (s.operands depth .product tokens f).result = result
  | .chain .product => (s.operands depth .sum tokens f).result = result
  | .chain .sum => (s.expression depth tokens f).result = result
  | .tail rank x => ∀ room, tokens.length ≤ room →
    (FormulaSheet.chain rank (s.operands depth rank) room ⟨x, tokens, f⟩).result = result

theorem yields_call {depth : Nat} {result : Except Halt Step} :
    s.Yields depth rank.call tokens f result ↔
      (s.operands depth rank tokens f).result = result := by
  cases rank <;> exact Iff.rfl

/-- The rule of a chain comes to what the chain of its operands does, one level deeper for an
expression. -/
theorem yields_chain
    (h : ∀ depth, (level rank (s.operands depth rank) tokens f).result = within depth n outcome)
    (depth : Nat) : s.Yields depth (.chain rank) tokens f
      (within depth (n + (Call.chain rank).weight) outcome) := by
  cases rank with
  | product => exact h depth
  | sum =>
    cases depth with
    | zero =>
      have hn : ¬ n + (Call.chain .sum).weight ≤ 0 := Nat.not_succ_le_zero n
      rw [within, if_neg hn]
      exact rfl
    | succ depth =>
      rw [Call.weight, within_succ, ← h depth, ← expression_eq_level]
      exact rfl

/-- A call during which no expression is open ends so at every depth. -/
theorem within_zero (depth : Nat) (outcome : Except Fault Step) :
    within depth 0 outcome = outcome.mapError .fault :=
  if_pos (Nat.zero_le depth)

/-- **The rules compute the runs**: at each depth they come to the outcome of a run, unless more
calls of the rule for expressions are open at once in it. -/
theorem Runs.yields (h : s.Runs c tokens f outcome n) (depth : Nat) :
    s.Yields depth c tokens f (within depth n outcome) := by
  induction h generalizing depth with
  | incomplete =>
    rw [within_zero]
    exact rfl
  | number hx =>
    rw [within_zero]
    simp only [Yields, operands, Grammar.factor, hx]
    rfl
  | @group rest f outcome n _ ih =>
    change (s.operands depth .product ("(" :: rest) f).result = _
    have hbind : s.operands depth .product ("(" :: rest) f =
        s.expression depth rest f >>= fun r => pure r.close := by
      simp only [operands, Grammar.factor, number?_open, if_true, Step.close]
      congr 1
      funext r
      split <;> rfl
    rw [hbind]
    cases outcome with
    | error e => exact bind_within_error (ih depth)
    | ok r =>
      have hclose : (pure r.close : Traced Step).result = within depth 0 (.ok r.close) := by
        rw [within_zero]
        rfl
      have := bind_within (k := fun r => pure r.close) (ih depth) hclose
      rwa [Nat.max_zero] at this
  | label hl hr =>
    rw [within_zero]
    simp only [Yields, operands, Grammar.factor, hl.not_number, if_neg hl.not_open, hl.holds,
      if_true]
    exact (Traced.result_bind_of_ok hr _).trans rfl
  | raise hl hr =>
    rw [within_zero]
    simp only [Yields, operands, Grammar.factor, hl.not_number, if_neg hl.not_open, hl.holds,
      if_true]
    exact Traced.result_bind_of_error hr _
  | invalid hx ho hl =>
    rw [within_zero]
    simp only [Yields, operands, Grammar.factor, hx, if_neg ho, hl]
    rfl
  | chain _ _ ihn ihm =>
    refine yields_chain (fun depth => ?_) depth
    exact bind_within (yields_call.1 (ihn depth)) (ihm depth _ (Nat.le_refl _))
  | chainRaise _ ih =>
    exact yields_chain (fun depth => bind_within_error (yields_call.1 (ih depth))) depth
  | stop hs =>
    intro room _
    rw [within_zero, chain_of_stop hs]
    rfl
  | @more rank x y token rest f op r outcome n m hop hr hx _ ihn ihm =>
    intro room hroom
    obtain ⟨room, rfl⟩ := Nat.exists_eq_add_of_le' (Nat.le_trans (Nat.le_add_left 1 _) hroom)
    have hle : r.rest.length ≤ room :=
      Nat.le_trans (hr.suffix rfl).length_le (Nat.le_of_succ_le_succ hroom)
    rw [chain_of_operator hop]
    refine bind_within (yields_call.1 (ihn depth)) ?_
    simp only [hx]
    exact ihm depth room hle
  | @abandon rank x token rest f op r n hop _ hx ih =>
    intro room hroom
    obtain ⟨room, rfl⟩ := Nat.exists_eq_add_of_le' (Nat.le_trans (Nat.le_add_left 1 _) hroom)
    rw [chain_of_operator hop, ← Nat.max_zero n]
    refine bind_within (yields_call.1 (ih depth)) ?_
    simp only [hx, within_zero]
    rfl
  | moreRaise hop _ ih =>
    intro room hroom
    obtain ⟨room, rfl⟩ := Nat.exists_eq_add_of_le' (Nat.le_trans (Nat.le_add_left 1 _) hroom)
    rw [chain_of_operator hop]
    exact bind_within_error (yields_call.1 (ih depth))

/-- The same of the rules as they are written. -/
theorem Runs.result_rule (h : s.Runs c tokens f outcome n) (depth : Nat) :
    (s.rule depth c tokens f).result = within depth n outcome := by
  have hy := h.yields depth
  have hterm : s.operands depth .sum = term (s.factor (s.expression depth)) :=
    (term_eq_level _).symm
  cases c with
  | factor => exact hy
  | chain rank =>
    cases rank with
    | sum => exact hy
    | product =>
      have h : (s.operands depth .sum tokens f).result = within depth n outcome := hy
      rw [hterm] at h
      exact h
  | tail rank x =>
    have hloop := hy _ (Nat.le_refl _)
    cases rank with
    | sum =>
      rw [hterm, ← sums_eq_chain] at hloop
      exact hloop
    | product =>
      rw [← products_eq_chain] at hloop
      exact hloop

/-- On a stack a call has the outcome of its run, or is cut. -/
theorem Runs.result_ruleIn (h : s.Runs c tokens f outcome n) (depth : Nat) :
    (s.ruleIn depth c tokens f).IsCut ∨
      (s.ruleIn depth c tokens f).result = outcome.mapError .fault := by
  have hg (d : Nat) : (s.grammarIn d).Related (fun {_} => Traced.CutFrom) tokens s.grammar :=
    ⟨rfl, rfl, fun label _ _ => s.referenceIn_cutFrom _ label⟩
  have hi := expressionOf_related_add Traced.cutFrom_relates s.grammarIn (fun _ => s.grammar) n
    (fun _ _ _ => Traced.cutFrom_halt _ _) hg depth
  -- the run needs no more levels than these
  have hresult := h.result_rule (n + depth)
  rw [within, if_pos (Nat.le_add_right n depth)] at hresult
  obtain heq | ⟨hcut, -⟩ := ruleOf_related Traced.cutFrom_relates hi (hg depth) c
    (List.suffix_refl tokens) f
  · exact .inr ((congrArg Traced.result heq).trans hresult)
  · exact .inl hcut

/-- With room for the calls that are open at once, and for what a reference calls beneath them, it
is not cut. -/
theorem Runs.result_ruleIn_of_room (h : s.Runs c tokens f outcome n) {base depth : Nat}
    (hroom : s.HasRoom base) (hd : n ≤ depth) :
    (s.ruleIn (base + depth) c tokens f).result = outcome.mapError .fault := by
  have hg (d : Nat) : s.grammar.Related (fun {_} => Traced.CutFrom) tokens
      (s.grammarIn (base + d)) :=
    ⟨rfl, rfl, fun label _ _ =>
      .inl ((hroom.mono (Nat.le_add_right base d)).referenceIn_eq label).symm⟩
  have hi := expressionOf_related_add Traced.cutFrom_relates (fun _ => s.grammar) s.grammarIn base
    (fun _ _ _ => Traced.cutFrom_halt _ _) hg depth
  have hresult := h.result_rule depth
  rw [within, if_pos hd] at hresult
  have hcut : ¬ (s.rule depth c tokens f).IsCut := by
    rintro ⟨reason, hc⟩
    rw [hresult] at hc
    cases outcome <;> cases hc
  have hrelated := ruleOf_related Traced.cutFrom_relates hi (hg depth) c
    (List.suffix_refl tokens) f
  rw [ruleIn, ← hrelated.eq_of_not_isCut hcut]
  exact hresult

end Setting

/-! ## The rules of an evaluation -/

namespace Evaluator

variable {o : Options} {source : Source} {origin : Option Text} {tokens : List Text}

/-- An evaluation is not cut if there is room for one more expression than it has parentheses that
open and, beneath them, for what a reference calls. -/
theorem not_isCut_of_count {base depth : Nat} (hroom : (setting o source origin).HasRoom base)
    (hb : base + depth = o.stack.levels) (hcount : tokens.count ("(" : Text) + 1 ≤ depth) :
    ¬ (run o source origin tokens).IsCut := by
  obtain ⟨outcome, opens, h⟩ := (setting o source origin).exists_runs (.chain .sum) tokens none
  refine Setting.not_isCut_of_room hb hroom fun ⟨c, hc⟩ => ?_
  have hresult := h.result_rule depth
  rw [Setting.within, if_pos (Nat.le_trans h.opens_le (Nat.add_comm 1 _ ▸ hcount))] at hresult
  cases outcome with
  | ok _ => cases hc.symm.trans hresult
  | error _ => cases hc.symm.trans hresult

/-- Over a sheet there is this room if the calls of the expressions, and those of a reference, find
room on the stack. -/
theorem not_isCut_of_frames (sheet : Sheet) (hsource : source = sheet.source)
    (hframes : Stack.perExpression * (tokens.count ("(" : Text) + 1) +
      max (2 + max 4 o.stack.look) (1 + o.stack.warning) ≤ o.stack.frames) :
    ¬ (run o source origin tokens).IsCut := by
  subst hsource
  generalize hn : tokens.count ("(" : Text) + 1 = n at hframes
  have hlookup := Nat.le_max_left (2 + max 4 o.stack.look) (1 + o.stack.warning)
  have hwarning := Nat.le_max_right (2 + max 4 o.stack.look) (1 + o.stack.warning)
  have hlook := Nat.le_max_right 4 o.stack.look
  -- what the expressions leave of the stack is the room beneath them
  have hlevels : n ≤ o.stack.levels := by
    rw [Stack.levels, Nat.le_div_iff_mul_le (by decide), Nat.mul_comm]
    omega
  have hadd : o.stack.room (o.stack.levels - n) + Stack.perExpression * n = o.stack.frames := by
    rw [← Stack.room_add (by omega : o.stack.look ≤ o.stack.frames) (Nat.sub_le _ n),
      Nat.sub_sub_self hlevels]
  exact not_isCut_of_count (sheet.hasRoom_of_le (by omega) (by omega) origin)
    (Nat.sub_add_cancel hlevels) (Nat.le_of_eq hn)

/-- **Each grammar rule ends and moves on**: called at any position of any tokens, and with any
failure up to there, it comes to an end. Unless a reference among the tokens behind the position
raises a fault, the rule leaves a position that is not before its own, and that is behind it if
there is a token; and no more calls of the rule for expressions are open at once than there are
parentheses that open, and one more. On a stack a rule has this end or is cut; it is not cut if
there is room for so many open calls and, beneath them, for what a reference calls. So a formula is
not cut if there is room for one more expression than it has such parentheses. Over a sheet that is
so if three calls for each of these expressions, and those of a reference, find room on the stack;
and they do, with 200 parentheses that open, where a thousand calls may be open, whatever becomes of
what the event log is told. -/
theorem rule_ends (o : Options) (source : Source) (origin : Option Text) (tokens : List Text) :
    let s := setting o source origin
    (∀ (c : Call) (p : Nat) (f : Option Failure), c.IsRule → p ≤ tokens.length →
      ∃ outcome opens, s.Runs c (tokens.drop p) f outcome opens ∧
        opens ≤ tokens.count ("(" : Text) + 1 ∧
        (∀ depth, (s.ruleIn depth c (tokens.drop p) f).IsCut ∨
          (s.ruleIn depth c (tokens.drop p) f).result = outcome.mapError .fault) ∧
        (∀ base depth, s.HasRoom base → opens ≤ depth →
          (s.ruleIn (base + depth) c (tokens.drop p) f).result = outcome.mapError .fault) ∧
        match outcome with
        | .ok step => ∃ q, step.rest = tokens.drop q ∧ p ≤ q ∧ q ≤ tokens.length ∧
            (p < tokens.length → p < q)
        | .error e => ∃ token ∈ tokens.drop p, IsReference s.labels s.blankIsZero token ∧
            (s.reference token).result = .error (.fault e)) ∧
      (∀ base depth, s.HasRoom base → base + depth = o.stack.levels →
        tokens.count ("(" : Text) + 1 ≤ depth → ¬ (run o source origin tokens).IsCut) ∧
      (∀ sheet : Sheet, source = sheet.source →
        Stack.perExpression * (tokens.count ("(" : Text) + 1) +
          max (2 + max 4 o.stack.look) (1 + o.stack.warning) ≤ o.stack.frames →
        ¬ (run o source origin tokens).IsCut) ∧
      ∀ (sheet : Sheet) (state : LogState), source = sheet.source →
        o.stack = Machine.standard.stack state → tokens.count ("(" : Text) ≤ 200 →
        ¬ (run o source origin tokens).IsCut := by
  intro s
  refine ⟨fun c p f hc hp => ?_, fun _ _ => not_isCut_of_count, not_isCut_of_frames,
    fun sheet state hsource hstack hcount => ?_⟩
  · obtain ⟨outcome, opens, h⟩ := s.exists_runs c (tokens.drop p) f
    have hopens : opens ≤ tokens.count ("(" : Text) + 1 :=
      Nat.le_trans h.opens_le
        (Nat.add_le_add ((List.drop_sublist p tokens).count_le _) c.weight_le_one)
    refine ⟨outcome, opens, h, hopens, h.result_ruleIn, fun base depth hroom hd =>
      h.result_ruleIn_of_room hroom hd, ?_⟩
    cases outcome with
    | error e => exact h.exists_raise rfl
    | ok step =>
      -- what is left is the end of the tokens that has its length
      have hsuffix := h.suffix rfl
      have hlt := h.length_lt rfl hc
      have hle := hsuffix.length_le
      rw [List.length_drop] at hle
      refine ⟨tokens.length - step.rest.length, ?_, by omega, by omega, fun hlt' => ?_⟩
      · exact List.suffix_iff_eq_drop.1 (hsuffix.trans (List.drop_suffix p tokens))
      · have hn : tokens.drop p ≠ [] := fun h => by
          have := List.drop_eq_nil_iff.1 h
          omega
        have := hlt hn
        rw [List.length_drop] at this
        omega
  · have hcosts := Machine.standard.costs.of_le_report state
    refine not_isCut_of_frames sheet hsource ?_
    rw [hstack]
    change 3 * (tokens.count ("(" : Text) + 1) +
      max (2 + max 4 3) (1 + Machine.standard.costs.of state) ≤ 996
    have hreport : Machine.standard.costs.report = 15 := rfl
    omega

/-- In `( 1 +` an operand is missing and a parenthesis that closes. The rule for factors comes to an
end nevertheless, with two expressions open at most, and the evaluation is not cut. -/
theorem rule_ends_of_malformed :
    let s := setting .standard (Sheet.blank .standard).source none
    (∃ outcome opens, s.Runs .factor ["(", "1", "+"] none outcome opens ∧ opens ≤ 2) ∧
    ¬ (run .standard (Sheet.blank .standard).source none ["(", "1", "+"]).IsCut := by
  obtain ⟨hrule, -, -, hshort⟩ :=
    rule_ends .standard (Sheet.blank .standard).source none ["(", "1", "+"]
  obtain ⟨outcome, opens, h, hle, -⟩ := hrule .factor 0 none True.intro (Nat.zero_le _)
  exact ⟨⟨outcome, opens, h, hle⟩, hshort _ .detached rfl rfl (by decide)⟩

end Evaluator

end FormulaSheet
