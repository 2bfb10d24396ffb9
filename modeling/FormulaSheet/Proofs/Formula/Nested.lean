import FormulaSheet.Proofs.Formula.Room

/-!
# Labels in parentheses

A label that stands in parentheses is read as the reference to it. The parentheses add nothing to
this but the calls of the expressions in them, and so they take of the room that is left for what
the reference calls. Each pair of them takes that of one expression.

* `expressionOf_inParentheses`: a label in parentheses comes to what the reference does;
* `Setting.run_inParentheses`: so it does on a stack, with the room that the parentheses leave.
-/

namespace FormulaSheet

instance : LawfulMonad Traced :=
  LawfulMonad.mk' Traced
    (fun t => by
      obtain ⟨notes, result⟩ := t
      cases result with
      | error h => rfl
      | ok a => exact congrArg (Traced.mk · _) (List.append_nil notes))
    (fun _ _ => rfl)
    (fun t f g => by
      obtain ⟨notes, result⟩ := t
      cases result with
      | error h => rfl
      | ok a =>
        rw [Traced.bind_ok, Traced.bind_ok]
        cases hf : (f a).result with
        | error h => simp only [bind, Traced.bind, hf]
        | ok b => simp only [bind, Traced.bind, hf, List.append_assoc])

/-! ## What ends an expression -/

/-- There is no token, or one that closes a parenthesis. -/
def Closes (rest : List Text) : Prop :=
  rest = [] ∨ rest.head? = some (")" : Text)

theorem Closes.not_continues {rest : List Text} (h : Closes rest) (rank : Rank) :
    rank.continues rest = false := by
  obtain rfl | h := h
  · rfl
  · rw [Rank.continues, h]
    cases rank <;> rfl

/-- A chain ends behind its first operand where none of its operators follows. -/
theorem level_of_stop {α : Type} {rank : Rank} {operand : Rule} {tokens : List Text}
    {failure : Option Failure} {t : Traced α} {f : α → Step}
    (h : operand tokens failure = t >>= fun a => pure (f a))
    (hstop : ∀ a, rank.continues (f a).rest = false) :
    level rank operand tokens failure = t >>= fun a => pure (f a) := by
  have hchain (a : α) :
      (pure (f a) >>= fun step : Step => chain rank operand step.rest.length step) =
      pure (f a) := by
    rw [pure_bind, chain_of_stop (hstop a)]
  rw [level, h, bind_assoc]
  exact bind_congr hchain

/-! ## Labels in parentheses -/

/-- A label in so many pairs of parentheses. -/
def inParentheses : Nat → Text → List Text
  | 0, label => [label]
  | n + 1, label => "(" :: (inParentheses n label ++ [(")" : Text)])

variable {g : Nat → Grammar} {labels : LabelClass} {blankIsZero : Bool} {label : Text}

/-- **A label in parentheses** comes to what the reference does, beneath the expressions that the
parentheses open. -/
theorem expressionOf_inParentheses (hl : IsReference labels blankIsZero label)
    (hg : ∀ depth, (g depth).labels = labels ∧ (g depth).blankIsZero = blankIsZero) (depth n : Nat)
    (rest : List Text) (hrest : Closes rest) (failure : Option Failure) :
    expressionOf g (depth + 1 + n) (inParentheses n label ++ rest) failure =
      (g depth).reference label >>= fun r => pure ⟨r.1, rest, r.2.or failure⟩ := by
  have hstop (rank : Rank) (r : Float × Option Failure) :
      rank.continues (⟨r.1, rest, r.2.or failure⟩ : Step).rest = false := hrest.not_continues rank
  induction n generalizing rest with
  | zero =>
    obtain ⟨hlabels, hblank⟩ := hg depth
    have hfactor : (g depth).factor (expressionOf g depth) (label :: rest) failure =
        (g depth).reference label >>= fun r => pure ⟨r.1, rest, r.2.or failure⟩ := by
      simp only [Grammar.factor, hlabels, hblank, hl.not_number, if_neg hl.not_open, hl.holds,
        if_true]
    rw [Nat.add_zero, expressionOf_eq]
    exact level_of_stop (level_of_stop hfactor (hstop .product)) (hstop .sum)
  | succ n ih =>
    have hclose : Closes ((")" : Text) :: rest) := .inr rfl
    have hinner := ih _ hclose fun rank r => hclose.not_continues rank
    have hfactor : (g (depth + 1 + n)).factor (expressionOf g (depth + 1 + n))
        ("(" :: (inParentheses n label ++ (")" : Text) :: rest)) failure =
        (g depth).reference label >>= fun r => pure ⟨r.1, rest, r.2.or failure⟩ := by
      simp only [Grammar.factor, number?_open, if_true, hinner, bind_assoc, pure_bind,
        List.head?_cons, List.tail_cons]
    rw [← Nat.add_assoc, expressionOf_eq, inParentheses, List.cons_append, List.append_assoc]
    exact level_of_stop (level_of_stop hfactor (hstop .product)) (hstop .sum)

/-- **On a stack** a label in parentheses comes to what the reference does with the room that the
parentheses leave. -/
theorem Setting.run_inParentheses (s : Setting) (hl : IsReference s.labels s.blankIsZero label)
    (depth : Nat) {n : Nat} (hn : depth + 1 + n = s.stack.levels) :
    s.run (inParentheses n label) =
      s.referenceIn (s.stack.room depth) label >>= fun r => pure ⟨r.1, [], r.2⟩ := by
  have h := expressionOf_inParentheses (g := s.grammarIn) hl (fun _ => ⟨rfl, rfl⟩) depth n []
    (.inl rfl) none
  simp only [hn, List.append_nil, Option.or_none] at h
  exact h

/-- Besides the label there are no labels among the tokens. -/
theorem eq_label_of_mem_inParentheses {n : Nat} {token : Text} (hm : token ∈ inParentheses n label)
    (hl : Label.isLabel token = true) : token = label := by
  induction n with
  | zero => exact List.mem_singleton.1 hm
  | succ n ih =>
    rw [inParentheses, List.mem_cons, List.mem_append, List.mem_singleton] at hm
    obtain rfl | hm | rfl := hm
    · cases hl
    · exact ih hm
    · cases hl

theorem inParentheses_ne_nil (n : Nat) (label : Text) : inParentheses n label ≠ [] := by
  cases n <;> exact List.cons_ne_nil _ _

end FormulaSheet
