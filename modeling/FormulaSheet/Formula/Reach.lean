import FormulaSheet.Formula.Source
import FormulaSheet.Formula.Trace

/-!
# Following references

A formula that refers to the cell it belongs to, directly or through the formulas of other cells,
has no value. `reaches` follows the references from a label to see whether one leads to a target. It
keeps the labels still to follow on a stack, looks at each label once, and stops at the first
mention of the target. The walk ends because each stored formula is taken up once.

* `Mentions` and `Source.Leads` say what the walk is to find: a formula mentions a label; references
  lead from one label to another.
* `pending_cons_lt`: taking up a stored label leaves less to follow.
-/

namespace FormulaSheet

namespace LabelClass

/-- The labels among tokens that were not seen, in order; none if one of them is the target. Tokens
behind the target are not looked at. -/
def follow (c : LabelClass) (target : Text) (seen : List Text) :
    List Value → Except Fault (Option (List Text))
  | [] => .ok (some [])
  | token :: tokens =>
    match c.label? token with
    | .error f => .error f
    | .ok none => follow c target seen tokens
    | .ok (some label) =>
      if label = target then .ok none
      else
        (follow c target seen tokens).map fun labels? => labels?.map fun labels =>
          if seen.contains label then labels else label :: labels

/-- Not more labels are followed than there are tokens. -/
theorem length_le_of_follow {c : LabelClass} {target : Text} {seen : List Text}
    {tokens : List Value} {labels : List Text}
    (h : c.follow target seen tokens = .ok (some labels)) : labels.length ≤ tokens.length := by
  induction tokens generalizing labels with
  | nil =>
    simp only [follow, Except.ok.injEq, Option.some.injEq] at h
    simp [← h]
  | cons token tokens ih =>
    rw [follow] at h
    split at h
    · simp at h
    · exact Nat.le_succ_of_le (ih h)
    · split at h
      · simp at h
      · cases ht : c.follow target seen tokens with
        | error f => simp [ht, Except.map] at h
        | ok labels? =>
          cases labels? with
          | none => simp [ht, Except.map] at h
          | some tail =>
            have hl := ih ht
            simp only [ht, Except.map, Option.map_some, Except.ok.injEq, Option.some.injEq] at h
            rw [← h]
            split <;> simp <;> omega

end LabelClass

namespace Source

/-- What is left to follow when some labels were seen: the tokens of the other stored formulas, and
one for each of them. -/
def pending (stored : Register Content) (seen : List Text) : Nat :=
  match stored with
  | [] => 0
  | e :: stored =>
    (if seen.contains e.1 then 0 else e.2.tokenCount + 1) + pending stored seen

theorem pending_cons_le (stored : Register Content) (label : Text) (seen : List Text) :
    pending stored (label :: seen) ≤ pending stored seen := by
  induction stored with
  | nil => exact Nat.le_refl _
  | cons e stored ih =>
    simp only [pending, List.contains_cons]
    by_cases hl : e.1 == label <;> simp [hl] <;> omega

/-- Taking up a stored label leaves less to follow, by its tokens and one. -/
theorem pending_cons_lt {stored : Register Content} {label : Text} {seen : List Text}
    {c : Content} (hs : stored.find? label = some c) (hn : seen.contains label = false) :
    pending stored (label :: seen) + c.tokenCount < pending stored seen := by
  induction stored with
  | nil => simp [Register.find?] at hs
  | cons e stored ih =>
    rw [Register.find?] at hs
    simp only [pending, List.contains_cons]
    split at hs
    · rename_i he
      have := pending_cons_le stored label seen
      cases hs
      simp only [he, beq_self_eq_true, Bool.true_or, if_true, hn, Bool.false_eq_true, if_false]
      omega
    · rename_i he
      have := ih hs
      have hb : (e.1 == label) = false := by simpa using he
      simp only [hb, Bool.false_or]
      omega

set_option linter.unusedVariables false in
/-- Whether references lead to the target from one of the labels on the stack, not counting what
starts at labels that were seen. A label that is refused leads nowhere. -/
def reaches (s : Source) (c : LabelClass) (target : Text) (seen stack : List Text) :
    Traced Bool :=
  match stack with
  | [] => pure false
  | label :: stack =>
    if hn : seen.contains label = true then s.reaches c target seen stack
    else
      match hs : s.stored.find? label with
      | some content =>
        match ht : content.formula.elements with
        | .error f => (Traced.halt (.fault f)).noting (.lookup label)
        | .ok tokens =>
          match hf : c.follow target (label :: seen) tokens with
          | .error f => (Traced.halt (.fault f)).noting (.lookup label)
          | .ok none => (pure true : Traced Bool).noting (.lookup label)
          | .ok (some labels) =>
            (s.reaches c target (label :: seen) (labels.reverse ++ stack)).noting (.lookup label)
      | none =>
        match s.absent label with
        | .error f =>
          if f.isFormulaFault then
            (s.reaches c target (label :: seen) stack).noting (.lookup label)
          else (Traced.halt (.fault f)).noting (.lookup label)
        | .ok () => (s.reaches c target (label :: seen) stack).noting (.lookup label)
termination_by pending s.stored seen + stack.length
decreasing_by
  · simp
  · have h1 := pending_cons_lt hs (by simpa using hn)
    have h2 := LabelClass.length_le_of_follow hf
    simp only [Content.tokenCount, ht] at h1
    simp only [List.length_append, List.length_reverse, List.length_cons]
    omega
  · have := pending_cons_le s.stored label seen
    simp only [List.length_cons]
    omega
  · have := pending_cons_le s.stored label seen
    simp only [List.length_cons]
    omega

/-- The formula at one label mentions another. -/
def Mentions (s : Source) (c : LabelClass) (label other : Text) : Prop :=
  ∃ content tokens, s.lookup label = .ok content ∧ content.formula.elements = .ok tokens ∧
    .str other ∈ tokens ∧ c.holds other = true

/-- References lead from one label to another in one step or more. -/
inductive Leads (s : Source) (c : LabelClass) : Text → Text → Prop where
  /-- the formula mentions it -/
  | mention {label other : Text} : s.Mentions c label other → Leads s c label other
  /-- the formula mentions a label from which references lead there -/
  | step {label via other : Text} :
      s.Mentions c label via → Leads s c via other → Leads s c label other

end Source

end FormulaSheet
