import FormulaSheet.Proofs.Formula.Grammar

/-!
# The rules read the grammar

The evaluation reads on after a failure, passes over tokens and gives up divisions. This module
shows that none of this makes it accept what the grammar does not have, and that it loses nothing:

* `expression_sound`: what the rule for expressions reads without a failure is an expression, and
  its value is that of the tree;
* `Derives.reads`: an expression that has a value is read without a failure, with that value, up to
  where it ends.

Both are about a setting in which the references with a value are given (`Setting.Trusts`).
-/

namespace FormulaSheet

namespace Setting

/-- The rule for the operands of a chain, for parentheses up to the given depth inside of it. -/
def operands (s : Setting) (depth : Nat) : Rank → Rule
  | .product => s.factor (s.expression depth)
  | .sum => level .product (s.factor (s.expression depth))

theorem expression_eq_level (s : Setting) (depth : Nat) :
    s.expression (depth + 1) = level .sum (s.operands depth .sum) :=
  s.expression_eq depth

theorem operands_shrinks (s : Setting) (depth : Nat) (rank : Rank) :
    (s.operands depth rank).Shrinks := by
  have hf : (s.factor (s.expression depth)).Shrinks := factor_shrinks (expression_shrinks depth)
  cases rank with
  | sum => exact level_shrinks hf
  | product => exact hf

/-- The references that yield a value without a failure are those with a value according to
`label?`, and they yield that value. -/
def Trusts (s : Setting) (label? : Text → Option Float) : Prop :=
  ∀ label x, (s.reference label).result = .ok (x, none) ↔ label? label = some x

/-- What a reference yields, if it does not fail. -/
def yield? (s : Setting) (label : Text) : Option Float :=
  match (s.reference label).result with
  | .ok (x, none) => some x
  | _ => none

theorem trusts_yield? (s : Setting) : s.Trusts s.yield? := by
  intro label x
  rw [yield?]
  constructor
  · intro h
    rw [h]
  · intro h
    split at h
    · rename_i hr
      rw [hr, Option.some.inj h]
    · cases h

variable (s : Setting) (label? : Text → Option Float)

/-- The value of a tree in a setting with the given references. -/
def treeValue? (t : Tree) : Option Float :=
  t.value? (Token.number? s.blankIsZero) label?

/-! ## What is read without a failure is grammatical -/

/-- A part of a formula stands in front of the rest of the tokens. It has the given value, and its
parentheses are nested less deep than the bound. -/
def Stands (p : Part) (bound : Nat) (tokens rest : List Text) (x : Float) : Prop :=
  ∃ ts t, tokens = ts ++ rest ∧ Derives s.labels s.blankIsZero p ts t ∧ t.nesting < bound ∧
    s.treeValue? label? t = some x

/-- Where the rule ends without a failure there was none before, and it has read a part of a formula
with the value that it gives. -/
def Sound (p : Part) (bound : Nat) (r : Rule) : Prop :=
  ∀ ⦃tokens failure step⦄, (r tokens failure).result = .ok step → step.failure = none →
    failure = none ∧ s.Stands label? p bound tokens step.rest step.value

variable {s label?}

theorem factor_sound (ht : s.Trusts label?) {bound : Nat} {inner : Rule}
    (hi : s.Sound label? (.chain .sum) bound inner) :
    s.Sound label? .factor (bound + 1) (s.factor inner) := by
  intro tokens failure step h hf
  cases factor_ok_iff.1 h with
  | incomplete => cases hf
  | @number token rest f x hx =>
    exact ⟨hf, [token], .number token, rfl, .number hx, Nat.succ_pos _, hx⟩
  | @closed rest rest' f g x hr =>
    obtain ⟨hf, ts, t, hts, hd, hn, hv⟩ := hi hr hf
    refine ⟨hf, "(" :: (ts ++ [(")" : Text)]), .group t, ?_, .group hd, Nat.succ_lt_succ hn, hv⟩
    rw [hts, List.cons_append, List.append_assoc]
    rfl
  | unclosed _ _ => cases hf
  | @label token rest f g x hl hr =>
    obtain ⟨rfl, rfl⟩ : g = none ∧ failure = none := by
      cases g with
      | none => exact ⟨rfl, hf⟩
      | some g => cases hf
    exact ⟨rfl, [token], .label token, rfl, .label hl, Nat.succ_pos _, (ht token x).1 hr⟩
  | invalid _ _ _ => cases hf

theorem chainRun_sound {rank : Rank} {bound : Nat} {operand : Rule}
    (ho : s.Sound label? rank.operand bound operand) {step last : Step}
    (h : ChainRun rank operand step last) (hf : last.failure = none) :
    step.failure = none ∧ ∀ left, left.nesting < bound →
      s.treeValue? label? left = some step.value →
        ∃ us t, step.rest = us ++ last.rest ∧
          Derives s.labels s.blankIsZero (.tail rank left) us t ∧ t.nesting < bound ∧
          s.treeValue? label? t = some last.value := by
  induction h with
  | @stop step _ => exact ⟨hf, fun left hn hv => ⟨[], left, rfl, .stop, hn, hv⟩⟩
  | @more x y token rest failure op r last hop hr hx _ ih =>
    obtain ⟨htok, hrank⟩ := Rank.operator?_eq_some_iff.1 hop
    obtain ⟨hrf, ih⟩ := ih hf
    obtain ⟨hf0, ts, right, rfl, hd, hn, hv⟩ := ho hr hrf
    refine ⟨hf0, fun left hln hlv => ?_⟩
    -- the operation up to here stands on the left of what follows
    have hval : s.treeValue? label? (.operation left op right) = some y := by
      rw [treeValue?, Tree.value?]
      exact Option.bind_eq_some_iff.2 ⟨x, hlv, Option.bind_eq_some_iff.2 ⟨_, hv, hx⟩⟩
    have hln' : (Tree.operation left op right).nesting < bound := Nat.max_lt.2 ⟨hln, hn⟩
    obtain ⟨us, t, hus, hdt, hnt, hvt⟩ := ih _ hln' hval
    refine ⟨op.token :: (ts ++ us), t, ?_, .more hrank hd hdt, hnt, hvt⟩
    rw [htok, List.cons_append, List.append_assoc, ← hus]
  | abandon _ _ _ => cases hf

theorem level_sound {rank : Rank} {bound : Nat} {operand : Rule} (hs : operand.Shrinks)
    (ho : s.Sound label? rank.operand bound operand) :
    s.Sound label? (.chain rank) bound (level rank operand) := by
  intro tokens failure step h hf
  obtain ⟨first, hr, hc⟩ := (level_ok_iff hs).1 h
  obtain ⟨hf1, hc⟩ := chainRun_sound ho hc hf
  obtain ⟨hf0, ts, left, rfl, hd, hn, hv⟩ := ho hr hf1
  obtain ⟨us, t, hus, hdt, hnt, hvt⟩ := hc left hn hv
  refine ⟨hf0, ts ++ us, t, ?_, .chain hd hdt, hnt, hvt⟩
  rw [List.append_assoc, ← hus]

/-- **What the rule for expressions reads without a failure is an expression.** -/
theorem expression_sound (ht : s.Trusts label?) (depth : Nat) :
    s.Sound label? (.chain .sum) depth (s.expression depth) := by
  induction depth with
  | zero =>
    intro tokens failure step h
    exact absurd h Traced.halt_ne_ok
  | succ depth ih =>
    have hf : s.Sound label? .factor (depth + 1) (s.operands depth .product) := factor_sound ht ih
    rw [expression_eq_level]
    exact level_sound (s.operands_shrinks depth .sum)
      (level_sound (s.operands_shrinks depth .product) hf)

/-! ## What is grammatical and has a value is read -/

/-- The rule reads the given tokens without a failure, and ends with the value where the rest
starts. -/
def ReadsBy (r : Rule) (ts rest : List Text) (x : Float) : Prop :=
  (r (ts ++ rest) none).result = .ok ⟨x, rest, none⟩

variable (s label?)

/-- The part of a formula that has the tree is read whatever follows it, as long as the part can end
there. The tail of a chain is read from the value of what stands in front of it. -/
def Reads (depth : Nat) : Part → List Text → Tree → Prop
  | .factor, ts, t => ∀ ⦃x rest⦄, s.treeValue? label? t = some x →
      ReadsBy (s.operands depth .product) ts rest x
  | .chain rank, ts, t => ∀ ⦃x rest⦄, s.treeValue? label? t = some x →
      (Part.chain rank).EndsBefore rest → ReadsBy (level rank (s.operands depth rank)) ts rest x
  | .tail rank left, ts, t => ∀ ⦃x y rest⦄, s.treeValue? label? left = some x →
      s.treeValue? label? t = some y → (Part.chain rank).EndsBefore rest →
      ChainRun rank (s.operands depth rank) ⟨x, ts ++ rest, none⟩ ⟨y, rest, none⟩

variable {s label?}

/-- An operand that is read is read by the rule for operands. -/
theorem Reads.operand {depth : Nat} {rank : Rank} {ts : List Text} {t : Tree}
    (h : s.Reads label? depth rank.operand ts t) {x : Float} {rest : List Text}
    (hx : s.treeValue? label? t = some x) (hr : rank.operand.EndsBefore rest) :
    ReadsBy (s.operands depth rank) ts rest x := by
  cases rank with
  | sum => exact h hx hr
  | product => exact h hx

end Setting

open Setting

/-- **An expression that has a value is read**, if its parentheses are not nested too deep. -/
theorem Derives.reads {s : Setting} {label? : Text → Option Float} (ht : s.Trusts label?)
    {p : Part} {ts : List Text} {t : Tree} (h : Derives s.labels s.blankIsZero p ts t)
    {depth : Nat} (hn : t.nesting ≤ depth) : s.Reads label? depth p ts t := by
  induction h generalizing depth with
  | number hx =>
    intro x rest hv
    rw [Option.some.inj (hx.symm.trans hv)] at hx
    exact factor_ok_iff.2 (.number hx)
  | @group ts t hd ih =>
    intro x rest hv
    cases depth with
    | zero => exact absurd hn (Nat.not_succ_le_zero _)
    | succ depth =>
      have hr := ih (Nat.le_of_succ_le_succ hn) hv (Part.endsBefore_close (.chain .sum) rest)
      refine factor_ok_iff.2 ?_
      rw [List.cons_append, List.append_assoc]
      exact .closed (by rw [expression_eq_level]; exact hr)
  | label hl =>
    intro x rest hv
    have hr : (s.grammar.reference _).result = .ok (x, none) := (ht _ x).2 hv
    exact factor_ok_iff.2 (.label hl hr)
  | @chain rank ts us left t hd hu iht ihu =>
    intro y rest hv hr
    obtain ⟨x, hx⟩ := hu.exists_left hv
    have hl := (iht (Nat.le_trans hu.nesting_le hn)).operand hx (hu.operand_endsBefore hr)
    refine (level_ok_iff (s.operands_shrinks depth rank)).2 ⟨_, ?_, ihu hn hx hv hr⟩
    rw [List.append_assoc]
    exact hl
  | stop =>
    intro x y rest hx hy hr
    rw [Option.some.inj (hx.symm.trans hy)]
    exact .stop hr.1
  | @more rank op ts us left right t hop hd hu iht ihu =>
    intro x y rest hx hv hr
    -- the value in front of the rest of the tail is that of the operation on this operand
    obtain ⟨z, hz⟩ := hu.exists_left hv
    obtain ⟨x', hx', hz'⟩ := Option.bind_eq_some_iff.1 hz
    obtain ⟨w, hw, hz'⟩ := Option.bind_eq_some_iff.1 hz'
    obtain rfl := Option.some.inj (hx.symm.trans hx')
    have hnr : right.nesting ≤ depth :=
      Nat.le_trans (Nat.le_max_right _ _) (Nat.le_trans hu.nesting_le hn)
    have hl := (iht hnr).operand hw (hu.operand_endsBefore hr)
    rw [List.cons_append, List.append_assoc]
    exact .more (Rank.operator?_eq_some_iff.2 ⟨rfl, hop⟩) hl hz' (ihu hn hz hv hr)

end FormulaSheet
