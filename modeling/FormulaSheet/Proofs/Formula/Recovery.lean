import FormulaSheet.Proofs.Formula.Guard
import FormulaSheet.Proofs.Formula.Placement

/-!
# Failures of grammatical formulas

A formula of the grammar can fail while it is evaluated, but it has no error of form, so that it
should not be said to have one. Of the three codes for such errors two are never given. The third
one, for parentheses that are not balanced, is: a division by zero gives up its term in front of the
operators that are left, and in parentheses such an operator stands where they must close.

The tree of a formula and the values that are calculated for its parts tell where this happens
(`Tree.losesClose`).

* `Derives.ends`: a part of a formula is read to its end, or is given up behind a division by zero,
  or has lost a parenthesis;
* `isSyntaxCode_of_isFormula`: a formula of the grammar has the code of an error of form only from a
  cell that it refers to, or as its parentheses were lost;
* `lost_parenthesis`: parentheses that are balanced are said not to be.
-/

namespace FormulaSheet

/-! ## What is calculated -/

namespace Tree

variable (s : Setting)

/-- The value that is calculated for a formula while it is read, whether it can be trusted or
not. -/
def calculated : Tree → Float
  | number token => (Token.number? s.blankIsZero token).getD 0.0
  | label token =>
    match (s.reference token).result with
    | .ok (x, _) => x
    | .error _ => 0.0
  | group inner => inner.calculated
  | operation left op right => (op.combine? left.calculated right.calculated).getD infinity

/-- Whether the formula is an operation that has no value: it ends in a division by zero. -/
def endsInZero : Tree → Bool
  | operation left op right => (op.combine? (left.calculated s) (right.calculated s)).isNone
  | _ => false

/-- Whether the formula is given up before its end: a division by zero, outside of parentheses, is
followed by more operators of its term. -/
def cutsShort : Tree → Bool
  | operation left op right =>
    left.cutsShort || right.cutsShort || (left.endsInZero s && op.rank == .product)
  | _ => false

/-- Whether an expression in parentheses is given up before its end. -/
def losesClose : Tree → Bool
  | group inner => inner.cutsShort s || inner.losesClose
  | operation left _ right => left.losesClose || right.losesClose
  | _ => false

end Tree

section Left

variable {s : Setting} {labels : LabelClass} {blankIsZero : Bool} {rank : Rank} {left t : Tree}
  {us : List Text}

theorem Derives.cutsShort_of_left (h : Derives labels blankIsZero (.tail rank left) us t)
    (hl : left.cutsShort s = true) : t.cutsShort s = true :=
  h.of_left (M := fun x => x.cutsShort s = true) (fun _ _ _ hl => by simp [Tree.cutsShort, hl]) hl

theorem Derives.losesClose_of_left (h : Derives labels blankIsZero (.tail rank left) us t)
    (hl : left.losesClose s = true) : t.losesClose s = true :=
  h.of_left (M := fun x => x.losesClose s = true) (fun _ _ _ hl => by simp [Tree.losesClose, hl]) hl

/-- A factor is not given up. -/
theorem Derives.not_cutsShort_of_factor (h : Derives labels blankIsZero .factor us t) :
    t.cutsShort s = false := by
  cases h <;> rfl

end Left

namespace Setting

/-! ## How a part of a formula ends -/

/-- Where the reading of a part of a formula with the given tree ends, in front of what follows
it. -/
inductive Ended (s : Setting) (t : Tree) (rest : List Text) (step : Step) : Prop
  /-- it was read to its end, and no parenthesis was lost -/
  | whole : step.value = t.calculated s → step.rest = rest → step.failure ≠ some .parentheses →
      Ended s t rest step
  /-- it was given up behind a division by zero, in front of an operator -/
  | cut : t.cutsShort s = true → step.failure = some .divisionByZero →
      Rank.product.continues step.rest = true → Ended s t rest step
  /-- a parenthesis was lost -/
  | astray : t.losesClose s = true → step.failure ≠ none → Ended s t rest step

/-- However the part of a formula that has the tree ends, if no parenthesis was lost before it. The
tail of a chain is read from the value of what stands in front of it. -/
def Ends (s : Setting) (depth : Nat) : Part → List Text → Tree → Prop
  | .factor, ts, t => ∀ ⦃rest f step⦄, f ≠ some .parentheses →
      (s.operands depth .product (ts ++ rest) f).result = .ok step → s.Ended t rest step
  | .chain rank, ts, t => ∀ ⦃rest f step⦄, f ≠ some .parentheses →
      (Part.chain rank).EndsBefore rest →
      (level rank (s.operands depth rank) (ts ++ rest) f).result = .ok step → s.Ended t rest step
  | .tail rank left, ts, t => ∀ ⦃rest f last⦄, f ≠ some .parentheses →
      (Part.chain rank).EndsBefore rest →
      ChainRun rank (s.operands depth rank) ⟨left.calculated s, ts ++ rest, f⟩ last →
      s.Ended t rest last

variable {s : Setting} {depth : Nat}

theorem Ends.operand {rank : Rank} {ts : List Text} {t : Tree}
    (h : s.Ends depth rank.operand ts t) {rest : List Text} {f : Option Failure} {step : Step}
    (hf : f ≠ some .parentheses) (hr : rank.operand.EndsBefore rest)
    (hs : (s.operands depth rank (ts ++ rest) f).result = .ok step) : s.Ended t rest step := by
  cases rank with
  | sum => exact h hf hr hs
  | product => exact h hf hs

/-- A failure does not go away while the operands of a chain are read. -/
theorem operands_sound (s : Setting) (depth : Nat) (rank : Rank) :
    s.Sound s.yield? rank.operand (depth + 1) (s.operands depth rank) := by
  have hf : s.Sound s.yield? .factor (depth + 1) (s.operands depth .product) :=
    factor_sound s.trusts_yield? (expression_sound s.trusts_yield? depth)
  cases rank with
  | product => exact hf
  | sum => exact level_sound (s.operands_shrinks depth .product) hf

theorem failure_ne_none_of_chainRun {rank : Rank} {step last : Step}
    (h : ChainRun rank (s.operands depth rank) step last) (hf : step.failure ≠ none) :
    last.failure ≠ none :=
  fun hl => hf (chainRun_sound (operands_sound s depth rank) h hl).1

/-- In front of an operator of products no sum goes on. -/
theorem not_continues_sum {tokens : List Text} (h : Rank.product.continues tokens = true) :
    Rank.sum.continues tokens = false := by
  cases tokens with
  | nil => rfl
  | cons token rest =>
    obtain ⟨op, hop⟩ := Option.isSome_iff_exists.1
      (show (Rank.product.operator? token).isSome from h)
    obtain ⟨rfl, hrank⟩ := Rank.operator?_eq_some_iff.1 hop
    rw [Rank.continues_token, hrank]
    rfl

/-- **Behind an operand that was given up** the chain ends. -/
theorem ChainRun.of_cut {labels : LabelClass} {blankIsZero : Bool} {rank : Rank}
    {ts : List Text} {t : Tree} (h : Derives labels blankIsZero rank.operand ts t)
    (hc : t.cutsShort s = true) {step last : Step}
    (hr : Rank.product.continues step.rest = true)
    (hrun : ChainRun rank (s.operands depth rank) step last) : step = last := by
  cases rank with
  | sum => exact (ChainRun.stop_iff (not_continues_sum hr)).1 hrun
  | product =>
    rw [Derives.not_cutsShort_of_factor h] at hc
    cases hc

theorem ne_parentheses_of_reference {label : Text} {x : Float} {g : Failure}
    (h : (s.reference label).result = .ok (x, some g)) : g ≠ .parentheses := by
  cases reference_ok_iff.1 h with
  | circular _ => simp
  | unresolved _ _ _ => simp
  | read _ _ hr => rcases Content.failure_of_reading hr with ⟨rfl, -⟩ | ⟨rfl, -⟩ <;> simp

/-! ## Factors -/

theorem number_ends {token : Text} {x : Float}
    (hx : Token.number? s.blankIsZero token = some x) :
    s.Ends depth .factor [token] (.number token) := by
  intro rest f step hf h
  have hstep : (⟨x, rest, f⟩ : Step) = step := by
    simpa [operands, Grammar.factor, hx] using h
  subst hstep
  refine .whole ?_ rfl hf
  rw [Tree.calculated, hx]
  rfl

theorem label_ends {token : Text} (hl : IsReference s.labels s.blankIsZero token) :
    s.Ends depth .factor [token] (.label token) := by
  intro rest f step hf h
  simp only [operands, List.singleton_append, Grammar.factor, hl.not_number, if_neg hl.not_open,
    hl.holds, if_true, Traced.bind_ok_iff, Traced.pure_ok_iff] at h
  obtain ⟨⟨x, g⟩, hr, rfl⟩ := h
  refine .whole ?_ rfl ?_
  · simp only [Tree.calculated, hr]
  · cases g with
    | none => exact hf
    | some g => exact fun hg => ne_parentheses_of_reference hr (Option.some.inj hg)

/-- Parentheses around an expression that is read to its end are closed. If the expression is given
up, they are not. -/
theorem group_ends {ts : List Text} {t : Tree}
    (h : ∀ ⦃rest f step⦄, f ≠ some .parentheses →
      (s.expression depth (ts ++ (")" : Text) :: rest) f).result = .ok step →
        s.Ended t (")" :: rest) step) :
    s.Ends depth .factor ("(" :: (ts ++ [(")" : Text)])) (.group t) := by
  intro rest f step hf hstep
  rw [List.cons_append, List.append_assoc] at hstep
  cases factor_ok_iff.1 hstep with
  | number hx =>
    rw [number?_open] at hx
    cases hx
  | closed hr =>
    cases h hf hr with
    | whole hv hrest hg => exact .whole hv (List.tail_eq_of_cons_eq hrest) hg
    | cut _ _ hrest =>
      rw [Rank.continues_close] at hrest
      cases hrest
    | astray hl hg => exact .astray (by simp [Tree.losesClose, hl]) hg
  | unclosed hr hc =>
    cases h hf hr with
    | whole _ hrest _ =>
      rw [hrest] at hc
      exact absurd rfl hc
    | cut hcut _ _ => exact .astray (by simp [Tree.losesClose, hcut]) (by simp)
    | astray hl _ => exact .astray (by simp [Tree.losesClose, hl]) (by simp)
  | label hl _ => exact absurd rfl hl.not_open
  | invalid _ ho _ => exact absurd rfl ho

end Setting

open Setting

/-- Behind a division by zero a chain has ended, or it is given up. -/
theorem Derives.ended_of_zero {s : Setting} {rank : Rank} {op : Operator} {us rest : List Text}
    {left right t : Tree} (hop : op.rank = rank)
    (h : Derives s.labels s.blankIsZero (.tail rank (.operation left op right)) us t)
    (hz : op.combine? (left.calculated s) (right.calculated s) = none) :
    s.Ended t rest ⟨infinity, us ++ rest, some .divisionByZero⟩ := by
  cases h with
  | stop =>
    refine .whole ?_ rfl (by simp)
    rw [Tree.calculated, hz]
    rfl
  | @more _ op' _ _ _ right' _ hop' _ hu =>
    have hrank : op.rank = .product := by
      cases op with
      | divided => rfl
      | _ => cases hz
    have hcut : (Tree.operation (.operation left op right) op' right').cutsShort s = true := by
      simp [Tree.cutsShort, Tree.endsInZero, hz, hop', ← hop, hrank]
    refine .cut (hu.cutsShort_of_left hcut) rfl ?_
    rw [List.cons_append, Rank.continues_token, hop', ← hop, hrank]
    rfl

/-- **A part of a formula** ends in one of the ways of `Setting.Ended`. -/
theorem Derives.ends {s : Setting} {p : Part} {ts : List Text} {t : Tree}
    (h : Derives s.labels s.blankIsZero p ts t) (depth : Nat) : s.Ends depth p ts t := by
  induction h generalizing depth with
  | number hx => exact number_ends hx
  | @group ts t hd ih =>
    refine group_ends fun rest f step hf hr => ?_
    cases depth with
    | zero => exact absurd hr Traced.halt_ne_ok
    | succ depth =>
      rw [expression_eq_level] at hr
      exact ih depth hf (Part.endsBefore_close _ rest) hr
  | label hl => exact label_ends hl
  | @chain rank ts us left t hd hu iht ihu =>
    intro rest f step hf hr h
    rw [List.append_assoc] at h
    obtain ⟨⟨x, rest', g⟩, h1, hrun⟩ := (level_ok_iff (s.operands_shrinks depth rank)).1 h
    cases (iht depth).operand hf (hu.operand_endsBefore hr) h1 with
    | whole hv hrest hg =>
      obtain rfl : x = left.calculated s := hv
      obtain rfl : rest' = us ++ rest := hrest
      exact ihu depth hg hr hrun
    | cut hc hg hrest =>
      obtain rfl := ChainRun.of_cut hd hc hrest hrun
      exact .cut (hu.cutsShort_of_left hc) hg hrest
    | astray hl hg => exact .astray (hu.losesClose_of_left hl) (failure_ne_none_of_chainRun hrun hg)
  | stop =>
    intro rest f last hf hr h
    cases (ChainRun.stop_iff hr.1).1 h
    exact .whole rfl rfl hf
  | @more rank op ts us left right t hop hd hu iht ihu =>
    intro rest f last hf hr h
    rw [List.cons_append, List.append_assoc] at h
    have htoken : rank.operator? op.token = some op := Rank.operator?_eq_some_iff.2 ⟨rfl, hop⟩
    -- what is true of the right operand is true of the operation, and so of the whole chain
    have hcut (hc : right.cutsShort s = true) : t.cutsShort s = true :=
      hu.cutsShort_of_left (by simp [Tree.cutsShort, hc])
    have hlose (hl : right.losesClose s = true) : t.losesClose s = true :=
      hu.losesClose_of_left (by simp [Tree.losesClose, hl])
    cases h with
    | stop h => simp [Rank.continues_token, hop] at h
    | @more _ y _ _ _ op' r _ ht h1 hx hrun =>
      obtain rfl := Option.some.inj (htoken.symm.trans ht)
      cases (iht depth).operand hf (hu.operand_endsBefore hr) h1 with
      | whole hv hrest hg =>
        obtain rfl : y = (Tree.operation left op right).calculated s := by
          rw [Tree.calculated, ← hv, hx]
          rfl
        rw [hrest] at hrun
        exact ihu depth hg hr hrun
      | cut hc hg hrest =>
        obtain rfl : ⟨y, r.rest, r.failure⟩ = last := ChainRun.of_cut hd hc hrest hrun
        exact .cut (hcut hc) hg hrest
      | astray hl hg => exact .astray (hlose hl) (failure_ne_none_of_chainRun hrun hg)
    | @abandon _ _ _ _ op' r ht h1 hx =>
      obtain rfl := Option.some.inj (htoken.symm.trans ht)
      cases (iht depth).operand hf (hu.operand_endsBefore hr) h1 with
      | whole hv hrest hg =>
        rw [hv] at hx
        rw [hrest]
        exact hu.ended_of_zero hop hx
      | cut hc _ hrest => exact .cut (hcut hc) rfl hrest
      | astray hl _ => exact .astray (hlose hl) (by simp)

/-! ## Whole formulas -/

/-- Tokens that are left over do not count where a formula of the grammar has failed, and without a
failure none are. -/
theorem Setting.Ended.verdict_eq {s : Setting} {t : Tree} {step : Step}
    (h : s.Ended t [] step) : step.verdict = step.failure := by
  have hleft : step.rest = [] ∨ ∃ g, step.failure = some g := by
    cases h with
    | whole _ hrest _ => exact .inl hrest
    | cut _ hg _ => exact .inr ⟨_, hg⟩
    | astray _ hg => exact .inr (Option.ne_none_iff_exists'.1 hg)
  rw [Step.verdict]
  rcases hleft with hrest | ⟨g, hg⟩
  · rw [hrest]
    exact Option.or_none
  · rw [hg]
    rfl

theorem LabelClass.pattern_avoidsSigns : pattern.AvoidsSigns :=
  fun _ h => not_isSign_of_isLabel h

/-- Why a formula of the grammar fails: a parenthesis is not closed, a divisor is zero, or a
reference fails. -/
def Setting.FailsFor (s : Setting) (tokens : List Text) (g : Failure) : Prop :=
  g = .parentheses ∨ g = .divisionByZero ∨
    ∃ label ∈ tokens, s.labels.holds label = true ∧
      ∃ x, (s.reference label).result = .ok (x, some g)

theorem Setting.holdsOfReading_failsFor (s : Setting) (tokens : List Text) :
    s.HoldsOfReading tokens (s.FailsFor tokens) :=
  ⟨.inl rfl, .inr (.inl rfl), fun label x _ hm hl hr => .inr (.inr ⟨label, hm, hl.holds, x, hr⟩)⟩

/-- **A formula of the grammar** is read without being nested too deep. Where it ends the failure is
one of those that a formula of the grammar can have, and it is that of a parenthesis only if one was
lost. -/
theorem Setting.expression_of_isFormula {s : Setting} (hl : s.labels.AvoidsSigns)
    {tokens : List Text} {t : Tree} (hf : IsFormula s.labels s.blankIsZero tokens t) {depth : Nat}
    (hn : t.nesting < depth) :
    ¬ (s.expression depth tokens none).IsCut ∧
      ∀ step, (s.expression depth tokens none).result = .ok step →
        step.verdict = step.failure ∧ (∀ g, step.failure = some g → s.FailsFor tokens g) ∧
          (step.failure = some .parentheses → t.losesClose s = true) := by
  have hall : OperandsFollow s.labels s.blankIsZero tokens := by
    rw [← List.append_nil tokens]
    exact Derives.operandsFollow hl hf trivial
  have hat : s.AtOperand tokens tokens := by
    have hstarts := Derives.startsOperand hf (fun _ _ hp => by cases hp) []
    rw [List.append_nil] at hstarts
    exact ⟨List.suffix_rfl, hstarts⟩
  have hopen : openDepth tokens < depth := by
    have hle := Derives.openDepth_le hl hf []
    rw [List.append_nil, openDepth] at hle
    omega
  refine ⟨expression_fathoms hl hall depth hat hopen none, fun step hr => ?_⟩
  have hended : s.Ended t [] step := by
    cases depth with
    | zero => exact absurd hr Traced.halt_ne_ok
    | succ depth =>
      rw [expression_eq_level] at hr
      refine Derives.ends hf depth (f := none) (by simp) (Part.endsBefore_nil _) ?_
      rwa [List.append_nil]
  refine ⟨hended.verdict_eq, ?_, fun hg => ?_⟩
  · exact (expression_advances hl hall (s.holdsOfReading_failsFor tokens) depth hat hr
      fun g hg => by cases hg).2
  · cases hended with
    | whole _ _ hne => exact absurd hg hne
    | cut _ hz _ =>
      rw [hz] at hg
      cases hg
    | astray hlose _ => exact hlose

/-- The code is one of those that say that a formula is not well formed. -/
def Failure.IsSyntaxCode (code : Value) : Prop :=
  code = invalid.code ∨ code = incomplete.code ∨ code = parentheses.code

/-- A reference that fails with such a code leads to a cell with this code as its error. -/
theorem Sheet.exists_cell_of_reference {sheet : Sheet} {o : Options} {origin : Option Text}
    {label : Text} {x : Float} {g : Failure}
    (h : ((Evaluator.setting o sheet.source origin).reference label).result = .ok (x, some g))
    (hc : Failure.IsSyntaxCode g.code) :
    ∃ cell, sheet.get label = .ok cell ∧ cell.error = g.code := by
  cases Setting.reference_ok_iff.1 h with
  | circular _ => simp [Failure.IsSyntaxCode, Failure.code] at hc
  | unresolved _ _ _ => simp [Failure.IsSyntaxCode, Failure.code] at hc
  | @read c _ _ _ hl hr =>
    obtain ⟨cell, hg, rfl⟩ := sheet.exists_get_of_lookup hl
    rcases Content.failure_of_reading hr with ⟨rfl, -⟩ | ⟨rfl, -⟩
    · simp [Failure.IsSyntaxCode, Failure.code] at hc
    · exact ⟨cell, hg, rfl⟩

/-- **A formula of the grammar** has the code of an error of form only if this is the error that is
stored with a cell that it refers to, or if it is that of parentheses and one of them was lost
behind a division by zero. This is so unless the evaluation is cut, and it is not if there is room
for the nesting of the parentheses and, beneath them, for what a reference calls. -/
theorem isSyntaxCode_of_isFormula {sheet : Sheet} {e : Evaluator} {origin : Option Text}
    {tokens : List Text} {t : Tree} (hl : e.options.labels = .pattern)
    (hf : IsFormula .pattern e.options.blankIsZero tokens t) :
    let s := Evaluator.setting e.options sheet.source origin
    (∀ o, ¬ (s.run tokens).IsCut →
      (e.evaluate sheet.source origin (.list (tokens.map .str))).outcome = .ok o →
      Failure.IsSyntaxCode o.error →
      (∃ label cell, label ∈ tokens ∧ Label.isLabel label = true ∧ sheet.get label = .ok cell ∧
          cell.error = o.error) ∨
        o.error = Failure.parentheses.code ∧ t.losesClose s = true) ∧
    ∀ base depth, base + depth = e.options.stack.levels → s.HasRoom base → t.nesting < depth →
      ¬ (s.run tokens).IsCut := by
  intro s
  rw [← hl] at hf
  have havoid : s.labels.AvoidsSigns := by
    rw [show s.labels = .pattern from hl]
    exact LabelClass.pattern_avoidsSigns
  refine ⟨fun o hcut h hc => ?_, fun base depth hb hroom hn =>
    Setting.not_isCut_of_room hb hroom (Setting.expression_of_isFormula havoid hf hn).1⟩
  rw [Evaluator.evaluate_texts] at h
  cases hr : (s.run tokens).result with
  | error halt =>
    cases halt with
    | cut c => exact absurd ⟨c, hr⟩ hcut
    | fault f =>
      rw [Evaluator.evaluateTokens_of_fault hf.ne_nil hr] at h
      cases h
  | ok step =>
    -- with more levels than the nesting takes, the rule ends in the same place
    have hn : t.nesting < t.nesting + 1 + s.stack.levels :=
      Nat.lt_add_right _ (Nat.lt_succ_self _)
    obtain ⟨hverdict, hfails, hlose⟩ :=
      (Setting.expression_of_isFormula havoid hf hn).2 step (Setting.expression_of_run hr _)
    rw [Evaluator.evaluateTokens_of_step hf.ne_nil hr] at h
    have ho : o.error = Failure.codeOf step.failure := by
      rw [← hverdict]
      exact congrArg Outcome.error (Evaluator.outcome_conclude rfl h)
    rw [ho] at hc ⊢
    cases hg : step.failure with
    | none =>
      rw [hg] at hc
      simp [Failure.IsSyntaxCode, Failure.codeOf, Failure.code] at hc
    | some g =>
      rw [hg] at hc
      rcases hfails g hg with rfl | rfl | ⟨label, hm, hlabel, x, href⟩
      · exact .inr ⟨rfl, hlose hg⟩
      · simp [Failure.IsSyntaxCode, Failure.codeOf, Failure.code] at hc
      · obtain ⟨cell, hcell, herror⟩ := Sheet.exists_cell_of_reference href hc
        have hpattern : LabelClass.pattern.holds label = true := hl ▸ hlabel
        exact .inl ⟨label, cell, hm, hpattern, hcell, herror⟩

/-- A sheet in which `A1` has the error of a formula that is not valid. -/
def Sheet.invalidInA1 : Sheet :=
  (blank .standard).put "A1" ⟨[.str "1"], 0.0, Failure.invalid.code⟩ Grid.standard_admits_first

/-- The code of a cell that is referred to is passed on. -/
theorem isSyntaxCode_of_reference :
    ((Evaluator.ofOptions .standard).evaluate Sheet.invalidInA1.source none
        (.list ([("A1" : Text)].map .str))).outcome = .ok ⟨0.0, Failure.invalid.code⟩ ∧
      ∃ label cell, label ∈ [("A1" : Text)] ∧ Label.isLabel label = true ∧
        Sheet.invalidInA1.get label = .ok cell ∧ cell.error = Failure.invalid.code := by
  have hl : IsReference .pattern false "A1" := .of_isLabel rfl
  have hd : Derives .pattern false Rank.product.operand ["A1"] (.label "A1") := .label hl
  have ht : Derives .pattern false Rank.sum.operand ["A1"] (.label "A1") := .chain hd .stop
  have hf : IsFormula .pattern false ["A1"] (.label "A1") := .chain ht .stop
  have ho : ((Evaluator.ofOptions .standard).evaluate Sheet.invalidInA1.source none
      (.list ([("A1" : Text)].map .str))).outcome = .ok ⟨0.0, Failure.invalid.code⟩ := by rfl
  refine ⟨ho, ?_⟩
  obtain ⟨hcode, hdeep⟩ := @isSyntaxCode_of_isFormula Sheet.invalidInA1
    (Evaluator.ofOptions .standard) none _ _ rfl hf
  have hroom := Sheet.invalidInA1.hasRoom_of_standard (o := .standard) rfl none
  rcases hcode _ (hdeep 1 330 rfl hroom (by decide)) ho (.inl rfl) with h | ⟨h, -⟩
  · exact h
  · exact absurd h (by simp [Failure.code])

/-- **A parenthesis can be lost**: the parentheses of this formula are balanced and well placed, and
it refers to no cell, but its error says that they are not. -/
theorem lost_parenthesis :
    (∃ t, IsFormula .pattern false ["(", "0", "/", "0", "*", "0", ")"] t ∧
      t.nesting = 1) ∧
    (∀ token ∈ [("(" : Text), "0", "/", "0", "*", "0", ")"], Label.isLabel token = false) ∧
    ((Evaluator.ofOptions .standard).evaluate (Sheet.blank .standard).source none
        (.list ([("(" : Text), "0", "/", "0", "*", "0", ")"].map .str))).outcome =
      .ok ⟨infinity, Failure.parentheses.code⟩ := by
  have divided : Operator.divided.rank = .product := rfl
  have times : Operator.times.rank = .product := rfl
  have h0 : Token.number? false "0" = some 0.0 := rfl
  have hz : Derives .pattern false Rank.product.operand ["0"] (.number "0") := .number h0
  have ht : Derives .pattern false Rank.sum.operand ["0", "/", "0", "*", "0"]
      (.operation (.operation (.number "0") .divided (.number "0")) .times (.number "0")) :=
    .chain hz (.more divided hz (.more times hz .stop))
  have hg : Derives .pattern false Rank.product.operand ["(", "0", "/", "0", "*", "0", ")"]
      (.group (.operation (.operation (.number "0") .divided (.number "0")) .times
        (.number "0"))) := .group (.chain ht .stop)
  have hs : Derives .pattern false Rank.sum.operand ["(", "0", "/", "0", "*", "0", ")"] _ :=
    .chain hg .stop
  exact ⟨⟨_, .chain hs .stop, by decide⟩, by decide, rfl⟩

end FormulaSheet
