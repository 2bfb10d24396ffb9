import FormulaSheet.Proofs.Formula.Outcome
import FormulaSheet.Proofs.Formula.Record

/-!
# Where operands are read

The evaluation of a formula reads on after it has failed, and what it reads then need not be what
the grammar has in that place: a division by zero gives up its term in front of an operator, and a
parenthesis that is not closed passes over a token. Two things survive. An operand is read only at
the start of the formula, behind a parenthesis that opens, and behind an operator, and in a formula
of the grammar an operand starts in each of these places. And no part that is read leaves more
parentheses open than there were.

* `Derives.operandsFollow`, `Derives.openDepth_le`: what the grammar says about these places, and
  about how many parentheses are open at once;
* `expression_advances`: the failures of a formula in which operands follow are a parenthesis that
  is not closed, a division by zero, and the failures of its references;
* `expression_fathoms`: the rule is not cut, wherever it goes on.
-/

namespace FormulaSheet

/-! ## Signs -/

theorem number?_close (blankIsZero : Bool) : Token.number? blankIsZero ")" = none := by
  cases blankIsZero <;> decide

theorem number?_operator (blankIsZero : Bool) (op : Operator) :
    Token.number? blankIsZero op.token = none := by
  cases op <;> cases blankIsZero <;> decide

theorem not_isSign_of_number {blankIsZero : Bool} {token : Text} {x : Float}
    (h : Token.number? blankIsZero token = some x) : ¬ IsSign token := by
  rintro (rfl | rfl | ⟨op, rfl⟩)
  · rw [number?_open] at h
    cases h
  · rw [number?_close] at h
    cases h
  · rw [number?_operator] at h
    cases h

/-- No sign counts as a label. -/
def LabelClass.AvoidsSigns (labels : LabelClass) : Prop :=
  ∀ ⦃token⦄, labels.holds token = true → ¬ IsSign token

theorem Operator.token_ne_open (op : Operator) : op.token ≠ "(" := by
  cases op <;> decide

theorem Operator.token_ne_close (op : Operator) : op.token ≠ ")" := by
  cases op <;> decide

/-! ## Places of operands -/

/-- An operand must stand behind the token. -/
def AsksForOperand (token : Text) : Prop :=
  token = "(" ∨ ∃ op : Operator, token = op.token

theorem AsksForOperand.isSign {token : Text} (h : AsksForOperand token) : IsSign token :=
  h.elim .inl fun h => .inr (.inr h)

section Places

variable (labels : LabelClass) (blankIsZero : Bool)

/-- The tokens start with an operand: with a number, with a parenthesis that opens, or with a
label. -/
def StartsOperand : List Text → Prop
  | [] => False
  | token :: _ =>
    (∃ x, Token.number? blankIsZero token = some x) ∨ token = "(" ∨
      IsReference labels blankIsZero token

/-- An operand starts wherever one must stand behind a token. -/
def OperandsFollow : List Text → Prop
  | [] => True
  | token :: rest =>
    (AsksForOperand token → StartsOperand labels blankIsZero rest) ∧ OperandsFollow rest

end Places

/-- The most parentheses that are open at once when the tokens are read. -/
def openDepth : List Text → Nat
  | [] => 0
  | token :: rest =>
    if token = "(" then openDepth rest + 1
    else if token = ")" then openDepth rest - 1
    else openDepth rest

theorem openDepth_open (rest : List Text) : openDepth ("(" :: rest) = openDepth rest + 1 :=
  rfl

theorem openDepth_close (rest : List Text) : openDepth (")" :: rest) = openDepth rest - 1 :=
  rfl

theorem openDepth_cons {token : Text} (ho : token ≠ "(") (hc : token ≠ ")")
    (rest : List Text) : openDepth (token :: rest) = openDepth rest := by
  rw [openDepth, if_neg ho, if_neg hc]

theorem openDepth_cons_of_not_isSign {token : Text} (h : ¬ IsSign token) (rest : List Text) :
    openDepth (token :: rest) = openDepth rest :=
  openDepth_cons (fun ho => h (.inl ho)) (fun hc => h (.inr (.inl hc))) rest

/-- Passing over a token that closes nothing leaves no more parentheses open. -/
theorem openDepth_tail_le {tokens : List Text} (h : tokens.head? ≠ some (")" : Text)) :
    openDepth tokens.tail ≤ openDepth tokens := by
  cases tokens with
  | nil => exact Nat.le_refl _
  | cons token rest =>
    have hc : token ≠ ")" := fun hc => h (by rw [hc]; rfl)
    by_cases ho : token = "("
    · rw [ho, openDepth_open]
      exact Nat.le_succ _
    · rw [openDepth_cons ho hc]
      exact Nat.le_refl _

section Grammar

variable {labels : LabelClass} {blankIsZero : Bool} {p : Part} {ts : List Text} {t : Tree}

/-- A part of a formula starts with an operand, unless it is the tail of a chain. -/
theorem Derives.startsOperand (h : Derives labels blankIsZero p ts t)
    (hp : ∀ rank left, p ≠ .tail rank left) (us : List Text) :
    StartsOperand labels blankIsZero (ts ++ us) := by
  induction h generalizing us with
  | number hx => exact .inl ⟨_, hx⟩
  | group _ _ => exact .inr (.inl rfl)
  | label hl => exact .inr (.inr hl)
  | @chain rank _ _ _ _ _ _ iht _ =>
    rw [List.append_assoc]
    exact iht rank.operand_ne_tail _
  | stop => exact absurd rfl (hp _ _)
  | more _ _ _ _ _ => exact absurd rfl (hp _ _)

/-- **In a part of a formula** operands follow where they must. -/
theorem Derives.operandsFollow (hl : labels.AvoidsSigns) (h : Derives labels blankIsZero p ts t)
    {us : List Text} (hus : OperandsFollow labels blankIsZero us) :
    OperandsFollow labels blankIsZero (ts ++ us) := by
  induction h generalizing us with
  | number hx => exact ⟨fun ha => absurd ha.isSign (not_isSign_of_number hx), hus⟩
  | @group ts t hd ih =>
    have hclose : OperandsFollow labels blankIsZero (")" :: us) := by
      refine ⟨fun ha => ?_, hus⟩
      rcases ha with ha | ⟨op, ha⟩
      · exact absurd ha (by decide)
      · exact absurd ha.symm op.token_ne_close
    rw [List.cons_append, List.append_assoc]
    exact ⟨fun _ => hd.startsOperand (fun _ _ hp => by cases hp) _, ih hclose⟩
  | label hr => exact ⟨fun ha => absurd ha.isSign (hl hr.holds), hus⟩
  | chain _ _ iht ihu =>
    rw [List.append_assoc]
    exact iht (ihu hus)
  | stop => exact hus
  | @more rank _ _ _ _ _ _ _ hd _ iht ihu =>
    rw [List.cons_append, List.append_assoc]
    exact ⟨fun _ => hd.startsOperand rank.operand_ne_tail _, iht (ihu hus)⟩

/-- **A part of a formula** opens no more parentheses at once than its tree is nested. -/
theorem Derives.openDepth_le (hl : labels.AvoidsSigns) (h : Derives labels blankIsZero p ts t)
    (us : List Text) : openDepth (ts ++ us) ≤ max t.nesting (openDepth us) := by
  induction h generalizing us with
  | number hx =>
    rw [List.singleton_append, openDepth_cons_of_not_isSign (not_isSign_of_number hx)]
    exact Nat.le_max_right _ _
  | group _ ih =>
    have := ih (")" :: us)
    rw [List.cons_append, List.append_assoc, openDepth_open, Tree.nesting]
    rw [openDepth_close] at this
    simp only [List.cons_append, List.nil_append]
    omega
  | label hr =>
    rw [List.singleton_append, openDepth_cons_of_not_isSign (hl hr.holds)]
    exact Nat.le_max_right _ _
  | @chain _ ts' us' _ _ _ hu iht ihu =>
    have h1 := iht (us' ++ us)
    have h2 := ihu us
    have h3 := hu.nesting_le
    rw [List.append_assoc]
    omega
  | stop => exact Nat.le_max_right _ _
  | @more _ op ts' us' _ _ _ _ _ hu iht ihu =>
    have h1 := iht (us' ++ us)
    have h2 := ihu us
    have h3 := hu.nesting_le
    rw [List.cons_append, List.append_assoc, openDepth_cons op.token_ne_open op.token_ne_close]
    rw [Tree.nesting] at h3
    omega

end Grammar

/-! ## What the rules keep -/

theorem OperandsFollow.of_suffix {labels : LabelClass} {blankIsZero : Bool} {all : List Text}
    (h : OperandsFollow labels blankIsZero all) {token : Text} {rest : List Text}
    (hs : token :: rest <:+ all) (ha : AsksForOperand token) :
    StartsOperand labels blankIsZero rest := by
  induction all with
  | nil => cases List.suffix_nil.1 hs
  | cons first all ih =>
    rcases List.suffix_cons_iff.1 hs with he | hs
    · cases he
      exact h.1 ha
    · exact ih h.2 hs

namespace Setting

/-- The tokens are the end of a formula, from where an operand starts. -/
structure AtOperand (s : Setting) (all tokens : List Text) : Prop where
  suffix : tokens <:+ all
  starts : StartsOperand s.labels s.blankIsZero tokens

/-- Where an operand starts, the rule leaves no more parentheses open than there are in what it is
given, and the failure behind it has a property if the one in front of it has. -/
def Advances (s : Setting) (all : List Text) (P : Failure → Prop) (r : Rule) : Prop :=
  ∀ ⦃tokens failure step⦄, s.AtOperand all tokens → (r tokens failure).result = .ok step →
    (∀ g, failure = some g → P g) →
    openDepth step.rest ≤ openDepth tokens ∧ ∀ g, step.failure = some g → P g

/-- What is true of a parenthesis that is not closed, of a division by zero, and of the failures of
the references of a formula. -/
structure HoldsOfReading (s : Setting) (all : List Text) (P : Failure → Prop) : Prop where
  parentheses : P .parentheses
  divisionByZero : P .divisionByZero
  reference : ∀ ⦃label x g⦄, label ∈ all → IsReference s.labels s.blankIsZero label →
    (s.reference label).result = .ok (x, some g) → P g

variable {s : Setting} {all : List Text} {P : Failure → Prop}

theorem atOperand_of_suffix (hall : OperandsFollow s.labels s.blankIsZero all) {token : Text}
    {rest : List Text} (hs : token :: rest <:+ all) (ha : AsksForOperand token) :
    s.AtOperand all rest :=
  ⟨(List.suffix_cons _ _).trans hs, hall.of_suffix hs ha⟩

theorem asksForOperand_of_operator {rank : Rank} {token : Text} {op : Operator}
    (h : rank.operator? token = some op) : AsksForOperand token :=
  .inr ⟨op, (Rank.operator?_eq_some_iff.1 h).1.symm⟩

theorem openDepth_operator {rank : Rank} {token : Text} {op : Operator}
    (h : rank.operator? token = some op) (rest : List Text) :
    openDepth (token :: rest) = openDepth rest := by
  obtain ⟨rfl, -⟩ := Rank.operator?_eq_some_iff.1 h
  exact openDepth_cons op.token_ne_open op.token_ne_close rest

theorem chainRun_advances (hall : OperandsFollow s.labels s.blankIsZero all)
    (hP : s.HoldsOfReading all P) {rank : Rank} {operand : Rule} (hs : operand.Shrinks)
    (ho : s.Advances all P operand) {step last : Step} (h : ChainRun rank operand step last)
    (hsuffix : step.rest <:+ all) (hf : ∀ g, step.failure = some g → P g) :
    openDepth last.rest ≤ openDepth step.rest ∧ ∀ g, last.failure = some g → P g := by
  induction h with
  | stop _ => exact ⟨Nat.le_refl _, hf⟩
  | @more _ _ token rest failure op r last hop hr _ _ ih =>
    have hat := atOperand_of_suffix hall hsuffix (asksForOperand_of_operator hop)
    obtain ⟨hd, hrf⟩ := ho hat hr hf
    obtain ⟨hd', hlf⟩ := ih ((hs hr).trans hat.suffix) hrf
    rw [openDepth_operator hop]
    exact ⟨Nat.le_trans hd' hd, hlf⟩
  | @abandon _ token rest failure op r hop hr _ =>
    have hat := atOperand_of_suffix hall hsuffix (asksForOperand_of_operator hop)
    rw [openDepth_operator hop]
    refine ⟨(ho hat hr hf).1, fun g hg => ?_⟩
    cases hg
    exact hP.divisionByZero

theorem level_advances (hall : OperandsFollow s.labels s.blankIsZero all)
    (hP : s.HoldsOfReading all P) {rank : Rank} {operand : Rule} (hs : operand.Shrinks)
    (ho : s.Advances all P operand) : s.Advances all P (level rank operand) := by
  intro tokens failure last hat h hf
  obtain ⟨first, hr, hc⟩ := (level_ok_iff hs).1 h
  obtain ⟨hd, hrf⟩ := ho hat hr hf
  obtain ⟨hd', hlf⟩ := chainRun_advances hall hP hs ho hc ((hs hr).trans hat.suffix) hrf
  exact ⟨Nat.le_trans hd' hd, hlf⟩

theorem factor_advances (hl : s.labels.AvoidsSigns)
    (hall : OperandsFollow s.labels s.blankIsZero all) (hP : s.HoldsOfReading all P) {inner : Rule}
    (hi : s.Advances all P inner) : s.Advances all P (s.factor inner) := by
  intro tokens failure step hat h hf
  cases factor_ok_iff.1 h with
  | incomplete => exact absurd hat.starts id
  | number hx =>
    rw [openDepth_cons_of_not_isSign (not_isSign_of_number hx)]
    exact ⟨Nat.le_refl _, hf⟩
  | @closed rest rest' f g x hr =>
    obtain ⟨hd, hg⟩ := hi (atOperand_of_suffix hall hat.suffix (.inl rfl)) hr hf
    rw [openDepth_close] at hd
    have hd' : openDepth rest' ≤ openDepth rest + 1 := by omega
    exact ⟨hd', hg⟩
  | @unclosed rest f r hr hc =>
    obtain ⟨hd, -⟩ := hi (atOperand_of_suffix hall hat.suffix (.inl rfl)) hr hf
    have hd' : openDepth r.rest.tail ≤ openDepth rest + 1 :=
      Nat.le_succ_of_le (Nat.le_trans (openDepth_tail_le hc) hd)
    refine ⟨hd', fun g hg => ?_⟩
    cases hg
    exact hP.parentheses
  | @label token rest f g x href hr =>
    rw [openDepth_cons_of_not_isSign (hl href.holds)]
    refine ⟨Nat.le_refl _, fun g' hg' => ?_⟩
    cases g with
    | none => exact hf g' hg'
    | some g =>
      cases hg'
      exact hP.reference (hat.suffix.subset List.mem_cons_self) href hr
  | invalid hx ho hh =>
    rcases hat.starts with ⟨x, hs⟩ | hs | hs
    · rw [hx] at hs
      cases hs
    · exact absurd hs ho
    · rw [hs.holds] at hh
      cases hh

/-- **Where operands follow**, the failures of the rule for expressions are those of parentheses, of
divisions and of references. -/
theorem expression_advances (hl : s.labels.AvoidsSigns)
    (hall : OperandsFollow s.labels s.blankIsZero all) (hP : s.HoldsOfReading all P)
    (depth : Nat) : s.Advances all P (s.expression depth) := by
  induction depth with
  | zero =>
    intro tokens failure step _ h
    exact absurd h Traced.halt_ne_ok
  | succ depth ih =>
    rw [expression_eq]
    have hs : (s.factor (s.expression depth)).Shrinks := factor_shrinks (expression_shrinks depth)
    exact level_advances hall hP (level_shrinks hs)
      (level_advances hall hP hs (factor_advances hl hall hP ih))

/-! ## Nesting -/

theorem not_isCut_composes : Traced.Composes fun {_} t => ¬ t.IsCut where
  pure _ := Traced.not_isCut_pure
  bind := Traced.not_isCut_bind
  circular _ _ ht := ht

theorem not_isCut_reference (label : Text) : ¬ (s.reference label).IsCut := by
  refine reference_of_composes not_isCut_composes (fun _ => Source.not_isCut_reaches _ _)
    not_isCut_fetch fun c _ => ?_
  rw [Traced.ofExcept.eq_def]
  split
  · exact Traced.not_isCut_pure
  · exact Traced.not_isCut_fault

/-- Where an operand starts and less parentheses are open at once than the bound, the rule is not
cut. -/
def Fathoms (s : Setting) (all : List Text) (bound : Nat) (r : Rule) : Prop :=
  ∀ ⦃tokens⦄, s.AtOperand all tokens → openDepth tokens < bound → ∀ failure,
    ¬ (r tokens failure).IsCut

/-- Nothing need be true of failures for a rule not to open parentheses. -/
theorem holdsOfReading_true : s.HoldsOfReading all fun _ => True :=
  ⟨trivial, trivial, fun _ _ _ _ _ _ => trivial⟩

theorem not_isCut_chain (hall : OperandsFollow s.labels s.blankIsZero all) {rank : Rank}
    {operand : Rule} (hs : operand.Shrinks) (ha : s.Advances all (fun _ => True) operand)
    {bound : Nat} (ho : s.Fathoms all bound operand) (n : Nat) {step : Step}
    (hsuffix : step.rest <:+ all) (hd : openDepth step.rest < bound) :
    ¬ (chain rank operand n step).IsCut := by
  induction n generalizing step with
  | zero => exact Traced.not_isCut_pure
  | succ n ih =>
    rcases step with ⟨x, tokens, failure⟩
    cases tokens with
    | nil => exact Traced.not_isCut_pure
    | cons token rest =>
      cases hop : rank.operator? token with
      | none =>
        simp only [chain, hop]
        exact Traced.not_isCut_pure
      | some op =>
        have hat := atOperand_of_suffix hall hsuffix (asksForOperand_of_operator hop)
        have hd' : openDepth rest < bound := openDepth_operator hop rest ▸ hd
        rw [chain_of_operator hop]
        refine Traced.not_isCut_bind (ho hat hd' failure) fun r hr => ?_
        split
        · exact ih ((hs hr).trans hat.suffix)
            (Nat.lt_of_le_of_lt (ha hat hr fun _ _ => trivial).1 hd')
        · exact Traced.not_isCut_pure

theorem level_fathoms (hall : OperandsFollow s.labels s.blankIsZero all) {rank : Rank}
    {operand : Rule} (hs : operand.Shrinks) (ha : s.Advances all (fun _ => True) operand)
    {bound : Nat} (ho : s.Fathoms all bound operand) :
    s.Fathoms all bound (level rank operand) := by
  intro tokens hat hd failure
  refine Traced.not_isCut_bind (ho hat hd failure) fun first hr => ?_
  exact not_isCut_chain hall hs ha ho _ ((hs hr).trans hat.suffix)
    (Nat.lt_of_le_of_lt (ha hat hr fun _ _ => trivial).1 hd)

theorem factor_fathoms (hall : OperandsFollow s.labels s.blankIsZero all) {bound : Nat}
    {inner : Rule} (hi : s.Fathoms all bound inner) :
    s.Fathoms all (bound + 1) (s.factor inner) := by
  intro tokens hat hd failure
  cases tokens with
  | nil => exact Traced.not_isCut_pure
  | cons token rest =>
    rw [factor, Grammar.factor]
    cases Token.number? s.blankIsZero token with
    | some x => exact Traced.not_isCut_pure
    | none =>
      by_cases ho : token = "("
      · subst ho
        have hat' := atOperand_of_suffix hall hat.suffix (.inl rfl)
        simp only [if_true]
        refine Traced.not_isCut_bind (hi hat' (Nat.lt_of_succ_lt_succ hd) failure) fun r _ => ?_
        split <;> exact Traced.not_isCut_pure
      · simp only [if_neg ho]
        split
        · exact Traced.not_isCut_bind (not_isCut_reference token) fun _ _ =>
            Traced.not_isCut_pure
        · exact Traced.not_isCut_pure

/-- **Where operands follow** and less parentheses are open at once than the depth of the rule for
expressions, it is not cut. -/
theorem expression_fathoms (hl : s.labels.AvoidsSigns)
    (hall : OperandsFollow s.labels s.blankIsZero all) (depth : Nat) :
    s.Fathoms all depth (s.expression depth) := by
  induction depth with
  | zero => exact fun _ _ hd => absurd hd (Nat.not_lt_zero _)
  | succ depth ih =>
    have hs : (s.factor (s.expression depth)).Shrinks := factor_shrinks (expression_shrinks depth)
    have hi : s.Advances all (fun _ => True) (s.expression depth) :=
      expression_advances hl hall holdsOfReading_true depth
    have ha : s.Advances all (fun _ => True) (s.factor (s.expression depth)) :=
      factor_advances hl hall holdsOfReading_true hi
    rw [expression_eq]
    exact level_fathoms hall (level_shrinks hs) (level_advances hall holdsOfReading_true hs ha)
      (level_fathoms hall hs ha (factor_fathoms hall ih))

end Setting

end FormulaSheet
