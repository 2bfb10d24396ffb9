import FormulaSheet.Proofs.Formula.Chain

/-!
# The grammar of formulas

The grammar is stated here on its own, without the rules that evaluate. `Derives` says which tokens
are a factor, a term or an expression, and gives the tree of the formula with it:

    expression := term { ("+" | "-") term }
    term       := factor { ("*" | "/") factor }
    factor     := number | "(" expression ")" | label

A chain grows to the right while its tree grows to the left: the part that follows an operand is
derived for the tree of what stands in front of it. The tree is therefore the reading from left to
right, and its value (`Tree.value?`) is made of the same operations in the same order.

* `Derives.unique`: a formula has no more than one tree. What stands behind an operand decides
  whether the chain goes on, and a factor ends where it ends.
* `Derives.of_left`: the tree in front of the tail of a chain becomes the left operand again and
  again, so that, for one, the value of a chain is made from the value of what stands in front.
* `Derives.mem_labels`: every token of a formula that is neither a number nor a sign is one of its
  references.
-/

namespace FormulaSheet

/-! ## Trees -/

/-- The tree of a formula. -/
inductive Tree where
  /-- a number, by its token -/
  | number (token : Text)
  /-- a reference, by its label -/
  | label (token : Text)
  /-- an expression in parentheses -/
  | group (inner : Tree)
  /-- an operation on two operands -/
  | operation (left : Tree) (op : Operator) (right : Tree)
  deriving DecidableEq, Repr

namespace Tree

/-- How deep parentheses are nested. -/
def nesting : Tree → Nat
  | number _ | label _ => 0
  | group inner => inner.nesting + 1
  | operation left _ right => max left.nesting right.nesting

/-- The labels of the references of a formula. -/
def labels : Tree → List Text
  | number _ => []
  | label token => [token]
  | group inner => inner.labels
  | operation left _ right => left.labels ++ right.labels

/-- The value of a formula, given the values of its numbers and references. There is none if one of
them has none, or if a divisor is zero. -/
def value? (number? label? : Text → Option Float) : Tree → Option Float
  | number token => number? token
  | label token => label? token
  | group inner => inner.value? number? label?
  | operation left op right => do
    let x ← left.value? number? label?
    let y ← right.value? number? label?
    op.combine? x y

/-- A formula that has a value is made of references that have one. -/
theorem exists_of_mem_labels {number? label? : Text → Option Float} {t : Tree} {v : Float}
    (hv : t.value? number? label? = some v) {token : Text} (hm : token ∈ t.labels) :
    ∃ x, label? token = some x := by
  induction t generalizing v with
  | number token' => cases hm
  | label token' =>
    obtain rfl := List.mem_singleton.1 hm
    exact ⟨v, hv⟩
  | group inner ih => exact ih hv hm
  | operation left op right ihl ihr =>
    obtain ⟨x, hx, hv⟩ := Option.bind_eq_some_iff.1 hv
    obtain ⟨y, hy, -⟩ := Option.bind_eq_some_iff.1 hv
    rcases List.mem_append.1 hm with hm | hm
    · exact ihl hx hm
    · exact ihr hy hm

end Tree

/-! ## Derivations -/

/-- The parts that formulas are made of. -/
inductive Part where
  /-- a number, a reference or an expression in parentheses -/
  | factor
  /-- an expression or a term -/
  | chain (rank : Rank)
  /-- what follows in a chain, behind what has the given tree -/
  | tail (rank : Rank) (left : Tree)

/-- The operands of a chain. -/
def Rank.operand : Rank → Part
  | sum => .chain .product
  | product => .factor

theorem Rank.operand_ne_tail (rank rank' : Rank) (left : Tree) :
    rank.operand ≠ .tail rank' left := by
  cases rank <;> simp [operand]

/-- Tokens are a part of a formula that has a tree. -/
inductive Derives (labels : LabelClass) (blankIsZero : Bool) : Part → List Text → Tree → Prop
  /-- a number is a factor -/
  | number {token : Text} {x : Float} : Token.number? blankIsZero token = some x →
      Derives labels blankIsZero .factor [token] (.number token)
  /-- an expression in parentheses is a factor -/
  | group {ts : List Text} {t : Tree} : Derives labels blankIsZero (.chain .sum) ts t →
      Derives labels blankIsZero .factor ("(" :: (ts ++ [(")" : Text)])) (.group t)
  /-- a label is a factor -/
  | label {token : Text} : IsReference labels blankIsZero token →
      Derives labels blankIsZero .factor [token] (.label token)
  /-- a chain is an operand and what follows it -/
  | chain {rank : Rank} {ts us : List Text} {left t : Tree} :
      Derives labels blankIsZero rank.operand ts left →
      Derives labels blankIsZero (.tail rank left) us t →
      Derives labels blankIsZero (.chain rank) (ts ++ us) t
  /-- nothing may follow -/
  | stop {rank : Rank} {left : Tree} : Derives labels blankIsZero (.tail rank left) [] left
  /-- an operator and an operand may follow, and more behind them -/
  | more {rank : Rank} {op : Operator} {ts us : List Text} {left right t : Tree} :
      op.rank = rank → Derives labels blankIsZero rank.operand ts right →
      Derives labels blankIsZero (.tail rank (.operation left op right)) us t →
      Derives labels blankIsZero (.tail rank left) (op.token :: (ts ++ us)) t

/-- **The whole token list is an expression**, with the given tree. -/
def IsFormula (labels : LabelClass) (blankIsZero : Bool) (tokens : List Text) (t : Tree) : Prop :=
  Derives labels blankIsZero (.chain .sum) tokens t

variable {labels : LabelClass} {blankIsZero : Bool}

/-- **The tree in front of the tail of a chain** becomes the left operand again and again. What an
operation takes over from its left operand, the whole chain takes over from it. -/
theorem Derives.of_left {rank : Rank} {left t : Tree} {us : List Text} {M : Tree → Prop}
    (h : Derives labels blankIsZero (.tail rank left) us t)
    (hM : ∀ left op right, M left → M (.operation left op right)) (hl : M left) : M t := by
  generalize hp : Part.tail rank left = p at h
  induction h generalizing left with
  | stop =>
    cases hp
    exact hl
  | more _ _ _ _ ih =>
    cases hp
    exact ih (hM _ _ _ hl) rfl
  | number _ => cases hp
  | group _ _ => cases hp
  | label _ => cases hp
  | chain _ _ _ _ => cases hp

theorem Derives.nesting_le {rank : Rank} {left t : Tree} {us : List Text}
    (h : Derives labels blankIsZero (.tail rank left) us t) : left.nesting ≤ t.nesting :=
  h.of_left (M := fun x => left.nesting ≤ x.nesting)
    (fun _ _ _ hl => Nat.le_trans hl (Nat.le_max_left _ _)) (Nat.le_refl _)

/-- What stands in front of the tail of a chain has a value if the whole chain has. -/
theorem Derives.exists_left {rank : Rank} {left t : Tree} {us : List Text}
    {number? label? : Text → Option Float} {v : Float}
    (h : Derives labels blankIsZero (.tail rank left) us t)
    (hv : t.value? number? label? = some v) : ∃ x, left.value? number? label? = some x := by
  refine h.of_left (M := fun t => ∀ v, t.value? number? label? = some v →
    ∃ x, left.value? number? label? = some x) (fun l op r ih v hv => ?_) (fun v hv => ⟨v, hv⟩) v hv
  obtain ⟨x, hx, -⟩ := Option.bind_eq_some_iff.1 hv
  exact ih x hx

/-! ## No token is left out -/

/-- The labels in front of the tail of a chain are among those of the whole chain. -/
theorem Derives.labels_subset {rank : Rank} {left t : Tree} {us : List Text}
    (h : Derives labels blankIsZero (.tail rank left) us t) : left.labels ⊆ t.labels :=
  h.of_left (M := fun x => left.labels ⊆ x.labels)
    (fun _ _ _ hl => List.Subset.trans hl (List.subset_append_left _ _)) (List.Subset.refl _)

/-- The token is an operator or a parenthesis. -/
def IsSign (token : Text) : Prop :=
  token = "(" ∨ token = ")" ∨ ∃ op : Operator, token = op.token

/-- **Every token of a formula** that is neither a number nor a sign is the label of a reference. -/
theorem Derives.mem_labels {p : Part} {ts : List Text} {t : Tree}
    (h : Derives labels blankIsZero p ts t) {token : Text} (hm : token ∈ ts)
    (hn : Token.number? blankIsZero token = none) (hs : ¬ IsSign token) : token ∈ t.labels := by
  induction h with
  | number hx =>
    obtain rfl := List.mem_singleton.1 hm
    rw [hn] at hx
    cases hx
  | group _ ih =>
    rcases List.mem_cons.1 hm with ho | hm
    · exact absurd (.inl ho) hs
    rcases List.mem_append.1 hm with hm | hc
    · exact ih hm
    · exact absurd (.inr (.inl (List.mem_singleton.1 hc))) hs
  | label _ => exact hm
  | chain _ hu iht ihu =>
    rcases List.mem_append.1 hm with hm | hm
    · exact hu.labels_subset (iht hm)
    · exact ihu hm
  | stop => cases hm
  | more _ _ hu iht ihu =>
    rcases List.mem_cons.1 hm with ho | hm
    · exact absurd (.inr (.inr ⟨_, ho⟩)) hs
    rcases List.mem_append.1 hm with hm | hm
    · exact hu.labels_subset (List.mem_append_right _ (iht hm))
    · exact ihu hm

/-! ## A formula has one tree -/

/-- The part can end in front of the tokens: no operator follows with which it would go on. -/
def Part.EndsBefore : Part → List Text → Prop
  | .factor, _ => True
  | .chain rank, rest | .tail rank _, rest =>
    rank.continues rest = false ∧ Rank.product.continues rest = false

theorem Rank.continues_token (rank : Rank) (op : Operator) (rest : List Text) :
    rank.continues (op.token :: rest) = decide (op.rank = rank) := by
  cases rank <;> cases op <;> rfl

theorem Rank.continues_close (rank : Rank) (rest : List Text) :
    rank.continues (")" :: rest) = false := by
  cases rank <;> rfl

theorem Part.endsBefore_nil (p : Part) : p.EndsBefore [] := by
  cases p with
  | factor => trivial
  | chain rank => exact ⟨rfl, rfl⟩
  | tail rank left => exact ⟨rfl, rfl⟩

theorem Part.endsBefore_close (p : Part) (rest : List Text) : p.EndsBefore (")" :: rest) := by
  cases p with
  | factor => trivial
  | chain rank => exact ⟨rank.continues_close rest, Rank.continues_close _ rest⟩
  | tail rank left => exact ⟨rank.continues_close rest, Rank.continues_close _ rest⟩

/-- An operand ends where the chain goes on, and where it ends. -/
theorem Derives.operand_endsBefore {rank : Rank} {left t : Tree} {us rest : List Text}
    (h : Derives labels blankIsZero (.tail rank left) us t)
    (hr : (Part.chain rank).EndsBefore rest) :
    rank.operand.EndsBefore (us ++ rest) := by
  cases h with
  | stop =>
    cases rank with
    | sum => exact ⟨hr.2, hr.2⟩
    | product => trivial
  | more hop _ _ =>
    cases rank with
    | sum =>
      rw [List.cons_append]
      exact ⟨by rw [Rank.continues_token, hop]; rfl, by rw [Rank.continues_token, hop]; rfl⟩
    | product => trivial

theorem Operator.token_injective {op op' : Operator} (h : op.token = op'.token) : op = op' := by
  revert h
  cases op <;> cases op' <;> decide

/-- **A formula has one tree.** If parts of one kind stand at the start of the same tokens, and each
of them can end where it ends, they are the same tokens and have the same tree. -/
theorem Derives.unique {p : Part} {ts ts' rest rest' : List Text} {t t' : Tree}
    (h : Derives labels blankIsZero p ts t) (h' : Derives labels blankIsZero p ts' t')
    (he : ts ++ rest = ts' ++ rest') (hr : p.EndsBefore rest) (hr' : p.EndsBefore rest') :
    ts = ts' ∧ t = t' := by
  -- by the first derivation: the first token tells which kind of factor the second one reads
  induction h generalizing ts' rest rest' t' with
  | number hx =>
    cases h' with
    | number _ =>
      cases he
      exact ⟨rfl, rfl⟩
    | group _ =>
      cases he
      rw [number?_open] at hx
      cases hx
    | label hl =>
      cases he
      rw [hl.not_number] at hx
      cases hx
  | @group ts t _ ih =>
    cases h' with
    | number hx =>
      cases he
      rw [number?_open] at hx
      cases hx
    | @group ts' t' hi =>
      simp only [List.cons_append, List.cons.injEq, true_and, List.append_assoc] at he
      obtain ⟨rfl, rfl⟩ := ih hi he (Part.endsBefore_close _ _) (Part.endsBefore_close _ _)
      exact ⟨rfl, rfl⟩
    | label hl =>
      cases he
      exact absurd rfl hl.not_open
  | label hl =>
    cases h' with
    | number hx =>
      cases he
      rw [hl.not_number] at hx
      cases hx
    | group _ =>
      cases he
      exact absurd rfl hl.not_open
    | label _ =>
      cases he
      exact ⟨rfl, rfl⟩
  | chain _ hu iht ihu =>
    cases h' with
    | chain ht' hu' =>
      rw [List.append_assoc, List.append_assoc] at he
      obtain ⟨rfl, rfl⟩ := iht ht' he (hu.operand_endsBefore hr) (hu'.operand_endsBefore hr')
      obtain ⟨rfl, rfl⟩ := ihu hu' (List.append_cancel_left he) hr hr'
      exact ⟨rfl, rfl⟩
  | stop =>
    cases h' with
    | stop => exact ⟨rfl, rfl⟩
    | more hop _ _ =>
      -- the first chain would end in front of an operator of its own
      rw [List.nil_append] at he
      rw [he] at hr
      simp [Part.EndsBefore, Rank.continues_token, hop] at hr
  | more hop _ hu iht ihu =>
    cases h' with
    | stop =>
      rw [List.nil_append] at he
      rw [← he] at hr'
      simp [Part.EndsBefore, Rank.continues_token, hop] at hr'
    | more hop' ht' hu' =>
      rw [List.cons_append, List.cons_append, List.append_assoc, List.append_assoc,
        List.cons.injEq] at he
      obtain ⟨htok, he⟩ := he
      obtain rfl := Operator.token_injective htok
      obtain ⟨rfl, rfl⟩ := iht ht' he (hu.operand_endsBefore hr) (hu'.operand_endsBefore hr')
      obtain ⟨rfl, rfl⟩ := ihu hu' (List.append_cancel_left he) hr hr'
      exact ⟨rfl, rfl⟩

/-- Two trees of one token list are the same. -/
theorem IsFormula.unique {tokens : List Text} {t t' : Tree}
    (h : IsFormula labels blankIsZero tokens t) (h' : IsFormula labels blankIsZero tokens t') :
    t = t' :=
  (Derives.unique h h' rfl (Part.endsBefore_nil _) (Part.endsBefore_nil _)).2

end FormulaSheet
