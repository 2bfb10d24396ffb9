import FormulaSheet.Formula.Reach
import FormulaSheet.Proofs.Formula.Chain
import FormulaSheet.Proofs.Result

/-!
# The walk along references

The walk takes up one label after the other until it finds the target or has nothing left. Here it
gets its two laws: `reaches_cons` says what one step does, in terms of what taking up a label yields
(`Source.expand`), and `walk_induction` is the induction over its steps. Neither the stack nor the
measure by which the walk ends shows in the proofs that use them.

* `not_leads_of_reaches`: a walk that ends without having found the target shows that no references
  lead there. The invariant is about paths that avoid the labels that were seen
  (`Source.LeadsAvoiding`): if a path to the target goes through the label that is taken up, what
  follows its last visit there avoids it as well.
* `SameFormulas.reaches_eq`: the walk depends on formulas and refusals only.
-/

namespace FormulaSheet

/-! ## The labels that are followed -/

namespace LabelClass

variable {c : LabelClass} {target : Text} {seen : List Text}

/-- Only a text counts as a label. -/
theorem label?_eq_some_iff {token : Value} {label : Text} :
    c.label? token = .ok (some label) ↔ token = .str label ∧ c.holds label = true := by
  constructor
  · intro h
    rw [label?.eq_def] at h
    split at h
    · split at h
      · rename_i hl
        cases h
        exact ⟨rfl, hl⟩
      · cases h
    · split at h <;> cases h
  · rintro ⟨rfl, hl⟩
    simp [label?, hl]

/-- What following the labels of tokens does with the first token: it is passed over, or it is a
label other than the target, and is followed unless it was seen. -/
theorem follow_cons_ok {token : Value} {tokens : List Value} {labels : List Text}
    (h : c.follow target seen (token :: tokens) = .ok (some labels)) :
    c.label? token = .ok none ∧ c.follow target seen tokens = .ok (some labels) ∨
      ∃ label more, c.label? token = .ok (some label) ∧ label ≠ target ∧
        c.follow target seen tokens = .ok (some more) ∧
        labels = if seen.contains label then more else label :: more := by
  rw [follow] at h
  cases ht : c.label? token with
  | error f => simp [ht] at h
  | ok label? =>
    cases label? with
    | none =>
      simp only [ht] at h
      exact .inl ⟨rfl, h⟩
    | some label =>
      simp only [ht] at h
      split at h
      · cases h
      · rename_i hne
        obtain ⟨found, hf, h⟩ := map_eq_ok_iff.1 h
        obtain ⟨more, rfl, hl⟩ := Option.map_eq_some_iff.1 h
        exact .inr ⟨label, more, rfl, hne, hf, hl.symm⟩

/-- If the target is not among the tokens, it is none of their labels, and every label that was not
seen is followed. -/
theorem mem_follow {tokens : List Value} {labels : List Text}
    (h : c.follow target seen tokens = .ok (some labels)) {label : Text}
    (hm : .str label ∈ tokens) (hl : c.holds label = true) :
    label ≠ target ∧ (label ∉ seen → label ∈ labels) := by
  induction tokens generalizing labels with
  | nil => cases hm
  | cons token tokens ih =>
    rcases List.mem_cons.1 hm with rfl | hm
    · have hs : c.label? (.str label) = .ok (some label) := label?_eq_some_iff.2 ⟨rfl, hl⟩
      rcases follow_cons_ok h with ⟨ht, -⟩ | ⟨other, more, ht, hne, -, rfl⟩
      · rw [hs] at ht
        cases ht
      · rw [hs] at ht
        cases ht
        refine ⟨hne, fun hn => ?_⟩
        rw [if_neg (by simpa using hn)]
        exact List.mem_cons_self
    · rcases follow_cons_ok h with ⟨-, hf⟩ | ⟨other, more, -, -, hf, rfl⟩
      · exact ih hf hm
      · obtain ⟨he, hn⟩ := ih hf hm
        refine ⟨he, fun hs => ?_⟩
        split
        · exact hn hs
        · exact List.mem_cons_of_mem _ (hn hs)

/-- What is followed is among the tokens. -/
theorem mem_of_follow {tokens : List Value} {labels : List Text}
    (h : c.follow target seen tokens = .ok (some labels)) {label : Text} (hm : label ∈ labels) :
    .str label ∈ tokens ∧ c.holds label = true := by
  induction tokens generalizing labels with
  | nil =>
    cases h
    cases hm
  | cons token tokens ih =>
    rcases follow_cons_ok h with ⟨-, hf⟩ | ⟨other, more, ht, -, hf, rfl⟩
    · obtain ⟨hin, hl⟩ := ih hf hm
      exact ⟨List.mem_cons_of_mem _ hin, hl⟩
    · have hcases : label = other ∨ label ∈ more := by
        split at hm
        · exact .inr hm
        · exact List.mem_cons.1 hm
      rcases hcases with rfl | hm
      · obtain ⟨rfl, hl⟩ := label?_eq_some_iff.1 ht
        exact ⟨List.mem_cons_self, hl⟩
      · obtain ⟨hin, hl⟩ := ih hf hm
        exact ⟨List.mem_cons_of_mem _ hin, hl⟩

/-- Where the target is found it is among the tokens. -/
theorem mem_of_follow_none {tokens : List Value} (h : c.follow target seen tokens = .ok none) :
    .str target ∈ tokens ∧ c.holds target = true := by
  induction tokens with
  | nil => cases h
  | cons token tokens ih =>
    rw [follow] at h
    split at h
    · cases h
    · obtain ⟨hm, hl⟩ := ih h
      exact ⟨List.mem_cons_of_mem _ hm, hl⟩
    · rename_i label ht
      split at h
      · rename_i he
        obtain ⟨rfl, hl⟩ := label?_eq_some_iff.1 ht
        rw [← he]
        exact ⟨List.mem_cons_self, hl⟩
      · obtain ⟨labels?, hf, hnone⟩ := map_eq_ok_iff.1 h
        rw [Option.map_eq_none_iff.1 hnone] at hf
        obtain ⟨hm, hl⟩ := ih hf
        exact ⟨List.mem_cons_of_mem _ hm, hl⟩

/-- Whether a text counts as a label can always be told. -/
theorem follow_texts (c : LabelClass) (target : Text) (seen tokens : List Text) :
    ∃ labels?, c.follow target seen (tokens.map .str) = .ok labels? := by
  induction tokens with
  | nil => exact ⟨_, rfl⟩
  | cons token tokens ih =>
    obtain ⟨labels?, ih⟩ := ih
    rw [List.map_cons, LabelClass.follow, LabelClass.label?]
    split
    · rename_i h
      split at h <;> cases h
    · exact ⟨_, ih⟩
    · split
      · exact ⟨_, rfl⟩
      · exact ⟨_, map_eq_ok_iff.2 ⟨_, ih, rfl⟩⟩

end LabelClass

namespace Source

/-! ## One step of the walk -/

/-- What taking up a label yields when some labels were seen: the labels to follow from there, or
nothing if the target is among them. A label that is refused yields none to follow. -/
def expand (s : Source) (c : LabelClass) (target : Text) (seen : List Text) (label : Text) :
    Except Fault (Option (List Text)) :=
  match s.stored.find? label with
  | some content =>
    match content.formula.elements with
    | .error f => .error f
    | .ok tokens => c.follow target (label :: seen) tokens
  | none =>
    match s.absent label with
    | .error f => if f.isFormulaFault then .ok (some []) else .error f
    | .ok () => .ok (some [])

variable {s : Source} {c : LabelClass} {target : Text}

/-- What taking up a label yields depends on what is looked up there. -/
theorem expand_eq (seen : List Text) (label : Text) : s.expand c target seen label =
    match s.lookup label with
    | .ok content => content.formula.elements >>= c.follow target (label :: seen)
    | .error f => if f.isFormulaFault then .ok (some []) else .error f := by
  rw [expand, lookup]
  cases s.stored.find? label with
  | some content =>
    dsimp only
    cases content.formula.elements <;> rfl
  | none =>
    dsimp only
    cases s.absent label <;> rfl

/-- Taking up a label yields something if the label is refused as that of a formula would be, or if
there is a formula whose labels can be told. -/
theorem expand_eq_ok_iff {seen : List Text} {label : Text} {labels? : Option (List Text)} :
    s.expand c target seen label = .ok labels? ↔
      (∃ f, s.lookup label = .error f ∧ f.isFormulaFault = true ∧ labels? = some []) ∨
        ∃ content tokens, s.lookup label = .ok content ∧ content.formula.elements = .ok tokens ∧
          c.follow target (label :: seen) tokens = .ok labels? := by
  rw [expand_eq]
  cases s.lookup label with
  | error f =>
    cases hf : f.isFormulaFault with
    | true => simp [hf, @eq_comm _ labels?]
    | false => simp [hf]
  | ok content => simp [bind_eq_ok_iff]

theorem reaches_nil (seen : List Text) : s.reaches c target seen [] = pure false := by
  rw [reaches]

theorem reaches_seen {seen : List Text} {label : Text} (h : label ∈ seen)
    (stack : List Text) :
    s.reaches c target seen (label :: stack) = s.reaches c target seen stack := by
  rw [reaches, dif_pos (by simpa using h)]

/-- **One step of the walk**: the label on top is looked up, and what it yields decides. -/
theorem reaches_cons {seen : List Text} {label : Text} (h : label ∉ seen)
    (stack : List Text) :
    s.reaches c target seen (label :: stack) =
      Traced.noting (.lookup label) (match s.expand c target seen label with
        | .error f => Traced.halt (.fault f)
        | .ok none => pure true
        | .ok (some labels) => s.reaches c target (label :: seen) (labels.reverse ++ stack)) := by
  rw [reaches, dif_neg (by simpa using h)]
  split
  · rename_i content hs
    split
    · rename_i f ht
      simp only [expand, hs, ht]
    · rename_i tokens ht
      split
      · rename_i f hf
        simp only [expand, hs, ht, hf]
      · rename_i hf
        simp only [expand, hs, ht, hf]
      · rename_i labels hf
        simp only [expand, hs, ht, hf]
  · rename_i hs
    split
    · rename_i f ha
      split
      · rename_i hf
        simp only [expand, hs, ha, hf, if_true]
        rfl
      · rename_i hf
        simp only [expand, hs, ha, hf]
        rfl
    · rename_i ha
      simp only [expand, hs, ha]
      rfl

/-- **Induction over the walk.** What holds with nothing left, and of a stack if it holds of the one
behind a label that was seen, or of the one that taking up a new label leads to, holds always. -/
theorem walk_induction (s : Source) (c : LabelClass) (target : Text)
    {motive : List Text → List Text → Prop} (nil : ∀ seen, motive seen [])
    (skip : ∀ seen label stack, label ∈ seen → motive seen stack → motive seen (label :: stack))
    (take : ∀ seen label stack, label ∉ seen →
      (∀ labels, s.expand c target seen label = .ok (some labels) →
        motive (label :: seen) (labels.reverse ++ stack)) → motive seen (label :: stack))
    (seen stack : List Text) : motive seen stack := by
  induction seen, stack using reaches.induct s c target with
  | case1 seen => exact nil seen
  | case2 seen label stack h ih => exact skip seen label stack (by simpa using h) ih
  | case3 seen label stack h content hs f ht =>
    refine take seen label stack (by simpa using h) fun labels hl => ?_
    simp [expand, hs, ht] at hl
  | case4 seen label stack h content hs tokens ht f hf =>
    refine take seen label stack (by simpa using h) fun labels hl => ?_
    simp [expand, hs, ht, hf] at hl
  | case5 seen label stack h content hs tokens ht hf =>
    refine take seen label stack (by simpa using h) fun labels hl => ?_
    simp [expand, hs, ht, hf] at hl
  | case6 seen label stack h content hs tokens ht labels hf ih =>
    refine take seen label stack (by simpa using h) fun labels' hl => ?_
    simp only [expand, hs, ht, hf, Except.ok.injEq, Option.some.injEq] at hl
    exact hl ▸ ih
  | case7 seen label stack h hs f ha hf ih =>
    refine take seen label stack (by simpa using h) fun labels hl => ?_
    simp only [expand, hs, ha, hf, if_true, Except.ok.injEq, Option.some.injEq] at hl
    exact hl ▸ ih
  | case8 seen label stack h hs f ha hf =>
    refine take seen label stack (by simpa using h) fun labels hl => ?_
    simp [expand, hs, ha, hf] at hl
  | case9 seen label stack h hs ha ih =>
    refine take seen label stack (by simpa using h) fun labels hl => ?_
    simp only [expand, hs, ha, Except.ok.injEq, Option.some.injEq] at hl
    exact hl ▸ ih

/-- Following references is not cut, where there is room for all lookups. -/
theorem not_isCut_reaches (seen stack : List Text) :
    ¬ (s.reaches c target seen stack).IsCut := by
  induction seen, stack using walk_induction s c target with
  | nil seen =>
    rw [reaches_nil]
    exact Traced.not_isCut_pure
  | skip seen label stack hs ih =>
    rw [reaches_seen hs]
    exact ih
  | take seen label stack hn ih =>
    rw [reaches_cons hn, Traced.isCut_noting]
    cases he : s.expand c target seen label with
    | error f => exact Traced.not_isCut_fault
    | ok labels? =>
      cases labels? with
      | none => exact Traced.not_isCut_pure
      | some labels => exact ih labels he

/-! ## What is mentioned where a label is taken up -/

/-- What taking up a label yields covers all that is mentioned there: the target is not mentioned,
and every label that was not seen is followed. -/
theorem mem_expand {seen labels : List Text} {label other : Text}
    (h : s.expand c target seen label = .ok (some labels)) (hm : s.Mentions c label other) :
    other ≠ target ∧ (other ∉ label :: seen → other ∈ labels) := by
  obtain ⟨content, tokens, hl, ht, hm, hc⟩ := hm
  rcases expand_eq_ok_iff.1 h with ⟨f, hl', -⟩ | ⟨content', tokens', hl', ht', hf⟩
  · rw [hl] at hl'
    cases hl'
  · obtain rfl := Except.ok.inj (hl.symm.trans hl')
    obtain rfl := Except.ok.inj (ht.symm.trans ht')
    exact LabelClass.mem_follow hf hm hc

/-- What is followed from a label is mentioned there. -/
theorem mentions_of_mem_expand {seen labels : List Text} {label other : Text}
    (h : s.expand c target seen label = .ok (some labels)) (hm : other ∈ labels) :
    s.Mentions c label other := by
  rcases expand_eq_ok_iff.1 h with ⟨f, -, -, hnone⟩ | ⟨content, tokens, hl, ht, hf⟩
  · cases hnone
    cases hm
  · obtain ⟨hin, hc⟩ := LabelClass.mem_of_follow hf hm
    exact ⟨content, tokens, hl, ht, hin, hc⟩

/-- Where taking up a label finds the target, the target is mentioned. -/
theorem mentions_of_expand_none {seen : List Text} {label : Text}
    (h : s.expand c target seen label = .ok none) : s.Mentions c label target := by
  rcases expand_eq_ok_iff.1 h with ⟨f, -, -, hsome⟩ | ⟨content, tokens, hl, ht, hf⟩
  · cases hsome
  · obtain ⟨hin, hc⟩ := LabelClass.mem_of_follow_none hf
    exact ⟨content, tokens, hl, ht, hin, hc⟩

/-! ## What the walk does not find -/

/-- References lead from one label to another, and none of them goes out from a label that was
seen. -/
inductive LeadsAvoiding (s : Source) (c : LabelClass) (seen : List Text) :
    Text → Text → Prop where
  /-- the formula mentions it -/
  | mention {label other : Text} : label ∉ seen → s.Mentions c label other →
      LeadsAvoiding s c seen label other
  /-- the formula mentions a label from which references lead there -/
  | step {label via other : Text} : label ∉ seen → s.Mentions c label via →
      LeadsAvoiding s c seen via other → LeadsAvoiding s c seen label other

theorem LeadsAvoiding.not_mem {seen : List Text} {label other : Text}
    (h : s.LeadsAvoiding c seen label other) : label ∉ seen := by
  cases h with
  | mention hn _ => exact hn
  | step hn _ _ => exact hn

theorem Leads.avoiding_nil {label other : Text} (h : s.Leads c label other) :
    s.LeadsAvoiding c [] label other := by
  induction h with
  | mention hm => exact .mention List.not_mem_nil hm
  | step hm _ ih => exact .step List.not_mem_nil hm ih

/-- **A path avoids a label or can be cut there**: what follows the last visit to the label avoids
it. -/
theorem LeadsAvoiding.split {seen : List Text} {label other : Text}
    (h : s.LeadsAvoiding c seen label other) (x : Text) :
    s.LeadsAvoiding c (x :: seen) label other ∨
      ∃ next, s.Mentions c x next ∧ (next = other ∨ s.LeadsAvoiding c (x :: seen) next other) := by
  induction h with
  | @mention label other hn hm =>
    by_cases hx : label = x
    · exact .inr ⟨other, hx ▸ hm, .inl rfl⟩
    · exact .inl (.mention (List.not_mem_cons_of_ne_of_not_mem hx hn) hm)
  | @step label via other hn hm _ ih =>
    rcases ih with ih | ih
    · by_cases hx : label = x
      · exact .inr ⟨via, hx ▸ hm, .inr ih⟩
      · exact .inl (.step (List.not_mem_cons_of_ne_of_not_mem hx hn) hm ih)
    · exact .inr ih

/-- **The invariant of the walk.** If it ends without the target, no path that avoids what was seen
leads there from the stack. -/
theorem not_leadsAvoiding_of_reaches {seen stack : List Text}
    (h : (s.reaches c target seen stack).result = .ok false) :
    ∀ label ∈ stack, ¬ s.LeadsAvoiding c seen label target := by
  revert h
  induction seen, stack using walk_induction s c target with
  | nil seen =>
    intro _ label hm
    cases hm
  | skip seen label stack hs ih =>
    intro h other hm hl
    rw [reaches_seen hs] at h
    rcases List.mem_cons.1 hm with rfl | hm
    · exact hl.not_mem hs
    · exact ih h other hm hl
  | take seen label stack hn ih =>
    intro h other hm hl
    rw [reaches_cons hn, Traced.noting_result] at h
    cases he : s.expand c target seen label with
    | error f =>
      rw [he] at h
      exact Traced.halt_ne_ok h
    | ok labels? =>
      cases labels? with
      | none => simp [he] at h
      | some labels =>
        simp only [he] at h
        have hrest := ih labels he h
        -- a path may come through the label that was taken up; it is cut at its last visit there
        rcases hl.split label with ha | ⟨next, hnext, ha⟩
        · rcases List.mem_cons.1 hm with rfl | hm
          · exact ha.not_mem List.mem_cons_self
          · exact hrest other (List.mem_append_right _ hm) ha
        · obtain ⟨hne, hin⟩ := mem_expand he hnext
          rcases ha with rfl | ha
          · exact hne rfl
          · exact hrest next (List.mem_append_left _ (List.mem_reverse.2 (hin ha.not_mem))) ha

/-- **What the walk does not find is not there**: if it ends without the target, no references lead
to the target from where it started. -/
theorem not_leads_of_reaches {label : Text}
    (h : (s.reaches c target [] [label]).result = .ok false) : ¬ s.Leads c label target :=
  fun hl => not_leadsAvoiding_of_reaches h label List.mem_cons_self hl.avoiding_nil

/-! ## What the walk depends on -/

/-- Two sources that refuse the same labels and store the same formulas under the same labels. -/
structure SameFormulas (s t : Source) : Prop where
  absent : s.absent = t.absent
  stored : ∀ label, (s.stored.find? label).map Content.formula =
    (t.stored.find? label).map Content.formula

theorem SameFormulas.expand_eq {t : Source} (h : s.SameFormulas t) (seen : List Text)
    (label : Text) : s.expand c target seen label = t.expand c target seen label := by
  have hf := h.stored label
  rw [expand, expand, h.absent]
  cases hs : s.stored.find? label <;> cases ht : t.stored.find? label <;>
    simp only [hs, ht, Option.map_some, Option.map_none, Option.some.injEq, reduceCtorEq] at hf ⊢
  rw [hf]

/-- **The walk depends on formulas and refusals only.** -/
theorem SameFormulas.reaches_eq {t : Source} (h : s.SameFormulas t) (seen stack : List Text) :
    s.reaches c target seen stack = t.reaches c target seen stack := by
  induction seen, stack using walk_induction s c target with
  | nil seen => rw [reaches_nil, reaches_nil]
  | skip seen label stack hs ih => rw [reaches_seen hs, reaches_seen hs, ih]
  | take seen label stack hn ih =>
    rw [reaches_cons hn, reaches_cons hn, ← h.expand_eq]
    cases he : s.expand c target seen label with
    | error f => rfl
    | ok labels? =>
      cases labels? with
      | none => rfl
      | some labels => simp only [ih labels he]

end Source

end FormulaSheet
