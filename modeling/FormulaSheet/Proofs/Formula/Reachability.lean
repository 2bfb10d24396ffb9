import FormulaSheet.Proofs.Formula.Record

/-!
# What the walk along references decides

The walk answers whether references lead from one label to another. This module shows that the
answer is right both ways, whatever the references are: in circles, back to where they start, or to
labels that are refused. The walk takes up each label once, however often it stands on the stack,
and so it ends.

* `exists_leads_of_reaches`: where the walk finds the target, references lead there from one of the
  labels on the stack;
* `nodup_lookups_reaches`, `length_lookups_reaches_le`: no label is looked up twice, and no more
  often than there is something left to follow (`pending`), which taking up a label makes less by
  all that it puts on the stack (`pending_of_expand`);
* `reaches_decides_leads`: the walk from one label;
* `Setting.eq_true_iff_comesTo_of_isCircular`: the check for circular references.
-/

namespace FormulaSheet

open Evaluator (lookupsOf)

namespace Source

variable {s : Source} {c : LabelClass} {target : Text}

/-! ## What is found is there -/

/-- **What the walk finds is there**: references lead to the target from a label on the stack. -/
theorem exists_leads_of_reaches {seen stack : List Text}
    (h : (s.reaches c target seen stack).result = .ok true) :
    ∃ label ∈ stack, s.Leads c label target := by
  revert h
  induction seen, stack using walk_induction s c target with
  | nil seen =>
    intro h
    rw [reaches_nil] at h
    cases h
  | skip seen label stack hs ih =>
    intro h
    rw [reaches_seen hs] at h
    obtain ⟨other, hm, hl⟩ := ih h
    exact ⟨other, List.mem_cons_of_mem _ hm, hl⟩
  | take seen label stack hn ih =>
    intro h
    rw [reaches_cons hn, Traced.noting_result] at h
    cases he : s.expand c target seen label with
    | error f =>
      rw [he] at h
      exact absurd h Traced.halt_ne_ok
    | ok labels? =>
      cases labels? with
      | none => exact ⟨label, List.mem_cons_self, .mention (mentions_of_expand_none he)⟩
      | some labels =>
        simp only [he] at h
        obtain ⟨other, hm, hl⟩ := ih labels he h
        obtain hm | hm := List.mem_append.1 hm
        · -- the path starts with a label that was put on the stack here
          have hmention := mentions_of_mem_expand he (List.mem_reverse.1 hm)
          exact ⟨label, List.mem_cons_self, .step hmention hl⟩
        · exact ⟨other, List.mem_cons_of_mem _ hm, hl⟩

/-- Where the walk from a label ends, its answer is right. -/
theorem eq_true_iff_leads_of_reaches {label : Text} {found : Bool}
    (h : (s.reaches c target [] [label]).result = .ok found) :
    found = true ↔ s.Leads c label target := by
  constructor
  · intro hf
    subst hf
    obtain ⟨other, hm, hl⟩ := exists_leads_of_reaches h
    obtain rfl := List.mem_singleton.1 hm
    exact hl
  · intro hl
    cases found with
    | true => rfl
    | false => exact absurd hl (not_leads_of_reaches h)

/-! ## Labels that are looked up -/

/-- Taking up a label makes what is left to follow less by what it puts on the stack. -/
theorem pending_of_expand {seen labels : List Text} {label : Text} (hn : label ∉ seen)
    (h : s.expand c target seen label = .ok (some labels)) :
    pending s.stored (label :: seen) + labels.length ≤ pending s.stored seen := by
  rw [expand] at h
  cases hs : s.stored.find? label with
  | some content =>
    have hlt := pending_cons_lt hs (by simpa using hn)
    simp only [hs] at h
    split at h
    · cases h
    · rename_i tokens ht
      have hle := LabelClass.length_le_of_follow h
      simp only [Content.tokenCount, ht] at hlt
      omega
  | none =>
    have hle := pending_cons_le s.stored label seen
    have hnil : labels = [] := by
      simp only [hs] at h
      split at h
      · split at h
        · cases h
          rfl
        · cases h
      · cases h
        rfl
    subst hnil
    exact hle

/-- **No label is looked up twice**, nor one that was seen. -/
theorem nodup_lookups_reaches (seen stack : List Text) :
    (lookupsOf (s.reaches c target seen stack).notes).Nodup ∧
      ∀ label ∈ lookupsOf (s.reaches c target seen stack).notes, label ∉ seen := by
  induction seen, stack using walk_induction s c target with
  | nil seen =>
    rw [reaches_nil]
    exact ⟨List.nodup_nil, fun label hm => by cases hm⟩
  | skip seen label stack hs ih =>
    rw [reaches_seen hs]
    exact ih
  | take seen label stack hn ih =>
    rw [reaches_cons hn, Evaluator.lookupsOf_noting]
    have hlast : [label].Nodup ∧ ∀ other ∈ [label], other ∉ seen :=
      ⟨List.pairwise_singleton _ label, fun other hm => List.mem_singleton.1 hm ▸ hn⟩
    cases he : s.expand c target seen label with
    | error f => exact hlast
    | ok labels? =>
      cases labels? with
      | none => exact hlast
      | some labels =>
        obtain ⟨hd, hseen⟩ := ih labels he
        constructor
        · exact List.nodup_cons.2 ⟨fun hm => hseen label hm List.mem_cons_self, hd⟩
        · intro other hm
          obtain rfl | hm := List.mem_cons.1 hm
          · exact hn
          · exact fun hs => hseen other hm (List.mem_cons_of_mem _ hs)

/-- **No more labels are looked up** than are on the stack and left to follow. -/
theorem length_lookups_reaches_le (seen stack : List Text) :
    (lookupsOf (s.reaches c target seen stack).notes).length ≤
      pending s.stored seen + stack.length := by
  induction seen, stack using walk_induction s c target with
  | nil seen =>
    rw [reaches_nil]
    exact Nat.zero_le _
  | skip seen label stack hs ih =>
    rw [reaches_seen hs]
    exact Nat.le_succ_of_le ih
  | take seen label stack hn ih =>
    rw [reaches_cons hn, Evaluator.lookupsOf_noting, List.length_cons, List.length_cons]
    cases he : s.expand c target seen label with
    | error f => exact Nat.succ_le_succ (Nat.zero_le _)
    | ok labels? =>
      cases labels? with
      | none => exact Nat.succ_le_succ (Nat.zero_le _)
      | some labels =>
        have hrest := ih labels he
        have hless := pending_of_expand hn he
        rw [List.length_append, List.length_reverse] at hrest
        dsimp only
        omega

/-! ## The walk from one label -/

theorem Leads.tail {label via other : Text} (h : s.Leads c label via)
    (hm : s.Mentions c via other) : s.Leads c label other := by
  induction h with
  | mention h => exact .step h (.mention hm)
  | step h _ ih => exact .step h (ih hm)

/-- Whatever the references are, **the walk from one label decides** whether they lead to the target
in one step or more, unless it looks up a label that is refused for another reason than that it
names no cell. It looks up no label twice, only labels to which references lead from where it
starts, and no more than there are formulas and tokens in them, and the label it starts from. -/
theorem reaches_decides_leads (hs : s.HasTextFormulas) (c : LabelClass) (start target : Text)
    (hr : ∀ label ∈ lookupsOf (s.reaches c target [] [start]).notes, ∀ f,
      s.lookup label = .error f → f.isFormulaFault = true) :
    ∃ found, (s.reaches c target [] [start]).result = .ok found ∧
      (found = true ↔ s.Leads c start target) ∧
      (lookupsOf (s.reaches c target [] [start]).notes).Nodup ∧
      (lookupsOf (s.reaches c target [] [start]).notes).length ≤ pending s.stored [] + 1 ∧
      ∀ label ∈ lookupsOf (s.reaches c target [] [start]).notes,
        label = start ∨ s.Leads c start label := by
  have haccounts : (s.reaches c target [] [start]).Accounts s.Refuses := by
    have h : ((s.reaches c target [] [start]).within fun _ => true).Accounts s.Refuses :=
      reaches_accounts hs _ [] [start]
    rwa [Traced.within_of_all fun _ _ => rfl] at h
  have hlooks : (s.reaches c target [] [start]).LooksUp fun label =>
      label = start ∨ s.Leads c start label := by
    refine reaches_looksUp (fun label other hl hm => ?_) _ _ fun label hm => ?_
    · obtain rfl | hl := hl
      · exact .inr (.mention hm)
      · exact .inr (hl.tail hm)
    · exact .inl (List.mem_singleton.1 hm)
  have hnodup : (lookupsOf (s.reaches c target [] [start]).notes).Nodup :=
    (nodup_lookups_reaches [] [start]).1
  have hlength :
      (lookupsOf (s.reaches c target [] [start]).notes).length ≤ pending s.stored [] + 1 :=
    length_lookups_reaches_le [] [start]
  have hlookups : ∀ label ∈ lookupsOf (s.reaches c target [] [start]).notes,
      label = start ∨ s.Leads c start label :=
    fun label hm => hlooks label (Evaluator.mem_lookupsOf.1 hm)
  cases hresult : (s.reaches c target [] [start]).result with
  | ok found =>
    exact ⟨found, rfl, eq_true_iff_leads_of_reaches hresult, hnodup, hlength, hlookups⟩
  | error halt =>
    cases halt with
    | cut reason => exact absurd ⟨reason, hresult⟩ (not_isCut_reaches _ _)
    | fault f =>
      obtain ⟨label, hm, hl, hf⟩ := haccounts.fault f hresult
      rw [hr label (Evaluator.mem_lookupsOf.2 hm) f hl] at hf
      cases hf

/-- Two formulas that mention each other, and a label that is not in the table. -/
def ring : Source :=
  .table [("A1", ⟨.list [.str "B1", .str "Z9"], .null, .null⟩),
    ("B1", ⟨.list [.str "A1", .str "+", .str "A1"], .null, .null⟩)]

/-- The walk finds its way back to where it starts. -/
theorem reaches_decides_leads_of_ring :
    ring.HasTextFormulas ∧
    (∀ label f, ring.lookup label = .error f → f.isFormulaFault = true) ∧
    (ring.reaches (.satisfying fun text => text.length == 2) "A1" [] ["A1"]).result =
      .ok true := by
  have hs : ring.HasTextFormulas := by
    intro label content h
    simp only [ring, table, Register.find?] at h
    split at h
    · cases h
      exact ⟨["B1", "Z9"], rfl⟩
    · split at h
      · cases h
        exact ⟨["A1", "+", "A1"], rfl⟩
      · cases h
  have hr : ∀ label f, ring.lookup label = .error f → f.isFormulaFault = true := by
    intro label f h
    rw [lookup] at h
    split at h
    · cases h
    · obtain rfl : .label ⟨label, ""⟩ = f := Except.error.inj h
      rfl
  have hb : ring.Mentions (.satisfying fun text => text.length == 2) "A1" "B1" :=
    ⟨_, _, rfl, rfl, by simp, rfl⟩
  have ha : ring.Mentions (.satisfying fun text => text.length == 2) "B1" "A1" :=
    ⟨_, _, rfl, rfl, by simp, rfl⟩
  obtain ⟨found, hresult, hiff, -⟩ := reaches_decides_leads hs
    (.satisfying fun text => text.length == 2) "A1" "A1" fun label _ f => hr label f
  rw [hiff.2 (.step hb (.mention ha))] at hresult
  exact ⟨hs, hr, hresult⟩

/-! ## References that lead back -/

/-- The labels are the same, or references lead from the first to the other. -/
def ComesTo (s : Source) (c : LabelClass) (label other : Text) : Prop :=
  label = other ∨ s.Leads c label other

theorem ComesTo.tail {label via other : Text} (h : s.ComesTo c label via)
    (hm : s.Mentions c via other) : s.ComesTo c label other := by
  obtain rfl | h := h
  · exact .inr (.mention hm)
  · exact .inr (h.tail hm)

end Source

/-- **The check for circular references** answers whether one comes from the label to the guarded
cell. -/
theorem Setting.eq_true_iff_comesTo_of_isCircular {s : Setting} {cell label : Text}
    (hg : s.guarded = some cell) {circular : Bool}
    (h : (s.isCircular label).result = .ok circular) :
    circular = true ↔ s.source.ComesTo s.labels label cell := by
  rw [isCircular, hg] at h
  dsimp only at h
  split at h
  · rename_i he
    exact ⟨fun _ => .inl he, fun _ => (Except.ok.inj h).symm⟩
  · rename_i hne
    rw [Source.eq_true_iff_leads_of_reaches h, Source.ComesTo]
    exact ⟨.inr, fun hc => hc.resolve_left hne⟩

end FormulaSheet
