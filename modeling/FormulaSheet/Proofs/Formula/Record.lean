import FormulaSheet.Proofs.Formula.Reference
import FormulaSheet.Proofs.Formula.Room
import FormulaSheet.Proofs.Formula.Walk

/-!
# What the record of an evaluation tells

The rules are built from references by doing one thing after the other, and so is what they record.
A property of results with their records that references have, and that is kept in sequence
(`Traced.Composes`), is therefore one of every evaluation (`Setting.run_of_composes`). There are two
of them here:

* `LooksUp`: only certain labels were looked up (`Setting.run_looksUp`);
* `Accounts`: something failed exactly if a label that was looked up is refused
  (`Setting.run_accounts`).
-/

namespace FormulaSheet

/-! ## Lookups and notices -/

namespace Evaluator

theorem mem_lookupsOf {notes : List Note} {label : Text} :
    label ∈ lookupsOf notes ↔ .lookup label ∈ notes := by
  rw [lookupsOf, List.mem_filterMap]
  constructor
  · rintro ⟨n, hm, hn⟩
    cases n with
    | lookup other =>
      cases hn
      exact hm
    | circular _ _ => cases hn
  · exact fun hm => ⟨_, hm, rfl⟩

theorem lookupsOf_append (notes more : List Note) :
    lookupsOf (notes ++ more) = lookupsOf notes ++ lookupsOf more :=
  List.filterMap_append

theorem noticesOf_append (notes more : List Note) :
    noticesOf (notes ++ more) = noticesOf notes ++ noticesOf more :=
  List.filterMap_append

theorem lookupsOf_singleton (label : Text) : lookupsOf [.lookup label] = [label] :=
  rfl

theorem lookupsOf_noting {α : Type} (label : Text) (t : Traced α) :
    lookupsOf (Traced.noting (.lookup label) t).notes = label :: lookupsOf t.notes :=
  rfl

end Evaluator

/-! ## Properties of results with their records -/

namespace Traced

/-- A property of results with their records that those have for which nothing was done, and that is
kept when one thing is done after the other and when a circular reference is recorded. -/
structure Composes (Q : ∀ {α : Type}, Traced α → Prop) : Prop where
  pure : ∀ {α : Type} (a : α), Q (pure a : Traced α)
  bind : ∀ {α β : Type} {t : Traced α} {f : α → Traced β}, Q t →
    (∀ a, t.result = .ok a → Q (f a)) → Q (t >>= f)
  circular : ∀ {α : Type} {t : Traced α} (origin label : Text), Q t →
    Q (noting (.circular origin label) t)

/-- Only labels of one kind were looked up. -/
def LooksUp (M : Text → Prop) {α : Type} (t : Traced α) : Prop :=
  ∀ label, .lookup label ∈ t.notes → M label

/-- If something failed, one of the labels that were looked up is refused for it; if nothing did,
none of them is refused. -/
structure Accounts (refused : Text → Fault → Prop) {α : Type} (t : Traced α) : Prop where
  fault : ∀ f, t.result = .error (.fault f) → ∃ label, .lookup label ∈ t.notes ∧ refused label f
  answer : (∀ f, t.result ≠ .error (.fault f)) → ∀ label, .lookup label ∈ t.notes →
    ∀ f, ¬ refused label f

variable {α : Type} {M : Text → Prop} {refused : Text → Fault → Prop}

theorem LooksUp.noting {n : Note} {t : Traced α} (hn : ∀ label, n = .lookup label → M label)
    (h : t.LooksUp M) : (noting n t).LooksUp M := by
  intro label hm
  rcases List.mem_cons.1 hm with he | hm
  · exact hn label he.symm
  · exact h label hm

theorem looksUp_composes (M : Text → Prop) : Composes fun {_} => LooksUp M where
  pure _ _ hm := by cases hm
  bind {α β t f} ht hf label hm := by
    rcases t with ⟨notes, result⟩
    cases result with
    | error h => exact ht label hm
    | ok a =>
      rcases List.mem_append.1 hm with hm | hm
      · exact ht label hm
      · exact hf a rfl label hm
  circular _ _ ht := ht.noting fun label he => by cases he

theorem LooksUp.of_notes_nil {t : Traced α} (h : t.notes = []) : t.LooksUp M := by
  intro label hm
  rw [h] at hm
  cases hm

theorem Accounts.of_calm {t : Traced α} (hn : t.notes = [])
    (h : ∀ f, t.result ≠ .error (.fault f)) : t.Accounts refused where
  fault f he := absurd he (h f)
  answer _ label hm := by
    rw [hn] at hm
    cases hm

/-- What was done for a label that is not refused may stand in front. -/
theorem Accounts.noting {n : Note} {t : Traced α}
    (hn : ∀ label f, n = .lookup label → ¬ refused label f) (h : t.Accounts refused) :
    (noting n t).Accounts refused where
  fault f he := by
    obtain ⟨label, hm, hr⟩ := h.fault f he
    exact ⟨label, List.mem_cons_of_mem _ hm, hr⟩
  answer hf label hm f := by
    rcases List.mem_cons.1 hm with he | hm
    · exact hn label f he.symm
    · exact h.answer hf label hm f

theorem accounts_composes (refused : Text → Fault → Prop) :
    Composes fun {_} => Accounts refused where
  pure _ := .of_calm rfl fun _ => pure_ne_error
  bind {α β t f} ht hf := by
    rcases t with ⟨notes, result⟩
    cases result with
    | error h =>
      refine ⟨fun f he => ?_, fun hn label hm => ?_⟩
      · cases he
        exact ht.fault f rfl
      · refine ht.answer (fun f he => ?_) label hm
        cases he
        exact hn f rfl
    | ok a =>
      have ha := hf a rfl
      refine ⟨fun f he => ?_, fun hn label hm => ?_⟩
      · obtain ⟨label, hm, hr⟩ := ha.fault f he
        exact ⟨label, List.mem_append_right _ hm, hr⟩
      · rcases List.mem_append.1 hm with hm | hm
        · exact ht.answer (fun f he => by cases he) label hm
        · exact ha.answer hn label hm
  circular _ _ ht := ht.noting fun label f he => by cases he

/-- What was done up to a cut was done without it. -/
theorem LooksUp.of_cutFrom {t t' : Traced α} (h : t'.LooksUp M) (hc : t.CutFrom t') :
    t.LooksUp M := by
  obtain rfl | ⟨-, hp⟩ := hc
  · exact h
  · exact fun label hm => h label (hp.subset hm)

theorem Accounts.cut (c : Cut) : (halt (.cut c) : Traced α).Accounts refused :=
  .of_calm rfl fun f he => by cases he

/-- A label that is refused ends the evaluation. -/
theorem Accounts.refusal {label : Text} {f : Fault} (h : refused label f) :
    (Traced.noting (.lookup label) (halt (.fault f) : Traced α)).Accounts refused where
  fault f' he := by
    cases he
    exact ⟨label, List.mem_cons_self, h⟩
  answer hn := absurd rfl (hn f)

end Traced

open Traced

/-! ## Rules -/

section Rules

variable {Q : ∀ {α : Type}, Traced α → Prop} {tokens : List Text}

namespace Setting

variable {s : Setting}

theorem reference_of_composes (hQ : Composes @Q) {label : Text}
    (hwalk : ∀ origin, Q (s.source.reaches s.labels origin [] [label])) (hfetch : Q (s.fetch label))
    (hreading : ∀ c, s.source.lookup label = .ok c → Q (ofExcept c.reading)) :
    Q (s.reference label) := by
  refine hQ.bind ?_ fun circular _ => ?_
  · rw [isCircular]
    split
    · exact hQ.pure _
    · split
      · exact hQ.pure _
      · exact hwalk _
  · split
    · exact hQ.circular _ _ (hQ.pure _)
    · refine hQ.bind hfetch fun content hc => ?_
      split
      · exact hQ.pure _
      · exact hreading _ (fetch_some_iff.1 hc)

/-- **What is kept in sequence** and true of the references of a formula is true of its
evaluation. -/
theorem run_of_composes (hQ : Composes @Q) (hcut : Q (halt (.cut .reading) : Traced Step))
    (hr : ∀ room, ∀ label ∈ tokens, s.labels.holds label = true → Q (s.referenceIn room label)) :
    Q (s.run tokens) := by
  have hR : Relates fun {_} t _ => Q t := ⟨hQ.pure, fun ht hf => hQ.bind ht hf⟩
  exact expressionOf_related hR hcut (fun _ => ⟨rfl, rfl, hr _⟩) s.stack.levels
    (List.suffix_refl tokens) none

end Setting

end Rules

/-! ## Labels that are looked up -/

namespace Source

variable {s : Source} {c : LabelClass} {target : Text}

/-- **The walk looks up** what it starts from and what is mentioned on its way. -/
theorem reaches_looksUp {M : Text → Prop}
    (hM : ∀ label other, M label → s.Mentions c label other → M other) (seen stack : List Text)
    (hstack : ∀ label ∈ stack, M label) : (s.reaches c target seen stack).LooksUp M := by
  revert hstack
  induction seen, stack using walk_induction s c target with
  | nil seen =>
    intro _
    rw [reaches_nil]
    exact .of_notes_nil rfl
  | skip seen label stack hs ih =>
    intro hstack
    rw [reaches_seen hs]
    exact ih fun other hm => hstack other (List.mem_cons_of_mem _ hm)
  | take seen label stack hn ih =>
    intro hstack
    have hl := hstack label List.mem_cons_self
    rw [reaches_cons hn]
    refine LooksUp.noting (fun other he => ?_) ?_
    · cases he
      exact hl
    · cases he : s.expand c target seen label with
      | error f => exact .of_notes_nil rfl
      | ok labels? =>
        cases labels? with
        | none => exact .of_notes_nil rfl
        | some labels =>
          refine ih labels he fun other hm => ?_
          rcases List.mem_append.1 hm with hm | hm
          · exact hM label other hl (mentions_of_mem_expand he (List.mem_reverse.1 hm))
          · exact hstack other (List.mem_cons_of_mem _ hm)

end Source

namespace Setting

variable {s : Setting}

/-- **A reference looks up** its label and what is mentioned from there on. -/
theorem reference_looksUp {M : Text → Prop}
    (hM : ∀ label other, M label → s.source.Mentions s.labels label other → M other)
    {label : Text} (hl : M label) : (s.reference label).LooksUp M := by
  refine reference_of_composes (looksUp_composes M) (fun origin => ?_) ?_ fun c _ => ?_
  · exact Source.reaches_looksUp hM _ _ fun other hm => List.mem_singleton.1 hm ▸ hl
  · refine LooksUp.noting (fun other he => ?_) (.of_notes_nil ?_)
    · cases he
      exact hl
    · split
      · rfl
      · split <;> rfl
  · refine .of_notes_nil ?_
    rw [ofExcept.eq_def]
    split <;> rfl

/-- **An evaluation looks up** the labels among the tokens, and what is mentioned from there on. -/
theorem run_looksUp {M : Text → Prop}
    (hM : ∀ label other, M label → s.source.Mentions s.labels label other → M other)
    {tokens : List Text} (ht : ∀ label ∈ tokens, s.labels.holds label = true → M label) :
    (s.run tokens).LooksUp M :=
  run_of_composes (looksUp_composes M) (.of_notes_nil rfl) fun room label hm hl =>
    (reference_looksUp hM (ht label hm hl)).of_cutFrom (s.referenceIn_cutFrom room label)

end Setting

/-! ## Labels that are refused -/

namespace Source

/-- The source refuses a label for a reason that is not reported as the failure of a formula. -/
def Refuses (s : Source) (label : Text) (f : Fault) : Prop :=
  s.lookup label = .error f ∧ f.isFormulaFault = false

/-- The tokens of the formulas that are stored in the source are texts. -/
def HasTextFormulas (s : Source) : Prop :=
  ∀ label c, s.stored.find? label = some c →
    ∃ tokens : List Text, c.formula.elements = .ok (tokens.map .str)

/-- What is stored in the source has formulas of texts and doubles for values. -/
structure IsPlain (s : Source) : Prop where
  formula : ∀ label c, s.stored.find? label = some c →
    ∃ tokens : List Text, c.formula = .list (tokens.map .str)
  value : ∀ label c, s.stored.find? label = some c → ∃ x, c.value = .float x

variable {s : Source} {c : LabelClass} {target : Text}

theorem not_refuses_of_ok {label : Text} {content : Content} (h : s.lookup label = .ok content)
    (f : Fault) : ¬ s.Refuses label f := by
  rintro ⟨hf, -⟩
  rw [h] at hf
  cases hf

theorem not_refuses_of_formulaFault {label : Text} {f : Fault} (h : s.lookup label = .error f)
    (hf : f.isFormulaFault = true) (f' : Fault) : ¬ s.Refuses label f' := by
  rintro ⟨h', hf'⟩
  cases h.symm.trans h'
  rw [hf] at hf'
  cases hf'

theorem IsPlain.hasTextFormulas (hs : s.IsPlain) : s.HasTextFormulas := by
  intro label c h
  obtain ⟨tokens, ht⟩ := hs.formula label c h
  exact ⟨tokens, by rw [ht]; rfl⟩

theorem HasTextFormulas.of_lookup (hs : s.HasTextFormulas) {label : Text} {content : Content}
    (h : s.lookup label = .ok content) :
    ∃ tokens : List Text, content.formula.elements = .ok (tokens.map .str) := by
  cases hst : s.stored.find? label with
  | some content' =>
    obtain rfl : content' = content := by simpa [lookup, hst] using h
    exact hs label content' hst
  | none =>
    obtain rfl := lookup_eq_blank hst h
    exact ⟨[], rfl⟩

/-- **Taking up a label** fails exactly if the label is refused. -/
theorem expand_refuses (hs : s.HasTextFormulas) (c : LabelClass) (target : Text)
    (seen : List Text) (label : Text) :
    (∀ f, s.expand c target seen label = .error f → s.Refuses label f) ∧
      ∀ labels?, s.expand c target seen label = .ok labels? → ∀ f, ¬ s.Refuses label f := by
  constructor
  · intro f h
    rw [expand_eq] at h
    cases hl : s.lookup label with
    | error f' =>
      simp only [hl] at h
      split at h
      · cases h
      · rename_i hf
        cases h
        exact ⟨hl, by simpa using hf⟩
    | ok content =>
      obtain ⟨tokens, ht⟩ := hs.of_lookup hl
      obtain ⟨labels?, hfollow⟩ := LabelClass.follow_texts c target (label :: seen) tokens
      simp only [hl, bind_eq_error_iff, ht] at h
      rcases h with h | ⟨tokens', h, hf⟩
      · cases h
      · cases h
        rw [hfollow] at hf
        cases hf
  · intro labels? h f
    rcases expand_eq_ok_iff.1 h with ⟨f', hl, hf, -⟩ | ⟨content, tokens, hl, -⟩
    · exact not_refuses_of_formulaFault hl hf f
    · exact not_refuses_of_ok hl f

/-- **The walk fails** exactly if it comes to a label that is refused, as far as there is room. -/
theorem reaches_accounts (hs : s.HasTextFormulas) (fits : Note → Bool) (seen stack : List Text) :
    ((s.reaches c target seen stack).within fits).Accounts s.Refuses := by
  induction seen, stack using walk_induction s c target with
  | nil seen =>
    rw [reaches_nil, within_of_notes_nil rfl]
    exact .of_calm rfl fun _ => pure_ne_error
  | skip seen label stack hm ih =>
    rw [reaches_seen hm]
    exact ih
  | take seen label stack hn ih =>
    obtain ⟨herror, hok⟩ := expand_refuses hs c target seen label
    rw [reaches_cons hn, within_noting]
    split
    case isFalse => exact .cut _
    cases he : s.expand c target seen label with
    | error f =>
      rw [within_of_notes_nil rfl]
      exact .refusal (herror f he)
    | ok labels? =>
      have hlabel : ∀ other f, Note.lookup label = .lookup other → ¬ s.Refuses other f := by
        intro other f ho
        cases ho
        exact hok labels? he f
      cases labels? with
      | none =>
        rw [within_of_notes_nil rfl]
        exact .noting hlabel (.of_calm rfl fun _ => pure_ne_error)
      | some labels => exact .noting hlabel (ih labels he)

end Source

theorem Source.IsPlain.exists_reading {s : Source} (hs : s.IsPlain) {label : Text} {c : Content}
    (h : s.lookup label = .ok c) : ∃ r, c.reading = .ok r := by
  have hplain : (∃ tokens : List Text, c.formula = .list (tokens.map .str)) ∧
      ∃ x, c.value = .float x := by
    cases hst : s.stored.find? label with
    | some content =>
      obtain rfl : content = c := by simpa [Source.lookup, hst] using h
      exact ⟨hs.formula label content hst, hs.value label content hst⟩
    | none =>
      obtain rfl := Source.lookup_eq_blank hst h
      exact ⟨⟨[], rfl⟩, 0.0, rfl⟩
  obtain ⟨⟨tokens, ht⟩, x, hx⟩ := hplain
  rw [Content.reading]
  split
  · exact ⟨_, rfl⟩
  · rw [ht, hx]
    cases tokens with
    | nil => exact ⟨_, rfl⟩
    | cons token tokens => exact ⟨_, rfl⟩

namespace Setting

variable {s : Setting} {label : Text}

theorem fetch_accounts : (s.fetch label).Accounts s.source.Refuses := by
  rw [fetch]
  split
  · rename_i c hl
    refine Accounts.noting (fun other f he => ?_) (.of_calm rfl fun _ => pure_ne_error)
    cases he
    exact Source.not_refuses_of_ok hl f
  · rename_i f hl
    split
    · rename_i hf
      refine Accounts.noting (fun other f' he => ?_) (.of_calm rfl fun _ => pure_ne_error)
      cases he
      exact Source.not_refuses_of_formulaFault hl hf f'
    · rename_i hf
      exact .refusal ⟨hl, by simpa using hf⟩

/-- **A reference fails** exactly if a label that it looks up is refused, as far as there is
room. -/
theorem referenceIn_accounts (hs : s.source.IsPlain) (room : Nat) (label : Text) :
    (s.referenceIn room label).Accounts s.source.Refuses := by
  have hQ := accounts_composes s.source.Refuses
  refine hQ.bind ?_ fun circular _ => ?_
  · rw [isCircular]
    split
    · exact hQ.pure _
    · split
      · exact hQ.pure _
      · exact Source.reaches_accounts hs.hasTextFormulas _ _ _
  · split
    · split
      · exact hQ.circular _ _ (hQ.pure _)
      · exact .cut _
    · split
      · refine hQ.bind fetch_accounts fun content hc => ?_
        split
        · exact hQ.pure _
        · obtain ⟨r, hr⟩ := hs.exists_reading (fetch_some_iff.1 hc)
          rw [hr]
          exact .of_calm rfl fun _ => pure_ne_error
      · exact .cut _

/-- **An evaluation fails** exactly if a label that it looks up is refused. -/
theorem run_accounts (hs : s.source.IsPlain) (tokens : List Text) :
    (s.run tokens).Accounts s.source.Refuses :=
  run_of_composes (accounts_composes s.source.Refuses) (.cut _)
    fun room label _ _ => referenceIn_accounts hs room label

end Setting

end FormulaSheet
