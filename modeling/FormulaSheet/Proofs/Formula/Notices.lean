import FormulaSheet.Proofs.Formula.Guard
import FormulaSheet.Proofs.Formula.Parallel
import FormulaSheet.Proofs.Formula.Record
import FormulaSheet.Proofs.Formula.Session

/-!
# What an evaluation gives notice of

Which references a formula follows depends on its values, since a division by zero gives up the rest
of its term. To say which ones they are the formula is read once more, with references that yield
the same and record nothing but their labels (`Setting.labelsRead`). Beside this reading the record
of the evaluation is laid out (`Setting.Follows`): it is made of the records of these references,
one after the other, as far as the evaluation is not cut.

Of a reference there is notice exactly if the check for circular references fires at its label.
There is none if the evaluation is cut for want of room to give it, which can only be at the last of
the labels. Besides there is notice of the failure of the formula. A check that has fired leaves a
failure behind, and no later step takes it back, so that there is no notice at all of an evaluation
that succeeds.

* `Setting.follows_run`: the record of an evaluation is that of its references;
* `Setting.run_readsIn`: the labels that are read stand among the tokens in this order, and
  if there is no failure in the end, none of them had one;
* `Evaluator.notices_evaluateTokens`: what an evaluation gives notice of, in order;
* `Evaluator.fires_of_clear`: an evaluation that succeeds gives no notice.
-/

namespace FormulaSheet

open Evaluator (lookupsOf noticesOf)

/-- Behind what gives no notice, notice is given of what is done next. -/
theorem Evaluator.noticesOf_bind {α β : Type} {t : Traced α} (h : noticesOf t.notes = [])
    (f : α → Traced β) : noticesOf (t >>= f).notes =
      match t.result with
      | .ok a => noticesOf (f a).notes
      | .error _ => [] := by
  rcases t with ⟨notes, result⟩
  cases result with
  | error halt => exact h
  | ok a =>
    rw [Traced.bind_ok, noticesOf_append]
    exact congrArg (· ++ noticesOf (f a).notes) h

/-! ## Notices of references -/

/-- The walk along references gives no notice. -/
theorem Source.noticesOf_reaches {s : Source} {c : LabelClass} {target : Text}
    (seen stack : List Text) : noticesOf (s.reaches c target seen stack).notes = [] := by
  induction seen, stack using walk_induction s c target with
  | nil seen =>
    rw [reaches_nil]
    rfl
  | skip seen label stack hs ih =>
    rw [reaches_seen hs]
    exact ih
  | take seen label stack hn ih =>
    rw [reaches_cons hn]
    cases he : s.expand c target seen label with
    | error f => rfl
    | ok labels? =>
      cases labels? with
      | none => rfl
      | some labels => exact ih labels he

namespace Setting

/-- Whether the check for circular references fires at the label. -/
def fires (s : Setting) (label : Text) : Bool :=
  match (s.isCircular label).result with
  | .ok circular => circular
  | .error _ => false

/-- The notices of circular references that are due at labels. -/
def dueAt (s : Setting) (labels : List Text) : List Notice :=
  (labels.filter s.fires).map (.circular (s.guarded.getD ""))

variable {s : Setting} {label : Text} {room : Nat}

theorem dueAt_append (labels more : List Text) :
    s.dueAt (labels ++ more) = s.dueAt labels ++ s.dueAt more := by
  rw [dueAt, List.filter_append, List.map_append, dueAt, dueAt]

theorem fires_of_isCircular {circular : Bool} (h : (s.isCircular label).result = .ok circular) :
    s.fires label = circular := by
  rw [fires, h]

theorem noticesOf_isCircular : noticesOf (s.isCircular label).notes = [] := by
  rw [isCircular]
  split
  · rfl
  · split
    · rfl
    · exact Source.noticesOf_reaches _ _

/-- The check is not cut, where there is room for all lookups. -/
theorem not_isCut_isCircular : ¬ (s.isCircular label).IsCut := by
  rw [isCircular]
  split
  · exact Traced.not_isCut_pure
  · split
    · exact Traced.not_isCut_pure
    · exact Source.not_isCut_reaches _ _

/-- The check fires only where a cell is guarded. -/
theorem exists_guarded_of_fires (h : s.fires label = true) : ∃ origin, s.guarded = some origin := by
  cases hg : s.guarded with
  | none =>
    simp only [fires, isCircular, hg] at h
    cases h
  | some origin => exact ⟨origin, rfl⟩

theorem notes_fetch : (s.fetch label).notes = [.lookup label] := by
  rw [fetch, Traced.noting]
  split
  · rfl
  · split <;> rfl

/-! ## Labels that are read -/

section Labels

variable (s : Setting)

/-- A reference that yields the same, and records nothing but its label, unless its check is cut. -/
def markedIn (room : Nat) (label : Text) : Traced (Float × Option Failure) :=
  match (s.checkIn room label).result with
  | .error (.cut c) => .halt (.cut c)
  | _ => ⟨[.lookup label], (s.referenceIn room label).result⟩

/-- What the rules depend on where references record their labels. -/
def markedGrammarIn (depth : Nat) : Grammar :=
  ⟨s.labels, s.blankIsZero, s.markedIn (s.stack.room depth)⟩

/-- An evaluation that records the labels that it reads as references. -/
def markedRun (tokens : List Text) : Traced Step :=
  expressionOf s.markedGrammarIn s.stack.levels tokens none

/-- The labels that an evaluation reads as references, in order. -/
def labelsRead (tokens : List Text) : List Text :=
  lookupsOf (s.markedRun tokens).notes

/-- The same is done as beside it, but a label is recorded where a reference was followed. Notice
was given where it was due, unless there was no room to give it for the last of the labels. -/
structure Follows {α : Type} (t t' : Traced α) : Prop where
  result : t'.result = t.result
  notes : ¬ t.IsCut →
    t.notes = (lookupsOf t'.notes).flatMap fun label => (s.reference label).notes
  told : t.result ≠ .error (.cut .telling) → noticesOf t.notes = s.dueAt (lookupsOf t'.notes)
  untold : t.result = .error (.cut .telling) → ∃ front label,
    lookupsOf t'.notes = front ++ [label] ∧ s.fires label = true ∧
      noticesOf t.notes = s.dueAt front
  checked : t.Calm → ∀ label ∈ lookupsOf t'.notes, (s.isCircular label).result = .ok (s.fires label)

end Labels

theorem Follows.of_eq {α : Type} {t : Traced α} (hn : t.notes = [])
    (ht : t.result ≠ .error (.cut .telling)) : s.Follows t t where
  result := rfl
  notes _ := by
    rw [hn]
    rfl
  told _ := by
    rw [hn]
    rfl
  untold h := absurd h ht
  checked _ label hm := by
    rw [hn] at hm
    cases hm

theorem follows_relates : Traced.Relates s.Follows where
  pure _ := .of_eq rfl fun h => by cases h
  bind {α β t t' f f'} ht hf := by
    obtain ⟨notes, result⟩ := t
    obtain ⟨notes', result'⟩ := t'
    cases ht.result
    cases result with
    | error h =>
      have hiff {h' : Halt} (hr : (⟨notes, .error h⟩ : Traced α).result = .error h') : h = h' :=
        Except.error.inj hr
      refine ⟨rfl, fun hc => ht.notes fun ⟨c, hr⟩ => hc ⟨c, ?_⟩, fun hr => ht.told fun he => hr ?_,
        fun hr => ht.untold ?_, fun hc => ht.checked hc.of_bind⟩
      · rw [hiff hr, Traced.bind_error]
      · rw [hiff he, Traced.bind_error]
      · rw [Traced.bind_error] at hr
        rw [Except.error.inj hr]
    | ok a =>
      have ha := hf a rfl
      have htold := ht.told fun h => by cases h
      simp only [Traced.bind_ok]
      refine ⟨ha.result, fun hc => ?_, fun hr => ?_, fun hr => ?_, fun hc label hm => ?_⟩
      · rw [Evaluator.lookupsOf_append, List.flatMap_append, ← ha.notes hc,
          ← ht.notes fun ⟨_, h⟩ => by cases h]
      · rw [Evaluator.lookupsOf_append, dueAt_append, Evaluator.noticesOf_append, ← ha.told hr,
          ← htold]
      · obtain ⟨front, label, hl, hfires, hn⟩ := ha.untold hr
        refine ⟨lookupsOf notes' ++ front, label, ?_, hfires, ?_⟩
        · rw [Evaluator.lookupsOf_append, hl, List.append_assoc]
        · rw [Evaluator.noticesOf_append, hn, dueAt_append, ← htold]
      · rw [Evaluator.lookupsOf_append] at hm
        rcases List.mem_append.1 hm with hm | hm
        · exact ht.checked (fun f h => by cases h) label hm
        · exact ha.checked hc label hm

/-- A check that is not cut is the one with room for all lookups. -/
theorem isCircular_of_checkIn {circular : Bool} (h : (s.checkIn room label).result = .ok circular) :
    (s.isCircular label).result = .ok circular := by
  rw [← (Traced.cutFrom_within _).eq_of_not_isCut (Traced.not_isCut_of_ok h)]
  exact h

theorem isCircular_of_checkIn_fault {f : Fault}
    (h : (s.checkIn room label).result = .error (.fault f)) :
    (s.isCircular label).result = .error (.fault f) := by
  have hc : ¬ (s.checkIn room label).IsCut := by
    rintro ⟨c, hr⟩
    cases h.symm.trans hr
  rw [← (Traced.cutFrom_within _).eq_of_not_isCut hc]
  exact h

/-- The check is cut in a lookup only. -/
theorem eq_reading_of_checkIn {c : Cut} (h : (s.checkIn room label).result = .error (.cut c)) :
    c = .reading := by
  rw [checkIn, Traced.within] at h
  split at h
  · exact absurd ⟨c, h⟩ not_isCut_isCircular
  · cases h
    rfl

theorem noticesOf_checkIn : noticesOf (s.checkIn room label).notes = [] := by
  have h : noticesOf (s.isCircular label).notes = [] := noticesOf_isCircular
  obtain he | ⟨-, hp⟩ : (s.checkIn room label).CutFrom (s.isCircular label) :=
    Traced.cutFrom_within _
  · rw [he, h]
  · exact List.prefix_nil.1 (h ▸ hp.filterMap _)

/-- Reading a label gives no notice, and is not cut. -/
theorem read_quiet : noticesOf (s.read label).notes = [] ∧ ¬ (s.read label).IsCut := by
  have hfetch : noticesOf (s.fetch label).notes = [] := by
    rw [notes_fetch]
    rfl
  constructor
  · rw [read, Evaluator.noticesOf_bind hfetch]
    cases (s.fetch label).result with
    | error halt => rfl
    | ok content =>
      cases content with
      | none => rfl
      | some c =>
        dsimp only
        cases c.reading <;> rfl
  · refine Traced.not_isCut_bind not_isCut_fetch fun content _ => ?_
    cases content with
    | none => exact Traced.not_isCut_pure
    | some c =>
      dsimp only
      cases c.reading with
      | ok r => exact Traced.not_isCut_pure
      | error f => exact Traced.not_isCut_fault

/-- A reference that passes the check gives no notice, and is not cut for want of room to give
it. -/
theorem referenceIn_of_passes (h : (s.checkIn room label).result = .ok false) :
    noticesOf (s.referenceIn room label).notes = [] ∧
      (s.referenceIn room label).result ≠ .error (.cut .telling) := by
  rw [referenceIn_eq_read, Evaluator.noticesOf_bind noticesOf_checkIn,
    Traced.result_bind_of_ok h, h]
  simp only [Bool.false_eq_true, if_false]
  split
  · exact ⟨read_quiet.1, fun he => read_quiet.2 ⟨_, he⟩⟩
  · exact ⟨rfl, fun he => by cases he⟩

/-- A reference at which the check fires gives notice of it, if there is room. -/
theorem referenceIn_of_fires (h : (s.checkIn room label).result = .ok true) :
    noticesOf (s.referenceIn room label).notes = s.dueAt [label] ∧
        (s.referenceIn room label).result ≠ .error (.cut .telling) ∨
      noticesOf (s.referenceIn room label).notes = [] ∧
        (s.referenceIn room label).result = .error (.cut .telling) := by
  have hfires := fires_of_isCircular (isCircular_of_checkIn h)
  rw [referenceIn_eq_read, Evaluator.noticesOf_bind noticesOf_checkIn,
    Traced.result_bind_of_ok h, h, dueAt, List.filter_cons_of_pos hfires]
  simp only [if_true]
  split
  · exact .inl ⟨rfl, fun he => by cases he⟩
  · exact .inr ⟨rfl, rfl⟩

/-- **A reference** that records nothing but its label follows the one that it stands for. -/
theorem follows_marked (s : Setting) (room : Nat) (label : Text) :
    s.Follows (s.referenceIn room label) (s.markedIn room label) := by
  have hnotes (hc : ¬ (s.referenceIn room label).IsCut) :
      (s.referenceIn room label).notes = [label].flatMap fun l => (s.reference l).notes := by
    rw [(s.referenceIn_cutFrom room label).eq_of_not_isCut hc, List.flatMap_singleton]
  rw [markedIn]
  cases hcheck : (s.checkIn room label).result with
  | error halt =>
    have hr : (s.referenceIn room label).result = .error halt := by
      rw [referenceIn_eq_read, Traced.result_bind_of_error hcheck]
    have hn : noticesOf (s.referenceIn room label).notes = [] := by
      rw [referenceIn_eq_read, Evaluator.noticesOf_bind noticesOf_checkIn, hcheck]
    cases halt with
    | cut c =>
      obtain rfl := eq_reading_of_checkIn hcheck
      refine ⟨hr.symm, fun hc => absurd ⟨_, hr⟩ hc, fun _ => hn, fun he => ?_, fun _ other hm => ?_⟩
      · cases hr.symm.trans he
      · cases hm
    | fault f =>
      have hfires : s.fires label = false := by rw [fires, isCircular_of_checkIn_fault hcheck]
      refine ⟨rfl, hnotes, fun _ => ?_, fun he => ?_, fun hc => absurd hr (hc f)⟩
      · rw [hn, Evaluator.lookupsOf_singleton, dueAt, List.filter_cons_of_neg (by simp [hfires])]
        rfl
      · cases hr.symm.trans he
  | ok circular =>
    have hcircular := isCircular_of_checkIn hcheck
    have hchecked (other : Text) (hm : other ∈ [label]) :
        (s.isCircular other).result = .ok (s.fires other) := by
      rw [List.mem_singleton.1 hm, fires_of_isCircular hcircular, hcircular]
    refine ⟨rfl, hnotes, fun ht => ?_, fun ht => ?_, fun _ => hchecked⟩
    · cases circular with
      | true =>
        obtain ⟨hn, -⟩ | ⟨-, hr⟩ := referenceIn_of_fires hcheck
        · exact hn
        · exact absurd hr ht
      | false =>
        rw [(referenceIn_of_passes hcheck).1, Evaluator.lookupsOf_singleton, dueAt,
          List.filter_cons_of_neg (by simp [fires_of_isCircular hcircular])]
        rfl
    · cases circular with
      | true =>
        obtain ⟨-, hr⟩ | ⟨hn, -⟩ := referenceIn_of_fires hcheck
        · exact absurd ht hr
        · exact ⟨[], label, rfl, fires_of_isCircular hcircular, hn⟩
      | false => exact absurd ht (referenceIn_of_passes hcheck).2

/-- **The record of an evaluation** is that of the references that it reads, one after the other,
unless it is cut. -/
theorem follows_run (s : Setting) (tokens : List Text) :
    s.Follows (s.run tokens) (s.markedRun tokens) := by
  have hgrammar (depth : Nat) :
      (s.grammarIn depth).Related (fun {_} => s.Follows) tokens (s.markedGrammarIn depth) :=
    ⟨rfl, rfl, fun label _ _ => s.follows_marked _ label⟩
  exact expressionOf_related follows_relates (.of_eq rfl fun h => by cases h) hgrammar
    s.stack.levels (List.suffix_refl tokens) none

/-! ## Where the labels stand -/

/-- What a rule has read when it starts from the tokens and the failure: the labels stand in this
order among the tokens in front of where it ends, and each of them counts as one there. If the rule
ends without a failure, there was none before, and none of the references had one. -/
structure ReadsIn (s : Setting) (tokens : List Text) (failure : Option Failure)
    (t : Traced Step) : Prop where
  place : ∃ front rest, tokens = front ++ rest ∧ (lookupsOf t.notes).Sublist front ∧
    ∀ step, t.result = .ok step → step.rest = rest
  labels : ∀ label ∈ lookupsOf t.notes, IsReference s.labels s.blankIsZero label
  clear : ∀ step, t.result = .ok step → step.failure = none → failure = none ∧
    ∀ label ∈ lookupsOf t.notes, ∃ x, (s.reference label).result = .ok (x, none)

namespace ReadsIn

variable {tokens rest : List Text} {failure g : Option Failure} {t : Traced Step}

/-- A rule may pass over tokens, as long as it keeps a failure. -/
theorem pure (x : Float) (hrest : rest <:+ tokens) (hg : g = none → failure = none) :
    s.ReadsIn tokens failure (pure ⟨x, rest, g⟩) where
  place := by
    obtain ⟨front, rfl⟩ := hrest
    refine ⟨front, rest, rfl, List.nil_sublist _, fun step h => ?_⟩
    cases h
    rfl
  labels _ hm := by cases hm
  clear step h hs := by
    cases h
    exact ⟨hg hs, fun label hm => by cases hm⟩

theorem halt (h : Halt) : s.ReadsIn tokens failure (Traced.halt h) where
  place := ⟨tokens, [], (List.append_nil _).symm, List.nil_sublist _, fun step h => by cases h⟩
  labels _ hm := by cases hm
  clear step h := by cases h

/-- The first token may be passed over. -/
theorem skip {token : Text} (h : s.ReadsIn rest failure t) :
    s.ReadsIn (token :: rest) failure t where
  place := by
    obtain ⟨front, rest', rfl, hl, hr⟩ := h.place
    exact ⟨token :: front, rest', rfl, hl.cons token, hr⟩
  labels := h.labels
  clear := h.clear

/-- What goes on from where a rule has ended has read the labels behind those of the rule. -/
theorem bind {f : Step → Traced Step} (ht : s.ReadsIn tokens failure t)
    (hf : ∀ r, t.result = .ok r → s.ReadsIn r.rest r.failure (f r)) :
    s.ReadsIn tokens failure (t >>= f) := by
  rcases t with ⟨notes, result⟩
  cases result with
  | error h =>
    refine ⟨?_, ht.labels, fun step hs => by cases hs⟩
    obtain ⟨front, rest, htokens, hl, -⟩ := ht.place
    exact ⟨front, rest, htokens, hl, fun step hs => by cases hs⟩
  | ok r =>
    have hr := hf r rfl
    obtain ⟨front, rest, rfl, hl, hrest⟩ := ht.place
    obtain ⟨front', rest', hrest', hl', hlast⟩ := hr.place
    rw [Traced.bind_ok]
    refine ⟨⟨front ++ front', rest', ?_, ?_, hlast⟩, fun label hm => ?_, fun step hs hg => ?_⟩
    · rw [List.append_assoc, ← hrest', hrest r rfl]
    · rw [Evaluator.lookupsOf_append]
      exact hl.append hl'
    · rw [Evaluator.lookupsOf_append] at hm
      rcases List.mem_append.1 hm with hm | hm
      · exact ht.labels label hm
      · exact hr.labels label hm
    · obtain ⟨hfailure, hlabels'⟩ := hr.clear step hs hg
      obtain ⟨hfailure, hlabels⟩ := ht.clear r rfl hfailure
      refine ⟨hfailure, fun label hm => ?_⟩
      rw [Evaluator.lookupsOf_append] at hm
      rcases List.mem_append.1 hm with hm | hm
      · exact hlabels label hm
      · exact hlabels' label hm

/-- A label is read as a reference. -/
theorem marked {token : Text} (ht : IsReference s.labels s.blankIsZero token) (room : Nat) :
    s.ReadsIn (token :: rest) failure (do
      let (x, f) ← s.markedIn room token
      Pure.pure ⟨x, rest, f.or failure⟩) := by
  rw [Setting.markedIn]
  split
  · exact .halt _
  have hplace : [token].Sublist [token] := List.Sublist.refl _
  have hlabels (label : Text) (hm : label ∈ [token]) : IsReference s.labels s.blankIsZero label :=
    List.mem_singleton.1 hm ▸ ht
  cases hr : (s.referenceIn room token).result with
  | error h =>
    exact ⟨⟨[token], rest, rfl, hplace, fun step hs => by cases hs⟩, hlabels,
      fun step hs => by cases hs⟩
  | ok r =>
    obtain ⟨x, f⟩ := r
    refine ⟨⟨[token], rest, rfl, hplace, fun step hs => by cases hs; rfl⟩, hlabels,
      fun step hs hg => ?_⟩
    cases hs
    obtain ⟨rfl, hfailure⟩ := Option.or_eq_none_iff.1 hg
    refine ⟨hfailure, fun label hm => ⟨x, ?_⟩⟩
    rw [List.mem_singleton.1 hm]
    exact reference_of_referenceIn hr

end ReadsIn

/-- Wherever the rule starts, it reads labels in the order of the tokens. -/
def ReadsAlong (s : Setting) (r : Rule) : Prop :=
  ∀ tokens failure, s.ReadsIn tokens failure (r tokens failure)

variable {rank : Rank} {operand inner : Rule}

theorem chain_readsIn (ho : s.ReadsAlong operand) (n : Nat) (step : Step) :
    s.ReadsIn step.rest step.failure (chain rank operand n step) := by
  induction n generalizing step with
  | zero => exact .pure _ List.suffix_rfl id
  | succ n ih =>
    rcases step with ⟨x, tokens, failure⟩
    cases tokens with
    | nil => exact .pure _ List.suffix_rfl id
    | cons token rest =>
      cases hop : rank.operator? token with
      | none =>
        simp only [chain, hop]
        exact .pure _ List.suffix_rfl id
      | some op =>
        rw [chain_of_operator hop]
        refine .skip ((ho rest failure).bind fun r _ => ?_)
        split
        · rename_i y _
          exact ih ⟨y, r.rest, r.failure⟩
        · exact .pure _ List.suffix_rfl fun h => by cases h

theorem level_readsAlong (ho : s.ReadsAlong operand) : s.ReadsAlong (level rank operand) :=
  fun tokens failure => (ho tokens failure).bind fun first _ => chain_readsIn ho _ first

theorem factor_readsAlong (depth : Nat) (hi : s.ReadsAlong inner) :
    s.ReadsAlong ((s.markedGrammarIn depth).factor inner) := by
  intro tokens failure
  cases tokens with
  | nil => exact .pure _ List.suffix_rfl fun h => by cases h
  | cons token rest =>
    rw [Grammar.factor]
    cases hx : Token.number? (s.markedGrammarIn depth).blankIsZero token with
    | some x => exact .pure _ (List.suffix_cons _ _) id
    | none =>
      dsimp only
      split
      · refine .skip ((hi rest failure).bind fun r _ => ?_)
        split
        · exact .pure _ (List.tail_suffix _) id
        · exact .pure _ (List.tail_suffix _) fun h => by cases h
      · rename_i ho
        split
        · rename_i hl
          exact .marked ⟨hx, ho, hl⟩ _
        · exact .pure _ (List.suffix_cons _ _) fun h => by cases h

theorem expression_readsAlong (depth : Nat) :
    s.ReadsAlong (expressionOf s.markedGrammarIn depth) := by
  induction depth with
  | zero => exact fun _ _ => .halt _
  | succ depth ih =>
    rw [expressionOf_eq]
    exact level_readsAlong (level_readsAlong (factor_readsAlong depth ih))

/-- **The labels that are read** stand among the tokens in this order, and if an evaluation ends
without a failure, none of its references had one. -/
theorem run_readsIn (s : Setting) (tokens : List Text) :
    s.ReadsIn tokens none (s.markedRun tokens) :=
  expression_readsAlong s.stack.levels tokens none

theorem labelsRead_sublist (tokens : List Text) : (s.labelsRead tokens).Sublist tokens := by
  obtain ⟨front, rest, htokens, hl, -⟩ := (s.run_readsIn tokens).place
  have h := hl.trans (List.sublist_append_left front rest)
  rw [← htokens] at h
  exact h

theorem isReference_of_mem_labelsRead {tokens : List Text} {label : Text}
    (h : label ∈ s.labelsRead tokens) : IsReference s.labels s.blankIsZero label :=
  (s.run_readsIn tokens).labels label h

/-- Where there is no failure in the end, no reference had one. -/
theorem reference_of_mem_labelsRead {tokens : List Text} {step : Step}
    (h : (s.run tokens).result = .ok step) (hf : step.failure = none) {label : Text}
    (hm : label ∈ s.labelsRead tokens) : ∃ x, (s.reference label).result = .ok (x, none) :=
  ((s.run_readsIn tokens).clear step ((s.follows_run tokens).result.trans h) hf).2 label hm

end Setting

/-! ## Notices of evaluations -/

namespace Evaluator

/-- A conclusion adds notice of the failure, if there is one. -/
theorem notices_conclude {e : Evaluator} {origin : Option Text} {notes : List Note}
    {failure : Option Failure} {code : Text} (h : Failure.codeOf failure = .str code) :
    (e.conclude origin notes failure).notices =
      noticesOf notes ++
        if failure.isSome then [.failed e.tokens origin e.position code code] else [] := by
  cases failure with
  | none => exact (List.append_nil _).symm
  | some g =>
    have hg : g.code = .str code := h
    simp only [conclude, fail, hg, Value.text_str, Value.plainText?]
    rfl

variable {o : Options} {source : Source} {origin : Option Text} {tokens : List Text}

/-- What is concluded from no tokens is concluded from the rule, as far as notice is given of
circular references. -/
theorem Concludes.noticesOf_eq {notes : List Note} {failure : Option Failure}
    (h : Concludes (run o source origin tokens) tokens notes failure) :
    noticesOf notes = noticesOf (run o source origin tokens).notes := by
  cases h with
  | nil hn =>
    subst hn
    obtain he | he := (setting o source origin).run_nil
    · rw [show run o source origin [] = _ from he]
      rfl
    · rw [show run o source origin [] = _ from he]
      rfl
  | cut _ => rfl
  | step _ => rfl

/-- The cell that is guarded is that of the formula. -/
theorem guarded_eq_of_fires {label : Text} (h : (setting o source origin).fires label = true) :
    (setting o source origin).guarded = origin := by
  obtain ⟨guarded, hg⟩ := Setting.exists_guarded_of_fires h
  rw [hg]
  rw [setting] at hg
  dsimp only at hg
  split at hg
  · exact hg.symm
  · cases hg

/-- The labels that an evaluation of tokens reads and at which the check for circular references
fires, in order. -/
def labelsFired (o : Options) (source : Source) (origin : Option Text) (tokens : List Text) :
    List Text :=
  ((setting o source origin).labelsRead tokens).filter (setting o source origin).fires

theorem dueAt_eq (labels : List Text) :
    (setting o source origin).dueAt labels =
      (labels.filter (setting o source origin).fires).map (.circular (origin.getD "")) := by
  refine List.map_congr_left fun label hm => ?_
  rw [guarded_eq_of_fires (List.mem_filter.1 hm).2]

/-- The labels that notice is given of are those at which the check fires, without the last one if
the evaluation is cut there for want of room to give it. -/
theorem noticesOf_run (o : Options) (source : Source) (origin : Option Text) (tokens : List Text) :
    ∃ told, noticesOf (run o source origin tokens).notes = told.map (.circular (origin.getD "")) ∧
      ((run o source origin tokens).result ≠ .error (.cut .telling) →
        told = labelsFired o source origin tokens) ∧
      ((run o source origin tokens).result = .error (.cut .telling) →
        ∃ label, labelsFired o source origin tokens = told ++ [label]) := by
  have hfollows := (setting o source origin).follows_run tokens
  by_cases hr : (run o source origin tokens).result = .error (.cut .telling)
  · obtain ⟨front, label, hl, hfires, hn⟩ := hfollows.untold hr
    refine ⟨front.filter (setting o source origin).fires, hn.trans (dueAt_eq front),
      fun h => absurd hr h, fun _ => ⟨label, ?_⟩⟩
    rw [labelsFired, Setting.labelsRead, hl, List.filter_append, List.filter_cons_of_pos hfires]
    rfl
  · exact ⟨_, (hfollows.told hr).trans (dueAt_eq _), fun _ => rfl, fun h => absurd h hr⟩

/-- **What an evaluation gives notice of**: first the circular references, at the labels that it
reads and where the check fires, in order; then its failure, if it has one, with the tokens, the
cell of the formula, the number of tokens that were read, and the code. There is no notice of the
last label if the evaluation was cut when it was to be given. -/
theorem notices_evaluateTokens {out : Outcome} {code : Text}
    (h : (evaluateTokens o source origin tokens).outcome = .ok out)
    (hcode : out.error = .str code) : ∃ told,
    (evaluateTokens o source origin tokens).notices = told.map (.circular (origin.getD "")) ++
        (if code = "" then []
        else [.failed tokens origin (tokens.length -
          (evaluateTokens o source origin tokens).evaluator.remaining) code code]) ∧
      ((run o source origin tokens).result ≠ .error (.cut .telling) →
        told = labelsFired o source origin tokens) ∧
      ((run o source origin tokens).result = .error (.cut .telling) →
        ∃ label, labelsFired o source origin tokens = told ++ [label]) := by
  have hconsistent : (evaluateTokens o source origin tokens).evaluator.IsConsistent :=
    isConsistent_evaluateTokens
  rcases evaluateTokens_cases o source origin tokens with
    ⟨f, -, he⟩ | ⟨e, notes, failure, -, hn, hc, he⟩
  · rw [he] at h
    cases h
  have hleft : (evaluateTokens o source origin tokens).evaluator = { e with failure } := by
    rw [he, evaluator_conclude hn]
  have htokens : e.tokens = tokens := by
    have ht : (evaluateTokens o source origin tokens).evaluator.tokens = tokens :=
      tokens_evaluateTokens
    rwa [hleft] at ht
  have hcodeOf : Failure.codeOf failure = .str code := by
    rw [← hcode, outcome_evaluateTokens h, hleft]
    rfl
  have hfailed : failure.isSome = true ↔ code ≠ "" := by
    have herror := hconsistent.error
    rw [hleft, error, hcodeOf] at herror
    simpa [errorOccurred] using herror
  have hposition : e.position =
      tokens.length - (evaluateTokens o source origin tokens).evaluator.remaining := by
    have hle := hconsistent.position
    rw [hleft] at hle ⊢
    rw [remaining, ← htokens]
    exact (Nat.sub_sub_self hle).symm
  obtain ⟨told, hcircular, htold⟩ := noticesOf_run o source origin tokens
  refine ⟨told, ?_, htold⟩
  rw [← hposition, he, notices_conclude hcodeOf, hc.noticesOf_eq, hcircular, htokens]
  by_cases hempty : code = ""
  · rw [if_pos hempty, if_neg fun hs => hfailed.1 hs hempty]
  · rw [if_neg hempty, if_pos (hfailed.2 hempty)]

/-- **An evaluation that succeeds** gives no notice: the check has fired at none of the labels. -/
theorem fires_of_clear {x : Float}
    (h : (evaluateTokens o source origin tokens).outcome = .ok ⟨x, .str ""⟩) {label : Text}
    (hm : label ∈ (setting o source origin).labelsRead tokens) :
    (setting o source origin).fires label = false := by
  obtain ⟨-, hr⟩ := outcome_clear_iff.1 h
  obtain ⟨y, hy⟩ := Setting.reference_of_mem_labelsRead hr rfl hm
  rw [Setting.fires, Setting.isCircular_of_reference hy]

/-- What holds of the failures that references have of themselves, and of every error that the sheet
shows, holds of a failure that comes from a reference. -/
theorem holds_of_reference {P : Failure → Prop} (hreference : P .reference)
    (hcircular : P .circular) {sheet : Sheet}
    (hstored : ∀ label cell, sheet.get label = .ok cell → P (.stored cell.error)) {label : Text}
    {x : Float} {g : Failure}
    (h : ((setting o sheet.source origin).reference label).result = .ok (x, some g)) : P g := by
  cases Setting.reference_ok_iff.1 h with
  | circular _ => exact hcircular
  | unresolved _ _ _ => exact hreference
  | read _ hl hc =>
    obtain ⟨cell, hg, rfl⟩ := sheet.exists_get_of_lookup hl
    rcases Content.failure_of_reading hc with ⟨rfl, -⟩ | ⟨rfl, -⟩
    · exact hreference
    · exact hstored _ cell hg

/-- Over a sheet whose errors are texts, a failure that comes from a reference has one for its
code. -/
theorem exists_code_of_reference {sheet : Sheet} (hs : sheet.HasTextErrors) {label : Text}
    {x : Float} {g : Failure}
    (h : ((setting o sheet.source origin).reference label).result = .ok (x, some g)) :
    ∃ code, g.code = .str code :=
  holds_of_reference (P := fun g => ∃ code, g.code = .str code) ⟨_, rfl⟩ ⟨_, rfl⟩
    (fun _ _ hg => sheet.get_hasTextError hs hg) h

/-- Over a sheet whose errors are texts, the error of an outcome is one. -/
theorem exists_code_of_outcome {sheet : Sheet} (hs : sheet.HasTextErrors) {out : Outcome}
    (h : (evaluateTokens o sheet.source origin tokens).outcome = .ok out) :
    ∃ code, out.error = .str code := by
  have hrules : HoldsOfRules fun g => ∃ code, g.code = .str code :=
    ⟨⟨_, rfl⟩, ⟨_, rfl⟩, ⟨_, rfl⟩, ⟨_, rfl⟩⟩
  have hreference (label : Text) (x : Float) (g : Failure)
      (hr : ((setting o sheet.source origin).reference label).result = .ok (x, some g)) :
      ∃ code, g.code = .str code := exists_code_of_reference hs hr
  rcases evaluateTokens_cases o sheet.source origin tokens with
    ⟨f, -, he⟩ | ⟨e, notes, failure, -, hn, hc, he⟩
  · rw [he] at h
    cases h
  · rw [he] at h
    rw [outcome_conclude hn h]
    cases hf : failure with
    | none => exact ⟨"", rfl⟩
    | some g => exact hc.holds hrules ⟨_, rfl⟩ hreference hf

/-- Nothing is read of an evaluation that is cut. -/
theorem remaining_of_cut {out : Outcome} (hn : tokens ≠ [])
    (h : (evaluateTokens o source origin tokens).outcome = .ok out)
    (hcut : (run o source origin tokens).IsCut) :
    out = ⟨0.0, .str "#ERR!"⟩ ∧
      (evaluateTokens o source origin tokens).evaluator.remaining = tokens.length := by
  obtain ⟨c, hr⟩ := hcut
  have he := evaluateTokens_of_cut hn hr
  have hleft : (evaluateTokens o source origin tokens).evaluator =
      { unread o tokens with failure := some .invalid } := by
    rw [he, evaluator_conclude rfl]
  rw [outcome_evaluateTokens h, hleft]
  exact ⟨rfl, rfl⟩

end Evaluator

end FormulaSheet
