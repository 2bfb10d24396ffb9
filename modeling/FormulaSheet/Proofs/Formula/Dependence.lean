import FormulaSheet.Proofs.Formula.Denotation
import FormulaSheet.Proofs.Formula.Locality
import FormulaSheet.Proofs.Formula.Nested
import FormulaSheet.Proofs.Formula.Reachability

/-!
# What an evaluation depends on

A formula is evaluated over two sheets that may have little in common. Its labels show the same in
both (`Cell.ShowsSame`): they are refused, or there are cells with the same value and error of which
both or neither have a formula. If circular references are looked for, the formulas that can be
reached from these labels are the same as well. Then the two evaluations do the same, step by step,
and leave the same record. No other cell matters, nor the values and errors of the cells that only
the walk along references comes to.

A sheet may give up an evaluation where the other one refuses a label as one that names no cell,
with a number that is too long to be read. So the two are compared as far as neither is given up
(`Traced.CalmlySame`). And it takes more calls to look up a label where no cell is stored than where
an empty one is, so that of two evaluations one may be cut and the other one not.

* `Sheet.reaches_calmlySame`: the walks along references take the same way;
* `Setting.reference_calmlySame`, `Setting.referenceIn_calmlySame`: references yield the same;
* `Sheet.evaluate_eq_of_agreeAt`: evaluations are the same;
* `Sheet.evaluate_ne_of_absent`: where one of them is cut.
-/

namespace FormulaSheet

namespace Traced

variable {α β : Type}

/-- Two evaluations are the same, with their records, unless one is given up for a fault. -/
def CalmlySame (t t' : Traced α) : Prop :=
  t.Calm → t'.Calm → t = t'

theorem CalmlySame.of_eq {t t' : Traced α} (h : t = t') : t.CalmlySame t' :=
  fun _ _ => h

theorem CalmlySame.noting {t t' : Traced α} (h : t.CalmlySame t') (n : Note) :
    (noting n t).CalmlySame (noting n t') :=
  fun hc hc' => congrArg (Traced.noting n) (h hc hc')

theorem calmlySame_relates : Relates fun {_} => CalmlySame where
  pure _ := .of_eq rfl
  bind {α β t t' f f'} ht hf hc hc' := by
    obtain rfl := ht hc.of_bind hc'.of_bind
    exact bind_congr fun a ha => hf a ha (hc.after ha) (hc'.after ha)

theorem not_calm_of_fault {f : Fault} : ¬ (halt (.fault f) : Traced α).Calm :=
  fun h => h f rfl

end Traced

/-! ## Cells that show the same -/

/-- Two cells with the same value and error, of which both or neither have a formula. -/
structure Cell.ShowsSame (c d : Cell) : Prop where
  value : c.value = d.value
  error : c.error = d.error
  formula : c.formula = [] ↔ d.formula = []

/-- A reference yields the same of cells that show the same. -/
theorem Cell.ShowsSame.reading_eq {c d : Cell} (h : c.ShowsSame d) :
    c.content.reading = d.content.reading := by
  obtain ⟨hvalue, herror, hformula⟩ := h
  simp only [Content.reading, content, Value.elements, hvalue, herror]
  cases hc : c.formula with
  | nil =>
    rw [hformula.1 hc]
    rfl
  | cons token tokens =>
    cases hd : d.formula with
    | nil =>
      rw [hformula.2 hd] at hc
      cases hc
    | cons token' tokens' => rfl

namespace Sheet

/-- Both sheets refuse the label, or they show cells there that are related. -/
inductive AgreeAt (R : Cell → Cell → Prop) (s t : Sheet) (label : Text) : Prop
  /-- the label is refused -/
  | refused {f g : Fault} : s.get label = .error f → t.get label = .error g → AgreeAt R s t label
  /-- there are cells -/
  | shown {c d : Cell} : s.get label = .ok c → t.get label = .ok d → R c d → AgreeAt R s t label

/-- Both sheets refuse the label, or they have the same formula there. -/
abbrev SameFormulaAt (s t : Sheet) (label : Text) : Prop :=
  AgreeAt (fun c d => c.formula = d.formula) s t label

variable {s t : Sheet} {c : LabelClass} {target label : Text}

/-! ## Walks that take the same way -/

/-- Taking up a label yields the same, where it fails for neither sheet. -/
theorem expand_eq_of_sameFormulaAt (h : s.SameFormulaAt t label) {seen : List Text}
    {labels labels' : Option (List Text)}
    (hs : s.source.expand c target seen label = .ok labels)
    (ht : t.source.expand c target seen label = .ok labels') : labels = labels' := by
  rw [Source.expand_eq] at hs ht
  cases h with
  | refused hf hg =>
    rw [lookup_eq_error_iff.2 hf] at hs
    rw [lookup_eq_error_iff.2 hg] at ht
    dsimp only at hs ht
    split at hs
    · split at ht
      · cases hs
        cases ht
        rfl
      · cases ht
    · cases hs
  | shown hc hd hformula =>
    rw [lookup_of_get hc] at hs
    rw [lookup_of_get hd] at ht
    simp only [Cell.content, hformula] at hs ht
    exact Except.ok.inj (hs.symm.trans ht)

/-- **The walks take the same way** through formulas that are the same, as far as there is room, if
there is for the same lookups. -/
theorem reaches_calmlySame {M : Text → Prop}
    (hM : ∀ label other, M label → s.source.Mentions c label other → M other)
    (hsame : ∀ label, M label → s.SameFormulaAt t label) {fits fits' : Note → Bool}
    (hfits : ∀ label, M label → fits (.lookup label) = fits' (.lookup label))
    (seen stack : List Text) (hstack : ∀ label ∈ stack, M label) :
    ((s.source.reaches c target seen stack).within fits).CalmlySame
      ((t.source.reaches c target seen stack).within fits') := by
  revert hstack
  induction seen, stack using Source.walk_induction s.source c target with
  | nil seen =>
    intro _
    rw [Source.reaches_nil, Source.reaches_nil]
    exact .of_eq rfl
  | skip seen label stack hs ih =>
    intro hstack
    rw [Source.reaches_seen hs, Source.reaches_seen hs]
    exact ih fun other hm => hstack other (List.mem_cons_of_mem _ hm)
  | take seen label stack hn ih =>
    intro hstack
    have hl := hstack label List.mem_cons_self
    rw [Source.reaches_cons hn, Source.reaches_cons hn, Traced.within_noting, Traced.within_noting,
      ← hfits label hl]
    split
    case isFalse => exact .of_eq rfl
    refine Traced.CalmlySame.noting ?_ _
    intro hc hc'
    cases hs : s.source.expand c target seen label with
    | error f =>
      rw [hs, Traced.within_of_notes_nil rfl] at hc
      exact absurd hc Traced.not_calm_of_fault
    | ok labels? =>
      cases ht : t.source.expand c target seen label with
      | error f =>
        rw [ht, Traced.within_of_notes_nil rfl] at hc'
        exact absurd hc' Traced.not_calm_of_fault
      | ok labels?' =>
        obtain rfl := expand_eq_of_sameFormulaAt (hsame label hl) hs ht
        cases labels? with
        | none => rw [Traced.within_of_notes_nil rfl, Traced.within_of_notes_nil rfl]
        | some labels =>
          rw [hs] at hc
          rw [ht] at hc'
          refine ih labels hs (fun other hm => ?_) hc hc'
          obtain hm | hm := List.mem_append.1 hm
          · have hmention := Source.mentions_of_mem_expand hs (List.mem_reverse.1 hm)
            exact hM label other hl hmention
          · exact hstack other (List.mem_cons_of_mem _ hm)

end Sheet

/-! ## References that yield the same -/

namespace Setting

variable {s : Setting} {label : Text}

theorem read_of_ok {c : Content} (h : s.source.lookup label = .ok c) :
    s.read label = Traced.noting (.lookup label) (Traced.ofExcept c.reading) := by
  rw [read, fetch, h]
  rfl

theorem read_of_error {f : Fault} (h : s.source.lookup label = .error f)
    (hc : (s.read label).Calm) :
    s.read label = Traced.noting (.lookup label) (pure (0.0, some .reference)) := by
  rw [read, fetch, h] at hc ⊢
  cases hf : f.isFormulaFault with
  | true =>
    simp only [hf]
    rfl
  | false =>
    simp only [hf] at hc
    exact absurd rfl (hc f)

variable {sheet sheet' : Sheet} {o : Options} {origin : Option Text}

theorem read_calmlySame (h : Sheet.AgreeAt Cell.ShowsSame sheet sheet' label) :
    ((Evaluator.setting o sheet.source origin).read label).CalmlySame
      ((Evaluator.setting o sheet'.source origin).read label) := by
  intro hc hc'
  cases h with
  | refused hf hg =>
    rw [read_of_error (Sheet.lookup_eq_error_iff.2 hf) hc,
      read_of_error (Sheet.lookup_eq_error_iff.2 hg) hc']
  | shown hs ht hshows =>
    rw [read_of_ok (Sheet.lookup_of_get hs), read_of_ok (Sheet.lookup_of_get ht),
      hshows.reading_eq]

/-- The checks of a label are the same if the walks from there take the same way. -/
theorem isCircular_calmlySame {fits fits' : Note → Bool}
    (hwalk : o.checkCycles = true → ∀ cell, origin = some cell →
      ((sheet.source.reaches o.labels cell [] [label]).within fits).CalmlySame
        ((sheet'.source.reaches o.labels cell [] [label]).within fits')) :
    (((Evaluator.setting o sheet.source origin).isCircular label).within fits).CalmlySame
      (((Evaluator.setting o sheet'.source origin).isCircular label).within fits') := by
  rw [isCircular, isCircular]
  simp only [Evaluator.setting]
  split
  · exact .of_eq rfl
  · rename_i cell hg
    split at hg
    · rename_i hc
      split
      · exact .of_eq rfl
      · exact hwalk hc cell hg
    · cases hg

/-- **References yield the same** if their labels show the same and the walks from there take the
same way. -/
theorem reference_calmlySame (h : Sheet.AgreeAt Cell.ShowsSame sheet sheet' label)
    (hwalk : o.checkCycles = true → ∀ cell, origin = some cell →
      ((sheet.source.reaches o.labels cell [] [label]).within fun _ => true).CalmlySame
        ((sheet'.source.reaches o.labels cell [] [label]).within fun _ => true)) :
    ((Evaluator.setting o sheet.source origin).reference label).CalmlySame
      ((Evaluator.setting o sheet'.source origin).reference label) := by
  have hcheck := isCircular_calmlySame hwalk
  rw [Traced.within_of_all fun _ _ => rfl, Traced.within_of_all fun _ _ => rfl] at hcheck
  rw [reference_eq_read, reference_eq_read]
  refine Traced.calmlySame_relates.bind hcheck fun circular _ => ?_
  split
  · exact .of_eq rfl
  · exact read_calmlySame h

/-- On a stack they do if, besides, it takes as many calls to look up the label, and there is room
for the same walks. -/
theorem referenceIn_calmlySame (h : Sheet.AgreeAt Cell.ShowsSame sheet sheet' label) {room : Nat}
    (hframes : sheet.framesAt label = sheet'.framesAt label)
    (hwalk : o.checkCycles = true → ∀ cell, origin = some cell →
      ((sheet.source.reaches o.labels cell [] [label]).within
          ((Evaluator.setting o sheet.source origin).fitsWalk room)).CalmlySame
        ((sheet'.source.reaches o.labels cell [] [label]).within
          ((Evaluator.setting o sheet'.source origin).fitsWalk room))) :
    ((Evaluator.setting o sheet.source origin).referenceIn room label).CalmlySame
      ((Evaluator.setting o sheet'.source origin).referenceIn room label) := by
  have hsame : (Evaluator.setting o sheet.source origin).source.frames label =
      (Evaluator.setting o sheet'.source origin).source.frames label := hframes
  rw [referenceIn_eq_read, referenceIn_eq_read, hsame]
  refine Traced.calmlySame_relates.bind (isCircular_calmlySame hwalk) fun circular _ => ?_
  split
  · exact .of_eq rfl
  · split
    · exact read_calmlySame h
    · exact .of_eq rfl

end Setting

/-! ## Evaluations that are the same -/

namespace Sheet

variable {s t : Sheet}

/-- The label stands among the tokens, or references lead there from one that does. -/
def Reaches (s : Sheet) (c : LabelClass) (tokens : List Text) (label : Text) : Prop :=
  ∃ token ∈ tokens, c.holds token = true ∧ s.source.ComesTo c token label

theorem Reaches.mentions {c : LabelClass} {tokens : List Text} {label other : Text}
    (h : s.Reaches c tokens label) (hm : s.source.Mentions c label other) :
    s.Reaches c tokens other := by
  obtain ⟨token, hin, hl, hc⟩ := h
  exact ⟨token, hin, hl, hc.tail hm⟩

/-- What holds of the labels among the tokens, and of what is mentioned where it holds, holds of
every label that can be reached. -/
theorem Reaches.of_closed {c : LabelClass} {tokens : List Text} {M : Text → Prop}
    (hstart : ∀ token ∈ tokens, c.holds token = true → M token)
    (hM : ∀ label other, M label → s.source.Mentions c label other → M other) {label : Text}
    (h : s.Reaches c tokens label) : M label := by
  obtain ⟨token, hin, hl, rfl | hleads⟩ := h
  · exact hstart token hin hl
  · have hfrom := hstart token hin hl
    clear hin hl
    induction hleads with
    | mention hm => exact hM _ _ hfrom hm
    | step hm _ ih => exact ih (hM _ _ hfrom hm)

/-- **An evaluation depends on the labels of its formula only.** Let both sheets show the same at
every label among the tokens and, if circular references are looked for, have the same formulas at
every label that can be reached from there. Where both evaluations return and neither is cut, they
are the same: the outcome, the evaluator afterwards, the notices and the labels that were looked up.
They are the same as well, whether they are cut or not, if it takes as many calls in both sheets to
look up these labels, which it does where both or neither have a cell stored. -/
theorem evaluate_eq_of_agreeAt {e : Evaluator} {origin : Option Text} {tokens : List Text}
    (hshow : ∀ token ∈ tokens, e.options.labels.holds token = true →
      AgreeAt Cell.ShowsSame s t token)
    (hformula : e.options.checkCycles = true → origin.isSome = true →
      ∀ label, s.Reaches e.options.labels tokens label → s.SameFormulaAt t label)
    {out out' : Outcome}
    (hs : (e.evaluate s.source origin (.list (tokens.map .str))).outcome = .ok out)
    (ht : (e.evaluate t.source origin (.list (tokens.map .str))).outcome = .ok out')
    (hroom : (¬ (Evaluator.run e.options s.source origin tokens).IsCut ∧
        ¬ (Evaluator.run e.options t.source origin tokens).IsCut) ∨
      ∀ label, s.Reaches e.options.labels tokens label → s.framesAt label = t.framesAt label) :
    e.evaluate s.source origin (.list (tokens.map .str)) =
      e.evaluate t.source origin (.list (tokens.map .str)) := by
  rw [Evaluator.evaluate_texts] at hs ht ⊢
  rw [Evaluator.evaluate_texts]
  have hcalm : ((Evaluator.setting e.options s.source origin).run tokens).Calm :=
    Evaluator.calm_of_outcome hs
  have hcalm' : ((Evaluator.setting e.options t.source origin).run tokens).Calm :=
    Evaluator.calm_of_outcome ht
  have hstart (label : Text) (hm : label ∈ tokens) (hl : e.options.labels.holds label = true) :
      s.Reaches e.options.labels tokens label := ⟨label, hm, hl, .inl rfl⟩
  have hwalk {fits fits' : Note → Bool} (hfits : ∀ label, s.Reaches e.options.labels tokens label →
      fits (.lookup label) = fits' (.lookup label)) {label : Text} (hm : label ∈ tokens)
      (hl : e.options.labels.holds label = true) (hc : e.options.checkCycles = true) (cell : Text)
      (ho : origin = some cell) :
      ((s.source.reaches e.options.labels cell [] [label]).within fits).CalmlySame
        ((t.source.reaches e.options.labels cell [] [label]).within fits') := by
    have hsome : origin.isSome = true := by rw [ho]; rfl
    refine reaches_calmlySame (fun _ _ h hm => h.mentions hm) (hformula hc hsome) hfits _ _ ?_
    intro other hother
    exact List.mem_singleton.1 hother ▸ hstart label hm hl
  have hrun : (Evaluator.setting e.options s.source origin).run tokens =
      (Evaluator.setting e.options t.source origin).run tokens := by
    obtain ⟨hcut, hcut'⟩ | hframes := hroom
    · rw [Setting.run_eq_of_not_isCut hcut 0] at hcalm ⊢
      rw [Setting.run_eq_of_not_isCut hcut' 0] at hcalm' ⊢
      have hgrammar : (Evaluator.setting e.options s.source origin).grammar.Related
          (fun {_} => Traced.CalmlySame) tokens
          (Evaluator.setting e.options t.source origin).grammar :=
        ⟨rfl, rfl, fun label hm hl => Setting.reference_calmlySame (hshow label hm hl)
          (hwalk (fun _ _ => rfl) hm hl)⟩
      exact expressionOf_related Traced.calmlySame_relates (.of_eq rfl) (fun _ => hgrammar) _
        (List.suffix_refl tokens) none hcalm hcalm'
    · have hgrammar (depth : Nat) :
          ((Evaluator.setting e.options s.source origin).grammarIn depth).Related
            (fun {_} => Traced.CalmlySame) tokens
            ((Evaluator.setting e.options t.source origin).grammarIn depth) := by
        refine ⟨rfl, rfl, fun label hm hl => Setting.referenceIn_calmlySame (hshow label hm hl)
          (hframes label (hstart label hm hl)) (hwalk (fun other hother => ?_) hm hl)⟩
        have hsame : s.source.frames other = t.source.frames other := hframes other hother
        refine decide_eq_decide.2 ?_
        simp only [Evaluator.setting, hsame]
      exact expressionOf_related Traced.calmlySame_relates (.of_eq rfl) hgrammar _
        (List.suffix_refl tokens) none hcalm hcalm'
  rw [Evaluator.evaluateTokens, Evaluator.evaluateTokens, hrun]

/-- The sheet with another value and an error for `A1`, and with a formula in `B2`. -/
def eightThroughB1 : Sheet :=
  (sevenThroughB1.put "A1" ⟨[.str "7"], 8.0, .str "#ERR!"⟩ Grid.standard_admits_first).put
    "B2" ⟨[.str "C1"], 1.0, .str ""⟩ ⟨⟨1, 1⟩, rfl⟩

/-- A formula that refers to `B1` is evaluated for `C1`, with a walk along references that comes to
`A1`. What is kept for `A1` does not matter, nor does a cell that refers to `C1`. -/
theorem evaluate_eq_of_agreeAt_of_chain :
    let formula : Value := .list ([("B1" : Text)].map .str)
    AgreeAt Cell.ShowsSame sevenThroughB1 eightThroughB1 "B1" ∧
    (∀ label, sevenThroughB1.Reaches .pattern ["B1"] label →
      sevenThroughB1.SameFormulaAt eightThroughB1 label) ∧
    (Evaluator.ofOptions .standard).evaluate sevenThroughB1.source (some "C1") formula =
      (Evaluator.ofOptions .standard).evaluate eightThroughB1.source (some "C1") formula := by
  intro formula
  have hshow : AgreeAt Cell.ShowsSame sevenThroughB1 eightThroughB1 "B1" :=
    .shown rfl rfl ⟨rfl, rfl, Iff.rfl⟩
  have hclosed : ∀ label other : Text, label = "B1" ∨ label = "A1" →
      sevenThroughB1.source.Mentions .pattern label other → other = "B1" ∨ other = "A1" := by
    rintro label other (rfl | rfl) ⟨content, tokens, hl, ht, hm, hc⟩
    · obtain rfl := Except.ok.inj hl
      obtain rfl := Except.ok.inj ht
      exact .inr (Value.str.inj (List.mem_singleton.1 hm))
    · obtain rfl := Except.ok.inj hl
      obtain rfl := Except.ok.inj ht
      rw [Value.str.inj (List.mem_singleton.1 hm)] at hc
      exact absurd hc (by decide)
  have hreach (label : Text) (h : sevenThroughB1.Reaches .pattern ["B1"] label) :
      label = "B1" ∨ label = "A1" :=
    h.of_closed (fun token hm _ => .inl (List.mem_singleton.1 hm)) hclosed
  have hformula (label : Text) (h : sevenThroughB1.Reaches .pattern ["B1"] label) :
      sevenThroughB1.SameFormulaAt eightThroughB1 label := by
    obtain rfl | rfl := hreach label h
    · exact .shown rfl rfl rfl
    · exact .shown rfl rfl rfl
  have hframes (label : Text) (h : sevenThroughB1.Reaches .pattern ["B1"] label) :
      sevenThroughB1.framesAt label = eightThroughB1.framesAt label := by
    have hseven : ∀ label : Text, label = "B1" ∨ label = "A1" →
        sevenThroughB1.framesAt label = 1 := by
      rintro label (rfl | rfl) <;> decide
    have height : ∀ label : Text, label = "B1" ∨ label = "A1" →
        eightThroughB1.framesAt label = 1 := by
      rintro label (rfl | rfl) <;> decide
    rw [hseven label (hreach label h), height label (hreach label h)]
  have hs : ((Evaluator.ofOptions .standard).evaluate sevenThroughB1.source (some "C1")
      (.list ([("B1" : Text)].map .str))).outcome.toOption.any Outcome.ok = true := by
    decide +kernel
  have ht : ((Evaluator.ofOptions .standard).evaluate eightThroughB1.source (some "C1")
      (.list ([("B1" : Text)].map .str))).outcome.toOption.any Outcome.ok = true := by
    decide +kernel
  obtain ⟨out, hs, -⟩ := exists_ok_of_any hs
  obtain ⟨out', ht, -⟩ := exists_ok_of_any ht
  refine ⟨hshow, hformula, evaluate_eq_of_agreeAt (fun token hm _ => ?_) (fun _ _ => hformula)
    hs ht (.inr hframes)⟩
  rw [List.mem_singleton.1 hm]
  exact hshow

/-- The sheet in which an empty cell is stored in `A1`. -/
def emptyInA1 : Sheet :=
  (blank .standard).put "A1" .empty Grid.standard_admits_first

open Evaluator in
/-- **It shows where a cell is stored**, if there is little room: beneath 330 pairs of parentheses
an empty cell that is stored can be looked up, and one that is not cannot. Both sheets show an empty
cell at the label, and no circular references are looked for. -/
theorem evaluate_ne_of_absent :
    let formula : Value := .list ((inParentheses 330 "A1").map .str)
    (∀ token ∈ inParentheses 330 "A1", LabelClass.pattern.holds token = true →
      AgreeAt Cell.ShowsSame emptyInA1 (blank .standard) token) ∧
    ((ofOptions .standard).evaluate emptyInA1.source none formula).outcome =
      .ok ⟨0.0, .str "#REF!"⟩ ∧
    ((ofOptions .standard).evaluate (blank .standard).source none formula).outcome =
      .ok ⟨0.0, .str "#ERR!"⟩ := by
  intro formula
  have hl : IsReference .pattern false "A1" := .of_isLabel rfl
  have hn : inParentheses 330 "A1" ≠ [] := inParentheses_ne_nil 330 "A1"
  have hread : run .standard emptyInA1.source none (inParentheses 330 "A1") =
      ⟨[.lookup "A1"], .ok ⟨0.0, [], some .reference⟩⟩ :=
    (Setting.run_inParentheses (setting .standard emptyInA1.source none) hl 0 rfl).trans rfl
  have hcut : run .standard (blank .standard).source none (inParentheses 330 "A1") =
      Traced.halt (.cut .reading) :=
    (Setting.run_inParentheses (setting .standard (blank .standard).source none) hl 0 rfl).trans
      rfl
  refine ⟨fun token hm hl => ?_, ?_, ?_⟩
  · rw [eq_label_of_mem_inParentheses hm hl]
    exact .shown rfl rfl ⟨rfl, rfl, Iff.rfl⟩
  · have h := evaluateTokens_of_step hn (congrArg Traced.result hread)
    rw [hread] at h
    rw [evaluate_texts]
    exact congrArg Evaluated.outcome h
  · have h := evaluateTokens_of_cut hn (congrArg Traced.result hcut)
    rw [hcut] at h
    rw [evaluate_texts]
    exact congrArg Evaluated.outcome h

end Sheet

end FormulaSheet
