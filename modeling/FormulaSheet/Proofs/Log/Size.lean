import FormulaSheet.Proofs.Label.Column
import FormulaSheet.Proofs.Log.Evaluation

/-!
# How long the lines of the log are

Long texts in the context of an event are cut before the event is recorded. So the line that a
formula with an error leaves has a bounded length, however long the formula and its tokens are, as
long as the errors that are stored in the sheet are short. The message of an event is not cut, and
the warning of a circular reference names the cell of the formula and the label in its message, as
long as they are. This is the only way for a line to be long.

* `Event.length_document`: how long an event is as text;
* `Log.exists_written`: a log gains the lines of events that can be written, and nothing else;
* `Evaluator.mem_notices`: what an evaluation gives notice of, whether it returns or not;
* `Log.notify_evaluate_bounds`: how long the lines of an evaluation are.
-/

namespace FormulaSheet

/-! ## Events as text -/

namespace Event

/-- **How long an event is as text**: the names of its fields, and what they hold. -/
theorem length_document (e : Event) : (Json.text e.document).length =
    97 + (Text.intText e.version).length + (Json.quote e.stamp).length +
      (Json.quote e.level.name).length + (Json.quote e.type.name).length +
      (Json.text (contextDocument e.context)).length + (Json.quote e.message).length +
      (Json.text (codeDocument e.code)).length := by
  have h₁ : (Json.quote "schema_version").length = 16 := rfl
  have h₂ : (Json.quote "ts").length = 4 := rfl
  have h₃ : (Json.quote "level").length = 7 := rfl
  have h₄ : (Json.quote "event_type").length = 12 := rfl
  have h₅ : (Json.quote "context").length = 9 := rfl
  have h₆ : (Json.quote "message").length = 9 := rfl
  have h₇ : (Json.quote "error_code").length = 12 := rfl
  have hversion : (Json.text (.int e.version)).length = (Text.intText e.version).length := by
    rw [Json.text, Json.leaf, Text.length_toList]
    all_goals simp
  have htext (s : Text) : Json.text (.str s) = Json.quote s := rfl
  rw [document_eq, Json.length_text_obj]
  simp only [fields, List.map_cons, List.map_nil, List.sum_cons, List.sum_nil, List.length_cons,
    List.length_nil, h₁, h₂, h₃, h₄, h₅, h₆, h₇, hversion, htext]
  omega

/-- How long the context of an event is as text. -/
theorem length_contextDocument (context : Register Value) :
    (Json.text (contextDocument context)).length =
      2 + (context.map fun f =>
        (Json.quote f.1).length + 2 + (Json.text (valueDocument f.2)).length).sum +
        2 * (context.length - 1) := by
  rw [contextDocument, Json.length_text_obj, List.map_map, List.length_map]
  rfl

/-- As it is written the line has at most one octet more, that of a carriage return. -/
theorem length_written_line_le {e : Event} (h : e.IsFloatFree) (hr : e.refusal? = none)
    (access : Access) : (Journal.written access (Journal.line e)).length ≤
      (Utf8.encode (Journal.line e)).length + 1 := by
  cases access with
  | locked transfer =>
    rw [Journal.written, List.length_take]
    omega
  | plain lineEnd =>
    rw [Journal.written_line h hr (Access.moves_plain lineEnd _), Journal.length_encode_line h hr,
      Journal.length_encode_chars (l := Journal.lineOf (.plain lineEnd, e)) h hr]
    have hend : lineEnd.chars.length ≤ 2 := by cases lineEnd <;> decide
    exact Nat.add_le_add_left hend _

/-! ## Warnings -/

theorem length_quote_capValue_le (s : Text) :
    (Json.text (valueDocument (capValue (.str s)))).length ≤ 3242 := by
  have hcap := length_capText_le s.toList
  have hmark : cap + cutMark.length = 270 := rfl
  have hquote := (Json.length_quote_bounds (Text.ofList (capText s.toList))).2
  rw [Text.length_ofList] at hquote
  change (Json.quote (Text.ofList (capText s.toList))).length ≤ 3242
  omega

theorem length_currentVersion_le : (Text.intText currentVersion).length ≤ 1 := by
  change (Text.natText 1).length ≤ 1
  rw [Text.natText, Text.length_ofList]
  exact Text.length_decimal_le Nat.one_pos (by decide)

theorem isFloatFree_circularWarning (now origin label : Text) :
    (circularWarning now origin label).IsFloatFree := by
  intro f hf
  rcases List.mem_cons.1 hf with rfl | hf
  · trivial
  · rw [List.mem_singleton.1 hf]
    trivial

theorem isFloatFree_failureWarning (now : Text) (tokens : List Text) (origin : Option Text)
    (position : Nat) (code : Text) :
    (failureWarning now tokens origin position code).IsFloatFree := by
  intro f hf
  simp only [failureWarning, make, List.mem_cons, List.not_mem_nil, or_false] at hf
  rcases hf with rfl | rfl | rfl
  · trivial
  · cases origin <;> trivial
  · trivial

section Warnings

variable {now : Text} (hnow : now.length ≤ 27)

include hnow

/-- **The warning of a circular reference** is about as long as the cell of the formula and the
label in its message. -/
theorem length_circularWarning (origin label : Text) :
    let size := (Utf8.encode (Journal.line (circularWarning now origin label))).length
    origin.length + label.length ≤ size ∧
      size + 1 ≤ 7400 + 12 * (origin.length + label.length) := by
  have hfree := isFloatFree_circularWarning now origin label
  have hcontext : (Json.text (contextDocument (circularWarning now origin label).context)).length =
      23 + (Json.text (valueDocument (capValue (.str origin)))).length +
        (Json.text (valueDocument (capValue (.str label)))).length := by
    have h₁ : (Json.quote "origin").length = 8 := rfl
    have h₂ : (Json.quote "label").length = 7 := rfl
    simp only [length_contextDocument, circularWarning, make, List.map_cons, List.map_nil,
      List.sum_cons, List.sum_nil, List.length_cons, List.length_nil, h₁, h₂]
    omega
  have hmessage : (circularWarning now origin label).message.length =
      33 + (origin.length + label.length) := by
    have h₁ : ("circular reference from " : Text).length = 24 := rfl
    have h₂ : (" through " : Text).length = 9 := rfl
    simp only [circularWarning, make, Text.length_append, h₁, h₂]
    omega
  have hstamp := (Json.length_quote_bounds now).2
  have hquote := Json.length_quote_bounds (circularWarning now origin label).message
  have horigin := length_quote_capValue_le origin
  have hlabel := length_quote_capValue_le label
  have hversion := length_currentVersion_le
  have hrest : (Json.quote Level.warning.name).length = 9 ∧
      (Json.quote EventType.circularReference.name).length = 20 ∧
      (Json.text (codeDocument (some "#CIRC!"))).length = 8 := ⟨rfl, rfl, rfl⟩
  intro size
  have hsize : size = _ :=
    Journal.length_encode_line hfree (refusal?_circularWarning now origin label)
  rw [length_document, hcontext] at hsize
  rw [hmessage] at hquote
  simp only [circularWarning, make] at hsize hquote
  omega

/-- **The warning of an error** is short if the code of the error is, but for the digits of the
position. -/
theorem length_failureWarning (tokens : List Text) (origin : Option Text) {position : Nat}
    {code : Text} (hcode : code.length ≤ 256)
    (hr : (failureWarning now tokens origin position code).refusal? = none) :
    (Utf8.encode (Journal.line (failureWarning now tokens origin position code))).length + 1 ≤
      16384 + (Text.decimal position).length := by
  have hfree := isFloatFree_failureWarning now tokens origin position code
  have horigin : (Json.text (valueDocument (capValue (originValue origin)))).length ≤ 3242 := by
    cases origin with
    | some label => exact length_quote_capValue_le label
    | none => exact (by decide : 4 ≤ 3242)
  have hposition : (Json.text (valueDocument (.int position))).length =
      (Text.decimal position).length := by
    change (Text.natText position).toList.length = _
    rw [Text.natText, Text.toList_ofList]
  have hcontext :
      (Json.text (contextDocument
        (failureWarning now tokens origin position code).context)).length =
        39 + (Json.text (valueDocument (capValue (.str (Text.intercalate " " tokens))))).length +
          (Json.text (valueDocument (capValue (originValue origin)))).length +
          (Text.decimal position).length := by
    have h₁ : (Json.quote "formula").length = 9 := rfl
    have h₂ : (Json.quote "origin").length = 8 := rfl
    have h₃ : (Json.quote "position").length = 10 := rfl
    simp only [length_contextDocument, failureWarning, make, List.map_cons, List.map_nil,
      List.sum_cons, List.sum_nil, List.length_cons, List.length_nil, h₁, h₂, h₃, hposition]
    omega
  have hmessage : (failureWarning now tokens origin position code).message.length =
      27 + code.length := by
    have h : ("formula evaluation failed: " : Text).length = 27 := rfl
    simp only [failureWarning, make, Text.length_append, h]
  have hstamp := (Json.length_quote_bounds now).2
  have hquote := (Json.length_quote_bounds
    (failureWarning now tokens origin position code).message).2
  have hcodeText := (Json.length_quote_bounds code).2
  have hformula := length_quote_capValue_le (Text.intercalate " " tokens)
  have hversion := length_currentVersion_le
  have hrest : (Json.quote Level.warning.name).length = 9 ∧
      (Json.quote EventType.formulaError.name).length = 15 ∧
      Json.text (codeDocument (some code)) = Json.quote code := ⟨rfl, rfl, rfl⟩
  rw [Journal.length_encode_line hfree hr, length_document, hcontext]
  rw [hmessage] at hquote
  simp only [failureWarning, make, hrest] at hquote ⊢
  omega

end Warnings

end Event

/-! ## What a log gains -/

namespace Log

/-- An event that is recorded adds its line, or nothing at all. -/
theorem emit_cases (l : Log) (e : Event) :
    (l.emit e).journal.content = l.journal.content ∨ e.capped.refusal? = none ∧
      (l.emit e).journal.content =
        l.journal.content ++ Journal.written l.access (Journal.line e.capped) := by
  rw [emit, put]
  split
  · cases hw : l.journal.write l.access e.capped with
    | error f => exact .inl rfl
    | ok journal =>
      obtain ⟨hr, -, rfl⟩ := Journal.write_eq_ok_iff.1 hw
      exact .inr ⟨hr, rfl⟩
  · exact .inl rfl

/-- **A log gains** the lines of recorded events that can be written, in order, and nothing else,
whatever state it is in. -/
theorem exists_written (l : Log) (es : List Event) : ∃ written : List Event,
    written.Sublist (es.map Event.capped) ∧ (∀ e ∈ written, e.refusal? = none) ∧
      (l.emitAll es).journal.content =
        l.journal.content ++
        written.flatMap fun e => Journal.written l.access (Journal.line e) := by
  induction es generalizing l with
  | nil => exact ⟨[], List.Sublist.refl _, nofun, (List.append_nil _).symm⟩
  | cons e es ih =>
    obtain ⟨written, hsub, hr, hcontent⟩ := ih (l.emit e)
    have hemit : l.emitAll (e :: es) = (l.emit e).emitAll es := rfl
    rcases l.emit_cases e with hsame | ⟨he, hmore⟩
    · refine ⟨written, hsub.cons _, hr, ?_⟩
      rw [hemit, hcontent, hsame, access_emit]
    · refine ⟨e.capped :: written, hsub.cons_cons _, List.forall_mem_cons.2 ⟨he, hr⟩, ?_⟩
      rw [hemit, hcontent, hmore, access_emit, List.append_assoc, List.flatMap_cons]

end Log

/-! ## What an evaluation gives notice of -/

/-- Every error that is stored in the sheet is a text of at most 256 characters. -/
def Sheet.HasShortErrors (sheet : Sheet) : Prop :=
  ∀ label cell, sheet.cells.find? label = some cell →
    ∃ text, cell.error = .str text ∧ text.length ≤ 256

/-- The failure has a text of at most 256 characters for its code. -/
def Failure.IsShort (g : Failure) : Prop :=
  ∃ code, g.code = .str code ∧ code.length ≤ 256

namespace Evaluator

variable {o : Options} {origin : Option Text} {tokens : List Text} {sheet : Sheet}

/-- The rules fail with short codes, and so do references to sheets whose errors are short. -/
theorem isShort_of_concludes (hs : sheet.HasShortErrors) {notes : List Note}
    {failure : Option Failure}
    (h : Concludes (run o sheet.source origin tokens) tokens notes failure) {g : Failure}
    (hg : failure = some g) : g.IsShort := by
  have hrules : HoldsOfRules Failure.IsShort :=
    ⟨⟨_, rfl, by decide⟩, ⟨_, rfl, by decide⟩, ⟨_, rfl, by decide⟩, ⟨_, rfl, by decide⟩⟩
  have hstored (label : Text) (cell : Cell) (hget : sheet.get label = .ok cell) :
      (Failure.stored cell.error).IsShort := by
    rcases Sheet.find?_or_eq_empty_of_get hget with hf | rfl
    · exact hs label cell hf
    · exact ⟨Failure.emptyCode, rfl, by decide⟩
  exact h.holds hrules ⟨_, rfl, by decide⟩
    (fun _ _ _ => holds_of_reference ⟨_, rfl, by decide⟩ ⟨_, rfl, by decide⟩ hstored) hg

/-- A circular reference is told with the cell of the formula and one of its tokens. -/
theorem mem_noticesOf_run {source : Source} {n : Notice}
    (h : n ∈ noticesOf (run o source origin tokens).notes) :
    ∃ cell label, n = .circular cell label ∧ origin = some cell ∧ label ∈ tokens := by
  obtain ⟨told, hnotices, htold, huntold⟩ := noticesOf_run o source origin tokens
  rw [hnotices] at h
  obtain ⟨label, hm, rfl⟩ := List.mem_map.1 h
  -- what was told is fired, with or without the last label
  have hfired : label ∈ labelsFired o source origin tokens := by
    by_cases hcut : (run o source origin tokens).result = .error (.cut .telling)
    · obtain ⟨last, hlast⟩ := huntold hcut
      exact hlast ▸ List.mem_append_left _ hm
    · exact htold hcut ▸ hm
  obtain ⟨hread, hfires⟩ := List.mem_filter.1 hfired
  obtain ⟨cell, hcell⟩ := Setting.exists_guarded_of_fires hfires
  have horigin := guarded_eq_of_fires hfires
  rw [hcell] at horigin
  subst horigin
  exact ⟨cell, label, rfl, rfl, (Setting.labelsRead_sublist _).subset hread⟩

/-- **What an evaluation gives notice of**, whether it returns or not, over a sheet whose errors are
short: circular references at its tokens, and a failure with a short code. -/
theorem mem_notices (hs : sheet.HasShortErrors) {n : Notice}
    (h : n ∈ (evaluateTokens o sheet.source origin tokens).notices) :
    (∃ cell label, n = .circular cell label ∧ origin = some cell ∧ label ∈ tokens) ∨
      ∃ position code, n = .failed tokens origin position code code ∧ position ≤ tokens.length ∧
        code.length ≤ 256 := by
  have hconsistent : (evaluateTokens o sheet.source origin tokens).evaluator.IsConsistent :=
    isConsistent_evaluateTokens
  have htokens : (evaluateTokens o sheet.source origin tokens).evaluator.tokens = tokens :=
    tokens_evaluateTokens
  rcases evaluateTokens_cases o sheet.source origin tokens with
    ⟨f, -, he⟩ | ⟨e, notes, failure, -, hn, hc, he⟩
  · rw [he] at h
    exact .inl (mem_noticesOf_run h)
  · have hleft : (evaluateTokens o sheet.source origin tokens).evaluator = { e with failure } := by
      rw [he, evaluator_conclude hn]
    have hposition := hconsistent.position
    rw [hleft] at htokens hposition
    obtain ⟨code, hcode, hlength⟩ : ∃ code, Failure.codeOf failure = .str code ∧
        code.length ≤ 256 := by
      cases hf : failure with
      | none => exact ⟨"", rfl, by decide⟩
      | some g => exact isShort_of_concludes hs hc hf
    rw [he, notices_conclude hcode, hc.noticesOf_eq] at h
    rcases List.mem_append.1 h with h | h
    · exact .inl (mem_noticesOf_run h)
    · split at h
      · refine .inr ⟨e.position, code, ?_, ?_, hlength⟩
        · rw [List.mem_singleton.1 h]
          exact congrArg (Notice.failed · origin e.position code code) htokens
        · rw [← htokens]
          exact hposition
      · cases h

end Evaluator

open Evaluator Event in
/-- **How long the lines of an evaluation are**, over a sheet whose errors are short. Whatever the
formula and the cell of the formula are, and whether the evaluation returns or not, the log gains
the lines of two kinds of warnings, and nothing else. In the file a line has at most one octet more
than the text of it, where lines end in two. The line of an error has a bounded length but for the
digits of the position. The line of a circular reference is bounded by the lengths of the cell and
of the label, and so it is short if both of them are; but it is at least as long as they are, since
its message is not cut. -/
theorem Log.notify_evaluate_bounds {now : Text} (hnow : now.length ≤ 27) {sheet : Sheet}
    (hs : sheet.HasShortErrors) (l : Log) (e : Evaluator) (origin : Option Text)
    (formula : Value) :
    let done := e.evaluate sheet.source origin formula
    ∃ events : List Event,
      (l.notify now done.notices).journal.content = l.journal.content ++
        events.flatMap (fun event => Journal.written l.access (Journal.line event)) ∧
      ∀ event ∈ events, ∃ tokens, tokensOf formula = .ok tokens ∧
        let size := (Utf8.encode (Journal.line event)).length
        (Journal.written l.access (Journal.line event)).length ≤ size + 1 ∧
        ((∃ position code, event = failureWarning now tokens origin position code ∧
          position ≤ tokens.length ∧ size + 1 ≤ 16384 + (Text.decimal position).length) ∨
        ∃ cell label, event = circularWarning now cell label ∧ origin = some cell ∧
          label ∈ tokens ∧ cell.length + label.length ≤ size ∧
          size + 1 ≤ 7400 + 12 * (cell.length + label.length) ∧
          (cell.length ≤ 256 → label.length ≤ 256 → size + 1 ≤ 16384)) := by
  intro done
  obtain ⟨events, hsub, hr, hcontent⟩ := l.exists_written (done.notices.map (ofNotice now))
  refine ⟨events, hcontent, fun event hevent => ?_⟩
  obtain ⟨made, hmade, rfl⟩ := List.mem_map.1 (hsub.subset hevent)
  obtain ⟨n, hn, rfl⟩ := List.mem_map.1 hmade
  cases ht : tokensOf formula with
  | error f =>
    have hnone : done.notices = [] := by simp only [done, evaluate, ht]
    rw [hnone] at hn
    cases hn
  | ok tokens =>
    have hdone : done = evaluateTokens e.options sheet.source origin tokens := by
      simp only [done, evaluate, ht]
    rw [hdone] at hn
    refine ⟨tokens, rfl, ?_⟩
    have hrefusal := hr _ hevent
    rcases mem_notices hs hn with ⟨cell, label, rfl, ho, hl⟩ | ⟨position, code, rfl, hp, hcode⟩
    · obtain ⟨hlow, hhigh⟩ := length_circularWarning hnow cell label
      rw [capped_circular] at hrefusal ⊢
      exact ⟨length_written_line_le (isFloatFree_circularWarning now cell label) hrefusal l.access,
        .inr ⟨cell, label, rfl, ho, hl, hlow, hhigh,
          fun hcell hlabel => Nat.le_trans hhigh (by omega)⟩⟩
    · rw [capped_failed] at hrefusal ⊢
      exact ⟨length_written_line_le (isFloatFree_failureWarning now tokens origin position code)
        hrefusal l.access, .inl ⟨position, code, rfl, hp,
          length_failureWarning hnow tokens origin hcode hrefusal⟩⟩

open Evaluator Event in
/-- Each line of a formula that refers to its own cell is short. -/
theorem Log.notify_evaluate_bounds_of_self :
    let done := (ofOptions .standard).evaluate (Sheet.blank .standard).source (some "A1")
      (.list [.str "A1"])
    ∃ events : List Event,
      (fresh.notify "t" done.notices).journal.content =
        events.flatMap (fun event => Journal.written .standard (Journal.line event)) ∧
      ∀ event ∈ events, event.type = .circularReference →
        (Journal.written .standard (Journal.line event)).length ≤ 16384 := by
  have hs : (Sheet.blank .standard).HasShortErrors := nofun
  have hnow : ("t" : Text).length ≤ 27 := by decide
  obtain ⟨events, hcontent, hsize⟩ := notify_evaluate_bounds hnow hs fresh
    (ofOptions .standard) (some "A1") (.list [.str "A1"])
  refine ⟨events, hcontent, fun event hevent htype => ?_⟩
  obtain ⟨tokens, ht, hwritten,
    ⟨position, code, rfl, -⟩ | ⟨cell, label, -, ho, hl, -, -, hshort⟩⟩ := hsize event hevent
  · cases htype
  · cases ht
    cases ho
    rw [List.mem_singleton.1 hl] at hshort
    exact Nat.le_trans hwritten (hshort (by decide) (by decide))

/-! ## Long labels -/

/-- A label that refers to its own cell leaves a warning of a circular reference, and one of the
error. -/
theorem Evaluator.notices_of_self {label : Text} (h : Label.isLabel label = true)
    (source : Source) : (evaluateTokens .standard source (some label) [label]).notices =
      [.circular label label, .failed [label] (some label) 1 "#CIRC!" "#CIRC!"] := by
  have hreference (room : Nat) (hroom : 6 ≤ room) :
      (setting .standard source (some label)).referenceIn room label =
        ⟨[.circular label label], .ok (0.0, some .circular)⟩ := by
    have hcheck : (setting .standard source (some label)).checkIn room label = pure true := by
      simp only [Setting.checkIn, Setting.isCircular, setting, Options.standard, if_true]
      rfl
    rw [Setting.referenceIn_eq_read, hcheck, pure_bind, if_pos rfl]
    exact if_pos hroom
  have hroom : 6 ≤ (setting .standard source (some label)).stack.room 330 :=
    show 6 ≤ Stack.standard.room 330 by decide
  have hdepth : 330 + 1 + 0 = (setting .standard source (some label)).stack.levels :=
    Stack.standard_levels.symm
  have hrun : run .standard source (some label) [label] =
      ⟨[.circular label label], .ok ⟨0.0, [], some .circular⟩⟩ := by
    rw [run, show [label] = inParentheses 0 label from rfl,
      (setting .standard source (some label)).run_inParentheses (.of_isLabel h) _ hdepth,
      hreference _ hroom]
    rfl
  have hn : [label] ≠ [] := List.cons_ne_nil _ _
  rw [evaluateTokens_of_step hn (congrArg Traced.result hrun), hrun]
  rfl

open Evaluator Event in
/-- A formula that is one label, in a cell of that label, leaves a line that is longer than twice
the label. -/
theorem Log.exists_line_of_self {label : Text} (h : Label.isLabel label = true) {now : Text}
    (hnow : now.length ≤ 27) (source : Source) :
    let done := (ofOptions .standard).evaluate source (some label) (.list [.str label])
    ∃ events : List Event,
      (fresh.notify now done.notices).journal.content =
        events.flatMap (fun event => Journal.written .standard (Journal.line event)) ∧
      ∃ event ∈ events, event.type = .circularReference ∧
        2 * label.length ≤ (Utf8.encode (Journal.line event)).length := by
  intro done
  have htexts : done = evaluateTokens .standard source (some label) [label] :=
    evaluate_texts (ofOptions .standard) source (some label) [label]
  have hdone : done.notices = [.circular label label,
      .failed [label] (some label) 1 "#CIRC!" "#CIRC!"] := by
    rw [htexts]
    exact notices_of_self h source
  have hevents : (done.notices.map (ofNotice now)).map capped = [circularWarning now label label,
      failureWarning now [label] (some label) 1 "#CIRC!"] := by
    rw [hdone]
    simp only [List.map_cons, List.map_nil, capped_circular, capped_failed]
  have hblocked : fresh.journal ≠ .blocked := by simp [fresh]
  have hgains : fresh.Gains (fresh.notify now done.notices) _ := gains_emitAll rfl hblocked
    fun e he => by
      have hm := List.mem_map_of_mem (f := capped) he
      rw [hevents, List.mem_cons, List.mem_singleton] at hm
      rcases hm with hm | hm
      · rw [hm]
        exact refusal?_circularWarning now label label
      · rw [hm]
        exact refusal?_failureWarning isWritable_one
  rw [hevents] at hgains
  have hcontent := hgains.content
  rw [show fresh.journal.content = [] from rfl, List.nil_append] at hcontent
  refine ⟨_, hcontent, _, List.mem_cons_self, rfl, ?_⟩
  have hsize := (length_circularWarning hnow label label).1
  rwa [← Nat.two_mul] at hsize

/-- The label of the first row in the column of so many letters A. -/
def Label.far (letters : Nat) : Text :=
  Text.ofList (List.replicate letters (Point.char 'A') ++ [Point.char '1'])

theorem Label.length_far (letters : Nat) : (far letters).length = letters + 1 := by
  rw [far, Text.length_ofList, List.length_append, List.length_replicate, List.length_singleton]

theorem Label.isLabel_far {letters : Nat} (h : 0 < letters) : isLabel (far letters) = true := by
  have hcolumn : IsColumn (List.replicate letters (Point.char 'A')) := by
    refine ⟨?_, fun c hc => ?_⟩
    · rw [Ne, List.replicate_eq_nil_iff]
      exact h.ne'
    · rw [List.eq_of_mem_replicate hc]
      decide
  exact isLabel_iff_exists_split.2 ⟨_, _, split?_append hcolumn (by decide)⟩

open Evaluator in
/-- With a label of ten thousand characters that line has more than 16384 octets. -/
theorem Log.long_line_of_self :
    let label := Label.far 9999
    let done := (ofOptions .standard).evaluate (Sheet.blank .standard).source (some label)
      (.list [.str label])
    (Sheet.blank .standard).HasShortErrors ∧ ∃ events : List Event,
      (fresh.notify "2001-01-01T00:00:00.000000Z" done.notices).journal.content =
        events.flatMap (fun event => Journal.written .standard (Journal.line event)) ∧
      ∃ event ∈ events, event.type = .circularReference ∧
        16384 < (Journal.written .standard (Journal.line event)).length := by
  have hlabel : Label.isLabel (Label.far 9999) = true := Label.isLabel_far (by decide)
  have hnow : ("2001-01-01T00:00:00.000000Z" : Text).length ≤ 27 := by decide
  obtain ⟨events, hcontent, event, hevent, htype, hsize⟩ :=
    exists_line_of_self hlabel hnow (Sheet.blank .standard).source
  refine ⟨nofun, events, hcontent, event, hevent, htype, ?_⟩
  rw [Label.length_far] at hsize
  rw [Access.standard, Journal.written, List.length_take]
  omega

end FormulaSheet
