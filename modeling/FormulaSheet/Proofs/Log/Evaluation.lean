import FormulaSheet.Log
import FormulaSheet.Proofs.Formula.Unguarded
import FormulaSheet.Proofs.Log.Journal

/-!
# What an evaluation leaves in the log

An evaluation that returns leaves two kinds of events. Each reference at which the check for
circular references fires leaves a warning, in the order in which the references are read; and a
formula with an error leaves one warning at the end, with its code, its tokens, its cell and the
place up to which it was read. Long texts are cut. Nothing else is written, nothing is written
twice, and a formula without an error leaves nothing at all.

* `Event.circularWarning`, `Event.failureWarning`: the two kinds of events, as they are written;
* `Log.gains_emitAll`: a log to which events are recorded that can be written gains their lines;
* `Log.notify_evaluate`: what a log gains by an evaluation;
* `Log.notify_evaluate_untold`: where there is no room to tell it of a circular reference.
-/

namespace FormulaSheet

/-- An integer can be written if a larger one can. -/
theorem Number.isWritable_of_natAbs_le {m n : Int} (h : m.natAbs ≤ n.natAbs)
    (hn : isWritable n = true) : isWritable m = true :=
  decide_eq_true (Nat.lt_of_le_of_lt h (of_decide_eq_true hn))

namespace Event

/-! ## Warnings -/

/-- The cell of a formula in a context. -/
def originValue : Option Text → Value
  | some label => .str label
  | none => .null

/-- The warning that a reference to a label leads back to the cell of the formula. -/
def circularWarning (now origin label : Text) : Event :=
  make now .warning .circularReference
    ("circular reference from " ++ origin ++ " through " ++ label)
    [("origin", capValue (.str origin)), ("label", capValue (.str label))] (some "#CIRC!")

/-- The warning that a formula has an error. -/
def failureWarning (now : Text) (tokens : List Text) (origin : Option Text) (position : Nat)
    (code : Text) : Event :=
  make now .warning .formulaError ("formula evaluation failed: " ++ code)
    [("formula", capValue (.str (Text.intercalate " " tokens))),
     ("origin", capValue (originValue origin)), ("position", .int position)] (some code)

/-- The warnings of an evaluation: one for each label at which the check for circular references has
fired, and one of the error, unless its code is empty. -/
def warnings (now : Text) (tokens : List Text) (origin : Option Text) (fired : List Text)
    (position : Nat) (code : Text) : List Event :=
  fired.map (circularWarning now (origin.getD "")) ++
    if code = "" then [] else [failureWarning now tokens origin position code]

variable {now code : Text} {tokens fired : List Text} {origin : Option Text} {position : Nat}

theorem capped_circular (now origin label : Text) :
    (ofNotice now (.circular origin label)).capped = circularWarning now origin label :=
  rfl

theorem capped_failed (now : Text) (tokens : List Text) (origin : Option Text)
    (position : Nat) (code : Text) :
    (ofNotice now (.failed tokens origin position code code)).capped =
      failureWarning now tokens origin position code := by
  cases origin <;> rfl

/-- A warning of a circular reference can always be written. -/
theorem refusal?_circularWarning (now origin label : Text) :
    (circularWarning now origin label).refusal? = none := by
  refine refusal?_eq_none_iff.2 ⟨?_, ?_⟩
  · simp [circularWarning, make, contextDocument, capValue, valueDocument, Json.depth,
      Json.fieldsDepth, maxDepth]
  · rw [document_eq]
    simp [fields, circularWarning, make, contextDocument, codeDocument, capValue, valueDocument,
      Json.isWritable, Json.fieldsAreWritable, currentVersion, isWritable_one]

/-- A warning of an error can be written if the number of tokens can. -/
theorem refusal?_failureWarning (h : Number.isWritable position = true) :
    (failureWarning now tokens origin position code).refusal? = none := by
  refine refusal?_eq_none_iff.2 ⟨?_, ?_⟩
  · cases origin <;>
      simp [failureWarning, make, contextDocument, originValue, capValue, valueDocument, Json.depth,
        Json.fieldsDepth, maxDepth]
  · rw [document_eq]
    cases origin <;>
      simp [fields, failureWarning, make, contextDocument, codeDocument, originValue, capValue,
        valueDocument, Json.isWritable, Json.fieldsAreWritable, currentVersion, isWritable_one, h]

theorem refusal?_of_mem_warnings (h : Number.isWritable position = true) {e : Event}
    (he : e ∈ warnings now tokens origin fired position code) : e.refusal? = none := by
  rcases List.mem_append.1 he with he | he
  · obtain ⟨label, -, rfl⟩ := List.mem_map.1 he
    exact refusal?_circularWarning _ _ _
  · split at he
    · cases he
    · rw [List.mem_singleton.1 he]
      exact refusal?_failureWarning h

end Event

namespace Log

/-! ## Recording -/

/-- The log has gained the lines of the events, and is otherwise as it was. -/
structure Gains (l l' : Log) (es : List Event) : Prop where
  content : l'.journal.content =
    l.journal.content ++ es.flatMap fun e => Journal.written l.access (Journal.line e)
  blocked : l'.journal ≠ .blocked
  access : l'.access = l.access
  sync : l'.sync = l.sync
  attached : l'.attached = l.attached
  warned : l'.warned = l.warned

variable {l l' l'' : Log}

theorem Gains.refl (hb : l.journal ≠ .blocked) : l.Gains l [] :=
  ⟨(List.append_nil _).symm, hb, rfl, rfl, rfl, rfl⟩

theorem Gains.trans {es more : List Event} (h : l.Gains l' es) (h' : l'.Gains l'' more) :
    l.Gains l'' (es ++ more) where
  content := by
    rw [h'.content, h.content, h.access, List.append_assoc, List.flatMap_append]
  blocked := h'.blocked
  access := h'.access.trans h.access
  sync := h'.sync.trans h.sync
  attached := h'.attached.trans h.attached
  warned := h'.warned.trans h.warned

/-- An event that can be written adds its line. -/
theorem gains_emit (ha : l.attached = true) (hb : l.journal ≠ .blocked) {e : Event}
    (he : e.capped.refusal? = none) : l.Gains (l.emit e) [e.capped] := by
  have hw : l.journal.write l.access e.capped = .ok
      (.octets (l.journal.content ++ Journal.written l.access (Journal.line e.capped))) :=
    Journal.write_eq_ok_iff.2 ⟨he, hb, rfl⟩
  have hl : l.emit e = { l with
      journal := .octets
        (l.journal.content ++ Journal.written l.access (Journal.line e.capped)) } := by
    rw [emit, if_pos ha, put, hw]
  rw [hl]
  refine ⟨?_, by simp, rfl, rfl, rfl, rfl⟩
  rw [Journal.content, List.flatMap_singleton]

/-- **Events that can be written** add their lines in order. -/
theorem gains_emitAll (ha : l.attached = true) (hb : l.journal ≠ .blocked) {es : List Event}
    (hes : ∀ e ∈ es, e.capped.refusal? = none) : l.Gains (l.emitAll es) (es.map Event.capped) := by
  induction es generalizing l with
  | nil => exact .refl hb
  | cons e es ih =>
    have h := gains_emit ha hb (hes e List.mem_cons_self)
    exact h.trans (ih (h.attached.trans ha) h.blocked fun d hd => hes d (List.mem_cons_of_mem e hd))

end Log

open Evaluator Event in
/-- **What a log gains by an evaluation** that returns, over a sheet whose errors are texts. The
references of the formula that were read stand among its tokens in this order, and the evaluation
has looked up what they look up, one after the other. First there is a warning for each of them at
which the check for circular references has fired; then, if and only if the outcome has an error,
one warning with the code of the error, the tokens, the cell of the formula and the number of tokens
that do not remain. An evaluation without an error leaves nothing. One that is cut because of its
depth has read none of the tokens in the end, and its warnings of circular references stay. Only the
warning is missing that it was cut at, if there was no room to tell the log of it.

The warnings are written, one line each, as long as the number of tokens has no more digits than a
number may have that is written. -/
theorem Log.notify_evaluate {l : Log} (ha : l.attached = true) (hb : l.journal ≠ .blocked)
    {sheet : Sheet} (hs : sheet.HasTextErrors) {e : Evaluator} {origin : Option Text}
    {formula : Value} {tokens : List Text} (ht : tokensOf formula = .ok tokens) {out : Outcome}
    (h : (e.evaluate sheet.source origin formula).outcome = .ok out) (now : Text) :
    let done := e.evaluate sheet.source origin formula
    let s := setting e.options sheet.source origin
    let read := s.labelsRead tokens
    let t := run e.options sheet.source origin tokens
    ∃ code told, out.error = .str code ∧
      (t.result ≠ .error (.cut .telling) → told = read.filter s.fires) ∧
      (t.result = .error (.cut .telling) → ∃ label, read.filter s.fires = told ++ [label]) ∧
      let events := warnings now tokens origin told (tokens.length - done.evaluator.remaining) code
      (done.notices.map (ofNotice now)).map capped = events ∧
      (Number.isWritable tokens.length = true → l.Gains (l.notify now done.notices) events) ∧
      (code = "" → events = []) ∧
      (tokens ≠ [] → t.IsCut → code = "#ERR!" ∧ done.evaluator.remaining = tokens.length) ∧
      read.Sublist tokens ∧ (∀ label ∈ read, IsReference s.labels s.blankIsZero label) ∧
      (¬ t.IsCut → t.notes = read.flatMap fun label => (s.reference label).notes) := by
  intro done s read t
  have hdone : done = evaluateTokens e.options sheet.source origin tokens := by
    simp only [done, evaluate, ht]
  replace h : (evaluateTokens e.options sheet.source origin tokens).outcome = .ok out := by
    rw [← hdone]
    exact h
  obtain ⟨code, hcode⟩ := exists_code_of_outcome hs h
  obtain ⟨told, hnotices, htold, huntold⟩ := notices_evaluateTokens h hcode
  have hevents : (done.notices.map (ofNotice now)).map capped = warnings now tokens origin told
      (tokens.length - done.evaluator.remaining) code := by
    rw [hdone, hnotices, warnings, List.map_append, List.map_append, List.map_map, List.map_map]
    refine congrArg₂ (· ++ ·) (List.map_congr_left fun label _ => capped_circular now _ label) ?_
    split
    · rfl
    · exact congrArg (fun x => [x]) (capped_failed now tokens origin _ code)
  refine ⟨code, told, hcode, htold, huntold, hevents, fun hn => ?_, fun hc => ?_, fun hn hr => ?_,
    Setting.labelsRead_sublist _, fun label hm => Setting.isReference_of_mem_labelsRead hm,
    (s.follows_run tokens).notes⟩
  · have hposition : Number.isWritable ↑(tokens.length - done.evaluator.remaining) = true :=
      Number.isWritable_of_natAbs_le (Nat.sub_le _ _) hn
    have hwritable (e : Event) (he : e ∈ done.notices.map (ofNotice now)) :
        e.capped.refusal? = none := by
      have hm : e.capped ∈ (done.notices.map (ofNotice now)).map capped := List.mem_map_of_mem he
      rw [hevents] at hm
      exact refusal?_of_mem_warnings hposition hm
    rw [← hevents]
    exact gains_emitAll ha hb hwritable
  · subst hc
    have hclear : out = ⟨out.value, .str ""⟩ := by rw [← hcode]
    rw [hclear] at h
    have hread : read.filter s.fires = [] :=
      List.filter_eq_nil_iff.2 fun label hm => by simp [s, fires_of_clear h hm]
    have hnotcut : t.result ≠ .error (.cut .telling) := by
      obtain ⟨-, hr⟩ := outcome_clear_iff.1 h
      exact fun hcut => by cases hr.symm.trans hcut
    rw [htold hnotcut, labelsFired, hread]
    rfl
  · obtain ⟨rfl, hremaining⟩ := remaining_of_cut hn h hr
    refine ⟨(Value.str.inj hcode).symm, ?_⟩
    rw [hdone]
    exact hremaining

/-- A log to which nothing was recorded. -/
def Log.fresh : Log :=
  ⟨.absent, .standard, true, true, false⟩

open Evaluator Event in
/-- A formula that refers to its own cell leaves two warnings. -/
theorem Log.notify_evaluate_of_self :
    let done := (ofOptions .standard).evaluate Sheet.sevenInA1.source (some "A1")
      (.list [.str "A1"])
    Log.fresh.Gains (Log.fresh.notify "t" done.notices)
      [circularWarning "t" "A1" "A1", failureWarning "t" ["A1"] (some "A1") 1 "#CIRC!"] := by
  intro done
  have ht : tokensOf (.list [.str "A1"]) = .ok ["A1"] := rfl
  have h : done.outcome = .ok ⟨0.0, .str "#CIRC!"⟩ := rfl
  have hblocked : fresh.journal ≠ .blocked := by simp [fresh]
  obtain ⟨code, told, hcode, htold, -, -, hgains, -⟩ :=
    notify_evaluate rfl hblocked Sheet.sevenInA1_hasTextErrors ht h "t"
  cases hcode
  have hread : (run .standard Sheet.sevenInA1.source (some "A1") ["A1"]).result =
      .ok ⟨0.0, [], some .circular⟩ := rfl
  rw [htold fun hcut => by cases hread.symm.trans hcut] at hgains
  exact hgains (Number.isWritable_of_le (by decide))

/-- A label in parentheses is read as a reference that records it. -/
theorem Setting.markedRun_inParentheses (s : Setting) {label : Text}
    (hl : IsReference s.labels s.blankIsZero label) (depth : Nat) {n : Nat}
    (hn : depth + 1 + n = s.stack.levels) : s.markedRun (inParentheses n label) =
      s.markedIn (s.stack.room depth) label >>= fun r => pure ⟨r.1, [], r.2⟩ := by
  have h := expressionOf_inParentheses (g := s.markedGrammarIn) hl (fun _ => ⟨rfl, rfl⟩) depth n []
    (.inl rfl) none
  simp only [hn, List.append_nil, Option.or_none] at h
  exact h

open Evaluator in
/-- The label in parentheses is read also where the evaluation is cut. -/
theorem Evaluator.labelsFired_logging_of_self :
    labelsFired (logging true).options Sheet.sevenInA1.source (some "A1")
      (inParentheses 329 "A1") = ["A1"] := by
  have hmarked : (setting (logging true).options Sheet.sevenInA1.source (some "A1")).markedRun
      (inParentheses 329 "A1") = ⟨[.lookup "A1"], .error (.cut .telling)⟩ :=
    (Setting.markedRun_inParentheses _ (.of_isLabel rfl) 1 rfl).trans rfl
  rw [labelsFired, Setting.labelsRead, hmarked]
  rfl

open Evaluator Event in
/-- **Deep in a formula** a circular reference leaves no warning. The formula for `A1` refers to
`A1`, in 329 pairs of parentheses, and beneath them there is no room to tell the log. -/
theorem Log.notify_evaluate_untold :
    let tokens := inParentheses 329 "A1"
    let done := (logging true).evaluate Sheet.sevenInA1.source (some "A1") (.list (tokens.map .str))
    Sheet.sevenInA1.HasTextErrors ∧ done.outcome = .ok ⟨0.0, .str "#ERR!"⟩ ∧
      labelsFired (logging true).options Sheet.sevenInA1.source (some "A1") tokens = ["A1"] ∧
      Log.fresh.Gains (Log.fresh.notify "t" done.notices)
        [failureWarning "t" tokens (some "A1") 0 "#ERR!"] := by
  intro tokens done
  have hdone : done = (unread (logging true).options tokens).conclude (some "A1") []
      (some .invalid) := evaluate_logging_of_self
  have hnotices : done.notices = [.failed tokens (some "A1") 0 "#ERR!" "#ERR!"] :=
    congrArg Evaluated.notices hdone
  refine ⟨Sheet.sevenInA1_hasTextErrors, congrArg Evaluated.outcome hdone,
    labelsFired_logging_of_self, ?_⟩
  have hwritable : (ofNotice "t" (.failed tokens (some "A1") 0 "#ERR!" "#ERR!")).capped.refusal? =
      none := by
    have hzero : Number.isWritable ((0 : Nat) : Int) = true := Number.isWritable_of_le (by decide)
    rw [capped_failed]
    exact refusal?_failureWarning hzero
  have hgains := gains_emit (l := fresh) rfl (by simp [fresh]) hwritable
  rw [capped_failed] at hgains
  rw [hnotices, notify, List.map_singleton, emitAll, List.foldl_cons, List.foldl_nil]
  exact hgains

end FormulaSheet
