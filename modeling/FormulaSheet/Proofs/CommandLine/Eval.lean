import FormulaSheet.Proofs.CommandLine.Cells
import FormulaSheet.Proofs.Formula.Display
import FormulaSheet.Proofs.Formula.Guard
import FormulaSheet.Proofs.Formula.Numeral
import FormulaSheet.Proofs.Json.Strict

/-!
# What is shown of an evaluation

A formula is split into tokens and evaluated on a sheet. People are shown the value, or the error
and what it means; programs are shown a document with the tokens, the value and the error. The
status says whether there is an error, whoever it is shown to.

The document is one line of the strict language, and a program that reads it finds the same tokens,
the same value and the same error. Two things are different: a value that is no number or infinite
is null, since the language has no word for it; and halves of characters that stand side by side in
an error are read as one character.

Not every error can be shown. One that a sheet file gave as octets has no document: then the run
ends with a fault where programs should be shown the outcome. One with half of a character can stand
in a document but cannot be written: then the run ends with a fault where people should be shown it.

* `isJoined_of_tokenize`: tokens are read as they are written;
* `isStrict_outcome`, `ofChars_outcome`: the document of an outcome;
* `display_ne_error`: no value is shown like an error;
* `shows_line`, `shows_document`: what people and programs are shown;
* `fault_of_unwritable`, `fault_of_octets`: which outcomes they cannot be shown;
* `status_eq_zero_iff`: what the status says;
* `perform_eval`: what the command comes to;
* `octets_hide_outcome`: an outcome that people are shown and programs are not.
-/

namespace FormulaSheet

/-! ## Tokens as texts -/

/-- A decimal digit is no half of a character. -/
theorem Text.isChar_of_isDecimalDigit {c : Point} (h : isDecimalDigit c = true) :
    c.isChar = true := by
  obtain ⟨d, hd⟩ := Option.isSome_iff_exists.1 h
  obtain ⟨hlt, z, hz, hc⟩ := digitValue?_eq_some hd
  have hzeros : ∀ z ∈ zeros, z + 10 ≤ 0xD800 ∨ 0xE000 ≤ z := by decide
  have hapart := hzeros z hz
  rw [Point.isChar_iff]
  omega

namespace Lexeme

theorem isChar_of_continuesWord {c : Point} (h : continuesWord c = true) : c.isChar = true := by
  rw [Point.isChar_iff]
  simp only [continuesWord, Bool.or_eq_true, beq_iff_eq, isLetter_iff, Number.isAsciiDigit_iff] at h
  rcases h with ((h | h) | rfl) | rfl
  · omega
  · omega
  · decide
  · decide

theorem isChar_of_isSymbol {c : Point} (h : isSymbol c = true) : c.isChar = true := by
  simp only [isSymbol, Bool.or_eq_true, beq_iff_eq] at h
  rcases h with ((((rfl | rfl) | rfl) | rfl) | rfl) | rfl <;> rfl

/-- A lexeme consists of characters. -/
theorem isChar_of_fits {kind : LexemeKind} {s : List Point} (h : kind.Fits s) {c : Point}
    (hc : c ∈ s) : c.isChar = true := by
  rcases mem_of_fits h hc with hw | hd | hs
  · exact isChar_of_continuesWord hw
  · exact Text.isChar_of_isDecimalDigit hd
  · exact isChar_of_isSymbol hs

end Lexeme

/-- **Tokens** are read as they are written. -/
theorem Formula.isJoined_of_tokenize {text : Text} {tokens : List Text}
    (h : tokenize text = .ok tokens) {t : Text} (ht : t ∈ tokens) : Json.IsJoined t := by
  obtain ⟨l, hl, rfl⟩ := exists_isNormal_of_mem h ht
  rw [hl.token_eq]
  refine Json.isJoined_of_isChar fun c hc => ?_
  rw [Text.toList_ofList] at hc
  exact Lexeme.isChar_of_fits hl.first.longest.fits hc

namespace CommandLine

open Json

/-! ## Documents of values -/

/-- The document of a value is read as it was written. -/
theorem readsBack_number (x : Float) (d : Nat) : ReadsBack d (number x) := by
  rw [number]
  split
  · rename_i hx
    exact readsBack_float hx d
  · exact readsBack_of_isExact (j := .null) trivial (Nat.zero_le d)

theorem asRead_number (x : Float) : asRead (number x) = number x := by
  rw [number]
  split <;> rfl

/-! ## The document of an outcome -/

/-- The document of an outcome whose error is a text. -/
def outcomeDocument (tokens : List Text) (x : Float) (code : Text) : Json :=
  .obj [("tokens", .arr (tokens.map .str)), ("value", number x), ("error", .str code)]

/-- **The document of an outcome** is written in the strict language. -/
theorem isStrict_outcome (tokens : List Text) (x : Float) (code : Text) :
    IsStrict (outcomeDocument tokens x code).text := by
  have htokens (ts : List Text) : HaveFinite (ts.map .str) := by
    induction ts with
    | nil => trivial
    | cons t ts ih => exact ⟨trivial, ih⟩
  exact isStrict_text ⟨htokens tokens, hasFinite_number x, trivial, trivial⟩

/-- Tokens are read from their document as they were written. -/
theorem readsBack_tokens {tokens : List Text} (h : ∀ t ∈ tokens, IsJoined t) (d : Nat) :
    ReadsBack (d + 1) (.arr (tokens.map .str)) ∧
      asRead (.arr (tokens.map .str)) = .arr (tokens.map .str) := by
  constructor
  · refine readsBack_arr fun j hj => ?_
    obtain ⟨t, -, rfl⟩ := List.mem_map.1 hj
    exact readsBack_of_isExact (j := .str t) trivial (Nat.zero_le d)
  · have hitems : itemsAsRead (tokens.map .str) = tokens.map .str := by
      induction tokens with
      | nil => rfl
      | cons t tokens ih =>
        rw [List.map_cons, itemsAsRead, ih fun u hu => h u (List.mem_cons_of_mem t hu), asRead,
          (h t List.mem_cons_self).rejoined_eq]
    rw [asRead, hitems]

/-- **The document of an outcome** reads back, with the error as it is read. -/
theorem ofChars_outcome {tokens : List Text} (h : ∀ t ∈ tokens, IsJoined t) (x : Float)
    (code : Text) (d : Nat) : Json.ofChars (d + 2) (outcomeDocument tokens x code).text =
      .ok (outcomeDocument tokens x (rejoined code)) := by
  obtain ⟨htokens, htokens'⟩ := readsBack_tokens h d
  have hreads : ReadsBack (d + 2) (outcomeDocument tokens x code) := by
    refine readsBack_obj (List.forall_mem_cons.2 ⟨htokens, List.forall_mem_cons.2
      ⟨readsBack_number x (d + 1), List.forall_mem_singleton.2 ?_⟩⟩)
    exact readsBack_of_isExact (j := .str code) trivial (Nat.zero_le (d + 1))
  have hnames : rejoined "tokens" = "tokens" ∧ rejoined "value" = "value" ∧
      rejoined "error" = "error" :=
    ⟨IsJoined.rejoined_eq (by decide), IsJoined.rejoined_eq (by decide),
      IsJoined.rejoined_eq (by decide)⟩
  rw [hreads.ofChars, outcomeDocument, asRead, fieldsAsRead, fieldsAsRead, fieldsAsRead,
    fieldsAsRead, htokens', asRead_number, hnames.1, hnames.2.1, hnames.2.2, asRead,
    Register.ofList_of_nodup (by simp [Register.names])]
  rfl

/-! ## What is shown -/

theorem ok_iff (out : Outcome) : out.ok = true ↔ out.error = .str "" := by
  constructor
  · intro h
    rw [Evaluator.eq_of_ok h]
  · intro h
    rw [Outcome.ok, h]
    rfl

/-- The line that people are shown of an error: the error and what it means. -/
def errorLine (error : Value) : Text :=
  errorText error ++ " (" ++ Failure.describe (errorText error) ++ ")\n"

theorem blank_mem_errorLine (error : Value) : .char ' ' ∈ (errorLine error).toList := by
  simp [errorLine, Text.toList_append, Text.toList_ofString]

/-- **No value** is shown like an error. -/
theorem display_ne_error (terminal : Bool) (x : Float) (error : Value) :
    Number.display x ++ "\n" ≠ sent terminal (errorLine error) := by
  intro h
  have hblank : .char ' ' ∈ (sent terminal (errorLine error)).toList :=
    (mem_sent (by decide)).2 (blank_mem_errorLine error)
  rw [← h, Text.toList_append, List.mem_append] at hblank
  rcases hblank with hblank | hblank
  · exact (Number.isVisible_of_mem_display hblank).2 rfl
  · exact absurd hblank (by decide)

theorem isWritable_describe {code : Text} (h : IsWritable code) :
    IsWritable (Failure.describe code) := by
  have hall : ∀ e ∈ Failure.descriptions, IsWritable e.2 := by decide
  rw [Failure.describe]
  cases hl : Failure.descriptions.lookup code with
  | none => exact h
  | some text =>
    obtain ⟨before, behind, hd, -⟩ := List.lookup_eq_some_iff.1 hl
    exact hall (code, text) (by simp [hd])

/-- The line of an error can be written if the error can. -/
theorem isWritable_errorLine {error : Value} :
    IsWritable (errorLine error) ↔ IsWritable (errorText error) := by
  simp only [errorLine, isWritable_append, isWritable_ofString, and_true]
  exact ⟨And.left, fun h => ⟨h, isWritable_describe h⟩⟩

/-- The line that people are shown of an outcome: the value, or else the error. -/
def outcomeLine (out : Outcome) : Text :=
  if out.ok then Number.display out.value ++ "\n" else errorLine out.error

theorem outcomeText_people (tokens : List Text) (out : Outcome) :
    outcomeText tokens false out = .ok (outcomeLine out) := by
  rw [outcomeText, if_neg Bool.false_ne_true, outcomeLine]
  split <;> rfl

theorem isPrinted_of_display {x : Float} :
    ∀ c ∈ (Number.display x ++ ("\n" : Text)).toList, IsPrinted c :=
  List.forall_mem_append.2 ⟨fun _ hc => .inl (Number.isVisible_of_mem_display hc).1,
    List.forall_mem_singleton.2 (.inr rfl)⟩

/-- A value can be written. -/
theorem write_outcomeLine_of_ok (terminal : Bool) {out : Outcome} (h : out.ok = true) :
    write terminal [outcomeLine out] = (Number.display out.value ++ "\n", none) := by
  rw [outcomeLine, if_pos h]
  exact write_of_printed isPrinted_of_display

/-- The line of an error can be written if the error can. -/
theorem write_outcomeLine_of_error (terminal : Bool) {out : Outcome} (h : ¬ out.ok = true)
    (hw : IsWritable (errorText out.error)) :
    write terminal [outcomeLine out] = (sent terminal (errorLine out.error), none) := by
  rw [outcomeLine, if_neg h,
    write_of_writable (List.forall_mem_singleton.2 (isWritable_errorLine.2 hw))]
  simp [Text.join]

theorem not_ok_of_unwritable {out : Outcome} (hw : ¬ IsWritable (errorText out.error)) :
    ¬ out.ok = true := by
  intro hok
  refine hw ?_
  rw [(ok_iff out).1 hok]
  exact isWritable_ofString ""

/-- Nothing is written of an error that cannot be written. -/
theorem write_outcomeLine_of_unwritable (terminal : Bool) {out : Outcome}
    (hw : ¬ IsWritable (errorText out.error)) :
    ∃ halves, write terminal [outcomeLine out] = (("" : Text), some (.unencodable halves)) := by
  rw [outcomeLine, if_neg (not_ok_of_unwritable hw)]
  exact write_singleton_of_unwritable (mt isWritable_errorLine.1 hw)

/-- What programs are shown of an outcome whose error is a text. -/
theorem outcomeText_of_text (tokens : List Text) {out : Outcome} {code : Text}
    (h : out.error = .str code) : outcomeText tokens true out =
      .ok (lineOf (outcomeDocument tokens out.value code).text) := by
  rw [outcomeText, if_pos rfl, h]
  rfl

/-- An error of octets keeps an outcome from being shown to programs. -/
theorem outcomeText_of_octets (tokens : List Text) {out : Outcome} {octets : List UInt8}
    (h : out.error = .octets octets) : outcomeText tokens true out = .error octetsFault := by
  rw [outcomeText, if_pos rfl, h]
  rfl

/-! ## The command -/

/-- The report is that the program has shown the output of an outcome. The status says whether the
outcome has an error. -/
structure Report.Shows (r : Report) (out : Outcome) (output : Text) : Prop where
  status : r.status = 0 ↔ out.error = .str ""
  output : r.output = output
  complaint : r.complaint = ""
  fault : r.fault = none

theorem Report.shows_of_write {m : Machine} {s output : Text} (out : Outcome)
    (h : write m.answers [s] = (output, none)) (before behind : List Event) :
    (((Report.ofTexts m (if out.ok then 0 else 1) (.ok [s])).after behind).after before).Shows out
      output := by
  rw [Report.ofTexts, h]
  refine ⟨?_, rfl, rfl, rfl⟩
  rw [← ok_iff]
  change (if out.ok then 0 else 1) = 0 ↔ _
  split <;> simp_all

/-- The evaluation of the tokens of a formula for a cell. An empty label is none. -/
def evaluation (o : Options) (s : Sheet) (origin : Option Text) (tokens : List Text) :
    Evaluated :=
  (Evaluator.ofOptions o).evaluate s.source ((origin.filter (· ≠ ("" : Text))).map Text.upper)
    (.list (tokens.map .str))

variable {m : Machine} {state : LogState} {disk : Disk} {path : Option Text} {settings : Value}
  {s : Sheet} {events : List Event}

theorem perform_of_tokens {now text : Text} (origin : Option Text) (json : Bool)
    {o : Options} {tokens : List Text} {out : Outcome}
    (hload : loadSheet m disk now settings path = .ok (s, events))
    (hoptions : Settings.options (m.stack state) settings = .ok o)
    (htokens : Formula.tokenize text = .ok tokens)
    (hout : (evaluation o s origin tokens).outcome = .ok out) :
    perform m state disk now settings (.eval text path origin json) =
      ((Report.ofTexts m (if out.ok then 0 else 1)
        ((outcomeText tokens json out).map ([·]))).after
          ((evaluation o s origin tokens).notices.map (Event.ofNotice now))).after events := by
  rw [evaluation] at hout
  simp only [perform, hload, evalOn, htokens, hoptions, hout, evaluation]

section

variable {now text : Text} {origin : Option Text} {o : Options} {tokens : List Text}
  {out : Outcome} (hload : loadSheet m disk now settings path = .ok (s, events))
  (hoptions : Settings.options (m.stack state) settings = .ok o)
  (htokens : Formula.tokenize text = .ok tokens)
  (hout : (evaluation o s origin tokens).outcome = .ok out)

include hload hoptions htokens hout

/-- People are shown the line of an outcome if it can be written. -/
theorem shows_line {line : Text} (hw : write m.answers [outcomeLine out] = (line, none)) :
    (perform m state disk now settings (.eval text path origin false)).Shows out line := by
  rw [perform_of_tokens origin false hload hoptions htokens hout, outcomeText_people]
  exact Report.shows_of_write out hw _ _

/-- If it cannot, they are shown nothing. -/
theorem fault_of_unwritable (hw : ¬ IsWritable (errorText out.error)) :
    let report := perform m state disk now settings (.eval text path origin false)
    (∃ halves, report.fault = some (.unencodable halves)) ∧ report.output = "" ∧
      report.status = 1 := by
  obtain ⟨halves, hwrite⟩ := write_outcomeLine_of_unwritable m.answers hw
  rw [perform_of_tokens origin false hload hoptions htokens hout, outcomeText_people, Except.map,
    Report.ofTexts, hwrite]
  exact ⟨⟨halves, rfl⟩, rfl, rfl⟩

/-- Programs are shown the document of an outcome whose error is a text. -/
theorem shows_document {code : Text} (he : out.error = .str code) :
    (perform m state disk now settings (.eval text path origin true)).Shows out
      (lineOf (outcomeDocument tokens out.value code).text) := by
  rw [perform_of_tokens origin true hload hoptions htokens hout, outcomeText_of_text tokens he]
  refine Report.shows_of_write out (write_of_printed ?_) _ _
  exact List.forall_mem_append.2 ⟨fun c hc =>
    .inl ((isStrict_outcome tokens out.value code).isVisible c hc),
    List.forall_mem_singleton.2 (.inr rfl)⟩

/-- They are shown nothing if it is octets. -/
theorem fault_of_octets {octets : List UInt8} (he : out.error = .octets octets) :
    let report := perform m state disk now settings (.eval text path origin true)
    report.fault = some octetsFault ∧ report.output = "" ∧ report.status = 1 := by
  rw [perform_of_tokens origin true hload hoptions htokens hout, outcomeText_of_octets tokens he]
  exact ⟨rfl, rfl, rfl⟩

/-- **The status** says whether there is an error, whoever is shown the outcome. -/
theorem status_eq_zero_iff (json : Bool) :
    (perform m state disk now settings (.eval text path origin json)).status = 0 ↔
      out.error = .str "" := by
  cases json with
  | false =>
    by_cases hok : out.ok = true
    · exact (shows_line hload hoptions htokens hout (write_outcomeLine_of_ok _ hok)).status
    by_cases hw : IsWritable (errorText out.error)
    · exact (shows_line hload hoptions htokens hout (write_outcomeLine_of_error _ hok hw)).status
    · rw [(fault_of_unwritable hload hoptions htokens hout hw).2.2, ← ok_iff]
      exact ⟨nofun, fun h => absurd h hok⟩
  | true =>
    rcases exists_of_plainText? (Evaluator.plainText_of_evaluate hout) with
      ⟨code, he⟩ | ⟨octets, he⟩
    · exact (shows_document hload hoptions htokens hout he).status
    · rw [(fault_of_octets hload hoptions htokens hout he).2.2, he]
      exact ⟨nofun, nofun⟩

end

/-- **The evaluation of a formula** on a sheet that can be loaded. A text that has no tokens ends
the run with a complaint, whatever the settings are; the event log is told no more than that the
sheet was loaded.

If the text has tokens and their evaluation returns, the status is zero if and only if there is no
error, whoever is shown the outcome. People are shown the value if and only if the status is zero,
and else the error and what it means; unless the error has half of a character, and then they are
shown nothing, as a fault ends the run. Programs are shown one line in the strict language, from
which they read the tokens, the value and the error; the value is null if and only if it is no
number or infinite, and the error is the one of the outcome, but for halves of characters that stand
side by side in it. That is, unless the error is not a text but octets, which are the only other
errors: then a fault ends the run and programs are shown nothing. -/
theorem perform_eval (now text : Text) (origin : Option Text)
    (hload : loadSheet m disk now settings path = .ok (s, events)) :
    (∀ e, Formula.tokenize text = .error e → ∀ json,
      (perform m state disk now settings (.eval text path origin json)).Complains ∧
        (perform m state disk now settings (.eval text path origin json)).events = events) ∧
      ∀ o tokens out, Settings.options (m.stack state) settings = .ok o →
        Formula.tokenize text = .ok tokens → (evaluation o s origin tokens).outcome = .ok out →
        (∀ json, (perform m state disk now settings (.eval text path origin json)).status = 0 ↔
          out.error = .str "") ∧
        (IsWritable (errorText out.error) → ∃ line,
          (perform m state disk now settings (.eval text path origin false)).Shows out line ∧
            (out.error = .str "" → line = Number.display out.value ++ "\n") ∧
            (out.error ≠ .str "" → line = sent m.answers (errorLine out.error)) ∧
            ((∃ x, line = Number.display x ++ "\n") ↔ out.error = .str "")) ∧
        (¬ IsWritable (errorText out.error) → ∃ halves,
          (perform m state disk now settings (.eval text path origin false)).fault =
              some (.unencodable halves) ∧
            (perform m state disk now settings (.eval text path origin false)).output = "") ∧
        (∀ code, out.error = .str code → ∃ line,
          (perform m state disk now settings (.eval text path origin true)).Shows out
              (lineOf line) ∧
            IsStrict line ∧ .char '\n' ∉ line ∧
            (∀ depth, 2 ≤ depth → Json.ofChars depth line =
              .ok (.obj [("tokens", .arr (tokens.map .str)), ("value", number out.value),
                ("error", .str (rejoined code))])) ∧
            (IsJoined code → rejoined code = code) ∧ (IsWritable code → rejoined code = code)) ∧
        (number out.value = .null ↔ out.value.isFinite = false) ∧
        ((∃ code, out.error = .str code) ∨ ∃ octets, out.error = .octets octets ∧
          (perform m state disk now settings (.eval text path origin true)).fault =
              some octetsFault ∧
            (perform m state disk now settings (.eval text path origin true)).output = "") := by
  refine ⟨fun e he json => ?_, fun o tokens out hoptions htokens hout => ?_⟩
  · have hreport : perform m state disk now settings (.eval text path origin json) =
        (Report.complain m e.message).after events := by
      simp only [perform, hload, evalOn, he]
    rw [hreport]
    exact ⟨⟨rfl, rfl, ⟨_, rfl⟩, rfl⟩, List.append_nil events⟩
  have hpeople {line : Text} (hw : write m.answers [outcomeLine out] = (line, none)) :=
    shows_line hload hoptions htokens hout hw
  refine ⟨status_eq_zero_iff hload hoptions htokens hout, fun hw => ?_, fun hw => ?_,
    fun code he => ?_, number_eq_null_iff, ?_⟩
  · by_cases hok : out.ok = true
    · have he := (ok_iff out).1 hok
      exact ⟨_, hpeople (write_outcomeLine_of_ok _ hok), fun _ => rfl, fun hne => absurd he hne,
        fun _ => he, fun _ => ⟨out.value, rfl⟩⟩
    · have he := mt (ok_iff out).2 hok
      refine ⟨_, hpeople (write_outcomeLine_of_error _ hok hw), fun h => absurd h he,
        fun _ => rfl, ?_, fun h => absurd h he⟩
      rintro ⟨x, hx⟩
      exact absurd hx.symm (display_ne_error m.answers x out.error)
  · obtain ⟨⟨halves, hfault⟩, houtput, -⟩ := fault_of_unwritable hload hoptions htokens hout hw
    exact ⟨halves, hfault, houtput⟩
  · have hstrict := isStrict_outcome tokens out.value code
    refine ⟨_, shows_document hload hoptions htokens hout he, hstrict,
      fun hm => absurd (hstrict.isVisible _ hm) (by decide), fun depth hd => ?_,
      IsJoined.rejoined_eq, fun hw => (isJoined_of_isChar hw).rejoined_eq⟩
    obtain ⟨d, rfl⟩ := Nat.exists_eq_add_of_le' hd
    exact ofChars_outcome (fun t => Formula.isJoined_of_tokenize htokens) out.value code d
  · rcases exists_of_plainText? (Evaluator.plainText_of_evaluate hout) with
      htext | ⟨octets, he⟩
    · exact .inl htext
    · obtain ⟨hfault, houtput, -⟩ := fault_of_octets hload hoptions htokens hout he
      exact .inr ⟨octets, he, hfault, houtput⟩

/-- The outcome of an evaluation on a sheet file. -/
def outcomeOn (path text : Text) (tokens : List Text) : Except Fault Outcome := do
  (evaluation .standard (← sheetOf .standard path (Utf8.encode text.toList)) none tokens).outcome

theorem loadSheet_of_onlyFile {path text : Text} {s : Sheet}
    (h : sheetOf .standard path (Utf8.encode text.toList) = .ok s) :
    loadSheet .standard (onlyFile path text) "" (.map []) (some path) =
      .ok (s, [s.loadedEvent "" path]) :=
  loadSheet_of_file "" (onlyFile_self path text) h

/-- A sheet file with a value and an error for `A1`. -/
def lateText : Text :=
  "cells:\n  A1: \x7bformula: C1, value: 7, error: late\x7d\n"

/-- A formula that refers to a cell with an error, and a text that is no formula. -/
theorem perform_eval_of_late :
    ∃ s events out, loadSheet .standard (onlyFile "s.yaml" lateText) "" (.map [])
        (some "s.yaml") = .ok (s, events) ∧
      (evaluation .standard s none ["A1"]).outcome = .ok out ∧ out.error = .str "late" ∧
      (∃ line, (perform .standard .detached (onlyFile "s.yaml" lateText) "" (.map [])
          (.eval "A1" (some "s.yaml") none true)).Shows out (lineOf line) ∧
        Json.ofChars 2 line = .ok (.obj [("tokens", .arr [.str "A1"]),
          ("value", number out.value), ("error", .str "late")])) ∧
      ∃ e, Formula.tokenize "A1 $" = .error e ∧
        (perform .standard .detached (onlyFile "s.yaml" lateText) "" (.map [])
          (.eval "A1 $" (some "s.yaml") none true)).Complains := by
  have htest : (outcomeOn "s.yaml" lateText ["A1"]).toOption.any
      (fun out => (errorDocument out.error).toOption.any (Json.isText "late")) = true := by
    decide +kernel
  obtain ⟨out, hout, htest⟩ := exists_ok_of_any htest
  obtain ⟨s, hs, hout⟩ := bind_eq_ok_iff.1 hout
  have herror : out.error = .str "late" := by
    rcases exists_of_plainText? (Evaluator.plainText_of_evaluate hout) with
      ⟨code, he⟩ | ⟨octets, he⟩
    · rw [he] at htest ⊢
      exact congrArg Value.str (eq_of_beq htest)
    · rw [he] at htest
      cases htest
  have htokens : Formula.tokenize "A1" = .ok ["A1"] := by cbv
  have hload := loadSheet_of_onlyFile hs
  obtain ⟨-, -, -, hdocument, -⟩ :=
    (perform_eval "" "A1" none hload).2 .standard _ out options_standard htokens hout
  obtain ⟨line, hshows, -, -, hread, hjoined, -⟩ := hdocument "late" herror
  rw [hjoined (by decide)] at hread
  have hwrong : (Formula.tokenize "A1 $").toOption.isNone = true := by decide +kernel
  obtain ⟨e, he⟩ : ∃ e, Formula.tokenize "A1 $" = .error e := by
    cases h : Formula.tokenize "A1 $" with
    | error e => exact ⟨e, rfl⟩
    | ok tokens =>
      rw [h] at hwrong
      cases hwrong
  exact ⟨s, _, out, hload, hout, herror, ⟨line, hshows, hread 2 (Nat.le_refl 2)⟩, e, he,
    ((perform_eval "" "A1 $" none hload).1 e he true).1⟩

/-- **An outcome that programs are not shown**: the evaluation of a reference to a cell whose error
are octets returns and people are shown the error, but for programs the run ends with a fault. -/
theorem octets_hide_outcome :
    ∃ s events out, loadSheet .standard (onlyFile "s.yaml" octetsText) "" (.map [])
        (some "s.yaml") = .ok (s, events) ∧
      Settings.options (Machine.standard.stack .detached) (.map []) = .ok .standard ∧
      Formula.tokenize "A1" = .ok ["A1"] ∧
      (evaluation .standard s none ["A1"]).outcome = .ok out ∧
      (perform .standard .detached (onlyFile "s.yaml" octetsText) "" (.map [])
        (.eval "A1" (some "s.yaml") none false)).Shows out "b'a' (b'a')\n" ∧
      (perform .standard .detached (onlyFile "s.yaml" octetsText) "" (.map [])
        (.eval "A1" (some "s.yaml") none true)).fault = some octetsFault ∧
      (perform .standard .detached (onlyFile "s.yaml" octetsText) "" (.map [])
        (.eval "A1" (some "s.yaml") none true)).output = "" := by
  have htest : (outcomeOn "s.yaml" octetsText ["A1"]).toOption.any (fun out =>
      (errorDocument out.error).toOption.isNone && errorText out.error == "b'a'") = true := by
    decide +kernel
  obtain ⟨out, hout, htest⟩ := exists_ok_of_any htest
  obtain ⟨s, hs, hout⟩ := bind_eq_ok_iff.1 hout
  obtain ⟨hnone, htext⟩ := Bool.and_eq_true_iff.1 htest
  obtain ⟨octets, he⟩ : ∃ octets, out.error = .octets octets := by
    refine (exists_of_plainText? (Evaluator.plainText_of_evaluate hout)).resolve_left ?_
    rintro ⟨code, he⟩
    rw [he] at hnone
    cases hnone
  have htokens : Formula.tokenize "A1" = .ok ["A1"] := by cbv
  have hload := loadSheet_of_onlyFile hs
  have hreport (json : Bool) := perform_of_tokens none json hload options_standard htokens hout
  have hline : outcomeLine out = "b'a' (b'a')\n" := by
    have hok : ¬ out.ok = true := by
      rw [ok_iff, he]
      intro h
      cases h
    rw [outcomeLine, if_neg hok, errorLine, eq_of_beq htext]
    rfl
  refine ⟨s, _, out, hload, options_standard, htokens, hout, ?_, ?_, ?_⟩
  · rw [hreport, outcomeText_people, hline]
    exact Report.shows_of_write out (write_of_printed (by decide)) _ _
  · rw [hreport, outcomeText_of_octets _ he]
    rfl
  · rw [hreport, outcomeText_of_octets _ he]
    rfl

end CommandLine

end FormulaSheet
