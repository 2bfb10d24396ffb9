import FormulaSheet.Proofs.CommandLine.Loading
import FormulaSheet.Proofs.CommandLine.Output
import FormulaSheet.Proofs.Label
import FormulaSheet.Proofs.Sheet.Sweep

/-!
# What is shown of a sweep

All cells of a sheet are evaluated, and their rows are shown for people or for programs. Both
showings have the rows one after the other with the label and with the value or the error, and the
event log is told the same of both.

Not every error can be shown, and one that cannot ends the run after the cells were evaluated. A
document can only hold texts, but a sheet file may hold octets as an error: then programs are shown
nothing. A text with half of a character can stand in a document but cannot be written: then people
are shown the rows in front of it.

* `rowsTexts_of_texts`, `rowsTexts_of_octets`: what programs are shown;
* `isWritable_rowText`: the rows that people can be shown;
* `perform_cells`: what the command comes to for every sheet file that can be loaded;
* `octets_hide_rows`: a sheet whose rows people are shown and programs are not.
-/

namespace FormulaSheet.CommandLine

open Sheet (Row)

/-! ## Reports -/

/-- The report is that the program has ended well, with the output. -/
structure Report.Answers (r : Report) (output : Text) : Prop where
  status : r.status = 0
  output : r.output = output
  complaint : r.complaint = ""
  fault : r.fault = none

instance (r : Report) (output : Text) : Decidable (r.Answers output) :=
  decidable_of_iff (r.status = 0 ∧ r.output = output ∧ r.complaint = "" ∧ r.fault = none)
    ⟨fun ⟨h₁, h₂, h₃, h₄⟩ => ⟨h₁, h₂, h₃, h₄⟩, fun ⟨h₁, h₂, h₃, h₄⟩ => ⟨h₁, h₂, h₃, h₄⟩⟩

theorem Report.answers_after {events : List Event} {r : Report} {output : Text} :
    (r.after events).Answers output ↔ r.Answers output :=
  ⟨fun ⟨h₁, h₂, h₃, h₄⟩ => ⟨h₁, h₂, h₃, h₄⟩, fun ⟨h₁, h₂, h₃, h₄⟩ => ⟨h₁, h₂, h₃, h₄⟩⟩

theorem Report.answers_answer (output : Text) : (Report.answer 0 output).Answers output :=
  ⟨rfl, rfl, rfl, rfl⟩

/-! ## Rows for programs -/

/-- A double has no document exactly if it is no number or infinite. -/
theorem number_eq_null_iff {x : Float} : number x = .null ↔ x.isFinite = false := by
  rw [number]
  cases x.isFinite <;> simp

/-- The document of a row whose error is a text. -/
def document (r : Row) : Json :=
  .obj [("label", .str r.label), ("value", number r.value), ("error", .str (errorText r.error))]

/-- The fault of a row whose error are octets. -/
def octetsFault : Fault :=
  .wrongType (.text "bytes")

theorem rowDocument_of_text {r : Row} (h : ∃ code, r.error = .str code) :
    rowDocument r = .ok (document r) := by
  obtain ⟨code, h⟩ := h
  rw [rowDocument, document, h]
  rfl

theorem rowDocument_of_octets {r : Row} {octets : List UInt8} (h : r.error = .octets octets) :
    rowDocument r = .error octetsFault := by
  rw [rowDocument, h]
  rfl

/-- **Rows whose errors are texts** are shown to programs one after the other. -/
theorem rowsTexts_of_texts {rows : List Row} (h : ∀ row ∈ rows, ∃ code, row.error = .str code) :
    rowsTexts true rows = .ok [lineOf ((Json.arr (rows.map document)).page 0)] := by
  have hdocuments : rows.mapM rowDocument = .ok (rows.map document) := by
    induction rows with
    | nil => rfl
    | cons row rows ih =>
      rw [List.mapM_cons, rowDocument_of_text (h row List.mem_cons_self),
        ih fun r hr => h r (List.mem_cons_of_mem row hr)]
      rfl
  rw [rowsTexts, if_pos rfl, hdocuments]
  rfl

/-- **An error of octets** keeps all rows from being shown to programs. -/
theorem rowsTexts_of_octets {rows : List Row}
    (h : ∀ row ∈ rows, (∃ code, row.error = .str code) ∨ ∃ octets, row.error = .octets octets)
    (ho : ¬ ∀ row ∈ rows, ∃ code, row.error = .str code) :
    rowsTexts true rows = .error octetsFault := by
  have hdocuments : rows.mapM rowDocument = .error octetsFault := by
    induction rows with
    | nil => exact absurd (fun _ hm => absurd hm List.not_mem_nil) ho
    | cons row rows ih =>
      rw [List.mapM_cons]
      rcases h row List.mem_cons_self with htext | ⟨octets, hoctets⟩
      · have hrest := ih (fun r hr => h r (List.mem_cons_of_mem row hr)) fun hall =>
          ho (List.forall_mem_cons.2 ⟨htext, hall⟩)
        rw [rowDocument_of_text htext, hrest]
        rfl
      · rw [rowDocument_of_octets hoctets]
        rfl
  rw [rowsTexts, if_pos rfl, hdocuments]
  rfl

/-- What is a text, or octets that are one, is a text or octets. -/
theorem exists_of_plainText? {v : Value} (h : v.plainText?.isSome = true) :
    (∃ code, v = .str code) ∨ ∃ octets, v = .octets octets := by
  cases v with
  | str code => exact .inl ⟨code, rfl⟩
  | octets octets => exact .inr ⟨octets, rfl⟩
  | _ => cases h

/-- The error of a row of a sheet is a text or octets. -/
theorem text_or_octets {s : Sheet} {o : Options} {rows : List Row} (h : s.AreRows o rows)
    {row : Row} (hm : row ∈ rows) :
    (∃ code, row.error = .str code) ∨ ∃ octets, row.error = .octets octets :=
  exists_of_plainText? (h.plainText hm)

/-! ## Rows for people -/

/-- People can be shown the row: no error is shown, or one without half of a character. -/
def IsShowable (r : Row) : Prop :=
  r.hasError = true → IsWritable (errorText r.error)

instance (r : Row) : Decidable (IsShowable r) :=
  inferInstanceAs (Decidable (_ → _))

/-- The rows as people are shown them. -/
def shownRows (m : Machine) (rows : List Row) : Text :=
  Text.join (rows.map fun r => sent m.answers (rowText r))

/-- **A row can be written** for people if its error can be, or if it has none. -/
theorem isWritable_rowText {r : Row} (h : Label.isLabel r.label = true) :
    IsWritable (rowText r) ↔ IsShowable r := by
  have hlabel : IsWritable (padLabel r.label) := by
    refine isWritable_append.2 ⟨fun c hc => ?_, fun c hc => ?_⟩
    · rcases Label.isSpelling_or_of_isLabel h hc with hs | rfl
      · have := Label.isSpelling_bounds hs
        exact Point.isChar_iff.2 (by omega)
      · rfl
    · rw [List.eq_of_mem_replicate hc]
      rfl
  have hvalue : IsWritable (Number.display r.value) := fun c hc =>
    Json.isChar_of_isVisible (Number.isVisible_of_mem_display hc).1
  simp only [rowText, isWritable_append, isWritable_ofString, hlabel, true_and, and_true,
    IsShowable]
  split
  · rename_i he
    simp only [he, true_imp_iff]
  · rename_i he
    simp only [hvalue, he, Bool.false_eq_true, false_imp_iff]

theorem isLabel_of_row {s : Sheet} {o : Options} {rows : List Row} (h : s.AreRows o rows)
    {row : Row} (hm : row ∈ rows) : Label.isLabel row.label = true := by
  obtain ⟨cell, hcell, -⟩ := h.returned row hm
  exact (s.admitted row.label (Register.mem_names_of_find? hcell)).isLabel

/-! ## What is written -/

variable {m : Machine}

/-- Texts that can all be written are an answer. -/
theorem answers_of_writable {texts : List Text} (h : ∀ s ∈ texts, IsWritable s) :
    (Report.ofTexts m 0 (.ok texts)).Answers (Text.join (texts.map (sent m.answers))) := by
  rw [Report.ofTexts, write_of_writable h]
  exact Report.answers_answer _

theorem answers_of_printed {s : Text} (h : ∀ c ∈ s.toList, IsPrinted c) :
    (Report.ofTexts m 0 (.ok [s])).Answers s := by
  rw [Report.ofTexts, write_of_printed h]
  exact Report.answers_answer _

theorem hasFinite_number (x : Float) : Json.HasFinite (number x) := by
  rw [number]
  split
  · rename_i hx
    exact hx
  · trivial

theorem isPrinted_of_documents {rows : List Row} :
    ∀ c ∈ (lineOf ((Json.arr (rows.map document)).page 0)).toList, IsPrinted c := by
  have hdocuments : Json.HaveFinite (rows.map document) := by
    induction rows with
    | nil => trivial
    | cons row rows ih => exact ⟨⟨trivial, hasFinite_number row.value, trivial, trivial⟩, ih⟩
  exact List.forall_mem_append.2 ⟨Json.shown_of_mem_page 0 hdocuments,
    List.forall_mem_singleton.2 (.inr rfl)⟩

/-! ## The command -/

variable {state : LogState} {disk : Disk} {path : Text} {octets : List UInt8} {settings : Value}
  {s : Sheet} {o : Options}

/-- A sweep that has rows is followed by its event, and then by what is shown of it. -/
theorem perform_of_rows (now : Text) (json : Bool) {rows : List Row}
    (hfile : disk path = .file octets) (hload : sheetOf m path octets = .ok s)
    (hoptions : Settings.options (m.stack state) settings = .ok o)
    (hrows : (s.sweep (Evaluator.ofOptions o)).rows = .ok rows) :
    perform m state disk now settings (.cells path json) =
      (Report.ofTexts m 0 (rowsTexts json rows)).after (s.loadedEvent now path ::
        (s.sweep (Evaluator.ofOptions o)).notices.map (Event.ofNotice now) ++
          [sweptEvent now path rows]) := by
  simp only [perform, loadSheet_of_file now hfile hload, cellsOf, hoptions, hrows, Report.after,
    List.append_assoc, List.nil_append, List.cons_append]

/-- **All cells of a sheet file.** If the evaluations of all formulas of a sheet that can be loaded
return, there is one row for every stored cell with a formula and none for another, in the order of
the labels, and each row has the value and the error that an evaluator returns that has evaluated
nothing before, for the formula of the cell at its own label. A row has an error if that is not the
empty text. The event log is told that the sheet was loaded, what there is to tell of each
evaluation, and last how many rows there are and how many of them have an error.

People are shown the rows one after the other, with the error of a row or else its value; unless
some error has half of a character, and then they are shown the rows before it, as a fault ends the
run. Programs are shown the same rows in the same order with their errors and values, where only a
value that is no number or infinite is null; unless some error is not a text but octets, which are
the only other errors, and then programs are shown nothing, as a fault ends the run. -/
theorem perform_cells (now : Text) (hfile : disk path = .file octets)
    (hload : sheetOf m path octets = .ok s)
    (hoptions : Settings.options (m.stack state) settings = .ok o)
    (hreturn : ∀ label cell, s.cells.find? label = some cell → cell.formula ≠ [] →
      ∃ out, (s.evaluated o label cell).outcome = .ok out) :
    ∃ rows, s.AreRows o rows ∧
      (∀ row ∈ rows, row.hasError = true ↔ row.error ≠ .str "") ∧
      (∀ json, (perform m state disk now settings (.cells path json)).events =
        s.loadedEvent now path ::
          (s.formulas.flatMap fun x => (s.evaluated o x.1 x.2).notices).map (Event.ofNotice now) ++
            [sweptEvent now path rows]) ∧
      ((∀ row ∈ rows, IsShowable row) →
        (perform m state disk now settings (.cells path false)).Answers
          (if rows.isEmpty then "No formulas found.\n" else shownRows m rows)) ∧
      (∀ before row behind, rows = before ++ row :: behind → (∀ r ∈ before, IsShowable r) →
        ¬ IsShowable row → ∃ halves,
          (perform m state disk now settings (.cells path false)).fault =
              some (.unencodable halves) ∧
            (perform m state disk now settings (.cells path false)).output =
              shownRows m before) ∧
      ((∀ row ∈ rows, ∃ code, row.error = .str code) →
        (perform m state disk now settings (.cells path true)).Answers
          (lineOf ((Json.arr (rows.map document)).page 0))) ∧
      ((¬ ∀ row ∈ rows, ∃ code, row.error = .str code) →
        (perform m state disk now settings (.cells path true)).fault = some octetsFault ∧
          (perform m state disk now settings (.cells path true)).output = "" ∧
          ∀ row ∈ rows, (∃ code, row.error = .str code) ∨ ∃ octets, row.error = .octets octets) ∧
      ∀ x, number x = .null ↔ x.isFinite = false := by
  obtain ⟨rows, hrows, hare, hnotices⟩ := Sheet.exists_rows (e := Evaluator.ofOptions o) hreturn
  have hreport (json : Bool) := perform_of_rows now json hfile hload hoptions hrows
  have hwritable {row : Row} (hm : row ∈ rows) := isWritable_rowText (isLabel_of_row hare hm)
  have hpeople (hne : rows ≠ []) : rowsTexts false rows = .ok (rows.map rowText) := by
    rw [rowsTexts, if_neg Bool.false_ne_true, if_neg (mt List.isEmpty_iff.1 hne)]
  refine ⟨rows, hare, fun row => hare.hasError_iff, fun json => ?_, fun hshowable => ?_,
    fun before row behind hsplit hbefore hrow => ?_, fun htexts => ?_, fun hoctets => ?_,
    fun x => number_eq_null_iff⟩
  · rw [hreport, hnotices]
    cases rowsTexts json rows with
    | error f => exact List.append_nil _
    | ok texts =>
      rw [Report.ofTexts]
      split <;> exact List.append_nil _
  · rw [hreport, Report.answers_after]
    cases hrows' : rows with
    | nil => exact answers_of_printed (by decide)
    | cons first others =>
      have hanswers : (Report.ofTexts m 0 (.ok (rows.map rowText))).Answers _ :=
          answers_of_writable fun t ht => by
        obtain ⟨row, hm, rfl⟩ := List.mem_map.1 ht
        exact (hwritable hm).2 (hshowable row hm)
      rw [← hrows', hpeople (by simp [hrows']), if_neg (by simp [hrows'])]
      rw [List.map_map] at hanswers
      exact hanswers
  · have hne : rows ≠ [] := by simp [hsplit]
    have hall : ∀ r ∈ before, IsWritable (rowText r) := fun r hr =>
      (hwritable (by simp [hsplit, hr])).2 (hbefore r hr)
    obtain ⟨halves, -, hwrite⟩ := write_of_unwritable (behind.map rowText)
      (List.forall_mem_map.2 hall) (mt (hwritable (by simp [hsplit])).1 hrow)
    refine ⟨halves, ?_⟩
    rw [hreport, hpeople hne, hsplit, List.map_append, List.map_cons, Report.ofTexts, hwrite]
    rw [shownRows, List.map_map]
    exact ⟨rfl, rfl⟩
  · rw [hreport, Report.answers_after, rowsTexts_of_texts htexts]
    exact answers_of_printed isPrinted_of_documents
  · rw [hreport, rowsTexts_of_octets (fun row => text_or_octets hare) hoctets]
    exact ⟨rfl, rfl, fun row => text_or_octets hare⟩

/-- The rows of a sheet file that has its cells row by row, if all evaluations return. -/
def rowsOf (path text : Text) : Option (List Row) :=
  match sheetOf .standard path (Utf8.encode text.toList) with
  | .ok s =>
    if s.cells.names.Pairwise fun a b => Sheet.precedes a b = true then
      (s.sweepLabels (Evaluator.ofOptions .standard) s.cells.names).rows.toOption
    else none
  | .error _ => none

theorem exists_of_rowsOf {text : Text} {rows : List Row} (h : rowsOf path text = some rows) :
    ∃ s, sheetOf .standard path (Utf8.encode text.toList) = .ok s ∧
      (s.sweep (Evaluator.ofOptions .standard)).rows = .ok rows := by
  rw [rowsOf] at h
  split at h
  · rename_i s hs
    split at h
    · rename_i hsorted
      refine ⟨s, hs, ?_⟩
      have hlabels : s.labels = s.cells.names := List.mergeSort_of_pairwise hsorted
      rw [Sheet.sweep, hlabels]
      cases hrows : (s.sweepLabels (Evaluator.ofOptions .standard) s.cells.names).rows with
      | ok rows' =>
        rw [hrows] at h
        cases h
        rfl
      | error f =>
        rw [hrows] at h
        cases h
    · cases h
  · cases h

theorem onlyFile_self (path text : Text) :
    onlyFile path text path = .file (Utf8.encode text.toList) :=
  if_pos rfl

theorem options_standard :
    Settings.options (Machine.standard.stack .detached) (.map []) = .ok .standard :=
  rfl

/-- A sheet file with a formula that refers to an empty cell. -/
def referenceText : Text :=
  "cells: \x7bA1: B1\x7d\n"

theorem perform_cells_of_reference :
    ∃ s rows, sheetOf .standard "s.yaml" (Utf8.encode referenceText.toList) = .ok s ∧
      s.AreRows .standard rows ∧ (∀ row ∈ rows, row.hasError = true ↔ row.error ≠ .str "") ∧
      (perform .standard .detached (onlyFile "s.yaml" referenceText) "" (.map [])
        (.cells "s.yaml" true)).events =
        s.loadedEvent "" "s.yaml" :: (s.formulas.flatMap fun x =>
          (s.evaluated .standard x.1 x.2).notices).map (Event.ofNotice "") ++
            [sweptEvent "" "s.yaml" rows] := by
  have hrows : (rowsOf "s.yaml" referenceText).isSome = true := by decide +kernel
  obtain ⟨rows, hrows⟩ := Option.isSome_iff_exists.1 hrows
  obtain ⟨s, hs, hrows⟩ := exists_of_rowsOf hrows
  obtain ⟨rows, hare, herror, hevents, -⟩ := perform_cells "" (onlyFile_self _ _) hs
    options_standard fun label cell hf hne => Sheet.returns_of_rows hrows hf hne
  exact ⟨s, rows, hs, hare, herror, hevents true⟩

/-- What the command comes to for a sheet file that has its cells row by row. -/
theorem perform_of_rowsOf {text : Text} {rows : List Row} (h : rowsOf path text = some rows) :
    ∃ s, sheetOf .standard path (Utf8.encode text.toList) = .ok s ∧
      (∀ label cell, s.cells.find? label = some cell → cell.formula ≠ [] →
        ∃ out, (s.evaluated .standard label cell).outcome = .ok out) ∧
      ∀ json, ∃ events, perform .standard .detached (onlyFile path text) "" (.map [])
        (.cells path json) = (Report.ofTexts .standard 0 (rowsTexts json rows)).after events := by
  obtain ⟨s, hs, hsweep⟩ := exists_of_rowsOf h
  exact ⟨s, hs, fun label cell hf hne => Sheet.returns_of_rows hsweep hf hne, fun json =>
    ⟨_, perform_of_rows "" json (onlyFile_self _ _) hs options_standard hsweep⟩⟩

/-- A sheet file in which the error of `A1` are octets, and `B1` refers to `A1`. -/
def octetsText : Text :=
  "cells:\n  A1: \x7berror: !!binary YQ==\x7d\n  B1: A1\n"

/-- **Rows that programs are not shown**: the evaluation of `B1` returns and people are shown its
row, but for programs the run ends with a fault. -/
theorem octets_hide_rows :
    ∃ s, sheetOf .standard "s.yaml" (Utf8.encode octetsText.toList) = .ok s ∧
      (∀ label cell, s.cells.find? label = some cell → cell.formula ≠ [] →
        ∃ out, (s.evaluated .standard label cell).outcome = .ok out) ∧
      (perform .standard .detached (onlyFile "s.yaml" octetsText) "" (.map [])
        (.cells "s.yaml" false)).Answers "  B1       b'a'\n" ∧
      (perform .standard .detached (onlyFile "s.yaml" octetsText) "" (.map [])
        (.cells "s.yaml" true)).fault = some octetsFault := by
  have hshown : (rowsOf "s.yaml" octetsText).any (fun rows =>
      (Report.ofTexts .standard 0 (rowsTexts false rows)).Answers "  B1       b'a'\n" &&
        (Report.ofTexts .standard 0 (rowsTexts true rows)).fault = some octetsFault) = true := by
    decide +kernel
  obtain ⟨rows, hrows, hshown⟩ := (Option.any_eq_true _ _).1 hshown
  obtain ⟨hpeople, hprograms⟩ := Bool.and_eq_true_iff.1 hshown
  obtain ⟨s, hs, hreturn, hreport⟩ := perform_of_rowsOf hrows
  obtain ⟨events, hfalse⟩ := hreport false
  obtain ⟨events', htrue⟩ := hreport true
  refine ⟨s, hs, hreturn, ?_, ?_⟩
  · rw [hfalse, Report.answers_after]
    exact of_decide_eq_true hpeople
  · rw [htrue]
    exact of_decide_eq_true hprograms

/-- A sheet file in which the error of `A1` is half of a character, and `B1` refers to `A1`. -/
def halfText : Text :=
  "cells:\n  A1: \x7bformula: '1', error: \"\\uD800\"\x7d\n  B1: A1\n"

/-- **Rows that people are not shown**: they are shown the row of `A1`, but at that of `B1` the run
ends with a fault, although programs are shown both. -/
theorem half_hides_rows :
    ∃ s, sheetOf .standard "s.yaml" (Utf8.encode halfText.toList) = .ok s ∧
      (∀ label cell, s.cells.find? label = some cell → cell.formula ≠ [] →
        ∃ out, (s.evaluated .standard label cell).outcome = .ok out) ∧
      (perform .standard .detached (onlyFile "s.yaml" halfText) "" (.map [])
        (.cells "s.yaml" false)).output = "  A1       1\n" ∧
      (perform .standard .detached (onlyFile "s.yaml" halfText) "" (.map [])
        (.cells "s.yaml" false)).fault ≠ none ∧
      (perform .standard .detached (onlyFile "s.yaml" halfText) "" (.map [])
        (.cells "s.yaml" true)).fault = none := by
  have hshown : (rowsOf "s.yaml" halfText).any (fun rows =>
      (Report.ofTexts .standard 0 (rowsTexts false rows)).output = "  A1       1\n" &&
        ((Report.ofTexts .standard 0 (rowsTexts false rows)).fault.isSome &&
          (Report.ofTexts .standard 0 (rowsTexts true rows)).fault.isNone)) = true := by
    decide +kernel
  obtain ⟨rows, hrows, hshown⟩ := (Option.any_eq_true _ _).1 hshown
  obtain ⟨houtput, hfaults⟩ := Bool.and_eq_true_iff.1 hshown
  obtain ⟨hpeople, hprograms⟩ := Bool.and_eq_true_iff.1 hfaults
  obtain ⟨s, hs, hreturn, hreport⟩ := perform_of_rowsOf hrows
  obtain ⟨events, hfalse⟩ := hreport false
  obtain ⟨events', htrue⟩ := hreport true
  rw [hfalse, htrue]
  exact ⟨s, hs, hreturn, of_decide_eq_true houtput, Option.isSome_iff_ne_none.1 hpeople,
    Option.isNone_iff_eq_none.1 hprograms⟩

end FormulaSheet.CommandLine
