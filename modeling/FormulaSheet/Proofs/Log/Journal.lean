import FormulaSheet.Log.Journal
import FormulaSheet.Proofs.Json.Length
import FormulaSheet.Proofs.Log.Event
import FormulaSheet.Proofs.Result

/-!
# What was written into a journal is read

Lines are only added to a journal, and each write adds one: the printer lets no character through
that would end a line, so that a line is an event and an event is a line. Whoever reads the whole
file finds the documents of the events that were written, each with its fields in order. All this is
so as long as one call writes a line as a whole and reads the file as a whole.

* `write_eq_ok_iff`, `writeAll_eq_ok`: what one write and what many writes do to the file;
* `written_line`: a line that is written as a whole is a line in the file, with the end that lines
  have there;
* `documents_recorded`: the lines of events give the documents of these events;
* `select_documents`: of the documents those are given that are asked for;
* `read_writeAll`: no event is lost, split, doubled or moved.
-/

namespace FormulaSheet

/-- Whether the event has the level and the type that are asked for. -/
def Query.asksFor (q : Query) (e : Event) : Bool :=
  (q.level == "" || e.level.name == q.level) && (q.type == "" || e.type.name == q.type)

namespace Journal

/-- The octets in the file. There are none if there is no file. -/
def content : Journal → List UInt8
  | octets s => s
  | absent | blocked => []

/-- Writes events, one after the other. Each may come from a writer of its own. -/
def writeAll (j : Journal) (ws : List (Access × Event)) : Except Fault Journal :=
  ws.foldlM (fun j w => j.write w.1 w.2) j

/-! ## Writing -/

/-- **A write** succeeds unless the event is refused or there can be no file, and adds the line of
its event at the end. -/
theorem write_eq_ok_iff {j j' : Journal} {access : Access} {e : Event} :
    j.write access e = .ok j' ↔
      e.refusal? = none ∧ j ≠ blocked ∧ j' = octets (j.content ++ written access (line e)) := by
  rw [write]
  constructor
  · intro h
    split at h
    · cases h
    · rename_i hr
      cases j with
      | absent => exact ⟨hr, by simp, (Except.ok.inj h).symm⟩
      | octets s => exact ⟨hr, by simp, (Except.ok.inj h).symm⟩
      | blocked => cases h
  · rintro ⟨hr, hb, rfl⟩
    simp only [hr]
    cases j with
    | absent => rfl
    | octets s => rfl
    | blocked => exact absurd rfl hb

/-- **Many writes** add the lines of their events in the order of the writes. -/
theorem writeAll_eq_ok {j j' : Journal} {ws : List (Access × Event)}
    (h : j.writeAll ws = .ok j') : (∀ w ∈ ws, w.2.refusal? = none) ∧
      (j ≠ blocked → j' ≠ blocked) ∧
      j'.content = j.content ++ ws.flatMap fun w => written w.1 (line w.2) := by
  induction ws generalizing j with
  | nil =>
    cases h
    exact ⟨by simp, id, (List.append_nil _).symm⟩
  | cons w ws ih =>
    obtain ⟨k, hk, h⟩ := bind_eq_ok_iff.1 h
    obtain ⟨hr, -, rfl⟩ := write_eq_ok_iff.1 hk
    obtain ⟨hrs, hb, hc⟩ := ih h
    refine ⟨?_, fun _ => hb (by simp), ?_⟩
    · intro v hv
      rcases List.mem_cons.1 hv with rfl | hv
      · exact hr
      · exact hrs v hv
    · rw [hc, content, List.flatMap_cons, List.append_assoc]

/-- Writes can be cut in two at any event. -/
theorem exists_of_writeAll_append {j j' : Journal} {before after : List (Access × Event)}
    {w : Access × Event} (h : j.writeAll (before ++ w :: after) = .ok j') :
    ∃ k k', j.writeAll before = .ok k ∧ k.write w.1 w.2 = .ok k' ∧ k'.writeAll after = .ok j' := by
  rw [writeAll, List.foldlM_append] at h
  obtain ⟨k, hk, h⟩ := bind_eq_ok_iff.1 h
  obtain ⟨k', hk', h⟩ := bind_eq_ok_iff.1 h
  exact ⟨k, k', hk, hk', h⟩

/-! ## Lines -/

theorem endsLine_of_isVisible {c : Point} (h : Json.isVisible c = true) :
    Text.endsLine c = false := by
  rw [Json.isVisible, Bool.and_eq_true, decide_eq_true_eq, decide_eq_true_eq] at h
  simp only [Text.endsLine, Bool.or_eq_false_iff, Bool.and_eq_false_iff, decide_eq_false_iff_not,
    beq_eq_false_iff_ne]
  omega

/-- Characters that can be seen are one octet each. -/
theorem visible_encode {s : List Point} (h : ∀ c ∈ s, Json.isVisible c = true) :
    ∀ o ∈ Utf8.encode s, 0x20 ≤ o ∧ o < 0x7F := by
  intro o ho
  obtain ⟨c, hc, ho⟩ := List.mem_flatMap.1 ho
  have hv := h c hc
  rw [Json.isVisible, Bool.and_eq_true, decide_eq_true_eq, decide_eq_true_eq] at hv
  rw [Utf8.octets, if_pos (show c.toNat < 0x80 by omega), List.mem_singleton] at ho
  subst ho
  rw [UInt8.le_iff_toNat_le, UInt8.lt_iff_toNat_lt, UInt8.toNat_ofNat']
  have hmod : c.toNat % 2 ^ 8 = c.toNat := Nat.mod_eq_of_lt (by omega)
  rw [hmod]
  exact hv

/-- An event, with how its line ends in the file. -/
structure Line where
  lineEnd : LineEnd
  event : Event

/-- The characters of a line in the file. -/
def Line.chars (l : Line) : List Point :=
  l.event.document.sorted.text ++ l.lineEnd.chars

/-- The line that a write adds. -/
def lineOf (w : Access × Event) : Line :=
  ⟨w.1.lineEnd, w.2⟩

/-- The octets of lines. -/
def octetsOf (ls : List Line) : List UInt8 :=
  Utf8.encode (ls.flatMap Line.chars)

theorem octetsOf_cons (l : Line) (ls : List Line) :
    octetsOf (l :: ls) = Utf8.encode l.chars ++ octetsOf ls := by
  rw [octetsOf, List.flatMap_cons, Utf8.encode, List.flatMap_append]
  rfl

/-- The document that the line of an event holds. -/
def recorded (e : Event) : Json :=
  e.document.sorted.asRead

section Line

variable {e : Event} (h : e.IsFloatFree) (hr : e.refusal? = none)

include h hr

/-- The document that is written for an event without doubles is exact. -/
theorem isExact_sorted : e.document.sorted.IsExact :=
  (h.document (Event.isWritable_of_refusal? hr)).sorted

/-- No character of a line ends it. -/
theorem isVisible_of_mem_line : ∀ c ∈ e.document.sorted.text, Json.isVisible c = true :=
  Json.isVisible_of_mem_text (isExact_sorted h hr)

/-- **The text of a line** is read. -/
theorem ofChars_line {depth : Nat} (hd : Event.maxDepth + 2 ≤ depth) :
    Json.ofChars depth e.document.sorted.text = .ok (recorded e) := by
  refine Json.ofChars_text_of_isExact (isExact_sorted h hr) ?_
  exact Json.depth_sorted_le (Nat.le_trans (Event.depth_document_le hr) hd)

/-- **A line that is written as a whole** is a line in the file. -/
theorem written_line {access : Access} (hm : access.Moves (Utf8.encode (line e)).length) :
    written access (line e) = Utf8.encode (lineOf (access, e)).chars := by
  cases access with
  | locked transfer => exact List.take_of_length_le (hm transfer rfl)
  | plain lineEnd =>
    have htext : lineEnd.translate e.document.sorted.text = e.document.sorted.text := by
      refine (List.flatMap_congr fun c hc => ?_).trans (List.flatMap_singleton' _)
      refine if_neg ?_
      rintro rfl
      exact absurd (isVisible_of_mem_line h hr _ hc) (by decide)
    have hend : lineEnd.translate [Point.char '\n'] = lineEnd.chars := by
      rw [LineEnd.translate, List.flatMap_singleton, if_pos rfl]
    rw [written, line, LineEnd.translate, List.flatMap_append, ← LineEnd.translate, htext,
      ← LineEnd.translate, hend]
    rfl

end Line

/-- A line consists of characters. -/
theorem isChar_of_mem_line {l : Line} (h : l.event.IsFloatFree) (hr : l.event.refusal? = none) :
    ∀ c ∈ l.chars, c.isChar = true := by
  intro c hc
  rcases List.mem_append.1 hc with hc | hc
  · exact Json.isChar_of_isVisible (isVisible_of_mem_line h hr c hc)
  · cases he : l.lineEnd with
    | feed =>
      rw [he, LineEnd.chars, List.mem_singleton] at hc
      rw [hc]
      rfl
    | returnFeed =>
      rw [he, LineEnd.chars, List.mem_cons, List.mem_singleton] at hc
      obtain rfl | rfl := hc <;> rfl

theorem isChar_of_mem_lines {ls : List Line} (h : ∀ l ∈ ls, l.event.IsFloatFree)
    (hr : ∀ l ∈ ls, l.event.refusal? = none) : ∀ c ∈ ls.flatMap Line.chars, c.isChar = true := by
  intro c hc
  obtain ⟨l, hl, hc⟩ := List.mem_flatMap.1 hc
  exact isChar_of_mem_line (h l hl) (hr l hl) c hc

/-- **Writes of whole lines** add these lines in the order of the writes. -/
theorem content_writeAll {j j' : Journal} {ws : List (Access × Event)}
    (hf : ∀ w ∈ ws, w.2.IsFloatFree) (hm : ∀ w ∈ ws, w.1.Moves (Utf8.encode (line w.2)).length)
    (h : j.writeAll ws = .ok j') : j'.content = j.content ++ octetsOf (ws.map lineOf) := by
  obtain ⟨hr, -, hc⟩ := writeAll_eq_ok h
  rw [hc, octetsOf, List.flatMap_map, Utf8.encode, List.flatMap_assoc]
  exact congrArg _ (List.flatMap_congr fun w hw => written_line (hf w hw) (hr w hw) (hm w hw))

/-- The line of an event whose document is plain holds this document. -/
theorem recorded_of_isPlain {e : Event} (h : e.document.IsPlain) :
    recorded e = e.document.sorted :=
  h.sorted.asRead_eq

/-- A line ends as lines do in the file, behind its text. -/
theorem encode_chars (l : Line) : Utf8.encode l.chars =
    Utf8.encode l.event.document.sorted.text ++ Utf8.encode l.lineEnd.chars := by
  rw [Line.chars, Utf8.encode, List.flatMap_append]
  rfl

/-- How many octets a line has in the file: an octet for each character. -/
theorem length_encode_chars {l : Line} (h : l.event.IsFloatFree) (hr : l.event.refusal? = none) :
    (Utf8.encode l.chars).length =
      (Json.text l.event.document).length + l.lineEnd.chars.length := by
  have hend : (Utf8.encode l.lineEnd.chars).length = l.lineEnd.chars.length := by
    cases l.lineEnd <;> rfl
  rw [encode_chars, List.length_append, hend,
    Utf8.length_encode_of_visible (isVisible_of_mem_line h hr), Json.length_text_sorted]

theorem length_encode_line {e : Event} (h : e.IsFloatFree) (hr : e.refusal? = none) :
    (Utf8.encode (line e)).length = (Json.text e.document).length + 1 :=
  length_encode_chars (l := ⟨.feed, e⟩) h hr

/-- The text of an object has no blank at its ends. -/
theorem trim_text_obj (fields : List (Text × Json)) :
    Text.trim (Json.text (.obj fields)) = Json.text (.obj fields) := by
  rw [Json.text, Text.trim, List.cons_append, Text.trimLeft_cons_of_not_blank _ rfl,
    Text.trimRight, ← List.cons_append, List.reverse_append, List.reverse_singleton,
    List.singleton_append, List.dropWhile_cons_of_neg (by decide)]
  simp

/-- Lines of events without doubles hold a document each. -/
theorem documents_recorded {depth : Nat} (hd : Event.maxDepth + 2 ≤ depth) {ls : List Line}
    (h : ∀ l ∈ ls, l.event.IsFloatFree) (hr : ∀ l ∈ ls, l.event.refusal? = none) :
    documents depth (Text.lines (ls.flatMap Line.chars)) =
      .ok (ls.map fun l => recorded l.event) := by
  -- the first line ends where it should, is not empty, and holds one document
  induction ls with
  | nil => rfl
  | cons l ls ih =>
    have hl := h l List.mem_cons_self
    have hrl := hr l List.mem_cons_self
    have hvisible := isVisible_of_mem_line hl hrl
    have hread := ofChars_line hl hrl hd
    have htrim : Text.trim l.event.document.sorted.text = l.event.document.sorted.text :=
      trim_text_obj _
    have hrest := ih (fun d hd => h d (List.mem_cons_of_mem l hd))
      (fun d hd => hr d (List.mem_cons_of_mem l hd))
    rw [List.flatMap_cons, Line.chars, List.append_assoc,
      Text.lines_append_lineEnd fun c hc => endsLine_of_isVisible (hvisible c hc), documents]
    simp only [htrim, hread, hrest]
    rfl

/-! ## Selecting -/

/-- A field of an event stands under its name in the ordered document as well. -/
theorem field?_sorted {e : Event} {name value : Text}
    (h : e.document.field? name = some (.str value)) :
    e.document.sorted.field? name = some (.str value) := by
  rw [Event.document_eq, Json.field?] at h
  rw [Event.document_eq, Json.sorted, Json.field?, Json.find?_mergeSort e.names_fields_nodup, h]
  rfl

/-- Of the documents of events those stay whose field is the given text. -/
theorem having_documents {name : Text} {value : Event → Text}
    (h : ∀ e : Event, e.document.field? name = some (.str (value e))) (text : Text)
    (es : List Event) : having name text (es.map (·.document.sorted)) =
      .ok ((es.filter fun e => text == "" || value e == text).map (·.document.sorted)) := by
  by_cases ht : text = ""
  · simp [having, ht]
  · rw [having, if_neg ht]
    split
    · rw [List.filter_map]
      refine congrArg (fun l => Except.ok (List.map _ l)) (List.filter_congr fun e _ => ?_)
      simp [field?_sorted (h e), Json.isText, ht]
    · rename_i hn
      refine absurd (List.all_eq_true.2 fun j hj => ?_) hn
      obtain ⟨e, -, rfl⟩ := List.mem_map.1 hj
      rfl

theorem first_of_nonneg {α : Type} {count : Int} (h : 0 ≤ count) (xs : List α) :
    first count xs = xs.take count.toNat := by
  rw [first, if_neg (Int.not_lt.2 h)]

/-- **Of the documents of events** those are given that are asked for, the newest first. -/
theorem select_documents {q : Query} (hl : 0 ≤ q.limit) (es : List Event) :
    select q (es.map (·.document.sorted)) =
      .ok (((es.filter q.asksFor).reverse.take (min q.limit limit).toNat).map
        (·.document.sorted)) := by
  have hlevel : ∀ e : Event, e.document.field? "level" = some (.str e.level.name) := fun _ => rfl
  have htype : ∀ e : Event, e.document.field? "event_type" = some (.str e.type.name) :=
    fun _ => rfl
  have hlimit : 0 ≤ min q.limit limit := by omega
  have hall : es.filter q.asksFor =
      (es.filter fun e => q.level == "" || e.level.name == q.level).filter
        fun e => q.type == "" || e.type.name == q.type := by
    rw [List.filter_filter]
    refine List.filter_congr fun e _ => ?_
    rw [Query.asksFor, Bool.and_comm]
  rw [select, having_documents hlevel]
  change (having "event_type" q.type _ >>= fun js =>
    Except.ok (first (min q.limit limit) js.reverse)) = _
  rw [having_documents htype, hall]
  change Except.ok (first (min q.limit limit) (List.map _ _).reverse) = _
  rw [first_of_nonneg hlimit, ← List.map_reverse, List.map_take]

/-! ## Reading -/

/-- A file that is not longer than the part that is read is read as a whole, if one call does so. -/
theorem read_of_length_le {j : Journal} {access : Access} {size : Int} (hb : j ≠ blocked)
    (hs : j.content.length ≤ size) (hm : access.Moves j.content.length) (depth : Nat) (q : Query) :
    j.read access depth size q =
      documents depth (Text.lines (Utf8.decode j.content)) >>= select q := by
  cases j with
  | absent => rfl
  | octets s =>
    have ht : tail access size s = .ok s := tail_of_le hs hm
    rw [read, ht]
    rfl
  | blocked => exact absurd rfl hb

/-- A plain event that is written as a whole adds a line of octets that can be seen. -/
theorem write_line {j j' : Journal} {access : Access} {e : Event} (h : e.IsPlain)
    (hm : access.Moves (Utf8.encode (line e)).length) (hw : j.write access e = .ok j') :
    ∃ l, (∀ o ∈ l, 0x20 ≤ o ∧ o < 0x7F) ∧
      j'.content = j.content ++ l ++ Utf8.encode access.lineEnd.chars := by
  obtain ⟨hr, -, rfl⟩ := write_eq_ok_iff.1 hw
  have hvisible := isVisible_of_mem_line h.isFloatFree hr
  refine ⟨Utf8.encode e.document.sorted.text, visible_encode hvisible, ?_⟩
  rw [written_line h.isFloatFree hr hm, encode_chars, List.append_assoc]
  rfl

/-- **What was written is read.** Each write adds one line of ASCII characters that can be seen,
with the end that lines have, and leaves what was there as it was. If there was nothing before the
writes, then reading the whole file gives the events that were written and are asked for, each once,
the newest first, as many as are asked for; and the document of each is the same mapping as before
it was written. This takes that one call writes a line as a whole and one reads the file as a whole,
and that documents may be nested as deep as those of events. -/
theorem read_writeAll {j j' : Journal} {ws : List (Access × Event)} (hp : ∀ w ∈ ws, w.2.IsPlain)
    (hm : ∀ w ∈ ws, w.1.Moves (Utf8.encode (line w.2)).length) (hw : j.writeAll ws = .ok j') :
    (∀ before w after, ws = before ++ w :: after → ∃ k k' l, j.writeAll before = .ok k ∧
      k.write w.1 w.2 = .ok k' ∧ k'.writeAll after = .ok j' ∧
      (∀ o ∈ l, 0x20 ≤ o ∧ o < 0x7F) ∧
      k'.content = k.content ++ l ++ Utf8.encode w.1.lineEnd.chars) ∧
    (j = absent ∨ j = octets [] → ∀ (access : Access) (depth : Nat) (size : Int) (q : Query),
      access.Moves j'.content.length → Event.maxDepth + 2 ≤ depth → j'.content.length ≤ size →
      0 ≤ q.limit →
      ∃ found, j'.read access depth size q = .ok found ∧
        List.Forall₂ Json.Alike found
          ((((ws.map (·.2)).filter q.asksFor).reverse.take (min q.limit limit).toNat).map
            Event.document)) := by
  refine ⟨?_, ?_⟩
  · rintro before w after rfl
    obtain ⟨k, k', hk, hk', hj'⟩ := exists_of_writeAll_append hw
    obtain ⟨l, hl, hc⟩ := write_line (hp w (by simp)) (hm w (by simp)) hk'
    exact ⟨k, k', l, hk, hk', hj', hl, hc⟩
  · intro hj access depth size q hread hd hs hl
    obtain ⟨hr, hb, -⟩ := writeAll_eq_ok hw
    have hf : ∀ w ∈ ws, w.2.IsFloatFree := fun w hw => (hp w hw).isFloatFree
    have hc := content_writeAll hf hm hw
    have hempty : j.content = [] ∧ j ≠ blocked := by
      rcases hj with rfl | rfl
      · exact ⟨rfl, by simp⟩
      · exact ⟨rfl, by simp⟩
    have hplain : ∀ e ∈ ws.map (·.2), e.document.IsPlain :=
      List.forall_mem_map.2 fun w hw => (hp w hw).document (Event.isWritable_of_refusal? (hr w hw))
    have hfl : ∀ l ∈ ws.map lineOf, l.event.IsFloatFree := List.forall_mem_map.2 hf
    have hrl : ∀ l ∈ ws.map lineOf, l.event.refusal? = none := List.forall_mem_map.2 hr
    have hdocuments : ((ws.map lineOf).map fun l => recorded l.event) =
        (ws.map (·.2)).map (·.document.sorted) := by
      rw [List.map_map, List.map_map]
      exact List.map_congr_left fun w hw =>
        recorded_of_isPlain (hplain _ (List.mem_map_of_mem hw))
    -- the file holds the lines and nothing else, and is read as a whole
    have hselect :
        j'.read access depth size q = select q ((ws.map (·.2)).map (·.document.sorted)) := by
      rw [read_of_length_le (hb hempty.2) hs hread, hc, hempty.1, List.nil_append, octetsOf,
        Utf8.decode_encode (isChar_of_mem_lines hfl hrl), documents_recorded hd hfl hrl, hdocuments]
      rfl
    refine ⟨_, hselect.trans (select_documents hl _), ?_⟩
    rw [List.forall₂_map_left_iff, List.forall₂_map_right_iff, List.forall₂_same]
    intro e he
    have hmem : e ∈ ws.map (·.2) :=
      List.mem_of_mem_filter (List.mem_reverse.1 (List.mem_of_mem_take he))
    exact (hplain e hmem).alike_sorted

/-- Events that are not refused can be written, unless there can be no file. -/
theorem exists_writeAll {j : Journal} {ws : List (Access × Event)} (hb : j ≠ blocked)
    (hr : ∀ w ∈ ws, w.2.refusal? = none) : ∃ j', j.writeAll ws = .ok j' := by
  induction ws generalizing j with
  | nil => exact ⟨j, rfl⟩
  | cons w ws ih =>
    have hw : j.write w.1 w.2 = .ok (octets (j.content ++ written w.1 (line w.2))) :=
      write_eq_ok_iff.2 ⟨hr w List.mem_cons_self, hb, rfl⟩
    obtain ⟨j', hj'⟩ := ih (j := octets (j.content ++ written w.1 (line w.2))) (by simp)
      fun v hv => hr v (List.mem_cons_of_mem w hv)
    exact ⟨j', bind_eq_ok_iff.2 ⟨_, hw, hj'⟩⟩

/-- Two events, written in both ways. -/
def twoWrites : List (Access × Event) :=
  [(.standard, .loaded), (.plain .returnFeed, .failed)]

theorem moves_twoWrites : ∀ w ∈ twoWrites, w.1.Moves (Utf8.encode (line w.2)).length := by
  have hloaded : (Utf8.encode (line Event.loaded)).length ≤ 0x7FFFF000 := by
    rw [length_encode_line Event.isPlain_loaded.isFloatFree Event.refusal?_loaded]
    decide +kernel
  simp only [twoWrites, List.forall_mem_cons]
  exact ⟨Access.moves_locked hloaded, Access.moves_plain _ _, nofun⟩

theorem length_twoWrites : (octetsOf (twoWrites.map lineOf)).length ≤ 0x7FFFF000 := by
  have hloaded := length_encode_chars (l := lineOf (.standard, .loaded))
    Event.isPlain_loaded.isFloatFree Event.refusal?_loaded
  have hfailed := length_encode_chars (l := lineOf (.plain .returnFeed, .failed))
    Event.isPlain_failed.isFloatFree Event.refusal?_failed
  rw [twoWrites, List.map_cons, List.map_singleton, octetsOf_cons, octetsOf_cons,
    List.length_append, List.length_append, hloaded, hfailed]
  decide +kernel

/-- Of two events, written in both ways, the one with a message of several lines is found. -/
theorem read_of_two_writes : ∃ j' found, absent.writeAll twoWrites = .ok j' ∧
    j'.read .standard 985 j'.content.length ⟨"error", "", 7⟩ = .ok found ∧
    List.Forall₂ Json.Alike found [Event.document .failed] := by
  have hp : ∀ w ∈ twoWrites, w.2.IsPlain := by
    simp [twoWrites, Event.isPlain_loaded, Event.isPlain_failed]
  have hr : ∀ w ∈ twoWrites, w.2.refusal? = none := by
    simp [twoWrites, Event.refusal?_loaded, Event.refusal?_failed]
  obtain ⟨j', hw⟩ := exists_writeAll (j := absent) (by simp) hr
  have hc := content_writeAll (fun w hw => (hp w hw).isFloatFree) moves_twoWrites hw
  have hmoves : Access.standard.Moves j'.content.length := by
    rw [hc]
    exact Access.moves_locked length_twoWrites
  obtain ⟨found, hf, ha⟩ := (read_writeAll hp moves_twoWrites hw).2 (.inl rfl) .standard 985 _
    ⟨"error", "", 7⟩ hmoves (by decide) (Int.le_refl _) (by decide)
  exact ⟨j', found, hw, hf, ha⟩

end Journal

end FormulaSheet
