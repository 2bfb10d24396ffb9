import FormulaSheet.Proofs.Json.Refusal
import FormulaSheet.Proofs.Log.Window
import FormulaSheet.Proofs.Text.Blank

/-!
# Whatever the file holds

A journal is read whatever octets stand in its file: they need not be UTF-8, lines may be torn or
come from elsewhere, and a line may hold any document. Most of it is passed over, but not
everything. A line that the reader of documents refuses, and not just for its form, ends the
reading; and where events of some level or type are asked for, so does a document that has no
fields. Everything else that is held is given, documents without fields among it where no level and
no type is asked for.

* `documents_eq`, `select_eq`: what is read of lines, and what is chosen of documents;
* `read_cases`: the three ways in which a reading ends;
* `read_of_octets`: for which files a reading ends well, what it then gives, and why it does not.
-/

namespace FormulaSheet

namespace Json

/-- Whether the document has fields. -/
def isObject : Json → Bool
  | obj _ => true
  | _ => false

/-- Whether the field of the document is the text, or no text is asked for. -/
def shows (name text : Text) (j : Json) : Bool :=
  text == "" || (j.field? name).any (·.isText text)

theorem shows_empty (name : Text) : shows name "" = fun _ => true :=
  funext fun _ => rfl

end Json

namespace Query

/-- Whether only the events of some level or of some type are asked for. -/
def isChoosy (q : Query) : Bool :=
  q.level != "" || q.type != ""

/-- Whether the document has the level and the type that are asked for. -/
def admits (q : Query) (j : Json) : Bool :=
  j.shows "level" q.level && j.shows "event_type" q.type

end Query

namespace Journal

/-! ## Lines -/

/-- The fault as which the refusal of a line ends the reading. A wrong form is passed over. -/
def refusalFault? : Json.Refusal → Option Fault
  | .malformed => none
  | .tooManyDigits digits => some (.tooManyDigits digits)
  | .tooDeep isObject => some (.nestedTooDeep (placeOfDepth isObject))

/-- The document that a line holds between blanks. -/
def lineDocument? (depth : Nat) (line : List Point) : Option Json :=
  (Json.ofChars depth (Text.trim line)).toOption

/-- The fault with which the reading ends at a line. -/
def lineFault? (depth : Nat) (line : List Point) : Option Fault :=
  match Json.ofChars depth (Text.trim line) with
  | .ok _ => none
  | .error e => refusalFault? e

/-- **The documents of lines** are given unless the reading ends at one of them. -/
theorem documents_eq (depth : Nat) (lines : List (List Point)) :
    documents depth lines = match lines.findSome? (lineFault? depth) with
      | some f => .error f
      | none => .ok (lines.filterMap (lineDocument? depth)) := by
  induction lines with
  | nil => rfl
  | cons line lines ih =>
    have hempty : Json.ofChars depth [] = .error .malformed := rfl
    rw [documents, List.findSome?_cons, List.filterMap_cons, lineFault?, lineDocument?]
    split
    · rename_i h
      rw [List.isEmpty_iff.1 h, hempty]
      exact ih
    · cases Json.ofChars depth (Text.trim line) with
      | ok j =>
        simp only [ih]
        cases lines.findSome? (lineFault? depth) with
        | none => rfl
        | some f => rfl
      | error e =>
        cases e with
        | malformed => exact ih
        | tooManyDigits digits => rfl
        | tooDeep isObject => rfl

/-- A line ends the reading for a reason that stands in it. -/
theorem hasReason_of_lineFault? {depth : Nat} {line : List Point} {f : Fault}
    (h : lineFault? depth line = some f) :
    ∃ e, Json.ofChars depth (Text.trim line) = .error e ∧ refusalFault? e = some f ∧
      e.HasReason depth (Text.trim line) := by
  rw [lineFault?] at h
  cases he : Json.ofChars depth (Text.trim line) with
  | ok j =>
    rw [he] at h
    cases h
  | error e =>
    rw [he] at h
    exact ⟨e, rfl, h, Json.hasReason_of_ofChars he⟩

/-! ## Choosing -/

/-- To look for a text in a field, all documents must have fields. -/
theorem having_eq (name text : Text) (js : List Json) :
    having name text js = if text ≠ "" ∧ js.all Json.isObject = false then .error .noEntries
      else .ok (js.filter (·.shows name text)) := by
  by_cases ht : text = ""
  · subst ht
    rw [having, if_pos rfl, if_neg (by simp), Json.shows_empty, List.filter_true]
  · have hshows : (js.filter (·.shows name text)) =
        js.filter fun j => (j.field? name).any (·.isText text) :=
      List.filter_congr fun j _ => by simp [Json.shows, ht]
    rw [having, if_neg ht, hshows]
    change (if js.all Json.isObject = true then _ else _) = _
    cases js.all Json.isObject with
    | false => rw [if_neg (by simp), if_pos ⟨ht, rfl⟩]
    | true => rw [if_pos rfl, if_neg (by simp)]

/-- Documents without fields stand in the way as soon as only some documents are asked for. -/
theorem having_level_and_type (q : Query) (js : List Json) :
    (having "level" q.level js >>= having "event_type" q.type) =
      if q.isChoosy = true ∧ js.all Json.isObject = false then .error .noEntries
      else .ok (js.filter q.admits) := by
  have hfilter : (js.filter (·.shows "level" q.level)).filter (·.shows "event_type" q.type) =
      js.filter q.admits := by
    rw [List.filter_filter]
    refine List.filter_congr fun j _ => ?_
    rw [Query.admits, Bool.and_comm]
  rw [having_eq]
  cases hobjects : js.all Json.isObject with
  | true =>
    have hrest : (js.filter (·.shows "level" q.level)).all Json.isObject = true := by
      rw [List.all_eq_true] at hobjects ⊢
      exact fun j hj => hobjects j (List.mem_of_mem_filter hj)
    rw [if_neg (by simp), if_neg (by simp), ← hfilter]
    exact (having_eq _ _ _).trans (if_neg (by simp [hrest]))
  | false =>
    by_cases hl : q.level = ""
    · have hchoosy : q.isChoosy = true ↔ q.type ≠ "" := by simp [Query.isChoosy, hl]
      rw [hl, Json.shows_empty, List.filter_true] at hfilter ⊢
      rw [if_neg (by simp), ← hfilter]
      refine (having_eq _ _ _).trans ?_
      simp only [hchoosy, hobjects]
    · rw [if_pos ⟨hl, rfl⟩, if_pos ⟨by simp [Query.isChoosy, hl], rfl⟩]
      rfl

/-- **What is asked for** is given, the newest first, unless only some documents are asked for and
there is one without fields. -/
theorem select_eq {q : Query} (hq : 0 ≤ q.limit) (js : List Json) :
    select q js = if q.isChoosy = true ∧ js.all Json.isObject = false then .error .noEntries
      else .ok ((js.filter q.admits).reverse.take (min q.limit limit).toNat) := by
  have hlimit : 0 ≤ min q.limit limit := by omega
  have hsteps : select q js = (having "level" q.level js >>= having "event_type" q.type) >>=
      fun js => .ok (first (min q.limit limit) js.reverse) :=
    (bind_assoc _ _ _).symm
  rw [hsteps, having_level_and_type]
  split
  · rfl
  · rw [← first_of_nonneg hlimit]
    rfl

/-! ## Reading -/

/-- The last octets of a file, at most so many, and from a line on if it is longer. Only so many of
them are there that one call reads. -/
def lastPart (access : Access) (size : Nat) (s : List UInt8) : List UInt8 :=
  let taken (s : List UInt8) := match access with
    | .locked transfer => s.take transfer
    | .plain _ => s
  if s.length ≤ size then taken s else dropPartialLine (taken (s.drop (s.length - size)))

theorem tail_eq_lastPart (access : Access) (size : Nat) (s : List UInt8) :
    tail access size s = .ok (lastPart access size s) := by
  rw [lastPart]
  by_cases h : s.length ≤ size
  · cases access <;> simp only [tail, if_pos (Int.ofNat_le.2 h), if_pos h]
  · have hlong : ¬ (s.length : Int) ≤ size := by omega
    have hplace : ((s.length : Int) - size).toNat = s.length - size := by omega
    have hleft : (s.drop (s.length - size)).length ≤ size := by
      rw [List.length_drop]
      omega
    cases access with
    | locked transfer =>
      rw [tail, if_neg hlong, if_pos (Int.natCast_nonneg size), if_neg h, hplace, Int.toNat_natCast,
        Nat.min_comm, ← List.take_take, List.take_of_length_le hleft]
    | plain lineEnd =>
      rw [tail, if_neg hlong, if_pos (Int.natCast_nonneg size), if_neg h, hplace]

/-- The lines that are read of a journal, whatever octets it holds. -/
def lastLines (j : Journal) (access : Access) (size : Nat) : List (List Point) :=
  Text.lines (Utf8.decode (lastPart access size j.content))

theorem read_eq {j : Journal} (hb : j ≠ blocked) (access : Access) (depth size : Nat) (q : Query) :
    j.read access depth size q = documents depth (j.lastLines access size) >>= select q := by
  rw [read_eq_of_content hb, read, tail_eq_lastPart]
  rfl

section Read

variable {j : Journal} (hb : j ≠ blocked) (access : Access) (depth size : Nat) {q : Query}
  (hq : 0 ≤ q.limit)

include hb hq

/-- **How a reading ends**: at a line, at a document without fields, or with what is asked for. -/
theorem read_cases :
    let lines := j.lastLines access size
    let held := lines.filterMap (lineDocument? depth)
    (∃ line ∈ lines, ∃ f, lineFault? depth line = some f ∧ j.read access depth size q = .error f) ∨
    ((∀ line ∈ lines, lineFault? depth line = none) ∧ q.isChoosy = true ∧
      (∃ d ∈ held, d.isObject = false) ∧ j.read access depth size q = .error .noEntries) ∨
    ((∀ line ∈ lines, lineFault? depth line = none) ∧
      (q.isChoosy = true → ∀ d ∈ held, d.isObject = true) ∧
      j.read access depth size q =
        .ok ((held.filter q.admits).reverse.take (min q.limit limit).toNat)) := by
  intro lines held
  rw [read_eq hb, documents_eq]
  cases hf : lines.findSome? (lineFault? depth) with
  | some f =>
    obtain ⟨line, hline, hfault⟩ := List.exists_of_findSome?_eq_some hf
    exact .inl ⟨line, hline, f, hfault, rfl⟩
  | none =>
    have hnone := List.findSome?_eq_none_iff.1 hf
    have hselect := select_eq hq held
    split at hselect
    · rename_i hstops
      obtain ⟨d, hd, hfields⟩ := List.all_eq_false.1 hstops.2
      exact .inr (.inl ⟨hnone, hstops.1, ⟨d, hd, eq_false_of_ne_true hfields⟩, hselect⟩)
    · rename_i hgoes
      refine .inr (.inr ⟨hnone, fun hc => ?_, hselect⟩)
      exact List.all_eq_true.1 (eq_true_of_ne_false fun hfields => hgoes ⟨hc, hfields⟩)

/-- **Whatever octets the file holds**, a reading ends well exactly if no line is refused but for
its form and, where a level or a type is asked for, each document that a line holds has fields. What
is then given is, of the documents that the lines hold, those that are asked for, the newest first,
and no more than are asked for; all have fields if a level or a type is asked for, or if there are
no others. Otherwise a document without fields stands in the way of the choice, or there is a line
with more digits in a row than are converted or with more opening brackets than may stand one inside
another. -/
theorem read_of_octets :
    let lines := j.lastLines access size
    let held := lines.filterMap (lineDocument? depth)
    ((∃ found, j.read access depth size q = .ok found) ↔
      (∀ line ∈ lines, lineFault? depth line = none) ∧
      (q.isChoosy = true → ∀ d ∈ held, d.isObject = true)) ∧
    (∀ found, j.read access depth size q = .ok found →
      found = (held.filter q.admits).reverse.take (min q.limit limit).toNat ∧
      (found.length : Int) ≤ min q.limit limit ∧ (∀ d ∈ found, q.admits d = true) ∧
      (q.isChoosy = true ∨ (∀ d ∈ held, d.isObject = true) → ∀ d ∈ found, d.isObject = true)) ∧
    ∀ f, j.read access depth size q = .error f →
      (f = .noEntries ∧ q.isChoosy = true ∧ ∃ d ∈ held, d.isObject = false) ∨
      ∃ line ∈ lines, ∃ e, Json.ofChars depth (Text.trim line) = .error e ∧
        refusalFault? e = some f ∧ e.HasReason depth (Text.trim line) := by
  intro lines held
  rcases read_cases hb access depth size hq with ⟨line, hline, f, hfault, hread⟩ |
    ⟨hnone, hc, ⟨d, hd, hfields⟩, hread⟩ | ⟨hnone, hobjects, hread⟩
  · rw [hread]
    refine ⟨⟨fun ⟨_, h⟩ => ?_, fun h => ?_⟩, fun _ h => ?_, fun _ h => ?_⟩
    · cases h
    · exact absurd (hfault.symm.trans (h.1 line hline)) (by simp)
    · cases h
    · cases h
      exact .inr ⟨line, hline, hasReason_of_lineFault? hfault⟩
  · rw [hread]
    refine ⟨⟨fun ⟨_, h⟩ => ?_, fun h => ?_⟩, fun _ h => ?_, fun _ h => ?_⟩
    · cases h
    · exact absurd (hfields.symm.trans (h.2 hc d hd)) (by simp)
    · cases h
    · cases h
      exact .inl ⟨rfl, hc, d, hd, hfields⟩
  · rw [hread]
    refine ⟨⟨fun _ => ⟨hnone, hobjects⟩, fun _ => ⟨_, rfl⟩⟩, fun _ h => ?_, fun _ h => ?_⟩
    · cases h
      have hgiven : ∀ d ∈ (held.filter q.admits).reverse.take (min q.limit limit).toNat,
          d ∈ held ∧ q.admits d = true := fun d hd =>
        List.mem_filter.1 (List.mem_reverse.1 (List.mem_of_mem_take hd))
      refine ⟨rfl, ?_, fun d hd => (hgiven d hd).2, fun hc d hd => ?_⟩
      · rw [List.length_take]
        omega
      · exact hc.elim hobjects id d (hgiven d hd).1
    · cases h

end Read

/-! ## Files that are read, and files that are not -/

/-- The octets of three lines: one that is no text, the object `{"level":"e"}`, and a torn one. -/
def tornOctets : List UInt8 :=
  [0xFF, 0x0A, 0x7B, 0x22, 0x6C, 0x65, 0x76, 0x65, 0x6C, 0x22, 0x3A, 0x22, 0x65, 0x22, 0x7D, 0x0A,
    0x5B]

/-- Of three lines the one is given that holds a document. -/
theorem read_of_torn_lines : (octets tornOctets).read (.plain .feed) 985 (99 : Nat) ⟨"e", "", 7⟩ =
    .ok [.obj [("level", .str "e")]] := by
  have hlines : lastLines (octets tornOctets) (.plain .feed) 99 = 
      [[.char '\uFFFD'],
        [.char '\x7b', .char '"', .char 'l', .char 'e', .char 'v', .char 'e', .char 'l', .char '"',
          .char ':', .char '"', .char 'e', .char '"', .char '\x7d'],
        [.char '[']] := rfl
  have hfaults :
      ∀ line ∈ lastLines (octets tornOctets) (.plain .feed) 99, lineFault? 985 line = none := by
    rw [hlines]
    simp only [List.forall_mem_cons]
    exact ⟨rfl, rfl, rfl, by simp⟩
  have hheld : (lastLines (octets tornOctets) (.plain .feed) 99).filterMap (lineDocument? 985) =
      [.obj [("level", .str "e")]] := by
    rw [hlines]
    rfl
  obtain ⟨hreads, hgiven, -⟩ :=
    read_of_octets (j := octets tornOctets) (by simp) (.plain .feed) 985 99
    (q := ⟨"e", "", 7⟩) (by decide)
  have hobjects :
      ∀ d ∈ (lastLines (octets tornOctets) (.plain .feed) 99).filterMap (lineDocument? 985),
      d.isObject = true := by
    rw [hheld]
    simp [Json.isObject]
  obtain ⟨found, hfound⟩ := hreads.2 ⟨hfaults, fun _ => hobjects⟩
  have hadmits : (⟨"e", "", 7⟩ : Query).admits (.obj [("level", .str "e")]) = true := by
    simp [Query.admits, Json.shows, Json.field?, Json.isText, Register.find?]
  rw [hfound, (hgiven found hfound).1, hheld, List.filter_cons_of_pos hadmits]
  rfl

/-- A line that is a number is given where everything is asked for, and stands in the way where a
level is asked for. -/
theorem read_of_number :
    (octets [0x31, 0x0A]).read (.locked 99) 985 (2 : Nat) ⟨"", "", 7⟩ = .ok [.int 1] ∧
    (octets [0x31, 0x0A]).read (.locked 99) 985 (2 : Nat) ⟨"error", "", 7⟩ = .error .noEntries := by
  have hdocuments : documents 985 (lastLines (octets [0x31, 0x0A]) (.locked 99) 2) = .ok [.int 1] :=
    rfl
  have hchoosy : (⟨"error", "", 7⟩ : Query).isChoosy = true := by simp [Query.isChoosy]
  have hlimit : 0 ≤ (⟨"error", "", 7⟩ : Query).limit := by decide
  rw [read_eq (by simp), read_eq (by simp), hdocuments]
  exact ⟨select_all 7 [.int 1], (select_eq hlimit [.int 1]).trans (if_pos ⟨hchoosy, rfl⟩)⟩

end Journal

end FormulaSheet
