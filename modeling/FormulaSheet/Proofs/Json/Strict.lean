import FormulaSheet.Proofs.Json.Numeral
import FormulaSheet.Proofs.Json.Roundtrip

/-!
# Documents that every reader takes

The words for infinity and not-a-number are not part of the language of documents; this reader takes
them, others need not. The language without them is said here on its own, as far as it is written
without blanks but one behind a comma or a colon, and in ASCII (`IsStrict`). A document is written
in it if all its doubles are finite, and its text is one line then.

* `isStrict_text`: documents whose doubles are finite;
* `IsStrict.isVisible`: texts in the language have characters that can be seen, and no others;
* `shown_of_mem_page`: the same of a page, but for its line feeds;
* `readsBack_float`: a finite double is read as it was written.
-/

namespace FormulaSheet.Json

/-! ## The language -/

/-- A character between quotes, as it is written. -/
inductive IsPiece : List Point → Prop
  /-- as itself -/
  | plain {c : Point} : isVisible c = true → c ≠ '"' → c ≠ '\\' → IsPiece [c]
  /-- by a letter -/
  | letter {k : Point} : k ∈ [Point.char '"', .char '\\', .char '/', .char 'b', .char 'f',
      .char 'n', .char 'r', .char 't'] → IsPiece [.char '\\', k]
  /-- by its number -/
  | number {ds : List Point} : ds.length = 4 → (∀ c ∈ ds, (Number.hexValue? c).isSome = true) →
    IsPiece (.char '\\' :: .char 'u' :: ds)

/-- A text between quotes. -/
def IsQuoted (s : List Point) : Prop :=
  ∃ pieces : List (List Point), (∀ p ∈ pieces, IsPiece p) ∧
  s = .char '"' :: (pieces.flatten ++ [Point.char '"'])

/-- **The strict language of documents**, in one line of ASCII characters. -/
inductive IsStrict : List Point → Prop
  /-- one of three words -/
  | word {s : List Point} :
      s ∈ [("null" : Text).toList, ("true" : Text).toList, ("false" : Text).toList] → IsStrict s
  /-- a numeral -/
  | numeral (n : Numeral) : IsStrict n.chars
  /-- a text between quotes -/
  | text {s : List Point} : IsQuoted s → IsStrict s
  /-- a sequence -/
  | arr {items : List (List Point)} : (∀ s ∈ items, IsStrict s) →
    IsStrict (.char '[' :: (joined [.char ',', .char ' '] items ++ [Point.char ']']))
  /-- an object -/
  | obj {fields : List (List Point × List Point)} : (∀ f ∈ fields, IsQuoted f.1) →
    (∀ f ∈ fields, IsStrict f.2) →
    IsStrict (.char '\x7b' :: (joined [.char ',', .char ' ']
      (fields.map fun f => f.1 ++ Point.char ':' :: .char ' ' :: f.2) ++ [Point.char '\x7d']))

/-! ## Characters -/

theorem isVisible_of_bounds {c : Point} (h : 0x20 ≤ c.toNat) (h' : c.toNat < 0x7F) :
    isVisible c = true := by
  simp [isVisible, h, h']

theorem isVisible_of_hexValue? {c : Point} (h : (Number.hexValue? c).isSome = true) :
    isVisible c = true := by
  rw [Number.hexValue?] at h
  split at h
  · rename_i hd
    exact isVisible_of_isAsciiDigit hd
  split at h
  · rename_i hc
    have h₁ : 0x61 ≤ c.toNat := hc.1
    have h₂ : c.toNat ≤ 0x66 := hc.2
    exact isVisible_of_bounds (by omega) (by omega)
  split at h
  · rename_i hc
    have h₁ : 0x41 ≤ c.toNat := hc.1
    have h₂ : c.toNat ≤ 0x46 := hc.2
    exact isVisible_of_bounds (by omega) (by omega)
  · cases h

theorem IsPiece.isVisible {p : List Point} (h : IsPiece p) : ∀ c ∈ p, Json.isVisible c = true := by
  cases h with
  | plain hv _ _ => exact List.forall_mem_singleton.2 hv
  | letter hk =>
    have hall : ∀ k ∈ [Point.char '"', .char '\\', .char '/', .char 'b', .char 'f', .char 'n',
        .char 'r', .char 't'], Json.isVisible k = true :=
      List.all_eq_true.1 rfl
    exact List.forall_mem_cons.2 ⟨by decide, List.forall_mem_singleton.2 (hall _ hk)⟩
  | number _ hd =>
    exact List.forall_mem_cons.2 ⟨by decide, List.forall_mem_cons.2 ⟨by decide, fun c hc =>
      isVisible_of_hexValue? (hd c hc)⟩⟩

theorem IsQuoted.isVisible {s : List Point} (h : IsQuoted s) {c : Point} (hc : c ∈ s) :
    isVisible c = true := by
  obtain ⟨pieces, hp, rfl⟩ := h
  rcases List.mem_cons.1 hc with rfl | hc
  · decide
  rcases List.mem_append.1 hc with hc | hc
  · obtain ⟨p, hmem, hc⟩ := List.mem_flatten.1 hc
    exact (hp p hmem).isVisible c hc
  · rw [List.mem_singleton.1 hc]
    decide

theorem Numeral.isVisible (n : Numeral) : ∀ c ∈ n.chars, Json.isVisible c = true := by
  have hmarks :
      ∀ c ∈ [Point.char '-', .char '+', .char '.', .char 'e', .char 'E'], Json.isVisible c = true :=
    List.all_eq_true.1 rfl
  exact fun c hc => (n.mem_chars hc).elim isVisible_of_isAsciiDigit (hmarks c)

/-- **The strict language** has only characters that can be seen. -/
theorem IsStrict.isVisible {s : List Point} (h : IsStrict s) :
    ∀ c ∈ s, Json.isVisible c = true := by
  have hjoined {texts : List (List Point)}
      (ht : ∀ t ∈ texts, ∀ c ∈ t, Json.isVisible c = true) :
      ∀ c ∈ joined [.char ',', .char ' '] texts, Json.isVisible c = true := fun c hc =>
    (mem_joined hc).elim isVisible_of_mem_separator fun ⟨t, hmem, hc⟩ => ht t hmem c hc
  induction h with
  | word hs =>
    have hwords : ∀ w ∈ [("null" : Text).toList, ("true" : Text).toList, ("false" : Text).toList],
        w.all Json.isVisible = true :=
      List.all_eq_true.1 rfl
    exact List.all_eq_true.1 (hwords _ hs)
  | numeral n => exact n.isVisible
  | text hq => exact fun c hc => hq.isVisible hc
  | arr _ ih =>
    exact List.forall_mem_cons.2 ⟨by decide, List.forall_mem_append.2
      ⟨hjoined ih, List.forall_mem_singleton.2 (by decide)⟩⟩
  | obj hq _ ih =>
    refine List.forall_mem_cons.2 ⟨by decide, List.forall_mem_append.2
      ⟨hjoined fun t ht => ?_, List.forall_mem_singleton.2 (by decide)⟩⟩
    obtain ⟨f, hf, rfl⟩ := List.mem_map.1 ht
    exact List.forall_mem_append.2 ⟨fun c hc => (hq f hf).isVisible hc,
      List.forall_mem_cons.2 ⟨by decide, List.forall_mem_cons.2 ⟨by decide, ih f hf⟩⟩⟩

/-! ## Documents -/

mutual

/-- All doubles of the document are finite. -/
def HasFinite : Json → Prop
  | float x => x.isFinite = true
  | arr items => HaveFinite items
  | obj fields => FieldsHaveFinite fields
  | _ => True

/-- All doubles of the items are finite. -/
def HaveFinite : List Json → Prop
  | [] => True
  | j :: items => HasFinite j ∧ HaveFinite items

/-- All doubles of the fields are finite. -/
def FieldsHaveFinite : List (Text × Json) → Prop
  | [] => True
  | (_, j) :: fields => HasFinite j ∧ FieldsHaveFinite fields

end

/-! ## Texts between quotes -/

theorem length_hex (width n : Nat) : (Text.hex width n).length = width := by
  induction width generalizing n with
  | zero => rfl
  | succ width ih => rw [Text.hex, List.length_append, ih, List.length_singleton]

theorem hexValue?_of_mem_hex {width n : Nat} {c : Point} (h : c ∈ Text.hex width n) :
    (Number.hexValue? c).isSome = true := by
  induction width generalizing n with
  | zero => cases h
  | succ width ih =>
    rw [Text.hex, List.mem_append, List.mem_singleton] at h
    rcases h with h | rfl
    · exact ih h
    · rw [hexValue?_hexDigit (Nat.mod_lt _ (by omega))]
      rfl

theorem isPiece_unit (n : Nat) : IsPiece (unit n) :=
  .number (length_hex 4 n) fun _ => hexValue?_of_mem_hex

theorem mem_of_escaped? {k c : Point} (h : escaped? k = some c) :
    k ∈ [Point.char '"', .char '\\', .char '/', .char 'b', .char 'f', .char 'n', .char 'r',
      .char 't'] := by
  unfold escaped? at h
  split at h
  all_goals first | cases h; done | simp

/-- Every character is written in one piece or in two. -/
theorem exists_pieces_escape (c : Point) :
    ∃ pieces : List (List Point), (∀ p ∈ pieces, IsPiece p) ∧ escape c = pieces.flatten := by
  have hform := escaped_escape c
  have hvisible : ∀ d ∈ escape c, isVisible d = true := fun d => isVisible_of_mem_escape
  have one {t : List Point} (ht : IsPiece t) :
      ∃ pieces : List (List Point), (∀ p ∈ pieces, IsPiece p) ∧ t = pieces.flatten :=
    ⟨[t], List.forall_mem_singleton.2 ht, by simp⟩
  generalize escape c = t at hform hvisible
  cases hform with
  | letter _ hk _ => exact one (.letter (mem_of_escaped? hk))
  | plain hq hb _ _ => exact one (.plain (hvisible c List.mem_cons_self) hq hb)
  | number _ => exact one (isPiece_unit _)
  | pair _ => exact ⟨[unit (highUnit c.toNat), unit (lowUnit c.toNat)], List.forall_mem_cons.2
      ⟨isPiece_unit _, List.forall_mem_singleton.2 (isPiece_unit _)⟩, by simp⟩

theorem isQuoted_quote (s : Text) : IsQuoted (quote s) := by
  have hpieces (t : List Point) : ∃ pieces : List (List Point), (∀ p ∈ pieces, IsPiece p) ∧
      t.flatMap escape = pieces.flatten := by
    induction t with
    | nil => exact ⟨[], nofun, rfl⟩
    | cons c t ih =>
      obtain ⟨pieces, hp, he⟩ := exists_pieces_escape c
      obtain ⟨others, ho, hr⟩ := ih
      refine ⟨pieces ++ others, List.forall_mem_append.2 ⟨hp, ho⟩, ?_⟩
      rw [List.flatMap_cons, he, hr, List.flatten_append]
  obtain ⟨pieces, hp, he⟩ := hpieces s.toList
  refine ⟨pieces, hp, ?_⟩
  rw [quote, he, List.cons_append]

/-! ## Numbers -/

theorem floatText_of_isFinite {x : Float} (h : x.isFinite = true) :
    floatText x = Number.shortestText x := by
  rw [floatText, Binary64.isNaN_eq_false h, if_neg Bool.false_ne_true, if_pos h]

/-- The text of a finite double is a numeral that reads back as the double. -/
theorem exists_numeral_text {x : Float} (h : x.isFinite = true) :
    ∃ n : Numeral, n.IsReal ∧ text (float x) = n.chars ∧ n.decimal.toFloat = x := by
  obtain ⟨n, hreal, hchars, hx⟩ := exists_numeral_of_float h
  refine ⟨n, hreal, ?_, hx⟩
  rw [hchars, ← floatText_of_isFinite h]
  rfl

theorem fieldTexts_eq_map (fields : List (Text × Json)) :
    fieldTexts fields =
      fields.map fun f => quote f.1 ++ Point.char ':' :: .char ' ' :: text f.2 := by
  induction fields with
  | nil => rfl
  | cons f fields ih => rw [fieldTexts, ih, List.map_cons]

mutual

/-- **A document whose doubles are finite** is written in the strict language. -/
theorem isStrict_text : ∀ {j : Json}, HasFinite j → IsStrict (text j)
  | null, _ => .word (by simp [text, leaf])
  | bool true, _ => .word (by simp [text, leaf])
  | bool false, _ => .word (by simp [text, leaf])
  | int i, _ => by
    obtain ⟨n, hn, -⟩ := exists_numeral_of_int i
    have htext : text (int i) = (Text.intText i).toList := rfl
    rw [htext, ← hn]
    exact .numeral n
  | float x, h => by
    obtain ⟨n, -, hn, -⟩ := exists_numeral_text h
    rw [hn]
    exact .numeral n
  | str s, _ => .text (isQuoted_quote s)
  | arr items, h => .arr (isStrict_itemTexts h)
  | obj fields, h => by
    have htexts : fieldTexts fields =
        (fields.map fun f => (quote f.1, text f.2)).map fun f => f.1 ++ Point.char ':' ::
        .char ' ' :: f.2 := by
      rw [List.map_map]
      exact fieldTexts_eq_map fields
    rw [text, htexts]
    refine .obj (fun f hf => ?_) fun f hf => ?_
    · obtain ⟨g, -, rfl⟩ := List.mem_map.1 hf
      exact isQuoted_quote g.1
    · obtain ⟨g, hg, rfl⟩ := List.mem_map.1 hf
      exact isStrict_fieldTexts h g hg

theorem isStrict_itemTexts : ∀ {items : List Json}, HaveFinite items →
    ∀ s ∈ itemTexts items, IsStrict s
  | [], _, s, hs => by cases hs
  | j :: items, h, s, hs => by
    rcases List.mem_cons.1 hs with rfl | hs
    · exact isStrict_text h.1
    · exact isStrict_itemTexts h.2 s hs

theorem isStrict_fieldTexts : ∀ {fields : List (Text × Json)}, FieldsHaveFinite fields →
    ∀ f ∈ fields, IsStrict (text f.2)
  | [], _, f, hf => by cases hf
  | (_, j) :: fields, h, f, hf => by
    rcases List.mem_cons.1 hf with rfl | hf
    · exact isStrict_text h.1
    · exact isStrict_fieldTexts h.2 f hf

end

/-! ## Pages -/

/-- What stands around items of a page can be seen, or starts a line. -/
theorem shown_of_mem_block {left right : Point} (hl : isVisible left = true)
    (hr : isVisible right = true) {depth : Nat} {items : List (List Point)}
    (hi : ∀ s ∈ items, ∀ c ∈ s, isVisible c = true ∨ c = '\n') {c : Point}
    (hc : c ∈ block left right depth items) : isVisible c = true ∨ c = '\n' := by
  have hline {depth : Nat} {c : Point} (hc : c ∈ newLine depth) :
      isVisible c = true ∨ c = '\n' := by
    rcases List.mem_cons.1 hc with rfl | hc
    · exact .inr rfl
    · rw [List.eq_of_mem_replicate hc]
      exact .inl rfl
  rw [block] at hc
  split at hc
  · rcases List.mem_pair.1 hc with rfl | rfl
    · exact .inl hl
    · exact .inl hr
  · simp only [List.cons_append, List.append_assoc, List.mem_cons, List.mem_append,
      List.not_mem_nil, or_false] at hc
    rcases hc with rfl | hc | hc | hc | rfl
    · exact .inl hl
    · exact hline hc
    · rcases mem_joined hc with hc | ⟨s, hs, hc⟩
      · rcases List.mem_cons.1 hc with rfl | hc
        · exact .inl rfl
        · exact hline hc
      · exact hi s hs c hc
    · exact hline hc
    · exact .inl hr

mutual

/-- **A page** of a document whose doubles are finite has only characters that can be seen, but for
the line feeds. -/
theorem shown_of_mem_page : ∀ {j : Json} (depth : Nat), HasFinite j →
    ∀ c ∈ page depth j, isVisible c = true ∨ c = '\n'
  | null, _, h, c, hc => .inl ((isStrict_text h).isVisible c hc)
  | bool _, _, h, c, hc => .inl ((isStrict_text h).isVisible c hc)
  | int _, _, h, c, hc => .inl ((isStrict_text h).isVisible c hc)
  | float _, _, h, c, hc => .inl ((isStrict_text h).isVisible c hc)
  | str _, _, h, c, hc => .inl ((isStrict_text h).isVisible c hc)
  | arr _, depth, h, _, hc => shown_of_mem_block rfl rfl (shown_of_mem_itemPages (depth + 1) h) hc
  | obj _, depth, h, _, hc =>
    shown_of_mem_block rfl rfl (shown_of_mem_fieldPages (depth + 1) h) hc

theorem shown_of_mem_itemPages : ∀ {items : List Json} (depth : Nat), HaveFinite items →
    ∀ s ∈ itemPages depth items, ∀ c ∈ s, isVisible c = true ∨ c = '\n'
  | [], _, _, s, hs => by cases hs
  | j :: items, depth, h, s, hs => by
    rcases List.mem_cons.1 hs with rfl | hs
    · exact shown_of_mem_page depth h.1
    · exact shown_of_mem_itemPages depth h.2 s hs

theorem shown_of_mem_fieldPages : ∀ {fields : List (Text × Json)} (depth : Nat),
    FieldsHaveFinite fields → ∀ s ∈ fieldPages depth fields, ∀ c ∈ s,
      isVisible c = true ∨ c = '\n'
  | [], _, _, s, hs => by cases hs
  | (name, j) :: fields, depth, h, s, hs => by
    rcases List.mem_cons.1 hs with rfl | hs
    · refine List.forall_mem_append.2 ⟨fun c hc => .inl (isVisible_of_mem_quote hc), ?_⟩
      exact List.forall_mem_cons.2 ⟨.inl rfl, List.forall_mem_cons.2 ⟨.inl rfl,
        shown_of_mem_page depth h.1⟩⟩
    · exact shown_of_mem_fieldPages depth h.2 s hs

end

/-! ## Reading -/

/-- A numeral is read as what it denotes. -/
theorem takeValue_numeral {m : Numeral} (hm : m.IsReal) (d n : Nat) {rest : List Point}
    (hr : Follows rest) :
    takeValue d (n + 1) (m.chars ++ rest) = .ok (float m.decimal.toFloat, rest) := by
  have hnumber := takeNumber_numeral hm hr
  obtain ⟨c, ds, hds⟩ := List.exists_cons_of_ne_nil m.ne_nil
  have hc : Number.isAsciiDigit c = true := m.areDigits c (by simp [hds])
  have hstart : ∃ t, m.chars ++ rest = c :: t ∨ m.chars ++ rest = .char '-' :: c :: t := by
    rw [Numeral.chars, hds, Number.signed]
    split
    · exact ⟨_, .inr rfl⟩
    · exact ⟨_, .inl rfl⟩
  obtain ⟨t, ht | ht⟩ := hstart
  · rw [ht] at hnumber ⊢
    rw [takeValue_leaf (ne_of_isAsciiDigit hc rfl) (ne_of_isAsciiDigit hc rfl)
      (ne_of_isAsciiDigit hc rfl), takeLeaf, find?_words_of_digit hc]
    exact hnumber
  · rw [ht] at hnumber ⊢
    rw [takeValue_leaf (by decide) (by decide) (by decide), takeLeaf, find?_words_of_minus hc]
    exact hnumber

theorem Numeral.startsDocument (m : Numeral) : StartsDocument m.chars := by
  obtain ⟨c, ds, hds⟩ := List.exists_cons_of_ne_nil m.ne_nil
  rw [chars, hds, Number.signed]
  split
  · exact ⟨'-', _, rfl, rfl, by decide, by decide⟩
  · exact startsDocument_digit (m.areDigits c (by simp [hds])) _

/-- **A finite double** is read as it was written. -/
theorem readsBack_float {x : Float} (h : x.isFinite = true) (d : Nat) : ReadsBack d (float x) := by
  obtain ⟨m, hreal, htext, hx⟩ := exists_numeral_text h
  refine .of_step ?_ fun n rest hr => ?_
  · rw [htext]
    exact m.startsDocument
  · rw [htext, takeValue_numeral hreal d n hr, hx]
    rfl

end FormulaSheet.Json
