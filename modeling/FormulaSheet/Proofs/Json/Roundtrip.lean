import FormulaSheet.Proofs.Json.Plain

/-!
# Documents are read as they were written

The reader takes from a text what was written there, part by part. It needs as many steps as twice
the text is long, and as much depth as the document has; and since what follows a document is a
comma or a closing bracket, it takes no more than the document.

* `takeLeaf_intText`: an integer is not taken for a word;
* `readsBack_arr`, `readsBack_obj`: a document is read if its parts are;
* `readsBack_of_isExact`: the reader takes an exact document from in front of what follows it;
* `ofChars_text_of_isExact`: the text of an exact document is read;
* `ofChars_text`: the text of a plain document reads back.
-/

namespace FormulaSheet.Json

/-! ## What documents start with -/

/-- The text starts as documents do: not with a blank, and not with a closing bracket. -/
def StartsDocument (s : List Point) : Prop :=
  ∃ c t, s = c :: t ∧ isBlank c = false ∧ c ≠ ']' ∧ c ≠ '\x7d'

theorem StartsDocument.append {s : List Point} (h : StartsDocument s) (rest : List Point) :
    StartsDocument (s ++ rest) := by
  obtain ⟨c, t, rfl, hc⟩ := h
  exact ⟨c, t ++ rest, rfl, hc⟩

theorem StartsDocument.skipBlanks_eq {s : List Point} (h : StartsDocument s) :
    skipBlanks s = s := by
  obtain ⟨c, t, rfl, hc, -, -⟩ := h
  simp [skipBlanks, hc]

/-- An integer starts with a digit, or with a minus sign and a digit. -/
theorem exists_intText (i : Int) : ∃ c s, Number.isAsciiDigit c = true ∧
    ((Text.intText i).toList = c :: s ∨ (Text.intText i).toList = .char '-' :: c :: s) := by
  have hn (n : Nat) : ∃ c s, Number.isAsciiDigit c = true ∧ (Text.natText n).toList = c :: s := by
    rw [Text.natText, Text.toList_ofList]
    cases hd : Text.decimal n with
    | nil => exact absurd hd (Text.decimal_ne_nil n)
    | cons c s => exact ⟨c, s, Text.isAsciiDigit_of_mem_decimal (hd ▸ List.mem_cons_self), rfl⟩
  cases i with
  | ofNat n =>
    obtain ⟨c, s, hc, hs⟩ := hn n
    exact ⟨c, s, hc, .inl hs⟩
  | negSucc n =>
    obtain ⟨c, s, hc, hs⟩ := hn (n + 1)
    refine ⟨c, s, hc, .inr ?_⟩
    rw [Text.intText, Text.toList_append, hs]
    rfl

theorem ne_of_isAsciiDigit {c d : Point} (hc : Number.isAsciiDigit c = true)
    (hd : Number.isAsciiDigit d = false) : c ≠ d := by
  rintro rfl
  exact Bool.noConfusion (hc.symm.trans hd)

theorem startsDocument_digit {c : Point} (hc : Number.isAsciiDigit c = true) (s : List Point) :
    StartsDocument (c :: s) := by
  refine ⟨c, s, rfl, ?_, ne_of_isAsciiDigit hc rfl, ne_of_isAsciiDigit hc rfl⟩
  simp [isBlank, ne_of_isAsciiDigit hc (d := ' ') rfl, ne_of_isAsciiDigit hc (d := '\t') rfl,
    ne_of_isAsciiDigit hc (d := '\n') rfl, ne_of_isAsciiDigit hc (d := '\r') rfl]

/-- Every document starts with a character of its own kind. -/
theorem startsDocument_text (j : Json) (h : IsExact j) : StartsDocument (text j) := by
  cases j with
  | null => exact ⟨'n', _, rfl, rfl, by decide, by decide⟩
  | bool b => cases b <;> exact ⟨_, _, rfl, rfl, by decide, by decide⟩
  | int i =>
    obtain ⟨c, s, hc, hs⟩ := exists_intText i
    change StartsDocument (Text.intText i).toList
    rcases hs with hs | hs
    · rw [hs]
      exact startsDocument_digit hc s
    · exact ⟨'-', c :: s, hs, rfl, by decide, by decide⟩
  | float x => exact h.elim
  | str s => exact ⟨'"', _, rfl, rfl, by decide, by decide⟩
  | arr items => exact ⟨'[', _, rfl, rfl, by decide, by decide⟩
  | obj fields => exact ⟨'\x7b', _, rfl, rfl, by decide, by decide⟩

/-! ## Leaves -/

/-- No word starts with a digit. -/
theorem find?_words_of_digit {c : Point} (hc : Number.isAsciiDigit c = true) (s : List Point) :
    words.find? (fun w => w.1.isPrefixOf (c :: s)) = none := by
  have hall : words.all (fun w => !Number.isAsciiDigit (w.1.headD '0')) = true := rfl
  refine List.find?_eq_none.2 fun w hw hp => ?_
  have hword := List.all_eq_true.1 hall w hw
  cases hl : w.1 with
  | nil => simp [hl, Number.isAsciiDigit] at hword
  | cons d t =>
    simp only [hl, List.isPrefixOf, Bool.and_eq_true, beq_iff_eq] at hp
    simp [hl, hp.1, hc] at hword

/-- No word is a minus sign with a digit behind it. -/
theorem find?_words_of_minus {c : Point} (hc : Number.isAsciiDigit c = true) (s : List Point) :
    words.find? (fun w => w.1.isPrefixOf (.char '-' :: c :: s)) = none := by
  have hall : words.all (fun w => w.1.headD '-' != '-' ||
      !Number.isAsciiDigit (w.1.tail.headD '0')) = true := rfl
  refine List.find?_eq_none.2 fun w hw hp => ?_
  have hword := List.all_eq_true.1 hall w hw
  cases hl : w.1 with
  | nil => simp [hl, Number.isAsciiDigit] at hword
  | cons d t =>
    cases t with
    | nil =>
      simp only [hl, List.isPrefixOf, Bool.and_eq_true, beq_iff_eq] at hp
      simp [hl, hp.1, Number.isAsciiDigit] at hword
    | cons e t =>
      simp only [hl, List.isPrefixOf, Bool.and_eq_true, beq_iff_eq] at hp
      simp [hl, hp.1, hp.2.1, hc] at hword

theorem takeLeaf_intText {i : Int} (hi : Number.isWritable i = true) {rest : List Point}
    (hr : Follows rest) : takeLeaf ((Text.intText i).toList ++ rest) = .ok (int i, rest) := by
  have hw : words.find? (fun w => w.1.isPrefixOf ((Text.intText i).toList ++ rest)) = none := by
    obtain ⟨c, s, hc, hs⟩ := exists_intText i
    rcases hs with hs | hs
    · rw [hs]
      exact find?_words_of_digit hc _
    · rw [hs]
      exact find?_words_of_minus hc _
  rw [takeLeaf, hw]
  exact takeNumber_intText hi hr

/-! ## One step of the reader -/

section Step

variable {d n : Nat} {s t rest : List Point} {j : Json}

theorem takeValue_quote (d n : Nat) (s : List Point) :
    takeValue d (n + 1) (.char '"' :: s) = (takeText s).map fun r => (str r.1, r.2) := by
  rw [takeValue]
  cases takeText s with
  | error f => rfl
  | ok r => rfl

theorem takeValue_leaf {c : Point} (hq : c ≠ '"') (hb : c ≠ '[') (ho : c ≠ '\x7b') (d n : Nat)
    (s : List Point) : takeValue d (n + 1) (c :: s) = takeLeaf (c :: s) := by
  rw [takeValue]
  all_goals simp_all

theorem takeValue_arr {items : List Json} (hs : StartsDocument s)
    (hi : takeItems d n s = .ok (items, rest)) :
    takeValue (d + 1) (n + 1) (.char '[' :: s) = .ok (arr items, rest) := by
  rw [takeValue, hs.skipBlanks_eq]
  split
  · obtain ⟨c, t, he, -, hc, -⟩ := hs
    exact absurd (List.cons.inj he).1.symm hc
  · rw [hi]
    rfl

theorem takeValue_obj {fields : List (Text × Json)} (hs : StartsDocument s)
    (hf : takeFields d n s = .ok (fields, rest)) :
    takeValue (d + 1) (n + 1) (.char '\x7b' :: s) = .ok (obj (Register.ofList fields), rest) := by
  rw [takeValue, hs.skipBlanks_eq]
  split
  · obtain ⟨c, t, he, -, -, hc⟩ := hs
    exact absurd (List.cons.inj he).1.symm hc
  · rw [hf]
    rfl

theorem takeItems_last (hv : takeValue d n s = .ok (j, .char ']' :: rest)) :
    takeItems d (n + 1) s = .ok ([j], rest) := by
  rw [takeItems, hv]
  rfl

theorem takeItems_more {items : List Json}
    (hv : takeValue d n s = .ok (j, .char ',' :: .char ' ' :: t))
    (ht : StartsDocument t) (hi : takeItems d n t = .ok (items, rest)) :
    takeItems d (n + 1) s = .ok (j :: items, rest) := by
  have hb : skipBlanks (.char ' ' :: t) = t := ht.skipBlanks_eq
  rw [takeItems, hv]
  change (takeItems d n (skipBlanks (.char ' ' :: t)) >>= fun r => Except.ok (j :: r.1, r.2)) = _
  rw [hb, hi]
  rfl

theorem takeFields_last {name : Text} (hn : takeText s = .ok (name, .char ':' :: .char ' ' :: t))
    (ht : StartsDocument t) (hv : takeValue d n t = .ok (j, .char '\x7d' :: rest)) :
    takeFields d (n + 1) (.char '"' :: s) = .ok ([(name, j)], rest) := by
  have hb : skipBlanks (.char ' ' :: t) = t := ht.skipBlanks_eq
  rw [takeFields, hn]
  change (takeValue d n (skipBlanks (.char ' ' :: t)) >>= _) = _
  rw [hb, hv]
  rfl

theorem takeFields_more {name : Text} {fields : List (Text × Json)} {u : List Point}
    (hn : takeText s = .ok (name, .char ':' :: .char ' ' :: t)) (ht : StartsDocument t)
    (hv : takeValue d n t = .ok (j, .char ',' :: .char ' ' :: u)) (hu : StartsDocument u)
    (hf : takeFields d n u = .ok (fields, rest)) :
    takeFields d (n + 1) (.char '"' :: s) = .ok ((name, j) :: fields, rest) := by
  have hb : skipBlanks (.char ' ' :: t) = t := ht.skipBlanks_eq
  have hc : skipBlanks (.char ' ' :: u) = u := hu.skipBlanks_eq
  rw [takeFields, hn]
  change (takeValue d n (skipBlanks (.char ' ' :: t)) >>= _) = _
  rw [hb, hv]
  change (takeFields d n (skipBlanks (.char ' ' :: u)) >>=
    fun r => Except.ok ((name, j) :: r.1, r.2)) = _
  rw [hc, hf]
  rfl

end Step

/-! ## Whole documents -/

theorem follows_cons {c : Point} (h : c = ',' ∨ c = ']' ∨ c = '\x7d') (s : List Point) :
    Follows (c :: s) := by
  intro d t he
  rw [← (List.cons.inj he).1]
  exact h

theorem startsDocument_joined_items {j : Json} (h : StartsDocument (text j)) (items : List Json) :
    StartsDocument (joined [.char ',', .char ' '] (itemTexts (j :: items))) := by
  cases items with
  | nil => exact h
  | cons k items => exact (h.append [Point.char ',', .char ' ']).append _

theorem startsDocument_joined_fields (name : Text) (j : Json) (fields : List (Text × Json)) :
    StartsDocument (joined [.char ',', .char ' '] (fieldTexts ((name, j) :: fields))) := by
  have hq : StartsDocument (quote name ++ Point.char ':' :: .char ' ' :: text j) :=
    ⟨'"', _, rfl, rfl, by decide, by decide⟩
  cases fields with
  | nil => exact hq
  | cons f fields => exact (hq.append [Point.char ',', .char ' ']).append _

theorem quote_append (s : Text) (rest : List Point) :
    quote s ++ rest = .char '"' :: (s.toList.flatMap escape ++ Point.char '"' :: rest) := by
  simp [quote]

/-- Documents without parts are read in one step. -/
theorem takeValue_leafText {j : Json} (h : IsExact j) (ha : ∀ items, j ≠ arr items)
    (ho : ∀ fields, j ≠ obj fields) (d n : Nat) {rest : List Point} (hr : Follows rest) :
    takeValue d (n + 1) (text j ++ rest) = .ok (asRead j, rest) := by
  cases j with
  | null => exact takeValue_leaf (c := 'n') (by decide) (by decide) (by decide) d n _
  | bool b =>
    cases b with
    | false => exact takeValue_leaf (c := 'f') (by decide) (by decide) (by decide) d n _
    | true => exact takeValue_leaf (c := 't') (by decide) (by decide) (by decide) d n _
  | int i =>
    have hl := takeLeaf_intText h hr
    obtain ⟨c, s, hc, hs⟩ := exists_intText i
    change takeValue d (n + 1) ((Text.intText i).toList ++ rest) = _
    rcases hs with hs | hs
    · rw [hs] at hl ⊢
      rw [List.cons_append, takeValue_leaf (ne_of_isAsciiDigit hc rfl) (ne_of_isAsciiDigit hc rfl)
        (ne_of_isAsciiDigit hc rfl)]
      exact hl
    · rw [hs] at hl ⊢
      rw [List.cons_append, takeValue_leaf (by decide) (by decide) (by decide)]
      exact hl
  | float x => exact h.elim
  | str s =>
    change takeValue d (n + 1) (quote s ++ rest) = _
    rw [quote_append, takeValue_quote, takeText_quote s]
    rfl
  | arr items => exact absurd rfl (ha items)
  | obj fields => exact absurd rfl (ho fields)

theorem text_arr_append (items : List Json) (rest : List Point) : text (arr items) ++ rest =
    .char '[' :: (joined [.char ',', .char ' '] (itemTexts items) ++ Point.char ']' :: rest) := by
  simp [text]

theorem text_obj_append (fields : List (Text × Json)) (rest : List Point) :
    text (obj fields) ++ rest =
      .char '\x7b' ::
      (joined [.char ',', .char ' '] (fieldTexts fields) ++ Point.char '\x7d' :: rest) := by
  simp [text]

/-- The reader takes the document from in front of what follows it, if so many sequences and objects
may stand one inside another. It needs two steps for each character: one for the part that begins
there and one for what holds it. -/
structure ReadsBack (d : Nat) (j : Json) : Prop where
  starts : StartsDocument (text j)
  takes : ∀ {n : Nat}, 2 * (text j).length ≤ n → ∀ {rest : List Point}, Follows rest →
    takeValue d n (text j ++ rest) = .ok (asRead j, rest)

section ReadsBack

variable {d n : Nat} {j : Json}

theorem ReadsBack.of_step (hs : StartsDocument (text j)) (h : ∀ (n : Nat) {rest : List Point},
    Follows rest → takeValue d (n + 1) (text j ++ rest) = .ok (asRead j, rest)) :
    ReadsBack d j := by
  refine ⟨hs, fun {n} hn rest hr => ?_⟩
  obtain ⟨c, t, hc, -⟩ := hs
  rw [hc, List.length_cons] at hn
  obtain ⟨n, rfl⟩ := Nat.exists_eq_add_of_le' (show 1 ≤ n by omega)
  exact h n hr

/-- The reader takes the items of a sequence up to its bracket. -/
theorem takeItems_of_readsBack : ∀ {items : List Json}, items ≠ [] → (∀ j ∈ items, ReadsBack d j) →
    ∀ {n : Nat}, 2 * (joined [.char ',', .char ' '] (itemTexts items)).length + 1 ≤ n →
    ∀ (rest : List Point),
    takeItems d n (joined [.char ',', .char ' '] (itemTexts items) ++ Point.char ']' :: rest) =
      .ok (itemsAsRead items, rest)
  | [], he, _, _, _, _ => absurd rfl he
  | [j], _, h, n, hn, rest => by
    obtain ⟨n, rfl⟩ := Nat.exists_eq_add_of_le' (show 1 ≤ n by omega)
    have hj : ReadsBack d j := h j List.mem_cons_self
    simp only [itemTexts, joined] at hn
    exact takeItems_last (hj.takes (by omega) (follows_cons (by simp) rest))
  | j :: k :: items, _, h, n, hn, rest => by
    obtain ⟨hj, hitems⟩ := List.forall_mem_cons.1 h
    obtain ⟨n, rfl⟩ := Nat.exists_eq_add_of_le' (show 1 ≤ n by omega)
    have htexts : joined [.char ',', .char ' '] (itemTexts (j :: k :: items)) =
        text j ++ [Point.char ',', .char ' '] ++
        joined [.char ',', .char ' '] (itemTexts (k :: items)) := rfl
    rw [htexts] at hn ⊢
    simp only [List.length_append, List.length_cons, List.length_nil] at hn
    rw [List.append_assoc, List.append_assoc]
    refine takeItems_more (hj.takes (by omega) (follows_cons (by simp) _))
      ((startsDocument_joined_items (hitems k List.mem_cons_self).starts items).append _) ?_
    exact takeItems_of_readsBack (List.cons_ne_nil k items) hitems (by omega) rest

/-- The reader takes the fields of an object up to its bracket. -/
theorem takeFields_of_readsBack : ∀ {fields : List (Text × Json)}, fields ≠ [] →
    (∀ f ∈ fields, ReadsBack d f.2) → ∀ {n : Nat},
    2 * (joined [.char ',', .char ' '] (fieldTexts fields)).length + 1 ≤ n → ∀ (rest : List Point),
    takeFields d n
      (joined [.char ',', .char ' '] (fieldTexts fields) ++ Point.char '\x7d' :: rest) =
      .ok (fieldsAsRead fields, rest)
  | [], he, _, _, _, _ => absurd rfl he
  | [(name, j)], _, h, n, hn, rest => by
    have hj : ReadsBack d j := h (name, j) List.mem_cons_self
    obtain ⟨n, rfl⟩ := Nat.exists_eq_add_of_le' (show 1 ≤ n by omega)
    have htexts : joined [.char ',', .char ' '] (fieldTexts [(name, j)]) =
        quote name ++ Point.char ':' :: .char ' ' :: text j := rfl
    rw [htexts] at hn ⊢
    simp only [List.length_append, List.length_cons] at hn
    rw [List.append_assoc, quote_append]
    refine takeFields_last (takeText_quote name _) (hj.starts.append _) ?_
    exact hj.takes (by omega) (follows_cons (by simp) rest)
  | (name, j) :: (other, k) :: fields, _, h, n, hn, rest => by
    obtain ⟨hj, hfields⟩ := List.forall_mem_cons.1 h
    change ReadsBack d j at hj
    obtain ⟨n, rfl⟩ := Nat.exists_eq_add_of_le' (show 1 ≤ n by omega)
    have htexts : joined [.char ',', .char ' '] (fieldTexts ((name, j) :: (other, k) :: fields)) =
        quote name ++ Point.char ':' :: .char ' ' :: text j ++ [Point.char ',', .char ' '] ++
          joined [.char ',', .char ' '] (fieldTexts ((other, k) :: fields)) := rfl
    rw [htexts] at hn ⊢
    simp only [List.length_append, List.length_cons, List.length_nil] at hn
    rw [List.append_assoc, List.append_assoc, List.append_assoc, quote_append]
    refine takeFields_more (takeText_quote name _) (hj.starts.append _)
      (hj.takes (by omega) (follows_cons (by simp) _))
      ((startsDocument_joined_fields other k fields).append _) ?_
    exact takeFields_of_readsBack (List.cons_ne_nil (other, k) fields) hfields (by omega) rest

/-- **A sequence** is read if its items are. -/
theorem readsBack_arr {items : List Json} (h : ∀ j ∈ items, ReadsBack d j) :
    ReadsBack (d + 1) (arr items) := by
  cases items with
  | nil => exact .of_step ⟨'[', _, rfl, rfl, by decide, by decide⟩ fun n rest hr => rfl
  | cons j items =>
    refine ⟨⟨'[', _, rfl, rfl, by decide, by decide⟩, fun {n} hn rest _ => ?_⟩
    have hlen : (text (arr (j :: items))).length =
        (joined [.char ',', .char ' '] (itemTexts (j :: items))).length + 2 := by
      simp [text]
    obtain ⟨n, rfl⟩ := Nat.exists_eq_add_of_le' (show 1 ≤ n by omega)
    rw [text_arr_append]
    refine takeValue_arr
      ((startsDocument_joined_items (h j List.mem_cons_self).starts items).append _) ?_
    exact takeItems_of_readsBack (List.cons_ne_nil j items) h (by omega) rest

/-- **An object** is read if what its fields hold is. -/
theorem readsBack_obj {fields : List (Text × Json)} (h : ∀ f ∈ fields, ReadsBack d f.2) :
    ReadsBack (d + 1) (obj fields) := by
  cases fields with
  | nil => exact .of_step ⟨'\x7b', _, rfl, rfl, by decide, by decide⟩ fun n rest hr => rfl
  | cons f fields =>
    refine ⟨⟨'\x7b', _, rfl, rfl, by decide, by decide⟩, fun {n} hn rest _ => ?_⟩
    have hlen : (text (obj (f :: fields))).length =
        (joined [.char ',', .char ' '] (fieldTexts (f :: fields))).length + 2 := by
      simp [text]
    obtain ⟨n, rfl⟩ := Nat.exists_eq_add_of_le' (show 1 ≤ n by omega)
    rw [text_obj_append]
    refine takeValue_obj ((startsDocument_joined_fields f.1 f.2 fields).append _) ?_
    exact takeFields_of_readsBack (List.cons_ne_nil f fields) h (by omega) rest

/-- The text of a document that is read. -/
theorem ReadsBack.ofChars {d : Nat} (h : ReadsBack d j) :
    Json.ofChars d (text j) = .ok (asRead j) := by
  have ht : takeValue d (2 * (text j).length + 1) (text j ++ []) = .ok (asRead j, []) :=
    h.takes (by omega) nofun
  rw [List.append_nil] at ht
  rw [Json.ofChars, h.starts.skipBlanks_eq, ht]
  rfl

end ReadsBack

mutual

/-- **The reader takes an exact document** from in front of what follows it. -/
theorem readsBack_of_isExact : ∀ {j : Json}, IsExact j → ∀ {d : Nat}, depth j ≤ d → ReadsBack d j
  | null, h, d, _ | bool _, h, d, _ | int _, h, d, _ | float _, h, d, _ | str _, h, d, _ =>
    .of_step (startsDocument_text _ h) fun n _ hr =>
      takeValue_leafText h (by simp) (by simp) d n hr
  | arr items, h, d, hd => by
    rw [depth] at hd
    obtain ⟨d, rfl⟩ := Nat.exists_eq_add_of_le' (show 1 ≤ d by omega)
    exact readsBack_arr (readsBack_of_areExact h (by omega))
  | obj fields, h, d, hd => by
    rw [depth] at hd
    obtain ⟨d, rfl⟩ := Nat.exists_eq_add_of_le' (show 1 ≤ d by omega)
    exact readsBack_obj (readsBack_of_fieldsAreExact h (by omega))

theorem readsBack_of_areExact : ∀ {items : List Json}, AreExact items →
    ∀ {d : Nat}, itemsDepth items ≤ d → ∀ j ∈ items, ReadsBack d j
  | [], _, _, _ => fun _ hm => absurd hm List.not_mem_nil
  | j :: items, h, d, hd => by
    rw [itemsDepth, Nat.max_le] at hd
    exact List.forall_mem_cons.2 ⟨readsBack_of_isExact h.1 hd.1, readsBack_of_areExact h.2 hd.2⟩

theorem readsBack_of_fieldsAreExact : ∀ {fields : List (Text × Json)}, FieldsAreExact fields →
    ∀ {d : Nat}, fieldsDepth fields ≤ d → ∀ f ∈ fields, ReadsBack d f.2
  | [], _, _, _ => fun _ hm => absurd hm List.not_mem_nil
  | (name, j) :: fields, h, d, hd => by
    rw [fieldsDepth, Nat.max_le] at hd
    exact List.forall_mem_cons.2
      ⟨readsBack_of_isExact h.1 hd.1, readsBack_of_fieldsAreExact h.2 hd.2⟩

end

/-- **The text of an exact document** is read, as long as it is not nested too deep. -/
theorem ofChars_text_of_isExact {j : Json} (h : IsExact j) {d : Nat} (hd : depth j ≤ d) :
    ofChars d (text j) = .ok (asRead j) :=
  (readsBack_of_isExact h hd).ofChars

/-- The text of a plain document reads back. -/
theorem ofChars_text {j : Json} (h : IsPlain j) {d : Nat} (hd : depth j ≤ d) :
    ofChars d (text j) = .ok j := by
  rw [ofChars_text_of_isExact h.isExact hd, h.asRead_eq]

end FormulaSheet.Json
