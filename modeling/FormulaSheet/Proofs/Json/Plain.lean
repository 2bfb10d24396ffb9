import FormulaSheet.Proofs.Json.Number
import FormulaSheet.Proofs.Json.Text
import FormulaSheet.Proofs.Register

/-!
# Exact documents and plain ones

A document is exact if it has no doubles, and if its integers have few enough digits to be written.
Such documents are written in ASCII characters that can be seen. Not all of them read back as they
were: halves of characters in their texts may be joined, and of two fields of one name only one is
left. A document in which this cannot happen is plain.

* `fieldsArePlain_iff`, `fieldsAreExact_iff`, `fieldsAreWritable_iff`: objects are plain, or exact,
  or can be written, by what is in them;
* `IsPlain.isExact`, `IsPlain.asRead_eq`: a plain document is exact and reads back as it was;
* `isVisible_of_mem_text`: the text of an exact document can be seen.
-/

namespace FormulaSheet.Json

mutual

/-- The document has no doubles, only integers that can be written and only joined texts, and no
object in it has a name twice. -/
def IsPlain : Json → Prop
  | null | bool _ => True
  | int i => Number.isWritable i = true
  | float _ => False
  | str s => IsJoined s
  | arr items => ArePlain items
  | obj fields => (Register.names fields).Nodup ∧ FieldsArePlain fields

/-- All items are plain. -/
def ArePlain : List Json → Prop
  | [] => True
  | j :: items => IsPlain j ∧ ArePlain items

/-- All fields are plain, and their names are joined texts. -/
def FieldsArePlain : List (Text × Json) → Prop
  | [] => True
  | (name, j) :: fields => IsJoined name ∧ IsPlain j ∧ FieldsArePlain fields

end

mutual

/-- The document has no doubles, and its integers can be written. -/
def IsExact : Json → Prop
  | null | bool _ | str _ => True
  | int i => Number.isWritable i = true
  | float _ => False
  | arr items => AreExact items
  | obj fields => FieldsAreExact fields

/-- All items are exact. -/
def AreExact : List Json → Prop
  | [] => True
  | j :: items => IsExact j ∧ AreExact items

/-- All fields are exact. -/
def FieldsAreExact : List (Text × Json) → Prop
  | [] => True
  | (_, j) :: fields => IsExact j ∧ FieldsAreExact fields

end

mutual

/-- The document as its text is read. The halves of characters that stand side by side are joined,
and of fields of one name the last one counts. -/
def asRead : Json → Json
  | str s => str (rejoined s)
  | arr items => arr (itemsAsRead items)
  | obj fields => obj (Register.ofList (fieldsAsRead fields))
  | j => j

/-- The items of a sequence as they are read. -/
def itemsAsRead : List Json → List Json
  | [] => []
  | j :: items => asRead j :: itemsAsRead items

/-- The fields of an object as they are read, one after the other. -/
def fieldsAsRead : List (Text × Json) → List (Text × Json)
  | [] => []
  | (name, j) :: fields => (rejoined name, asRead j) :: fieldsAsRead fields

end

mutual

theorem IsPlain.isExact : ∀ {j : Json}, IsPlain j → IsExact j
  | null, _ | bool _, _ | str _, _ => True.intro
  | int _, h | float _, h => h
  | arr items, h => ArePlain.areExact (show ArePlain items from h)
  | obj _, h => FieldsArePlain.areExact h.2

theorem ArePlain.areExact : ∀ {items : List Json}, ArePlain items → AreExact items
  | [], h => h
  | _ :: _, h => ⟨h.1.isExact, ArePlain.areExact h.2⟩

theorem FieldsArePlain.areExact : ∀ {fields : List (Text × Json)}, FieldsArePlain fields →
    FieldsAreExact fields
  | [], h => h
  | (_, _) :: _, h => ⟨h.2.1.isExact, FieldsArePlain.areExact h.2.2⟩

end

mutual

/-- **A plain document** reads back as it was. -/
theorem IsPlain.asRead_eq : ∀ {j : Json}, IsPlain j → asRead j = j
  | null, _ | bool _, _ | int _, _ | float _, _ => rfl
  | str _, h => congrArg str h.rejoined_eq
  | arr items, h => congrArg arr (ArePlain.asRead_eq (show ArePlain items from h))
  | obj fields, h => by
    rw [asRead, FieldsArePlain.asRead_eq h.2, Register.ofList_of_nodup h.1]

theorem ArePlain.asRead_eq : ∀ {items : List Json}, ArePlain items → itemsAsRead items = items
  | [], _ => rfl
  | _ :: _, h => by rw [itemsAsRead, h.1.asRead_eq, ArePlain.asRead_eq h.2]

theorem FieldsArePlain.asRead_eq : ∀ {fields : List (Text × Json)}, FieldsArePlain fields →
    fieldsAsRead fields = fields
  | [], _ => rfl
  | (_, _) :: _, h => by
    rw [fieldsAsRead, h.1.rejoined_eq, h.2.1.asRead_eq, FieldsArePlain.asRead_eq h.2.2]

end

theorem fieldsAreExact_iff {fields : List (Text × Json)} :
    FieldsAreExact fields ↔ ∀ f ∈ fields, IsExact f.2 := by
  induction fields with
  | nil => simp [FieldsAreExact]
  | cons f fields ih => simp [FieldsAreExact, ih]

theorem fieldsArePlain_iff {fields : List (Text × Json)} :
    FieldsArePlain fields ↔ ∀ f ∈ fields, IsJoined f.1 ∧ IsPlain f.2 := by
  induction fields with
  | nil => simp [FieldsArePlain]
  | cons f fields ih => simp [FieldsArePlain, ih, and_assoc]

theorem fieldsAreWritable_iff {fields : List (Text × Json)} :
    fieldsAreWritable fields = true ↔ ∀ f ∈ fields, isWritable f.2 = true := by
  induction fields with
  | nil => simp [fieldsAreWritable]
  | cons f fields ih => simp [fieldsAreWritable, ih]

/-! ## Texts can be seen -/

theorem isVisible_of_isAsciiDigit {c : Point} (h : Number.isAsciiDigit c = true) :
    isVisible c = true := by
  rw [Number.isAsciiDigit_iff] at h
  rw [isVisible, Bool.and_eq_true, decide_eq_true_eq, decide_eq_true_eq]
  omega

theorem isVisible_of_mem_intText {i : Int} {c : Point} (h : c ∈ (Text.intText i).toList) :
    isVisible c = true := by
  have hn (n : Nat) (hc : c ∈ (Text.natText n).toList) : isVisible c = true := by
    rw [Text.natText, Text.toList_ofList] at hc
    exact isVisible_of_isAsciiDigit (Text.isAsciiDigit_of_mem_decimal hc)
  cases i with
  | ofNat n => exact hn n h
  | negSucc n =>
    rw [Text.intText, Text.toList_append, List.mem_append] at h
    rcases h with h | h
    · rw [List.mem_singleton.1 h]
      decide
    · exact hn (n + 1) h

theorem mem_joined {separator : List Point} {texts : List (List Point)} {c : Point}
    (h : c ∈ joined separator texts) : c ∈ separator ∨ ∃ s ∈ texts, c ∈ s := by
  induction texts with
  | nil => cases h
  | cons s texts ih =>
    cases texts with
    | nil => exact .inr ⟨s, List.mem_cons_self, h⟩
    | cons t texts =>
      rw [joined, List.mem_append, List.mem_append] at h
      · rcases h with (h | h) | h
        · exact .inr ⟨s, List.mem_cons_self, h⟩
        · exact .inl h
        · rcases ih h with h | ⟨t', ht, h⟩
          · exact .inl h
          · exact .inr ⟨t', List.mem_cons_of_mem s ht, h⟩
      · exact List.cons_ne_nil _ _

theorem isVisible_of_mem_separator {c : Point} (h : c ∈ [Point.char ',', .char ' ']) :
    isVisible c = true := by
  rcases List.mem_cons.1 h with rfl | h
  · decide
  · rw [List.mem_singleton.1 h]
    decide

mutual

/-- **The text of an exact document** consists of ASCII characters that can be seen. -/
theorem isVisible_of_mem_text : ∀ {j : Json}, j.IsExact → ∀ c ∈ text j, isVisible c = true
  | null, _, c, h => by
    have hall : ("null" : Text).toList.all isVisible = true := rfl
    exact List.all_eq_true.1 hall c h
  | bool true, _, c, h => by
    have hall : ("true" : Text).toList.all isVisible = true := rfl
    exact List.all_eq_true.1 hall c h
  | bool false, _, c, h => by
    have hall : ("false" : Text).toList.all isVisible = true := rfl
    exact List.all_eq_true.1 hall c h
  | int i, _, c, h => isVisible_of_mem_intText h
  | float x, hp, c, h => hp.elim
  | str s, _, c, h => isVisible_of_mem_quote h
  | arr items, hp, c, h => by
    rw [text, List.cons_append, List.mem_cons, List.mem_append, List.mem_singleton] at h
    rcases h with rfl | h | rfl
    · decide
    · rcases mem_joined h with h | ⟨s, hs, h⟩
      · exact isVisible_of_mem_separator h
      · exact isVisible_of_mem_itemTexts hp s hs c h
    · decide
  | obj fields, hp, c, h => by
    rw [text, List.cons_append, List.mem_cons, List.mem_append, List.mem_singleton] at h
    rcases h with rfl | h | rfl
    · decide
    · rcases mem_joined h with h | ⟨s, hs, h⟩
      · exact isVisible_of_mem_separator h
      · exact isVisible_of_mem_fieldTexts hp s hs c h
    · decide

theorem isVisible_of_mem_itemTexts : ∀ {items : List Json}, AreExact items →
    ∀ s ∈ itemTexts items, ∀ c ∈ s, isVisible c = true
  | [], _, s, hs => by cases hs
  | j :: items, hp, s, hs => by
    rcases List.mem_cons.1 hs with rfl | hs
    · exact isVisible_of_mem_text hp.1
    · exact isVisible_of_mem_itemTexts hp.2 s hs

theorem isVisible_of_mem_fieldTexts : ∀ {fields : List (Text × Json)}, FieldsAreExact fields →
    ∀ s ∈ fieldTexts fields, ∀ c ∈ s, isVisible c = true
  | [], _, s, hs => by cases hs
  | (name, j) :: fields, hp, s, hs => by
    rcases List.mem_cons.1 hs with rfl | hs
    · intro c hc
      rw [List.mem_append, List.mem_cons, List.mem_cons] at hc
      rcases hc with hc | rfl | rfl | hc
      · exact isVisible_of_mem_quote hc
      · decide
      · decide
      · exact isVisible_of_mem_text hp.1 c hc
    · exact isVisible_of_mem_fieldTexts hp.2 s hs

end

end FormulaSheet.Json
