import FormulaSheet.Value
import FormulaSheet.Proofs.Label
import FormulaSheet.Proofs.Result

/-!
# Values that read as labels

The tokens of a formula may be values of any type; they are evaluated by their texts. A label starts
with a capital and is otherwise capitals and digits. No value but a text reads so: numbers and dates
start with a digit, a sign or a small letter, collections with a bracket, and the words for the
other scalars have small letters in them.

* `Value.eq_str_of_text`: a value whose text is a label is this text.
-/

namespace FormulaSheet

/-- The characters start, and not with a capital. -/
def StartsPlain (s : List Point) : Prop :=
  ∃ c rest, s = c :: rest ∧ Label.isCapital c = false

theorem StartsPlain.append {s : List Point} (h : StartsPlain s) (t : List Point) :
    StartsPlain (s ++ t) := by
  obtain ⟨c, rest, rfl, hc⟩ := h
  exact ⟨c, rest ++ t, rfl, hc⟩

theorem StartsPlain.text_append {a b : Text} (h : StartsPlain a.toList) :
    StartsPlain (a ++ b).toList := by
  rw [Text.toList_append]
  exact h.append _

theorem Label.not_isCapital_of_isAsciiDigit {c : Point} (h : Number.isAsciiDigit c = true) :
    isCapital c = false := by
  rw [Bool.eq_false_iff, Ne, isCapital_iff]
  rw [Number.isAsciiDigit_iff] at h
  omega

/-- A text that starts plainly is no label. -/
theorem StartsPlain.not_isLabel {text : Text} (h : StartsPlain text.toList) :
    Label.isLabel text = false := by
  rw [Bool.eq_false_iff]
  intro hl
  obtain ⟨c, letters, d, hc, -, -, -, he⟩ := Label.exists_of_isLabel hl
  obtain ⟨c', rest, hr, hc'⟩ := h
  have heq : c' = c := by
    rcases Label.eq_or_eq_append_dropFinalLineFeed text.toList with ht | ht <;>
      rw [he, hr] at ht <;> exact (List.cons.inj ht).1
  rw [heq, hc] at hc'
  cases hc'

/-! ## Numbers -/

namespace Text

theorem decimal_startsPlain (n : Nat) : StartsPlain (decimal n) := by
  have hd : ∀ c ∈ decimal n, Number.isAsciiDigit c = true := fun _ => isAsciiDigit_of_mem_decimal
  cases hs : decimal n with
  | nil => exact absurd hs (decimal_ne_nil n)
  | cons c rest =>
    have hc := hd c (hs ▸ List.mem_cons_self)
    exact ⟨c, rest, rfl, Label.not_isCapital_of_isAsciiDigit hc⟩

theorem padded_startsPlain (width n : Nat) : StartsPlain (padded width n) := by
  rw [padded]
  cases width - (decimal n).length with
  | zero => exact decimal_startsPlain n
  | succ k => exact ⟨'0', List.replicate k (Point.char '0') ++ decimal n, rfl, by decide⟩

theorem intText_startsPlain (n : Int) : StartsPlain (intText n).toList := by
  cases n with
  | ofNat n =>
    rw [intText, natText, Text.toList_ofList]
    exact decimal_startsPlain n
  | negSucc n =>
    rw [intText, Text.toList_append]
    exact ⟨'-', _, rfl, by decide⟩

end Text

namespace Number

theorem write_startsPlain (f : Layout) (d : Binary64.Digits) : StartsPlain (f.write d) := by
  obtain ⟨c, rest, hds, hc⟩ := Text.decimal_startsPlain d.coefficient
  rw [Layout.write]
  simp only [hds]
  split
  · split
    · exact ⟨c, _, rfl, hc⟩
    · split
      · exact ⟨c, _, rfl, hc⟩
      · exact ⟨'0', _, rfl, by decide⟩
  · cases rest with
    | nil => exact ⟨c, _, rfl, hc⟩
    | cons c' rest => exact ⟨c, _, rfl, hc⟩

theorem floatText_startsPlain (x : Float) : StartsPlain (floatText x).toList := by
  have hs : ∀ s, StartsPlain s → ∀ negative, StartsPlain (signed negative s) := by
    intro s h negative
    cases negative with
    | false => exact h
    | true => exact ⟨'-', s, rfl, by decide⟩
  rw [floatText]
  split
  · exact ⟨'n', _, rfl, by decide⟩
  split
  · rw [shortestText, Text.toList_ofList]
    refine hs _ ?_ _
    split
    · exact ⟨'0', _, rfl, by decide⟩
    · exact write_startsPlain _ _
  split
  · exact ⟨'-', _, rfl, by decide⟩
  · exact ⟨'i', _, rfl, by decide⟩

end Number

theorem Timestamp.text_startsPlain (t : Timestamp) : StartsPlain t.text.toList := by
  rw [text, Text.toList_ofList, dateText]
  exact (((Text.padded_startsPlain 4 t.year).append _).append _).append _

/-! ## Values of other types than text -/

namespace Value

theorem quotedOctets_startsPlain (s : List UInt8) : StartsPlain (Text.quotedOctets s).toList := by
  rw [Text.quotedOctets, Text.toList_ofList]
  exact ⟨'b', _, rfl, by decide⟩

/-- The text of a value of another type than text starts plainly, or is one of three words. -/
theorem startsPlain_of_text {v : Value} {text : Text} (h : v.text = .ok text)
    (hv : ∀ s, v ≠ .str s) :
    StartsPlain text.toList ∨ text = "None" ∨ text = "True" ∨ text = "False" := by
  cases v with
  | null =>
    cases h
    exact .inr (.inl rfl)
  | bool b =>
    cases h
    cases b with
    | true => exact .inr (.inr (.inl rfl))
    | false => exact .inr (.inr (.inr rfl))
  | int n =>
    simp only [Value.text, inner] at h
    split at h
    · cases h
      exact .inl (Text.intText_startsPlain n)
    · cases h
  | float x =>
    cases h
    exact .inl (Number.floatText_startsPlain x)
  | str s => exact absurd rfl (hv s)
  | list items =>
    simp only [Value.text, inner] at h
    obtain ⟨texts, -, h⟩ := bind_eq_ok_iff.1 h
    cases h
    have hb : StartsPlain ("[" : Text).toList := ⟨'[', [], rfl, by decide⟩
    exact .inl (hb.text_append.text_append)
  | map entries =>
    simp only [Value.text, inner] at h
    obtain ⟨texts, -, h⟩ := bind_eq_ok_iff.1 h
    cases h
    have hb : StartsPlain ("\x7b" : Text).toList := ⟨'\x7b', [], rfl, by decide⟩
    exact .inl (hb.text_append.text_append)
  | octets s =>
    cases h
    exact .inl (quotedOctets_startsPlain s)
  | timestamp t =>
    cases h
    exact .inl t.text_startsPlain
  | set members =>
    cases members with
    | nil =>
      cases h
      exact .inl ⟨'s', ("et()" : Text).toList, rfl, by decide⟩
    | cons v members =>
      simp only [Value.text, inner] at h
      obtain ⟨texts, -, h⟩ := bind_eq_ok_iff.1 h
      cases h
      have hb : StartsPlain ("\x7b" : Text).toList := ⟨'\x7b', [], rfl, by decide⟩
      exact .inl (hb.text_append.text_append)

/-- **A value that reads as a label** is a text. -/
theorem eq_str_of_text {v : Value} {text : Text} (h : v.text = .ok text)
    (hl : Label.isLabel text = true) : v = .str text := by
  by_cases hv : ∃ s, v = .str s
  · obtain ⟨s, rfl⟩ := hv
    rw [Except.ok.inj h]
  · rcases startsPlain_of_text h (fun s hs => hv ⟨s, hs⟩) with hs | rfl | rfl | rfl
    · rw [hs.not_isLabel] at hl
      cases hl
    · exact absurd hl (by decide)
    · exact absurd hl (by decide)
    · exact absurd hl (by decide)

end Value

end FormulaSheet
