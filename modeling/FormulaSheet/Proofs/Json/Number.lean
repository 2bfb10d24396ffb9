import FormulaSheet.Json.Printer
import FormulaSheet.Json.Reader
import FormulaSheet.Proofs.Text.Digit

/-!
# Integers are read as they were written

An integer is read to its last digit. What stands behind it in a document is a comma or a closing
bracket, and so neither a further digit nor a point nor an exponent.

* `takeNumber_intText`: an integer with few enough digits reads back.
-/

namespace FormulaSheet.Json

/-- What may stand behind a document: nothing, a comma or a closing bracket. -/
def Follows (rest : List Point) : Prop :=
  ∀ c s, rest = c :: s → c = ',' ∨ c = ']' ∨ c = '\x7d'

/-- Digits end in front of the text: it does not start with one. -/
def StopsDigits (rest : List Point) : Prop :=
  ∀ c s, rest = c :: s → Number.isAsciiDigit c = false

theorem Follows.stopsDigits {rest : List Point} (h : Follows rest) : StopsDigits rest := by
  intro c s he
  rcases h c s he with rfl | rfl | rfl <;> decide

/-- Digits are taken up to what is no digit. -/
theorem takeWhile_digits {ds rest : List Point} (hd : ∀ c ∈ ds, Number.isAsciiDigit c = true)
    (hr : StopsDigits rest) : (ds ++ rest).takeWhile Number.isAsciiDigit = ds ∧
      (ds ++ rest).dropWhile Number.isAsciiDigit = rest := by
  have ht : rest.takeWhile Number.isAsciiDigit = [] ∧
      rest.dropWhile Number.isAsciiDigit = rest := by
    cases rest with
    | nil => exact ⟨rfl, rfl⟩
    | cons c s => simp [hr c s rfl]
  rw [List.takeWhile_append_of_pos hd, List.dropWhile_append_of_pos hd, ht.1, ht.2, List.append_nil]
  exact ⟨rfl, rfl⟩

/-- The digits in front of a point are taken if only a zero that stands alone starts them. -/
theorem takeWhole_append {whole rest : List Point} (hne : whole ≠ [])
    (hd : ∀ c ∈ whole, Number.isAsciiDigit c = true) (hz : ∀ t, whole = .char '0' :: t → t = [])
    (hr : StopsDigits rest) : takeWhole (whole ++ rest) = some (whole, rest) := by
  obtain ⟨c, ds, rfl⟩ := List.exists_cons_of_ne_nil hne
  by_cases hc : c = '0'
  · subst hc
    rw [hz ds rfl]
    rfl
  · obtain ⟨htake, hdrop⟩ := takeWhile_digits hd hr
    rw [takeWhole, htake, hdrop]
    · rfl
    · intro s he
      exact hc (List.cons.inj he).1

/-- Only zero starts with a zero. -/
theorem eq_nil_of_decimal_eq_zero_cons {n : Nat} {t : List Point}
    (h : Text.decimal n = .char '0' :: t) :
    t = [] := by
  rcases Nat.eq_zero_or_pos n with rfl | hpos
  · rw [Text.decimal_zero] at h
    exact (List.cons.inj h).2.symm
  · obtain ⟨c, ds, hn, hc⟩ := Text.exists_decimal_of_pos hpos
    rw [hn] at h
    exact absurd (List.cons.inj h).1 hc

theorem takeWhole_decimal (n : Nat) {rest : List Point} (hr : StopsDigits rest) :
    takeWhole (Text.decimal n ++ rest) = some (Text.decimal n, rest) :=
  takeWhole_append (Text.decimal_ne_nil n) (fun _ => Text.isAsciiDigit_of_mem_decimal)
    (fun _ => eq_nil_of_decimal_eq_zero_cons) hr

theorem takeFraction_of_follows {rest : List Point} (hr : Follows rest) :
    takeFraction rest = none := by
  cases rest with
  | nil => rfl
  | cons c s => rcases hr c s rfl with rfl | rfl | rfl <;> rfl

theorem takeExponent_of_follows {rest : List Point} (hr : Follows rest) :
    takeExponent rest = none := by
  cases rest with
  | nil => rfl
  | cons c s => rcases hr c s rfl with rfl | rfl | rfl <;> rfl

theorem natAbs_lt_of_isWritable {i : Int} (h : Number.isWritable i = true) :
    i.natAbs < Nat.pow 10 Number.maxDigits := by
  rw [Number.isWritable, decide_eq_true_eq] at h
  exact h

section Whole

variable {s whole rest : List Point} (hw : takeWhole s = some (whole, rest))
  (hf : takeFraction rest = none) (he : takeExponent rest = none)
  (hl : whole.length ≤ Number.maxDigits)

include hw hf he hl

/-- A number without a point and without an exponent is the integer of its digits. -/
theorem takeNumber_of_whole (hs : ∀ t, s ≠ .char '-' :: t) :
    takeNumber s = .ok (int (Text.ofDecimal whole), rest) := by
  unfold takeNumber
  split
  rename_i negative unsigned h
  split at h
  · exact absurd rfl (hs _)
  · cases h
    simp only [hw, hf, he, Option.map_none, Option.getD_none, Option.isSome_none, Bool.or_self,
      Bool.false_eq_true, if_false, if_neg (Nat.not_lt.2 hl)]

theorem takeNumber_minus :
    takeNumber (.char '-' :: s) = .ok (int (-(Text.ofDecimal whole : Int)), rest) := by
  unfold takeNumber
  split
  rename_i negative unsigned h
  split at h
  · rename_i heq
    cases heq
    cases h
    simp only [hw, hf, he, Option.map_none, Option.getD_none, Option.isSome_none, Bool.or_self,
      Bool.false_eq_true, if_false, if_true, if_neg (Nat.not_lt.2 hl)]
  · rename_i hn
    exact absurd rfl (hn s)

end Whole

/-- **An integer** with few enough digits reads back. -/
theorem takeNumber_intText {i : Int} (hi : Number.isWritable i = true) {rest : List Point}
    (hr : Follows rest) : takeNumber ((Text.intText i).toList ++ rest) = .ok (int i, rest) := by
  have hpos : 0 < Number.maxDigits := by decide
  have hlen := Text.length_decimal_le hpos (natAbs_lt_of_isWritable hi)
  have hf := takeFraction_of_follows hr
  have he := takeExponent_of_follows hr
  cases i with
  | ofNat n =>
    have hsign : ∀ t, Text.decimal n ++ rest ≠ .char '-' :: t := by
      intro t ht
      cases hd : Text.decimal n with
      | nil => exact Text.decimal_ne_nil n hd
      | cons c ds =>
        have hc := Text.isAsciiDigit_of_mem_decimal (hd ▸ List.mem_cons_self)
        rw [hd, List.cons_append] at ht
        rw [(List.cons.inj ht).1] at hc
        exact absurd hc (by decide)
    rw [Text.intText, Text.natText, Text.toList_ofList,
      takeNumber_of_whole (takeWhole_decimal n hr.stopsDigits) hf he hlen hsign,
      Text.ofDecimal_decimal]
    rfl
  | negSucc n =>
    have htext : (Text.intText (.negSucc n)).toList = .char '-' :: Text.decimal (n + 1) := by
      have hn : (Text.natText (n + 1)).toList = Text.decimal (n + 1) := Text.toList_ofList
      rw [Text.intText, Text.toList_append, hn]
      rfl
    have hm := takeNumber_minus (takeWhole_decimal (n + 1) hr.stopsDigits) hf he hlen
    rw [Text.ofDecimal_decimal] at hm
    rw [htext, Int.negSucc_eq]
    exact hm

end FormulaSheet.Json
