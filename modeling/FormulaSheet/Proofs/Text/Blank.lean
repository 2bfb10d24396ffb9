import FormulaSheet.Proofs.Text.Digit
import FormulaSheet.Text.Blank
import FormulaSheet.Text.Digit
import Mathlib.Data.List.DropRight

/-!
# Trimming

Trimming takes blanks away at the ends of a text and nothing else: what stays starts and ends with a
character that is no blank, and what goes are blanks.

* `exists_append_trim_append`: a text is what trimming leaves with blanks around it;
* `trim_append`: whatever ends with no blank is left alone behind blanks;
* `not_isBlank_of_isDecimalDigit`: no digit of any script is a blank.
-/

namespace FormulaSheet.Text

/-- The text does not start with a blank. -/
def StartsSolid (s : List Point) : Prop :=
  ∀ c, s.head? = some c → isBlank c = false

theorem trimLeft_append_of_blank {gap : List Point} (h : ∀ c ∈ gap, isBlank c = true)
    (s : List Point) : trimLeft (gap ++ s) = trimLeft s :=
  List.dropWhile_append_of_pos h

theorem trimLeft_of_startsSolid {s : List Point} (h : StartsSolid s) : trimLeft s = s := by
  cases s with
  | nil => rfl
  | cons c s => exact trimLeft_cons_of_not_blank s (h c rfl)

theorem startsSolid_trimLeft (s : List Point) : StartsSolid (trimLeft s) := by
  intro c hc
  have hne : s.dropWhile isBlank ≠ [] := by
    intro hn
    rw [trimLeft, hn] at hc
    cases hc
  have hh := List.head_dropWhile_not isBlank hne
  rw [trimLeft, List.head?_eq_some_head hne] at hc
  rw [← Option.some.inj hc, hh]

theorem exists_trimRight_append (s : List Point) :
    ∃ gap, trimRight s ++ gap = s ∧ ∀ c ∈ gap, isBlank c = true :=
  ⟨s.rtakeWhile isBlank, List.rdropWhile_append_rtakeWhile, fun _ => List.mem_rtakeWhile_imp⟩

/-- What starts with no blank keeps its first character when it is trimmed on the right. -/
theorem trimRight_cons_of_not_blank {c : Point} (h : isBlank c = false) (s : List Point) :
    trimRight (c :: s) = c :: trimRight s := by
  rw [trimRight, List.reverse_cons, List.dropWhile_append]
  cases hs : s.reverse.dropWhile isBlank with
  | nil => simp [trimRight, hs, h]
  | cons d rest => simp [trimRight, hs]

/-- **A text is what trimming leaves**, with blanks around it. -/
theorem exists_append_trim_append (s : List Point) :
    ∃ before behind, s = before ++ trim s ++ behind ∧ leadingBlanks s = before.length ∧
      (∀ c ∈ before, isBlank c = true) ∧ ∀ c ∈ behind, isBlank c = true := by
  obtain ⟨behind, hs, hb⟩ := exists_trimRight_append (trimLeft s)
  refine ⟨s.takeWhile isBlank, behind, ?_, rfl, List.all_eq_true.1 List.all_takeWhile, hb⟩
  rw [List.append_assoc, trim, hs, trimLeft, List.takeWhile_append_dropWhile]

/-- Behind blanks, a text that starts with none is trimmed on the right only. -/
theorem trim_append {before s : List Point} (hb : ∀ c ∈ before, isBlank c = true)
    (hs : StartsSolid s) : trim (before ++ s) = trimRight s := by
  rw [trim, trimLeft_append_of_blank hb, trimLeft_of_startsSolid hs]

/-- What is left does not start with a blank, nor does any beginning of it. -/
theorem startsSolid_of_prefix_trim {a s : List Point} (h : a <+: trim s) : StartsSolid a := by
  intro c hc
  obtain ⟨gap, hs, -⟩ := exists_trimRight_append (trimLeft s)
  obtain ⟨t, ht⟩ := h.trans ⟨gap, hs⟩
  refine startsSolid_trimLeft s c ?_
  rw [← ht, List.head?_append, hc]
  rfl

/-- A text without blanks is left alone. -/
theorem trim_eq_self {s : List Point} (h : ∀ c ∈ s, isBlank c = false) : trim s = s := by
  have hleft {t : List Point} (ht : ∀ c ∈ t, isBlank c = false) : t.dropWhile isBlank = t := by
    cases t with
    | nil => rfl
    | cons c t => exact trimLeft_cons_of_not_blank t (ht c List.mem_cons_self)
  have hright : s.reverse.dropWhile isBlank = s.reverse :=
    hleft fun c hc => h c (List.mem_reverse.1 hc)
  rw [trim, trimLeft, hleft h, trimRight, hright, List.reverse_reverse]

/-- **No digit** of any script is a blank. -/
theorem not_isBlank_of_isDecimalDigit {c : Point} (h : isDecimalDigit c = true) :
    isBlank c = false := by
  have key : ∀ z ∈ zeros, ∀ d < 10, isBlank (Point.ofNat (z + d)) = false := by decide +kernel
  rw [isDecimalDigit, digitValue?, Option.isSome_map] at h
  obtain ⟨z, hz⟩ := Option.isSome_iff_exists.1 h
  have hm := List.mem_of_find?_eq_some hz
  have hc := List.find?_some hz
  simp only [Bool.and_eq_true, decide_eq_true_eq] at hc
  have hk := key z hm (c.toNat - z) (by omega)
  rwa [Nat.add_sub_cancel' hc.1, Point.ofNat_toNat] at hk

theorem not_isBlank_of_isAsciiDigit {c : Point} (h : Number.isAsciiDigit c = true) :
    isBlank c = false := by
  rw [Number.isAsciiDigit_iff] at h
  simp only [isBlank, Bool.or_eq_false_iff, Bool.and_eq_false_iff, decide_eq_false_iff_not,
    beq_eq_false_iff_ne]
  omega

end FormulaSheet.Text
