import FormulaSheet.CommandLine.Output
import FormulaSheet.Proofs.Formula.Lexeme
import FormulaSheet.Proofs.Json.Strict
import FormulaSheet.Proofs.Number.Display

/-!
# What reaches the output

A text reaches the output without its codes, where there is no terminal, and if it has no half of a
character. A code has neither a blank nor half of a character in it, so none of these is lost with
it. What has no character that starts a code is written as it is; documents and numbers have none.

* `plain_of_notMem`: a text without the character that starts codes is plain;
* `mem_plain`: a character that stands in no code is left;
* `write_of_writable`, `write_of_unwritable`: texts that can all be written, and the first of them
  that cannot;
* `write_of_printed`: what can be seen is written as it is, as are line feeds.
-/

namespace FormulaSheet.CommandLine

/-! ## Codes -/

/-- Whether the character stands in codes. -/
def isOfCode (c : Point) : Bool :=
  c == escapePoint || c == '[' || isParameter c || Lexeme.isLetter c

theorem isChar_of_isOfCode {c : Point} (h : isOfCode c = true) : c.isChar = true := by
  rw [Point.isChar_iff]
  simp only [isOfCode, isParameter, Bool.or_eq_true, beq_iff_eq, Number.isAsciiDigit_iff,
    Lexeme.isLetter_iff] at h
  rcases h with ((rfl | rfl) | (rfl | rfl) | h) | h
  · decide
  · decide
  · decide
  · decide
  · omega
  · omega

theorem isOfCode_of_codeEnd? {s : List Point} {n : Nat} (h : codeEnd? s = some n) :
    ∀ c ∈ s.take n, isOfCode c = true := by
  induction s generalizing n with
  | nil => cases h
  | cons c s ih =>
    rw [codeEnd?] at h
    split at h
    · rename_i hletter
      cases h
      exact List.forall_mem_singleton.2 (by simp [isOfCode, hletter])
    split at h
    · rename_i hparameter
      obtain ⟨n, hn, rfl⟩ := Option.map_eq_some_iff.1 h
      exact List.forall_mem_cons.2 ⟨by simp [isOfCode, hparameter], ih hn⟩
    · cases h

theorem isOfCode_of_code? {c : Point} {s : List Point} {n : Nat} (h : code? (c :: s) = some n) :
    c = escapePoint ∧ ∀ d ∈ s.take n, isOfCode d = true := by
  rw [code?.eq_def] at h
  split at h
  · rename_i first rest hs
    obtain ⟨rfl, rfl⟩ := List.cons.inj hs
    split at h
    · rename_i hfirst
      obtain ⟨n, hn, rfl⟩ := Option.map_eq_some_iff.1 h
      exact ⟨hfirst, List.forall_mem_cons.2 ⟨rfl, isOfCode_of_codeEnd? hn⟩⟩
    · cases h
  · cases h

theorem mem_of_mem_plainFrom {n : Nat} {s : List Point} {c : Point} (h : c ∈ plainFrom n s) :
    c ∈ s := by
  induction s generalizing n with
  | nil =>
    rw [plainFrom] at h
    exact h
  | cons d s ih =>
    cases n with
    | succ n => exact List.mem_cons_of_mem d (ih h)
    | zero =>
      rw [plainFrom] at h
      split at h
      · rcases List.mem_cons.1 h with rfl | h
        · exact List.mem_cons_self
        · exact List.mem_cons_of_mem d (ih h)
      · exact List.mem_cons_of_mem d (ih h)

/-- A character that stands in no code is left. -/
theorem mem_plainFrom {c : Point} (hc : isOfCode c = false) {n : Nat} {s : List Point}
    (h : c ∈ s.drop n) : c ∈ plainFrom n s := by
  induction s generalizing n with
  | nil => simp at h
  | cons d s ih =>
    cases n with
    | succ n => exact ih h
    | zero =>
      rw [plainFrom]
      split
      · rcases List.mem_cons.1 h with rfl | h
        · exact List.mem_cons_self
        · exact List.mem_cons_of_mem d (ih h)
      · rename_i n hcode
        obtain ⟨rfl, hrest⟩ := isOfCode_of_code? hcode
        rcases List.mem_cons.1 h with rfl | h
        · cases hc
        · rw [← List.take_append_drop n s, List.mem_append] at h
          refine ih (h.resolve_left fun hm => ?_)
          rw [hrest c hm] at hc
          cases hc

theorem mem_plain {c : Point} (hc : isOfCode c = false) {s : Text} :
    c ∈ (plain s).toList ↔ c ∈ s.toList :=
  ⟨mem_of_mem_plainFrom, fun h => mem_plainFrom hc (by rwa [List.drop_zero])⟩

/-- A text without the character that starts codes is plain. -/
theorem plain_of_notMem {s : Text} (h : escapePoint ∉ s.toList) : plain s = s := by
  have hfrom (t : List Point) (ht : escapePoint ∉ t) : plainFrom 0 t = t := by
    induction t with
    | nil => rfl
    | cons c t ih =>
      obtain ⟨hc, ht⟩ := List.ne_and_not_mem_of_not_mem_cons ht
      rw [plainFrom]
      split
      · rw [ih ht]
      · rename_i n hcode
        exact absurd (isOfCode_of_code? hcode).1.symm hc
  rw [plain, hfrom s.toList h]

/-! ## Answers -/

variable {terminal : Bool}

/-- A text can be written if it has no half of a character. -/
def IsWritable (s : Text) : Prop :=
  ∀ p ∈ s.toList, p.isChar = true

instance (s : Text) : Decidable (IsWritable s) :=
  inferInstanceAs (Decidable (∀ p ∈ s.toList, p.isChar = true))

theorem mem_sent {c : Point} (hc : isOfCode c = false) {s : Text} :
    c ∈ (sent terminal s).toList ↔ c ∈ s.toList := by
  rw [sent]
  split
  · exact Iff.rfl
  · exact mem_plain hc

theorem sent_of_notMem {s : Text} (h : escapePoint ∉ s.toList) : sent terminal s = s := by
  rw [sent]
  split
  · rfl
  · exact plain_of_notMem h

/-- What is left out has no half of a character. -/
theorem isWritable_sent {s : Text} : IsWritable (sent terminal s) ↔ IsWritable s := by
  have hsame {p : Point} (hp : p.isChar = false) :
      p ∈ (sent terminal s).toList ↔ p ∈ s.toList := by
    refine mem_sent (Bool.eq_false_iff.2 fun hc => ?_)
    rw [isChar_of_isOfCode hc] at hp
    cases hp
  constructor
  · intro h p hp
    cases hc : p.isChar with
    | true => rfl
    | false => rw [← hc, h p ((hsame hc).2 hp)]
  · intro h p hp
    cases hc : p.isChar with
    | true => rfl
    | false => rw [← hc, h p ((hsame hc).1 hp)]

theorem isWritable_append {s t : Text} : IsWritable (s ++ t) ↔ IsWritable s ∧ IsWritable t := by
  simp only [IsWritable, Text.toList_append, List.forall_mem_append]

theorem isWritable_ofString (s : String) : IsWritable s := fun p hp => by
  obtain ⟨c, -, rfl⟩ := List.mem_map.1 hp
  rfl

theorem write_cons_of_writable {s : Text} (h : IsWritable s) (texts : List Text) :
    write terminal (s :: texts) =
      (sent terminal s ++ (write terminal texts).1, (write terminal texts).2) := by
  rw [write, Utf8.halves?_eq_none_iff.2 (isWritable_sent.2 h)]

/-- **Texts that can all be written.** -/
theorem write_of_writable {texts : List Text} (h : ∀ s ∈ texts, IsWritable s) :
    write terminal texts = (Text.join (texts.map (sent terminal)), none) := by
  induction texts with
  | nil => rfl
  | cons s texts ih =>
    obtain ⟨hs, htexts⟩ := List.forall_mem_cons.1 h
    rw [write_cons_of_writable hs, ih htexts]
    rfl

/-- **The first text that cannot be written** and what was written before. -/
theorem write_of_unwritable {before : List Text} (behind : List Text) {s : Text}
    (h : ∀ t ∈ before, IsWritable t) (hs : ¬ IsWritable s) :
    ∃ halves, Utf8.halves? (sent terminal s) = some halves ∧
      write terminal (before ++ s :: behind) =
        (Text.join (before.map (sent terminal)), some (.unencodable halves)) := by
  obtain ⟨halves, hh⟩ : ∃ halves, Utf8.halves? (sent terminal s) = some halves := by
    refine Option.ne_none_iff_exists'.1 fun hn => hs ?_
    exact isWritable_sent.1 (Utf8.halves?_eq_none_iff.1 hn)
  refine ⟨halves, hh, ?_⟩
  induction before with
  | nil =>
    rw [List.nil_append, write, hh]
    rfl
  | cons t before ih =>
    obtain ⟨ht, hbefore⟩ := List.forall_mem_cons.1 h
    rw [List.cons_append, write_cons_of_writable ht, ih hbefore]
    rfl

theorem write_singleton_of_unwritable {s : Text} (h : ¬ IsWritable s) :
    ∃ halves, write terminal [s] = (("" : Text), some (.unencodable halves)) := by
  obtain ⟨halves, -, hw⟩ := write_of_unwritable [] (List.forall_mem_nil _) h
  exact ⟨halves, hw⟩

/-! ## Numbers and documents -/

/-- A number is shown in ASCII characters that can be seen, and without a blank. -/
theorem Number.isVisible_of_mem_display {x : Float} {c : Point}
    (h : c ∈ (Number.display x).toList) :
    Json.isVisible c = true ∧ c ≠ ' ' := by
  cases hx : x.isFinite with
  | true =>
    obtain ⟨n, hn⟩ := Number.exists_numeral_of_display hx
    rw [hn] at h
    refine ⟨n.isVisible c h, ?_⟩
    rintro rfl
    rcases n.mem_chars h with hc | hc <;> exact absurd hc (by decide)
  | false =>
    have hwords : ∀ word ∈ [("nan" : Text), "-inf", "inf"],
        ∀ c ∈ word.toList, Json.isVisible c = true ∧ c ≠ ' ' := by decide
    rw [Number.display, hx] at h
    split at h
    · exact hwords _ (by decide) c h
    rw [Bool.not_false, if_pos rfl] at h
    split at h
    · exact hwords _ (by decide) c h
    · exact hwords _ (by decide) c h

/-- The character can be seen, or it ends a line of a document. -/
def IsPrinted (c : Point) : Prop :=
  Json.isVisible c = true ∨ c = '\n'

instance (c : Point) : Decidable (IsPrinted c) :=
  inferInstanceAs (Decidable (_ ∨ _))

theorem IsPrinted.isChar {c : Point} (h : IsPrinted c) : c.isChar = true := by
  rcases h with h | rfl
  · exact Json.isChar_of_isVisible h
  · rfl

theorem not_isPrinted_escape : ¬ IsPrinted escapePoint := by
  rintro (h | h) <;> exact absurd h (by decide)

/-- A text of characters that are printed is written as it is. -/
theorem write_of_printed {s : Text} (h : ∀ c ∈ s.toList, IsPrinted c) :
    write terminal [s] = (s, none) := by
  have hsent : sent terminal s = s := sent_of_notMem fun hm => not_isPrinted_escape (h _ hm)
  rw [write_of_writable (List.forall_mem_singleton.2 fun c hc => (h c hc).isChar),
    List.map_singleton, hsent]
  simp [Text.join]

end FormulaSheet.CommandLine
