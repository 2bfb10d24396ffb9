import FormulaSheet.Json.Printer
import FormulaSheet.Json.Reader

/-!
# Texts are read as they were written

A text is written between quotes with every character escaped that is not an ASCII character that
can be seen. Characters beyond the first 65536 are written as two numbers, and halves of such
characters by the number they keep. So a text reads back as it was, but for two halves that stand in
it side by side and are read as one character.

* `takeUnits_escape`: what one character is written as gives the numbers of this character;
* `joinUnits_flatMap`: the numbers of characters give the characters;
* `takeText_quote`: a text between quotes is read up to the closing quote.
-/

namespace FormulaSheet.Json

/-- Whether no two code points side by side are the halves of one character. -/
def halvesApart : List Point → Bool
  | c :: d :: s => !(isHigh c.toNat && isLow d.toNat) && halvesApart (d :: s)
  | _ => true

/-- The halves of characters in the text are joined wherever they stand side by side. A text without
halves is joined. -/
def IsJoined (s : Text) : Prop :=
  halvesApart s.toList = true

instance (s : Text) : Decidable (IsJoined s) :=
  inferInstanceAs (Decidable (halvesApart s.toList = true))

theorem isJoined_of_isChar {s : Text} (h : ∀ c ∈ s.toList, c.isChar = true) : IsJoined s := by
  have hall (t : List Point) (ht : ∀ c ∈ t, c.isChar = true) : halvesApart t = true := by
    induction t with
    | nil => rfl
    | cons c t ih =>
      cases t with
      | nil => rfl
      | cons d t =>
        have hc : isHigh c.toNat = false := by
          have := Point.isChar_iff.1 (ht c List.mem_cons_self)
          rw [isHigh, Bool.and_eq_false_iff, decide_eq_false_iff_not, decide_eq_false_iff_not]
          omega
        rw [halvesApart, hc, ih fun e he => ht e (List.mem_cons_of_mem c he)]
        rfl
  exact hall s.toList h

/-- The numbers by which a code point is written. -/
def charUnits (c : Point) : List Nat :=
  if c.toNat < 0x10000 then [c.toNat] else [highUnit c.toNat, lowUnit c.toNat]

theorem charUnits_of_lt {c : Point} (h : c.toNat < 0x10000) : charUnits c = [c.toNat] := by
  rw [charUnits, if_pos h]

/-! ## Numbers in hexadecimal -/

theorem hexValue?_hexDigit {d : Nat} (h : d < 16) :
    Number.hexValue? (Text.hexDigit d) = some d := by
  have all : ∀ d < 16, Number.hexValue? (Text.hexDigit d) = some d := by decide
  exact all d h

theorem unitValue?_hexDigit {a b c d : Nat} (ha : a < 16) (hb : b < 16) (hc : c < 16)
    (hd : d < 16) :
    unitValue? (Text.hexDigit a) (Text.hexDigit b) (Text.hexDigit c) (Text.hexDigit d) =
      some (((a * 16 + b) * 16 + c) * 16 + d) := by
  simp [unitValue?, Number.ofDigits?, hexValue?_hexDigit, Option.filter, ha, hb, hc, hd]

theorem takeUnits_unit {n : Nat} (h : n < 0x10000) (s : List Point) :
    takeUnits (unit n ++ s) = (takeUnits s).map fun r => (n :: r.1, r.2) := by
  have hex :
      Text.hex 4 n = [Text.hexDigit (n / 16 / 16 / 16 % 16), Text.hexDigit (n / 16 / 16 % 16),
      Text.hexDigit (n / 16 % 16), Text.hexDigit (n % 16)] := rfl
  have hlt (m : Nat) : m % 16 < 16 := Nat.mod_lt m (by omega)
  rw [unit, hex, List.cons_append, List.cons_append, List.cons_append, List.cons_append,
    List.cons_append, List.cons_append, List.nil_append, takeUnits,
    unitValue?_hexDigit (hlt _) (hlt _) (hlt _) (hlt _)]
  have hn : ((n / 16 / 16 / 16 % 16 * 16 + n / 16 / 16 % 16) * 16 + n / 16 % 16) * 16 + n % 16 =
      n := by
    omega
  rw [hn]
  cases takeUnits s with
  | none => rfl
  | some r => rfl

/-! ## Characters -/

/-- The forms in which a character is written. -/
inductive Escaped (c : Point) : List Point → Prop
  /-- by a backslash and a letter -/
  | letter {k : Point} (hu : k ≠ 'u') (hk : escaped? k = some c) (hn : c.toNat < 0x10000) :
    Escaped c [.char '\\', k]
  /-- as itself -/
  | plain (hq : c ≠ '"') (hb : c ≠ '\\') (hv : 0x20 ≤ c.toNat) (hn : c.toNat < 0x10000) :
    Escaped c [c]
  /-- by its number -/
  | number (hn : c.toNat < 0x10000) : Escaped c (unit c.toNat)
  /-- by two numbers -/
  | pair (hn : ¬c.toNat < 0x10000) :
    Escaped c (unit (highUnit c.toNat) ++ unit (lowUnit c.toNat))

theorem escaped_escape (c : Point) : Escaped c (escape c) := by
  have of_toNat {n : Nat} (hn : c.toNat = n) : c = Point.ofNat n := by rw [← hn, Point.ofNat_toNat]
  unfold escape
  split
  · rename_i hc
    exact .letter (k := '"') (by decide) (by rw [hc]; rfl) (by rw [hc]; decide)
  split
  · rename_i hc
    exact .letter (k := '\\') (by decide) (by rw [hc]; rfl) (by rw [hc]; decide)
  split
  · rename_i hc
    exact .letter (k := 'n') (by decide) (by rw [hc]; rfl) (by rw [hc]; decide)
  split
  · rename_i hc
    exact .letter (k := 'r') (by decide) (by rw [hc]; rfl) (by rw [hc]; decide)
  split
  · rename_i hc
    exact .letter (k := 't') (by decide) (by rw [hc]; rfl) (by rw [hc]; decide)
  split
  · rename_i hn
    exact .letter (k := 'b') (by decide) (congrArg some (of_toNat hn).symm) (by omega)
  split
  · rename_i hn
    exact .letter (k := 'f') (by decide) (congrArg some (of_toNat hn).symm) (by omega)
  split
  · rename_i hq hb _ _ _ _ _ hv
    exact .plain hq hb hv.1 (by omega)
  split
  · rename_i hn
    exact .number hn
  · rename_i hn
    exact .pair hn

theorem takeUnits_letter {c k : Point} (hu : k ≠ 'u') (hk : escaped? k = some c) (s : List Point) :
    takeUnits (.char '\\' :: k :: s) = (takeUnits s).map fun r => (c.toNat :: r.1, r.2) := by
  rw [takeUnits]
  · rw [hk]
    cases takeUnits s with
    | none => rfl
    | some r => rfl
  · intro _ _ _ _ _ h
    exact absurd h hu

theorem takeUnits_plain {c : Point} (hq : c ≠ '"') (hb : c ≠ '\\') (hv : 0x20 ≤ c.toNat)
    (s : List Point) : takeUnits (c :: s) = (takeUnits s).map fun r => (c.toNat :: r.1, r.2) := by
  rw [takeUnits]
  · rw [if_neg (by simp [hb, Nat.not_lt.2 hv])]
    cases takeUnits s with
    | none => rfl
    | some r => rfl
  · exact hq
  · intro _ _ _ _ _ h
    exact absurd h hb
  · intro _ _ h
    exact absurd h hb

/-- **What a character is written as** gives the numbers of this character. -/
theorem takeUnits_escape (c : Point) (s : List Point) :
    takeUnits (escape c ++ s) = (takeUnits s).map fun r => (charUnits c ++ r.1, r.2) := by
  have hmax := c.toNat_lt
  have hform := escaped_escape c
  generalize escape c = t at hform ⊢
  cases hform with
  | letter hu hk hn =>
    rw [charUnits_of_lt hn]
    exact takeUnits_letter hu hk s
  | plain hq hb hv hn =>
    rw [charUnits_of_lt hn]
    exact takeUnits_plain hq hb hv s
  | number hn =>
    rw [charUnits_of_lt hn]
    exact takeUnits_unit hn s
  | pair hn =>
    have hhigh : highUnit c.toNat < 0x10000 := by
      rw [highUnit]
      omega
    have hlow : lowUnit c.toNat < 0x10000 := by
      rw [lowUnit]
      omega
    rw [charUnits, if_neg hn, List.append_assoc, takeUnits_unit hhigh, takeUnits_unit hlow]
    cases takeUnits s with
    | none => rfl
    | some r => rfl

theorem takeUnits_flatMap (s rest : List Point) :
    takeUnits (s.flatMap escape ++ Point.char '"' :: rest) = some (s.flatMap charUnits, rest) := by
  induction s with
  | nil => rfl
  | cons c s ih =>
    rw [List.flatMap_cons, List.append_assoc, takeUnits_escape, ih]
    rfl

/-! ## Numbers of characters -/

theorem exists_charUnits (c : Point) : ∃ n ns, charUnits c = n :: ns := by
  rw [charUnits]
  split
  · exact ⟨_, _, rfl⟩
  · exact ⟨_, _, rfl⟩

/-- The first number of a code point is the second half of a character only if the code point is. -/
theorem isLow_of_charUnits {c : Point} {n : Nat} {ns : List Nat} (h : charUnits c = n :: ns) :
    isLow n = isLow c.toNat := by
  have hmax := c.toNat_lt
  rw [charUnits] at h
  split at h
  · rw [(List.cons.inj h).1]
  · rw [← (List.cons.inj h).1, highUnit, Bool.eq_iff_iff]
    simp only [isLow, Bool.and_eq_true, decide_eq_true_eq]
    omega

/-- The numbers of a character give the character, unless it is a first half and what follows it is
a second. -/
theorem joinUnits_charUnits {c : Point} {ns : List Nat}
    (h : isHigh c.toNat = true → ∀ m ms, ns = m :: ms → isLow m = false) :
    joinUnits (charUnits c ++ ns) = c :: joinUnits ns := by
  have hmax := c.toNat_lt
  rw [charUnits]
  split
  · cases ns with
    | nil => simp [joinUnits, Point.ofNat_toNat]
    | cons m ms =>
      have hpair : (isHigh c.toNat && isLow m) = false := by
        cases hn : isHigh c.toNat with
        | false => rfl
        | true => exact h hn m ms rfl
      simp [joinUnits, hpair, Point.ofNat_toNat]
  · have hhigh : isHigh (highUnit c.toNat) = true := by
      rw [isHigh, Bool.and_eq_true, decide_eq_true_eq, decide_eq_true_eq, highUnit]
      omega
    have hlow : isLow (lowUnit c.toNat) = true := by
      rw [isLow, Bool.and_eq_true, decide_eq_true_eq, decide_eq_true_eq, lowUnit]
      omega
    have hnumber : 0x10000 + (highUnit c.toNat - 0xD800) * 0x400 +
        (lowUnit c.toNat - 0xDC00) = c.toNat := by
      simp only [highUnit, lowUnit]
      omega
    simp only [List.cons_append, List.nil_append, joinUnits, hhigh, hlow, Bool.and_self, if_true,
      hnumber, Point.ofNat_toNat]

/-- **The numbers of characters** give the characters. -/
theorem joinUnits_flatMap {s : List Point} (h : halvesApart s = true) :
    joinUnits (s.flatMap charUnits) = s := by
  induction s with
  | nil => rfl
  | cons c s ih =>
    cases s with
    | nil =>
      have hc : joinUnits (charUnits c ++ []) = [c] := joinUnits_charUnits nofun
      rw [List.append_nil] at hc
      rw [List.flatMap_singleton, hc]
    | cons d s =>
      rw [halvesApart, Bool.and_eq_true, Bool.not_eq_true', Bool.and_eq_false_iff] at h
      -- the next character is no second half, and so neither is the first of its numbers
      have hfirst : isHigh c.toNat = true → ∀ m ms, (d :: s).flatMap charUnits = m :: ms →
          isLow m = false := by
        intro hc m ms hm
        obtain ⟨n, ns, hd⟩ := exists_charUnits d
        rw [List.flatMap_cons, hd] at hm
        rw [← (List.cons.inj hm).1, isLow_of_charUnits hd]
        exact h.1.resolve_left (by rw [hc]; exact Bool.noConfusion)
      rw [List.flatMap_cons, joinUnits_charUnits hfirst, ih h.2]

/-- The text with halves of characters joined wherever they stand side by side. -/
def rejoined (s : Text) : Text :=
  Text.ofList (joinUnits (s.toList.flatMap charUnits))

theorem IsJoined.rejoined_eq {s : Text} (h : IsJoined s) : rejoined s = s := by
  rw [rejoined, joinUnits_flatMap h, Text.ofList_toList]

/-- **A text between quotes** is read up to the closing quote. The opening one was taken already. -/
theorem takeText_quote (s : Text) (rest : List Point) :
    takeText (s.toList.flatMap escape ++ Point.char '"' :: rest) = .ok (rejoined s, rest) := by
  rw [takeText, takeUnits_flatMap]
  rfl

end FormulaSheet.Json
