import FormulaSheet.Proofs.Formula.Splitting
import FormulaSheet.Proofs.Label

/-!
# Displayed tokens are read back

The text that displays tokens has a space between any two of them. A lexeme of any kind ends before
a blank, so that in this text every token is a lexeme again, whatever followed it in the text that
it was taken from. Cells are the exception in that they become tokens in upper case; the token is a
cell again, and its own upper case (`Lexeme.IsNormal`).

* `Splits.trim`: blanks around a text that is made up of lexemes are not needed;
* `exists_isNormal`: the token of a lexeme is a lexeme itself;
* `splits_detokenize`: displayed lexemes make up the text that displays them;
* `tokenize_detokenize`: tokens are read back from the text that displays them.
-/

namespace FormulaSheet

namespace Lexeme

/-! ## Texts that need no trimming -/

theorem scan_append_of_gap {gap : List Point} (hg : IsGap gap) (s : List Point) :
    scan (gap ++ s) = scan s := by
  have hd := dropWhile_isGap_append hg s
  by_cases he : s.dropWhile isGap = []
  · have hs : IsGap s := by simpa using he
    rw [scan_of_gap hs, scan_of_gap fun c hc => (List.mem_append.1 hc).elim (hg c) (hs c)]
  · cases hl : lexeme? (s.dropWhile isGap) with
    | some found => rw [scan_of_lexeme? hl, scan_of_lexeme? (hd ▸ hl)]
    | none =>
      rw [scan_of_lexeme?_eq_none he hl, scan_of_lexeme?_eq_none (hd ▸ he) (hd ▸ hl), hd]

/-- **Blanks around a text** that is made up of lexemes are not needed. -/
theorem Splits.trim {s : List Point} {ls : List Lexeme} (h : Splits s ls []) :
    Splits (Text.trim s) ls [] := by
  obtain ⟨before, behind, hs, -, hbefore, hbehind⟩ := Text.exists_append_trim_append s
  have hgap {c : Point} (hc : c ∈ s) (hb : Text.isBlank c = true) : isGap c = true :=
    h.isGap_of_isBlank rfl hc hb
  have hfront : IsGap before := fun c hc => hgap (by rw [hs]; simp [hc]) (hbefore c hc)
  have hend : IsGap behind := fun c hc => hgap (by rw [hs]; simp [hc]) (hbehind c hc)
  have hcut := h.of_append_gap rfl hend hs
  rw [← scan_eq_ok_iff, scan_append_of_gap hfront] at hcut
  exact scan_eq_ok_iff.1 hcut

/-- An equals sign starts no lexeme. -/
theorem lexeme?_equals (s : List Point) : lexeme? (.char '=' :: s) = none :=
  rfl

theorem Splits.not_equals {s rest : List Point} {ls : List Lexeme} (hr : rest = []) :
    ¬ Splits (.char '=' :: s) ls rest := by
  intro h
  rw [hr, ← scan_eq_ok_iff, scan_of_lexeme?_eq_none] at h
  · cases h
  · exact List.cons_ne_nil _ _
  · exact lexeme?_equals s

/-- A text that is made up of lexemes has their tokens. -/
theorem Splits.tokenize_eq {s : List Point} {ls : List Lexeme} (h : Splits s ls []) :
    Formula.tokenize (Text.ofList s) = .ok (ls.map token) := by
  rw [Formula.tokenize_eq_ok_iff, Formula.body_of_trim_ne_cons, Text.toList_ofList]
  · exact ⟨ls, h.trim, rfl⟩
  · intro t ht
    rw [Text.toList_ofList] at ht
    exact Splits.not_equals rfl (ht ▸ h.trim)

/-! ## Cells in upper case -/

/-- The capital form of a letter is one capital. -/
theorem exists_upperChar_of_isLetter {c : Point} (h : isLetter c = true) :
    ∃ d, Text.upperChar c = [d] ∧ Label.isCapital d = true := by
  rw [isLetter_iff] at h
  have hn : c.toNat < 0x80 := by omega
  by_cases hl : 0x61 ≤ c.toNat ∧ c.toNat ≤ 0x7A
  · have hnat : (Point.ofNat (c.toNat - 0x20)).toNat = c.toNat - 0x20 :=
      Point.toNat_ofNat (by omega)
    refine ⟨Point.ofNat (c.toNat - 0x20), by simp [Text.upperChar, hn, hl], ?_⟩
    rw [Label.isCapital_iff, hnat]
    omega
  · exact ⟨c, Text.upperChar_of_not_lower hn hl, Label.isCapital_iff.2 (by omega)⟩

/-- The upper case of a cell is capitals and its digits. -/
theorem IsCell.exists_upper {s : List Point} (h : IsCell s) :
    ∃ letters digits, IsRun Label.isCapital letters ∧ IsRun Number.isAsciiDigit digits ∧
      s.dropWhile isLetter = digits ∧
      Text.upper (Text.ofList s) = Text.ofList (letters ++ digits) := by
  obtain ⟨letters, digits, ⟨hne, hl⟩, hd, rfl⟩ := h
  have hletters : (letters.flatMap Text.upperChar).length = letters.length ∧
      ∀ c ∈ letters.flatMap Text.upperChar, Label.isCapital c = true := by
    clear hne
    induction letters with
    | nil => exact ⟨rfl, by simp⟩
    | cons c letters ih =>
      obtain ⟨d, hcd, hdc⟩ := exists_upperChar_of_isLetter (hl c List.mem_cons_self)
      obtain ⟨hlength, hcapital⟩ := ih fun x hx => hl x (List.mem_cons_of_mem _ hx)
      rw [List.flatMap_cons, hcd]
      exact ⟨by simp [hlength], by simpa [hdc] using hcapital⟩
  have hdigits : digits.flatMap Text.upperChar = digits := by
    have := Text.upper_of_ascii_upper (s := Text.ofList digits) (by
      intro c hc
      have := Number.isAsciiDigit_iff.1 (hd.2 c (by simpa using hc))
      omega)
    simpa [Text.upper, Text.ofList_inj] using this
  refine ⟨letters.flatMap Text.upperChar, digits, ⟨?_, hletters.2⟩, hd, ?_, ?_⟩
  · rw [← List.length_pos_iff, hletters.1]
    exact List.length_pos_iff.2 hne
  · cases digits with
    | nil => exact absurd rfl hd.1
    | cons d digits =>
      have hstop := not_isLetter_of_isAsciiDigit (hd.2 d List.mem_cons_self)
      rw [List.dropWhile_append_of_pos hl, List.dropWhile_cons_of_neg (by simp [hstop])]
  · rw [Text.upper, Text.toList_ofList, List.flatMap_append, hdigits]

/-- Capitals and digits are their own upper case. -/
theorem upper_of_isCapital {letters digits : List Point}
    (hl : ∀ c ∈ letters, Label.isCapital c = true)
    (hd : ∀ c ∈ digits, Number.isAsciiDigit c = true) :
    Text.upper (Text.ofList (letters ++ digits)) = Text.ofList (letters ++ digits) := by
  refine Text.upper_of_ascii_upper fun c hc => ?_
  rw [Text.toList_ofList, List.mem_append] at hc
  rcases hc with hc | hc
  · have := Label.isCapital_iff.1 (hl c hc)
    omega
  · have := Number.isAsciiDigit_iff.1 (hd c hc)
    omega

/-! ## Lexemes that are their tokens -/

/-- A lexeme is its own token, and stands first in its own text. -/
structure IsNormal (l : Lexeme) : Prop where
  first : l.IsFirst l.chars
  token_eq : l.token = Text.ofList l.chars

theorem isLetter_of_isCapital {c : Point} (h : Label.isCapital c = true) : isLetter c = true := by
  rw [isLetter_iff]
  rw [Label.isCapital_iff] at h
  exact .inl h

/-- **The token of a lexeme** is a lexeme itself. -/
theorem exists_isNormal {l : Lexeme} {s : List Point} (h : l.IsFirst s) :
    ∃ n : Lexeme, n.IsNormal ∧ n.token = l.token := by
  have hself : l.IsFirst l.chars := h.of_prefix h.longest.starts (List.prefix_refl _)
  rcases l with ⟨kind, chars⟩
  cases kind with
  | cell =>
    obtain ⟨letters, digits, hl, hd, -, hupper⟩ := IsCell.exists_upper h.longest.fits
    have htoken : token ⟨.cell, letters ++ digits⟩ = Text.ofList (letters ++ digits) :=
      upper_of_isCapital hl.2 hd.2
    refine ⟨⟨.cell, letters ++ digits⟩, ⟨⟨⟨List.prefix_refl _, ?_, fun _ ho _ => ho.length_le⟩, ?_⟩,
      htoken⟩, htoken.trans hupper.symm⟩
    · exact ⟨letters, digits, ⟨hl.1, fun c hc => isLetter_of_isCapital (hl.2 c hc)⟩, hd, rfl⟩
    · intro kind hk
      cases hk
  | number => exact ⟨_, ⟨hself, rfl⟩, rfl⟩
  | word => exact ⟨_, ⟨hself, rfl⟩, rfl⟩
  | symbol => exact ⟨_, ⟨hself, rfl⟩, rfl⟩

theorem Splits.exists_isFirst {s rest : List Point} {ls : List Lexeme} (h : Splits s ls rest) :
    ∀ l ∈ ls, ∃ t, l.IsFirst t := by
  induction h with
  | stop => simp
  | lexeme _ hl _ ih =>
    intro l hm
    rcases List.mem_cons.1 hm with rfl | hm
    · exact ⟨_, hl⟩
    · exact ih l hm

/-- What stands first in its own text stands first in front of a blank, too. -/
theorem IsFirst.append {l : Lexeme} (h : l.IsFirst l.chars) {behind : List Point}
    (hb : ∀ c, behind.head? = some c → Text.isBlank c = true) : l.IsFirst (l.chars ++ behind) where
  longest := ⟨List.prefix_append _ _, h.longest.fits, fun _ ho hf =>
    (prefix_of_prefix_append hf ho hb).length_le⟩
  first kind hk other ho hf := h.first kind hk other (prefix_of_prefix_append hf ho hb) hf

theorem Splits.append_gap {gap s rest : List Point} {ls : List Lexeme} (hg : IsGap gap)
    (h : Splits s ls rest) : Splits (gap ++ s) ls rest := by
  cases h with
  | stop hg' =>
    rw [← List.append_assoc]
    exact .stop fun c hc => (List.mem_append.1 hc).elim (hg c) (hg' c)
  | lexeme hg' hl hs =>
    rw [← List.append_assoc]
    exact .lexeme (fun c hc => (List.mem_append.1 hc).elim (hg c) (hg' c)) hl hs

/-- **Displayed lexemes** make up the text that displays them. -/
theorem splits_detokenize {ls : List Lexeme} (h : ∀ l ∈ ls, l.IsNormal) :
    Splits (Formula.detokenize (ls.map token)).toList ls [] := by
  induction ls with
  | nil => exact .stop isGap_nil
  | cons l ls ih =>
    obtain ⟨hl, ht⟩ := h l List.mem_cons_self
    have hls := ih fun l' hl' => h l' (List.mem_cons_of_mem l hl')
    cases ls with
    | nil =>
      have hfirst : l.IsFirst (l.chars ++ []) := hl.append fun c hc => absurd hc (by simp)
      simpa [Formula.detokenize, ht] using Splits.lexeme isGap_nil hfirst (.stop isGap_nil)
    | cons l' ls =>
      have hspace : IsGap [Point.char ' '] := List.forall_mem_singleton.2 rfl
      have hfirst : l.IsFirst
          (l.chars ++ Point.char ' ' :: (Formula.detokenize ((l' :: ls).map token)).toList) := by
        refine hl.append fun c hc => ?_
        obtain rfl : ' ' = c := Option.some.inj hc
        decide
      rw [Formula.detokenize, List.map_cons, List.map_cons, Text.toList_intercalate_cons, ht]
      exact Splits.lexeme isGap_nil hfirst (hls.append_gap hspace)

end Lexeme

namespace Formula

/-- Every token of a text is the token of a lexeme that is its own. -/
theorem exists_isNormal_of_mem {text : Text} {tokens : List Text}
    (h : tokenize text = .ok tokens) {t : Text} (ht : t ∈ tokens) :
    ∃ l : Lexeme, l.IsNormal ∧ l.token = t := by
  obtain ⟨ls, hls, rfl⟩ := tokenize_eq_ok_iff.1 h
  obtain ⟨l, hl, rfl⟩ := List.mem_map.1 ht
  obtain ⟨s, hs⟩ := hls.exists_isFirst l hl
  exact Lexeme.exists_isNormal hs

theorem exists_lexemes {tokens : List Text}
    (h : ∀ t ∈ tokens, ∃ l : Lexeme, l.IsNormal ∧ l.token = t) :
    ∃ ls : List Lexeme, (∀ l ∈ ls, l.IsNormal) ∧ ls.map Lexeme.token = tokens := by
  induction tokens with
  | nil => exact ⟨[], by simp, rfl⟩
  | cons t tokens ih =>
    obtain ⟨l, hl, rfl⟩ := h t List.mem_cons_self
    obtain ⟨ls, hls, rfl⟩ := ih fun t' ht' => h t' (List.mem_cons_of_mem _ ht')
    exact ⟨l :: ls, List.forall_mem_cons.2 ⟨hl, hls⟩, rfl⟩

theorem tokenize_detokenize_of_isNormal {tokens : List Text}
    (h : ∀ t ∈ tokens, ∃ l : Lexeme, l.IsNormal ∧ l.token = t) :
    tokenize (detokenize tokens) = .ok tokens := by
  obtain ⟨ls, hls, rfl⟩ := exists_lexemes h
  have := (Lexeme.splits_detokenize hls).tokenize_eq
  rwa [Text.ofList_toList] at this

/-- **Displayed tokens are read back**: from tokens each of which is the only token of its own text,
and from all tokens of any text, since these are such tokens. -/
theorem tokenize_detokenize :
    (∀ tokens : List Text, (∀ t ∈ tokens, tokenize t = .ok [t]) →
      tokenize (detokenize tokens) = .ok tokens) ∧
    (∀ (text : Text) (tokens : List Text), tokenize text = .ok tokens →
      (∀ t ∈ tokens, tokenize t = .ok [t]) ∧ tokenize (detokenize tokens) = .ok tokens) := by
  refine ⟨fun tokens h => ?_, fun text tokens h => ⟨fun t ht => ?_, ?_⟩⟩
  · exact tokenize_detokenize_of_isNormal fun t ht =>
      exists_isNormal_of_mem (h t ht) List.mem_cons_self
  · have hone : tokenize (detokenize [t]) = .ok [t] := by
      refine tokenize_detokenize_of_isNormal fun t' ht' => ?_
      rw [List.mem_singleton.1 ht']
      exact exists_isNormal_of_mem h ht
    rwa [detokenize, Text.intercalate_singleton] at hone
  · exact tokenize_detokenize_of_isNormal fun t ht => exists_isNormal_of_mem h ht

theorem tokenize_detokenize_of_cells :
    tokenize (detokenize ["A1", "1e3", "E3", "("]) = .ok ["A1", "1e3", "E3", "("] ∧
      tokenize "a1 .5b" = .ok ["A1", ".5", "b"] ∧
      tokenize (detokenize ["A1", ".5", "b"]) = .ok ["A1", ".5", "b"] := by
  have hown : ∀ t ∈ [("A1" : Text), "1e3", "E3", "("], tokenize t = .ok [t] := by
    simp only [List.forall_mem_cons, List.not_mem_nil, false_implies, implies_true, and_true]
    exact ⟨by cbv, by cbv, by cbv, by cbv⟩
  have htext : tokenize "a1 .5b" = .ok ["A1", ".5", "b"] := by cbv
  exact ⟨tokenize_detokenize.1 _ hown, htext, (tokenize_detokenize.2 _ _ htext).2⟩

end Formula

end FormulaSheet
