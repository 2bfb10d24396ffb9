import Mathlib
import FormulaSheet.Proofs.Formula.Lexeme
import FormulaSheet.Proofs.Result
import FormulaSheet.Proofs.Text.Blank

/-!
# Splitting loses nothing

The text of a formula is lexemes with gaps between them (`Lexeme.Splits`), and each lexeme is the
one that stands first in the text from its place on. Splitting a text finds these lexemes if it
succeeds. If it fails, the error names a character of the text that starts no lexeme, with its place
in the whole text; what stands in front of it can be split.

* `scan_eq_ok_iff`: a text is split into lexemes exactly if it is made up of them;
* `splits_of_scan_eq_error`: the rest of a text that cannot be split further;
* `Splits.of_append_gap`: gaps at the end of a text are not needed;
* `exists_body`: where the body of a formula stands in its text;
* `tokenize_lossless`: both results of `tokenize`.
-/

namespace FormulaSheet

namespace Lexeme

/-! ## Gaps and blanks -/

/-- Characters that are skipped between lexemes. -/
abbrev IsGap (gap : List Point) : Prop :=
  ∀ c ∈ gap, isGap c = true

theorem isGap_nil : IsGap [] :=
  fun _ hc => absurd hc List.not_mem_nil

theorem isBlank_of_isGap {c : Point} (h : isGap c = true) : Text.isBlank c = true := by
  simp only [isGap, Bool.or_eq_true, beq_iff_eq] at h
  rcases h with (((rfl | rfl) | rfl) | rfl) | rfl <;> decide

theorem not_isBlank_of_isLetter {c : Point} (h : isLetter c = true) : Text.isBlank c = false := by
  rw [isLetter_iff] at h
  rw [Bool.eq_false_iff]
  simp only [Text.isBlank, Ne, Bool.or_eq_true, Bool.and_eq_true, decide_eq_true_eq, beq_iff_eq]
  omega

theorem not_isBlank_of_isAsciiDigit {c : Point} (h : Number.isAsciiDigit c = true) :
    Text.isBlank c = false := by
  rw [Number.isAsciiDigit_iff] at h
  rw [Bool.eq_false_iff]
  simp only [Text.isBlank, Ne, Bool.or_eq_true, Bool.and_eq_true, decide_eq_true_eq, beq_iff_eq]
  omega

theorem not_isBlank_of_continuesWord {c : Point} (h : continuesWord c = true) :
    Text.isBlank c = false := by
  simp only [continuesWord, Bool.or_eq_true, beq_iff_eq] at h
  rcases h with ((h | h) | rfl) | rfl
  · exact not_isBlank_of_isLetter h
  · exact not_isBlank_of_isAsciiDigit h
  · decide
  · decide

theorem not_isBlank_of_isSymbol {c : Point} (h : isSymbol c = true) : Text.isBlank c = false := by
  simp only [isSymbol, Bool.or_eq_true, beq_iff_eq] at h
  rcases h with ((((rfl | rfl) | rfl) | rfl) | rfl) | rfl <;> decide

/-- **No lexeme** of any kind has a blank in it. -/
theorem not_isBlank_of_fits {kind : LexemeKind} {chars : List Point} (h : kind.Fits chars)
    {c : Point}
    (hc : c ∈ chars) : Text.isBlank c = false := by
  rcases mem_of_fits h hc with hw | hd | hs
  · exact not_isBlank_of_continuesWord hw
  · exact Text.not_isBlank_of_isDecimalDigit hd
  · exact not_isBlank_of_isSymbol hs

/-- A lexeme ends before the next blank. -/
theorem prefix_of_prefix_append {kind : LexemeKind} {chars s behind : List Point}
    (h : kind.Fits chars) (hp : chars <+: s ++ behind)
    (hb : ∀ c, behind.head? = some c → Text.isBlank c = true) : chars <+: s := by
  rcases List.prefix_or_prefix_of_prefix hp (List.prefix_append s behind) with hs | ⟨x, rfl⟩
  · exact hs
  rw [List.prefix_append_right_inj] at hp
  cases x with
  | nil => exact ⟨[], by simp⟩
  | cons c x =>
    obtain ⟨rest, rfl⟩ := hp
    have hc := not_isBlank_of_fits h (List.mem_append_right s List.mem_cons_self)
    rw [hb c rfl] at hc
    cases hc

theorem not_isGap_of_fits {kind : LexemeKind} {chars : List Point} (h : kind.Fits chars) {c : Point}
    (hc : c ∈ chars) : isGap c = false := by
  by_contra hg
  have := isBlank_of_isGap (Bool.not_eq_false _ ▸ hg)
  rw [not_isBlank_of_fits h hc] at this
  cases this

theorem ne_nil_of_fits {kind : LexemeKind} {chars : List Point} (h : kind.Fits chars) :
    chars ≠ [] := by
  rintro rfl
  obtain ⟨found, rest, hf, -⟩ := ofKind?_of_prefix h (List.prefix_refl [])
  obtain ⟨hne, hs⟩ := append_eq_of_ofKind? hf
  exact hne (List.append_eq_nil_iff.1 hs).1

/-! ## Lexemes with gaps between them -/

/-- A text is lexemes and a rest, with gaps in front of each. Each lexeme stands first in the text
from its place on. -/
inductive Splits : List Point → List Lexeme → List Point → Prop
  /-- the rest -/
  | stop {gap rest : List Point} : IsGap gap → Splits (gap ++ rest) [] rest
  /-- a lexeme, and what follows it -/
  | lexeme {gap s rest : List Point} {l : Lexeme} {ls : List Lexeme} : IsGap gap →
      l.IsFirst (l.chars ++ s) → Splits s ls rest → Splits (gap ++ (l.chars ++ s)) (l :: ls) rest

theorem dropWhile_isGap_append {gap : List Point} (h : IsGap gap) (s : List Point) :
    (gap ++ s).dropWhile isGap = s.dropWhile isGap :=
  List.dropWhile_append_of_pos h

theorem IsFirst.dropWhile_isGap {l : Lexeme} {s : List Point} (h : l.IsFirst s) :
    s.dropWhile isGap = s := by
  obtain ⟨t, rfl⟩ := h.longest.starts
  obtain ⟨c, chars, hc⟩ := List.exists_cons_of_ne_nil (ne_nil_of_fits h.longest.fits)
  have hg := not_isGap_of_fits h.longest.fits (hc ▸ List.mem_cons_self : c ∈ l.chars)
  rw [hc, List.cons_append, List.dropWhile_cons_of_neg (by simp [hg])]

/-! ## One step of the scan -/

theorem scan_of_gap {gap : List Point} (h : IsGap gap) : scan gap = .ok [] := by
  rw [scan, if_pos]
  simpa using h

theorem scan_of_lexeme? {s rest : List Point} {l : Lexeme}
    (h : lexeme? (s.dropWhile isGap) = some (l, rest)) : scan s = (scan rest).map (l :: ·) := by
  have hne : ¬ (s.dropWhile isGap).isEmpty = true := by
    intro he
    rw [List.isEmpty_iff.1 he] at h
    cases h
  rw [scan, if_neg hne]
  split
  · rename_i h'
    cases h.symm.trans h'
    rfl
  · rename_i h'
    cases h.symm.trans h'

theorem scan_of_lexeme?_eq_none {s : List Point} (hne : s.dropWhile isGap ≠ [])
    (h : lexeme? (s.dropWhile isGap) = none) : scan s = .error (s.dropWhile isGap) := by
  rw [scan, if_neg (by simpa using hne)]
  split
  · rename_i h'
    cases h.symm.trans h'
  · rfl

/-- The lexeme that stands first behind a gap is taken. -/
theorem scan_of_isFirst {gap s : List Point} {l : Lexeme} (hg : IsGap gap)
    (hl : l.IsFirst (l.chars ++ s)) : scan (gap ++ (l.chars ++ s)) = (scan s).map (l :: ·) := by
  refine scan_of_lexeme? ?_
  rw [dropWhile_isGap_append hg, hl.dropWhile_isGap]
  exact lexeme?_eq_some_iff.2 ⟨rfl, hl⟩

/-! ## The whole scan -/

/-- A text that is made up of lexemes is split into them. -/
theorem Splits.scan_eq {s rest : List Point} {ls : List Lexeme} (h : Splits s ls rest)
    (hr : rest = []) : scan s = .ok ls := by
  induction h with
  | stop hg =>
    rw [hr, List.append_nil]
    exact scan_of_gap hg
  | lexeme hg hl _ ih =>
    rw [scan_of_isFirst hg hl, ih hr]
    rfl

/-- The lexeme that is taken stands first behind the gap. -/
theorem exists_gap_of_lexeme? {s rest : List Point} {l : Lexeme}
    (h : lexeme? (s.dropWhile isGap) = some (l, rest)) :
    ∃ gap, IsGap gap ∧ l.IsFirst (l.chars ++ rest) ∧ gap ++ (l.chars ++ rest) = s := by
  obtain ⟨hs, hl⟩ := lexeme?_eq_some_iff.1 h
  rw [← hs] at hl
  refine ⟨s.takeWhile isGap, List.all_eq_true.1 List.all_takeWhile, hl, ?_⟩
  rw [hs, List.takeWhile_append_dropWhile]

theorem splits_of_scan_eq_ok {s : List Point} {ls : List Lexeme} (h : scan s = .ok ls) :
    Splits s ls [] := by
  induction s using scan.induct generalizing ls with
  | case1 s he =>
    have hg : IsGap s := by simpa using he
    rw [scan_of_gap hg] at h
    cases h
    exact List.append_nil s ▸ .stop hg
  | case2 s hne l rest hl hlt ih =>
    rw [scan_of_lexeme? hl] at h
    obtain ⟨tail, ht, rfl⟩ := map_eq_ok_iff.1 h
    obtain ⟨gap, hg, hfirst, rfl⟩ := exists_gap_of_lexeme? hl
    exact .lexeme hg hfirst (ih ht)
  | case3 s hne hl =>
    rw [scan_of_lexeme?_eq_none (by simpa using hne) hl] at h
    cases h

/-- **A text is split** into lexemes exactly if it is made up of them. -/
theorem scan_eq_ok_iff {s : List Point} {ls : List Lexeme} : scan s = .ok ls ↔ Splits s ls [] :=
  ⟨splits_of_scan_eq_ok, fun h => h.scan_eq rfl⟩

/-- **Where splitting stops**, the rest starts with no gap and with no lexeme. -/
theorem splits_of_scan_eq_error {s rest : List Point} (h : scan s = .error rest) :
    (∃ ls, Splits s ls rest) ∧ (∃ c tail, rest = c :: tail ∧ isGap c = false) ∧
      lexeme? rest = none := by
  induction s using scan.induct with
  | case1 s he =>
    rw [scan_of_gap (by simpa using he)] at h
    cases h
  | case2 s hne l tail hl hlt ih =>
    rw [scan_of_lexeme? hl] at h
    obtain ⟨gap, hg, hfirst, rfl⟩ := exists_gap_of_lexeme? hl
    obtain ⟨⟨ls, hls⟩, hrest⟩ := ih (map_eq_error_iff.1 h)
    exact ⟨⟨l :: ls, .lexeme hg hfirst hls⟩, hrest⟩
  | case3 s hne hl =>
    have hd : s.dropWhile isGap ≠ [] := by simpa using hne
    rw [scan_of_lexeme?_eq_none hd hl] at h
    cases h
    refine ⟨⟨[], ?_⟩, ⟨_, _, (List.cons_head_tail hd).symm, List.head_dropWhile_not isGap hd⟩, hl⟩
    have hgap : IsGap (s.takeWhile isGap) := List.all_eq_true.1 List.all_takeWhile
    have hstop : Splits (s.takeWhile isGap ++ s.dropWhile isGap) [] (s.dropWhile isGap) :=
      .stop hgap
    rwa [List.takeWhile_append_dropWhile] at hstop

/-! ## Beginnings of a text -/

/-- What stands first in a text stands first in every beginning that has all of it. -/
theorem IsFirst.of_prefix {l : Lexeme} {s t : List Point} (h : l.IsFirst s) (ht : t <+: s)
    (hl : l.chars <+: t) : l.IsFirst t where
  longest := ⟨hl, h.longest.fits, fun other ho => h.longest.longest other (ho.trans ht)⟩
  first kind hk other ho := h.first kind hk other (ho.trans ht)

/-- In front of the rest stands a text that is split without a rest. -/
theorem Splits.exists_front {s rest : List Point} {ls : List Lexeme} (h : Splits s ls rest) :
    ∃ front, s = front ++ rest ∧ Splits front ls [] := by
  induction h with
  | @stop gap rest hg => exact ⟨gap, rfl, List.append_nil gap ▸ .stop hg⟩
  | @lexeme gap s rest l ls hg hl _ ih =>
    obtain ⟨front, rfl, hf⟩ := ih
    refine ⟨gap ++ (l.chars ++ front), by simp only [List.append_assoc], .lexeme hg ?_ hf⟩
    refine hl.of_prefix ?_ (List.prefix_append _ _)
    rw [← List.append_assoc]
    exact List.prefix_append _ _

/-- The blanks in a text that is made up of lexemes stand in its gaps. -/
theorem Splits.isGap_of_isBlank {s rest : List Point} {ls : List Lexeme} (h : Splits s ls rest)
    (hr : rest = []) {c : Point} (hc : c ∈ s) (hb : Text.isBlank c = true) : isGap c = true := by
  induction h with
  | stop hg =>
    rw [hr, List.append_nil] at hc
    exact hg c hc
  | lexeme hg hl _ ih =>
    rcases List.mem_append.1 hc with hc | hc
    · exact hg c hc
    rcases List.mem_append.1 hc with hc | hc
    · rw [not_isBlank_of_fits hl.longest.fits hc] at hb
      cases hb
    · exact ih hr hc

/-- A lexeme does not end in a gap. -/
theorem eq_nil_of_append_of_fits {kind : LexemeKind} {before chars s x : List Point}
    (h : kind.Fits chars) (hs : before ++ chars = s ++ x) (hx : IsGap x) : x = [] := by
  by_contra hne
  have hlast := congrArg List.getLast? hs
  rw [List.getLast?_append_of_ne_nil _ (ne_nil_of_fits h), List.getLast?_append_of_ne_nil _ hne,
    List.getLast?_eq_some_getLast hne] at hlast
  have hc := not_isGap_of_fits h (List.mem_of_getLast? hlast)
  rw [hx _ (List.getLast_mem hne)] at hc
  cases hc

/-- **Gaps at the end** of a text are not needed. -/
theorem Splits.of_append_gap {s t rest gap : List Point} {ls : List Lexeme} (h : Splits t ls rest)
    (hr : rest = []) (hg : IsGap gap) (ht : t = s ++ gap) : Splits s ls [] := by
  induction h generalizing s with
  | @stop gap' rest hg' =>
    rw [hr, List.append_nil] at ht
    have hs : IsGap s := fun c hc => hg' c (ht ▸ List.mem_append_left gap hc)
    exact List.append_nil s ▸ .stop hs
  | @lexeme gap' t rest l ls hg' hl _ ih =>
    rw [← List.append_assoc] at ht
    rcases List.append_eq_append_iff.1 ht with ⟨x, rfl, rfl⟩ | ⟨x, hx, rfl⟩
    · rw [List.append_assoc]
      refine .lexeme hg' (hl.of_prefix ?_ (List.prefix_append _ _)) (ih hr rfl)
      rw [← List.append_assoc]
      exact List.prefix_append _ _
    · obtain rfl := eq_nil_of_append_of_fits hl.longest.fits hx fun c hc =>
        hg c (List.mem_append_left _ hc)
      rw [List.append_nil] at hx
      rw [← hx, ← List.append_nil l.chars]
      exact .lexeme hg' (hl.of_prefix (by simp) (by simp)) (ih hr rfl)

end Lexeme

namespace Formula

/-! ## The body of a formula -/

theorem body_of_trim_eq_cons {text : Text} {s : List Point}
    (h : Text.trim text.toList = .char '=' :: s) : body text = s := by
  simp only [body, h]

theorem body_of_trim_ne_cons {text : Text} (h : ∀ s, Text.trim text.toList ≠ .char '=' :: s) :
    body text = Text.trim text.toList := by
  rw [body]
  split
  · rename_i s hs
    exact absurd hs (h s)
  · rfl

/-- **Where the body stands** in the text of a formula: with blanks around it and perhaps an equals
sign in front. If the text ends within the body, what is left of the body loses the blanks at its
end, and nothing else. -/
theorem exists_body (text : Text) :
    ∃ front trail, text.toList = front ++ (body text ++ trail) ∧
      (∀ c ∈ trail, Text.isBlank c = true) ∧ bodyOffset text = front.length ∧
      ∀ a, a <+: body text → body (Text.ofList (front ++ a)) = Text.trimRight a := by
  obtain ⟨before, behind, hs, hlength, hb, hbehind⟩ := Text.exists_append_trim_append text.toList
  by_cases h : ∃ s, Text.trim text.toList = .char '=' :: s
  · obtain ⟨s, h⟩ := h
    refine ⟨before ++ [Point.char '='], behind, ?_, hbehind, ?_, fun a _ => ?_⟩
    · rw [body_of_trim_eq_cons h, hs, h]
      simp
    · simp [bodyOffset, h, hlength]
    · refine body_of_trim_eq_cons ?_
      rw [Text.toList_ofList, List.append_assoc, Text.trim_append hb]
      · exact Text.trimRight_cons_of_not_blank (by decide) a
      · rintro c ⟨⟩
        decide
  · simp only [not_exists] at h
    refine ⟨before, behind, ?_, hbehind, ?_, fun a ha => ?_⟩
    · rw [body_of_trim_ne_cons h, ← List.append_assoc, ← hs]
    · have hhead : (Text.trim text.toList).head? ≠ some (.char '=') := by
        intro he
        obtain ⟨s, hs⟩ := List.head?_eq_some_iff.1 he
        exact h s hs
      simp [bodyOffset, hhead, hlength]
    · rw [body_of_trim_ne_cons h] at ha
      have ht : Text.trim (Text.ofList (before ++ a)).toList = Text.trimRight a := by
        rw [Text.toList_ofList, Text.trim_append hb (Text.startsSolid_of_prefix_trim ha)]
      rw [← ht]
      refine body_of_trim_ne_cons fun s hs => ?_
      -- an equals sign in front of the beginning would be in front of the body
      rw [ht] at hs
      obtain ⟨gap, hgap, -⟩ := Text.exists_trimRight_append a
      obtain ⟨tail, htail⟩ := ha
      rw [← htail, ← hgap, hs] at h
      exact h _ rfl

/-! ## Tokens -/

/-- The tokens of a text are those of the lexemes that make up its body. -/
theorem tokenize_eq_ok_iff {text : Text} {tokens : List Text} :
    tokenize text = .ok tokens ↔
      ∃ ls, Lexeme.Splits (body text) ls [] ∧ ls.map Lexeme.token = tokens := by
  simp only [← Lexeme.scan_eq_ok_iff]
  rw [tokenize]
  split
  · rename_i ls h
    simp [h]
  · rename_i rest h
    simp [h]

/-- The rest of the body that cannot be split starts with a character of the text, at the place that
the error gives; what stands in front of it can be split. -/
theorem tokenize_eq_error {text : Text} {e : ParseError} (h : tokenize text = .error e) :
    ∃ front c tail, text.toList = front ++ c :: tail ∧
      e = ⟨"unexpected character " ++ Text.quoted (Text.ofList [c]), some front.length⟩ ∧
      Lexeme.isGap c = false ∧
      (∀ (kind : LexemeKind) (other : List Point), other <+: c :: tail → ¬ kind.Fits other) ∧
      ∃ tokens, tokenize (Text.ofList front) = .ok tokens := by
  rw [tokenize] at h
  split at h
  · cases h
  rename_i rest hscan
  cases h
  obtain ⟨⟨ls, hls⟩, ⟨c, tail, rfl, hc⟩, hnone⟩ := Lexeme.splits_of_scan_eq_error hscan
  obtain ⟨a, hbody, ha⟩ := hls.exists_front
  obtain ⟨front, trail, htext, htrail, hoffset, hcut⟩ := exists_body text
  obtain ⟨blanks, htrim, hblanks⟩ := Text.exists_trimRight_append a
  refine ⟨front ++ a, c, tail ++ trail, ?_, ?_, hc, fun kind other ho hf => ?_,
    ls.map Lexeme.token, ?_⟩
  · rw [htext, hbody]
    simp only [List.append_assoc, List.cons_append]
  · have hlength : (body text).length - (c :: tail).length = a.length := by
      rw [hbody, List.length_append, Nat.add_sub_cancel]
    refine congrArg (ParseError.mk _) (congrArg some ?_)
    rw [hoffset, hlength, List.length_append, Int.natCast_add]
  · -- the blanks behind the body are in no lexeme
    refine Lexeme.lexeme?_eq_none_iff.1 hnone kind other ?_ hf
    exact Lexeme.prefix_of_prefix_append hf ho fun d hd => htrail d (List.mem_of_head? hd)
  · rw [tokenize_eq_ok_iff, hcut a ⟨_, hbody.symm⟩]
    refine ⟨ls, ha.of_append_gap rfl (fun d hd => ?_) htrim.symm, rfl⟩
    exact ha.isGap_of_isBlank rfl (htrim ▸ List.mem_append_right _ hd) (hblanks d hd)

/-- **Splitting loses nothing**, and its error is exact. If it succeeds, the body of the text is
made up of lexemes with gaps between them, each of them first in the text from its place on, and the
tokens are those of the lexemes, in their order. If it fails, the error names a character of the
text with its place. It is no gap and no lexeme of any kind starts there, and the text in front of
it can be split. -/
theorem tokenize_lossless (text : Text) :
    (∀ tokens, tokenize text = .ok tokens ↔
      ∃ ls, Lexeme.Splits (body text) ls [] ∧ ls.map Lexeme.token = tokens) ∧
    (∀ e, tokenize text = .error e → ∃ (position : Nat) (c : Point),
      e = ⟨"unexpected character " ++ Text.quoted (Text.ofList [c]), some position⟩ ∧
      position < text.length ∧ text.toList[position]? = some c ∧ Lexeme.isGap c = false ∧
      (∀ (kind : LexemeKind) (other : List Point), other <+: text.toList.drop position →
        ¬ kind.Fits other) ∧
      ∃ tokens, tokenize (Text.ofList (text.toList.take position)) = .ok tokens) := by
  refine ⟨fun tokens => tokenize_eq_ok_iff, fun e he => ?_⟩
  obtain ⟨front, c, tail, htext, rfl, hc, hnone, hfront⟩ := tokenize_eq_error he
  refine ⟨front.length, c, rfl, ?_, ?_, hc, ?_, ?_⟩
  · rw [← Text.length_toList, htext]
    simp
  · simp [htext]
  · simpa [htext] using hnone
  · simpa [htext] using hfront

theorem tokenize_of_stray_character :
    tokenize " =a1\t*2 " = .ok ["A1", "*", "2"] ∧
      ∃ e, tokenize " =a1 ? 2 " = .error e ∧ ∃ (position : Nat) (c : Point),
        e.position = some (position : Int) ∧ (" =a1 ? 2 " : Text).toList[position]? = some c ∧
        ∃ tokens, tokenize (Text.ofList ((" =a1 ? 2 " : Text).toList.take position)) =
        .ok tokens := by
  have hok : tokenize " =a1\t*2 " = .ok ["A1", "*", "2"] := by cbv
  have hscan : Lexeme.scan (body " =a1 ? 2 ") = .error ("? 2" : Text).toList := by cbv
  have herror : tokenize " =a1 ? 2 " = .error (unexpected " =a1 ? 2 " ("? 2" : Text).toList) := by
    rw [tokenize, hscan]
  refine ⟨hok, _, herror, ?_⟩
  obtain ⟨position, c, he, -, hc, -, -, htokens⟩ := (tokenize_lossless " =a1 ? 2 ").2 _ herror
  exact ⟨position, c, congrArg ParseError.position he, hc, htokens⟩

end Formula

end FormulaSheet
