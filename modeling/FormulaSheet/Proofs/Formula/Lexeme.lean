import FormulaSheet.Formula.Lexeme
import FormulaSheet.Proofs.Text.Digit

/-!
# The languages of lexemes

What a lexeme of a kind looks like is said here on its own, as a language for each kind
(`LexemeKind.Fits`), without the functions that look for one. These take characters as long as they
can, class by class; that this yields the longest beginning of a text that is in the language is not
evident for numbers, where the mark of an exponent is only taken if digits follow it.

* `mem_of_fits`: the characters that lexemes are made of;
* `ofKind?_eq_some_iff`: what is found for a kind is the longest beginning of the text that fits;
* `lexeme?_eq_some_iff`: the lexeme that is taken is the longest of the first kind that fits
  (`Lexeme.IsFirst`);
* `lexeme?_eq_none_iff`: no lexeme is taken exactly if no beginning of the text fits any kind.
-/

namespace FormulaSheet

namespace Lexeme

/-! ## Languages -/

/-- One character or more, all of a class. -/
def IsRun (p : Point → Bool) (s : List Point) : Prop :=
  s ≠ [] ∧ ∀ c ∈ s, p c = true

/-- Letters, then digits. -/
def IsCell (s : List Point) : Prop :=
  ∃ letters digits, IsRun isLetter letters ∧ IsRun Number.isAsciiDigit digits ∧
    s = letters ++ digits

/-- The digits of a number. -/
inductive IsMantissa : List Point → Prop
  /-- digits without a point -/
  | whole {ds : List Point} : IsRun Text.isDecimalDigit ds → IsMantissa ds
  /-- a point with digits on one side of it or on both -/
  | pointed {ds fs : List Point} : (∀ c ∈ ds, Text.isDecimalDigit c = true) →
      (∀ c ∈ fs, Text.isDecimalDigit c = true) → (ds ≠ [] ∨ fs ≠ []) →
      IsMantissa (ds ++ Point.char '.' :: fs)

/-- The exponent of a number: a mark, perhaps a sign, and digits. -/
inductive IsPower : List Point → Prop
  | intro {mark : Point} {sign ds : List Point} : mark = 'e' ∨ mark = 'E' →
      sign = [] ∨ sign = [Point.char '+'] ∨ sign = [Point.char '-'] → IsRun Text.isDecimalDigit ds →
      IsPower (mark :: (sign ++ ds))

/-- Digits, with an exponent or without one. -/
def IsNumber (s : List Point) : Prop :=
  ∃ mantissa power, IsMantissa mantissa ∧ (power = [] ∨ IsPower power) ∧ s = mantissa ++ power

/-- A letter or low line, and what may continue a word. -/
def IsWord (s : List Point) : Prop :=
  ∃ c rest, startsWord c = true ∧ (∀ d ∈ rest, continuesWord d = true) ∧ s = c :: rest

/-- A character that is a lexeme by itself. -/
def IsSymbol (s : List Point) : Prop :=
  ∃ c, isSymbol c = true ∧ s = [c]

end Lexeme

namespace LexemeKind

/-- The characters are a lexeme of the kind. -/
def Fits : LexemeKind → List Point → Prop
  | cell => Lexeme.IsCell
  | number => Lexeme.IsNumber
  | word => Lexeme.IsWord
  | symbol => Lexeme.IsSymbol

/-- The place of a kind in the order in which the kinds are tried. -/
def order : LexemeKind → Nat
  | cell => 0
  | number => 1
  | word => 2
  | symbol => 3

end LexemeKind

/-- The longest beginning of a text that is in a language. -/
structure IsLongest (L : List Point → Prop) (s chars : List Point) : Prop where
  starts : chars <+: s
  fits : L chars
  longest : ∀ other, other <+: s → L other → other.length ≤ chars.length

/-- A lexeme stands at the start of a text: it is the longest beginning of its kind, and nothing at
the start of the text is of a kind that comes before. -/
structure Lexeme.IsFirst (l : Lexeme) (s : List Point) : Prop where
  longest : IsLongest l.kind.Fits s l.chars
  first : ∀ kind : LexemeKind, kind.order < l.kind.order → ∀ other, other <+: s → ¬ kind.Fits other

namespace Lexeme

/-! ## Classes of characters -/

theorem isLetter_iff {c : Point} : isLetter c = true ↔
    0x41 ≤ c.toNat ∧ c.toNat ≤ 0x5A ∨ 0x61 ≤ c.toNat ∧ c.toNat ≤ 0x7A := by
  simp only [isLetter, Bool.or_eq_true, Bool.and_eq_true, decide_eq_true_eq, Point.le_def]
  rfl

theorem not_isLetter_of_isAsciiDigit {c : Point} (h : Number.isAsciiDigit c = true) :
    isLetter c = false := by
  rw [Bool.eq_false_iff, Ne, isLetter_iff]
  rw [Number.isAsciiDigit_iff] at h
  omega

theorem IsRun.head {p q : Point → Bool} {s : List Point} (h : IsRun p s)
    (hq : ∀ c, p c = true → q c = false) : ∀ c, s.head? = some c → q c = false := by
  intro c hc
  exact hq c (h.2 c (List.mem_of_head? hc))

theorem isRun_takeWhile {p : Point → Bool} {s : List Point} (h : s.takeWhile p ≠ []) :
    IsRun p (s.takeWhile p) :=
  ⟨h, List.all_eq_true.1 List.all_takeWhile⟩

/-- Characters of a class at the start of a text are among those that are taken. -/
theorem prefix_takeWhile {p : Point → Bool} {a s : List Point} (ha : ∀ c ∈ a, p c = true)
    (h : a <+: s) : a <+: s.takeWhile p := by
  obtain ⟨t, rfl⟩ := h
  rw [List.takeWhile_append_of_pos ha]
  exact List.prefix_append _ _

/-- Where characters of a class end at another character, exactly they are taken. -/
theorem takeWhile_of_prefix {p : Point → Bool} {a b s : List Point} (ha : ∀ c ∈ a, p c = true)
    (hb : ∀ c, b.head? = some c → p c = false) (hne : b ≠ []) (h : a ++ b <+: s) :
    s.takeWhile p = a ∧ b <+: s.dropWhile p := by
  obtain ⟨t, rfl⟩ := h
  rw [List.append_assoc, List.takeWhile_append_of_pos ha, List.dropWhile_append_of_pos ha]
  cases b with
  | nil => exact absurd rfl hne
  | cons c b =>
    have hc := hb c rfl
    rw [List.cons_append, List.takeWhile_cons_of_neg (by simp [hc]),
      List.dropWhile_cons_of_neg (by simp [hc]), List.append_nil]
    exact ⟨rfl, List.prefix_append (c :: b) t⟩

/-! ## What is found fits -/

theorem mantissa?_fits {s mantissa tail : List Point} (h : mantissa? s = some (mantissa, tail)) :
    IsMantissa mantissa ∧ mantissa ++ tail = s := by
  have hs := List.takeWhile_append_dropWhile (p := Text.isDecimalDigit) (l := s)
  have hd : ∀ c ∈ s.takeWhile Text.isDecimalDigit, Text.isDecimalDigit c = true :=
    List.all_eq_true.1 List.all_takeWhile
  simp only [mantissa?] at h
  split at h
  · rename_i rest hr
    rw [hr] at hs
    split at h
    · cases h
    · rename_i hne
      cases h
      simp only [Bool.and_eq_true, List.isEmpty_iff, Decidable.not_and_iff_or_not] at hne
      refine ⟨.pointed hd (List.all_eq_true.1 List.all_takeWhile) hne, ?_⟩
      rw [List.append_assoc, List.cons_append, List.takeWhile_append_dropWhile, hs]
  · split at h
    · cases h
    · rename_i hne
      cases h
      exact ⟨.whole ⟨by simpa using hne, hd⟩, hs⟩

theorem exponent_fits (s : List Point) : (exponent s).1 = [] ∨ IsPower (exponent s).1 := by
  cases s with
  | nil => exact .inl rfl
  | cons c rest =>
    simp only [exponent]
    split
    · rename_i hc
      simp only [Bool.and_eq_true, Bool.or_eq_true, beq_iff_eq, Bool.not_eq_true'] at hc
      have hsign : (sign rest).1 = [] ∨ (sign rest).1 = [Point.char '+'] ∨
          (sign rest).1 = [Point.char '-'] := by
        unfold sign
        split
        · exact .inr (.inl rfl)
        · exact .inr (.inr rfl)
        · exact .inl rfl
      exact .inr (.intro hc.1 hsign (isRun_takeWhile (by simpa using hc.2)))
    · exact .inl rfl

/-- What is found for a kind fits it. -/
theorem fits_of_ofKind? {kind : LexemeKind} {s chars rest : List Point}
    (h : ofKind? kind s = some (chars, rest)) : kind.Fits chars := by
  cases kind with
  | cell =>
    simp only [ofKind?, cell?] at h
    split at h
    · cases h
    · rename_i hne
      cases h
      simp only [Bool.or_eq_true, List.isEmpty_iff, not_or] at hne
      exact ⟨_, _, isRun_takeWhile hne.1, isRun_takeWhile hne.2, rfl⟩
  | number =>
    simp only [ofKind?, number?, Option.map_eq_some_iff] at h
    obtain ⟨⟨mantissa, tail⟩, hm, h⟩ := h
    cases h
    exact ⟨mantissa, (exponent tail).1, (mantissa?_fits hm).1, exponent_fits tail, rfl⟩
  | word =>
    cases s with
    | nil => cases h
    | cons c s =>
      simp only [ofKind?, word?] at h
      split at h
      · rename_i hc
        cases h
        exact ⟨c, _, hc, List.all_eq_true.1 List.all_takeWhile, rfl⟩
      · cases h
  | symbol =>
    cases s with
    | nil => cases h
    | cons c s =>
      simp only [ofKind?, symbol?] at h
      split at h
      · rename_i hc
        cases h
        exact ⟨c, hc, rfl⟩
      · cases h

/-! ## What fits is found -/

/-- A mantissa at the start of the text is part of the one that is found. -/
theorem mantissa?_of_prefix {m s : List Point} (hm : IsMantissa m) (h : m <+: s) :
    ∃ mantissa tail, mantissa? s = some (mantissa, tail) ∧ m <+: mantissa := by
  cases hm with
  | whole hd =>
    have hp := prefix_takeWhile hd.2 h
    have hne : s.takeWhile Text.isDecimalDigit ≠ [] := fun hn => hd.1 (List.prefix_nil.1 (hn ▸ hp))
    simp only [mantissa?]
    split
    · rw [if_neg (by simp [hne])]
      exact ⟨_, _, rfl, hp.trans (List.prefix_append _ _)⟩
    · rw [if_neg (by simp [hne])]
      exact ⟨_, _, rfl, hp⟩
  | @pointed ds fs hd hf hne =>
    have hpoint : ∀ c, (.char '.' :: fs).head? = some c → Text.isDecimalDigit c = false := by
      intro c hc
      cases hc
      decide
    obtain ⟨ht, rest, hr⟩ := takeWhile_of_prefix hd hpoint (List.cons_ne_nil _ _) h
    have hempty : ¬ (ds.isEmpty && (fs ++ rest.takeWhile Text.isDecimalDigit).isEmpty) = true := by
      simp only [Bool.and_eq_true, List.isEmpty_iff, List.append_eq_nil_iff]
      rintro ⟨hd, hf, -⟩
      exact hne.elim (fun hn => hn hd) (fun hn => hn hf)
    simp only [mantissa?, ht, ← hr, List.cons_append, List.takeWhile_append_of_pos hf,
      if_neg hempty]
    refine ⟨_, _, rfl, ?_⟩
    rw [List.prefix_append_right_inj, List.cons_prefix_cons]
    exact ⟨rfl, List.prefix_append _ _⟩

theorem sign_of_run {sg ds : List Point}
    (hsg : sg = [] ∨ sg = [Point.char '+'] ∨ sg = [Point.char '-'])
    (hd : IsRun Text.isDecimalDigit ds) (t : List Point) :
    sign (sg ++ (ds ++ t)) = (sg, ds ++ t) := by
  rcases hsg with rfl | rfl | rfl
  · cases ds with
    | nil => exact absurd rfl hd.1
    | cons d ds =>
      have hc := hd.2 d List.mem_cons_self
      unfold sign
      split
      · rename_i he
        cases he
        exact absurd hc (by decide)
      · rename_i he
        cases he
        exact absurd hc (by decide)
      · rfl
  · rfl
  · rfl

/-- An exponent at the start of the text is part of the one that is found. -/
theorem exponent_of_prefix {p s : List Point} (hp : IsPower p) (h : p <+: s) :
    p <+: (exponent s).1 := by
  obtain ⟨hmark, hsign, hd⟩ := hp
  rename_i mark sg ds
  obtain ⟨t, rfl⟩ := h
  have he : (mark == 'e' || mark == 'E') = true := by simpa using hmark
  have hne : (ds ++ t.takeWhile Text.isDecimalDigit).isEmpty = false := by simp [hd.1]
  simp only [List.cons_append, List.append_assoc, exponent, sign_of_run hsign hd,
    List.takeWhile_append_of_pos hd.2, he, hne, Bool.not_false, Bool.and_self, if_true]
  rw [List.cons_prefix_cons, List.prefix_append_right_inj]
  exact ⟨rfl, List.prefix_append _ _⟩

theorem IsMantissa.mem {m : List Point} (h : IsMantissa m) {c : Point} (hc : c ∈ m) :
    Text.isDecimalDigit c = true ∨ c = '.' := by
  cases h with
  | whole hd => exact .inl (hd.2 c hc)
  | pointed hd hf _ =>
    rcases List.mem_append.1 hc with hc | hc
    · exact .inl (hd c hc)
    · rcases List.mem_cons.1 hc with rfl | hc
      · exact .inr rfl
      · exact .inl (hf c hc)

/-- The characters of a number are digits and a few marks. -/
theorem IsNumber.mem {s : List Point} (h : IsNumber s) {c : Point} (hc : c ∈ s) :
    Text.isDecimalDigit c = true ∨
      c ∈ [Point.char '.', .char 'e', .char 'E', .char '+', .char '-'] := by
  obtain ⟨mantissa, power, hm, hp, rfl⟩ := h
  rcases List.mem_append.1 hc with hc | hc
  · exact (hm.mem hc).imp id (by rintro rfl; decide)
  · rcases hp with rfl | ⟨hmark, hsign, hd⟩
    · cases hc
    rcases List.mem_cons.1 hc with rfl | hc
    · rcases hmark with rfl | rfl <;> exact .inr (by decide)
    rcases List.mem_append.1 hc with hc | hc
    · rcases hsign with rfl | rfl | rfl
      · cases hc
      · exact .inr (by simp_all)
      · exact .inr (by simp_all)
    · exact .inl (hd.2 c hc)

/-- **The characters of a lexeme** may continue a word, or are digits of some script or symbols. -/
theorem mem_of_fits {kind : LexemeKind} {s : List Point} (h : kind.Fits s) {c : Point}
    (hc : c ∈ s) :
    continuesWord c = true ∨ Text.isDecimalDigit c = true ∨ isSymbol c = true := by
  cases kind with
  | cell =>
    obtain ⟨letters, digits, hl, hd, rfl⟩ := h
    rcases List.mem_append.1 hc with hc | hc
    · exact .inl (by simp [continuesWord, hl.2 c hc])
    · exact .inl (by simp [continuesWord, hd.2 c hc])
  | number =>
    rcases IsNumber.mem h hc with hd | hm
    · exact .inr (.inl hd)
    · have hall : [Point.char '.', .char 'e', .char 'E', .char '+', .char '-'].all
          (fun m => continuesWord m || isSymbol m) = true := rfl
      have hmark := List.all_eq_true.1 hall c hm
      rw [Bool.or_eq_true] at hmark
      exact hmark.imp id .inr
  | word =>
    obtain ⟨first, rest, hf, hr, rfl⟩ := h
    rcases List.mem_cons.1 hc with rfl | hc
    · rw [startsWord, Bool.or_eq_true] at hf
      exact .inl (by rcases hf with hf | hf <;> simp [continuesWord, hf])
    · exact .inl (hr c hc)
  | symbol =>
    obtain ⟨symbol, hs, rfl⟩ := h
    rw [List.mem_singleton.1 hc]
    exact .inr (.inr hs)

/-- In front of an exponent stands the whole mantissa that is found. -/
theorem eq_of_prefix_of_power {m x p tail : List Point} (hm : IsMantissa (m ++ x)) (hp : IsPower p)
    (h : m ++ p <+: m ++ (x ++ tail)) : x = [] := by
  rw [List.prefix_append_right_inj] at h
  cases x with
  | nil => rfl
  | cons c x =>
    -- the character behind the shorter one would be the mark
    obtain ⟨hmark, -, -⟩ := hp
    rw [List.cons_append, List.cons_prefix_cons] at h
    obtain ⟨rfl, -⟩ := h
    have hc := hm.mem (List.mem_append_right m List.mem_cons_self)
    rcases hmark with rfl | rfl <;> exact absurd hc (by decide)

/-- What fits a kind at the start of the text is part of what is found for the kind. -/
theorem ofKind?_of_prefix {kind : LexemeKind} {other s : List Point} (hf : kind.Fits other)
    (h : other <+: s) : ∃ chars rest, ofKind? kind s = some (chars, rest) ∧ other <+: chars := by
  cases kind with
  | cell =>
    obtain ⟨letters, digits, hl, hd, rfl⟩ := hf
    have hdl : ∀ c, digits.head? = some c → isLetter c = false :=
      hd.head fun c => not_isLetter_of_isAsciiDigit
    obtain ⟨ht, hr⟩ := takeWhile_of_prefix hl.2 hdl hd.1 h
    have hp := prefix_takeWhile hd.2 hr
    have hne : (s.dropWhile isLetter).takeWhile Number.isAsciiDigit ≠ [] :=
      fun hn => hd.1 (List.prefix_nil.1 (hn ▸ hp))
    simp only [ofKind?, cell?, ht]
    rw [if_neg (by simp [hl.1, hne])]
    exact ⟨_, _, rfl, (List.prefix_append_right_inj _).2 hp⟩
  | number =>
    obtain ⟨m, p, hm, hp, rfl⟩ := hf
    obtain ⟨mantissa, tail, hfound, x, rfl⟩ :=
      mantissa?_of_prefix hm ((List.prefix_append m p).trans h)
    obtain ⟨hfits, rfl⟩ := mantissa?_fits hfound
    refine ⟨m ++ x ++ (exponent tail).1, (exponent tail).2, ?_, ?_⟩
    · simp only [ofKind?, number?, hfound, Option.map_some]
    · rcases hp with rfl | hp
      · rw [List.append_assoc, List.append_nil]
        exact List.prefix_append _ _
      · rw [List.append_assoc] at h
        obtain rfl := eq_of_prefix_of_power hfits hp h
        rw [List.append_nil, List.prefix_append_right_inj]
        exact exponent_of_prefix hp ((List.prefix_append_right_inj m).1 h)
  | word =>
    obtain ⟨c, rest, hc, hr, rfl⟩ := hf
    obtain ⟨t, rfl⟩ := h
    refine ⟨_, _, if_pos hc, ?_⟩
    rw [List.cons_prefix_cons]
    exact ⟨rfl, prefix_takeWhile hr (List.prefix_append _ _)⟩
  | symbol =>
    obtain ⟨c, hc, rfl⟩ := hf
    obtain ⟨t, rfl⟩ := h
    exact ⟨_, _, if_pos hc, List.prefix_rfl⟩

/-! ## The lexeme that is taken -/

/-- **What is found for a kind** is the longest beginning of the text that fits. -/
theorem ofKind?_eq_some_iff {kind : LexemeKind} {s chars rest : List Point} :
    ofKind? kind s = some (chars, rest) ↔ chars ++ rest = s ∧ IsLongest kind.Fits s chars := by
  constructor
  · intro h
    obtain ⟨-, hs⟩ := append_eq_of_ofKind? h
    refine ⟨hs, ⟨rest, hs⟩, fits_of_ofKind? h, fun other ho hf => ?_⟩
    obtain ⟨chars', rest', h', hp⟩ := ofKind?_of_prefix hf ho
    cases h.symm.trans h'
    exact hp.length_le
  · rintro ⟨rfl, hl⟩
    obtain ⟨chars', rest', h', hp⟩ := ofKind?_of_prefix hl.fits hl.starts
    obtain ⟨-, hs⟩ := append_eq_of_ofKind? h'
    have hle : chars'.length ≤ chars.length := hl.longest chars' ⟨rest', hs⟩ (fits_of_ofKind? h')
    obtain rfl := hp.eq_of_length_le hle
    rw [h', List.append_cancel_left hs]

/-- Nothing is found for a kind exactly if no beginning of the text fits. -/
theorem ofKind?_eq_none_iff {kind : LexemeKind} {s : List Point} :
    ofKind? kind s = none ↔ ∀ other, other <+: s → ¬ kind.Fits other := by
  constructor
  · intro h other ho hf
    obtain ⟨chars, rest, h', -⟩ := ofKind?_of_prefix hf ho
    rw [h] at h'
    cases h'
  · intro h
    cases hk : ofKind? kind s with
    | none => rfl
    | some found => exact absurd (fits_of_ofKind? hk) (h _ ⟨_, (append_eq_of_ofKind? hk).2⟩)

/-- The kinds are tried in their order. -/
theorem lexeme?_eq_some_iff_ofKind? {s rest : List Point} {l : Lexeme} :
    lexeme? s = some (l, rest) ↔ ofKind? l.kind s = some (l.chars, rest) ∧
      ∀ kind : LexemeKind, kind.order < l.kind.order → ofKind? kind s = none := by
  constructor
  · intro h
    refine ⟨ofKind?_of_lexeme? h, fun other ho => ?_⟩
    obtain ⟨before, kind, behind, hkinds, hk, hbefore⟩ := List.findSome?_eq_some_iff.1 h
    obtain ⟨found, -, hfound⟩ := Option.map_eq_some_iff.1 hk
    obtain rfl : kind = l.kind := congrArg (fun p => p.1.kind) hfound
    -- the kinds are tried in their order, so that an earlier one does not come behind
    have hsorted : (before ++ l.kind :: behind).Pairwise (·.order < ·.order) :=
      hkinds ▸ by decide
    obtain ⟨-, hbehind, -⟩ := List.pairwise_append.1 hsorted
    have hmem : other ∈ before ++ l.kind :: behind := hkinds ▸ by cases other <;> decide
    rcases List.mem_append.1 hmem with hm | hm
    · exact Option.map_eq_none_iff.1 (hbefore other hm)
    · rcases List.mem_cons.1 hm with rfl | hm
      · exact absurd ho (Nat.lt_irrefl _)
      · exact absurd ho (Nat.lt_asymm ((List.pairwise_cons.1 hbehind).1 other hm))
  · rintro ⟨h, hf⟩
    rcases l with ⟨kind, chars⟩
    dsimp only at h hf
    cases kind with
    | cell => simp [lexeme?, h]
    | number => simp [lexeme?, h, hf .cell (by decide)]
    | word => simp [lexeme?, h, hf .cell (by decide), hf .number (by decide)]
    | symbol =>
      simp [lexeme?, h, hf .cell (by decide), hf .number (by decide), hf .word (by decide)]

/-- **The lexeme that is taken** is the one that stands first. -/
theorem lexeme?_eq_some_iff {s rest : List Point} {l : Lexeme} :
    lexeme? s = some (l, rest) ↔ l.chars ++ rest = s ∧ l.IsFirst s := by
  rw [lexeme?_eq_some_iff_ofKind?, ofKind?_eq_some_iff]
  simp only [ofKind?_eq_none_iff]
  constructor
  · rintro ⟨⟨hs, hl⟩, hf⟩
    exact ⟨hs, hl, hf⟩
  · rintro ⟨hs, hl, hf⟩
    exact ⟨⟨hs, hl⟩, hf⟩

/-- **No lexeme is taken** exactly if no beginning of the text fits any kind. -/
theorem lexeme?_eq_none_iff {s : List Point} :
    lexeme? s = none ↔
      ∀ (kind : LexemeKind) (other : List Point), other <+: s → ¬ kind.Fits other := by
  simp only [← ofKind?_eq_none_iff, lexeme?, List.findSome?_eq_none_iff, Option.map_eq_none_iff]
  constructor
  · intro h kind
    exact h kind (by cases kind <;> simp)
  · intro h kind _
    exact h kind

end Lexeme

end FormulaSheet
