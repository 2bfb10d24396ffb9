import FormulaSheet.Number.Layout
import FormulaSheet.Proofs.Json.Number
import FormulaSheet.Proofs.Number.Shortest

/-!
# Doubles are read as they were written

A numeral has digits in front of a point, and may have digits behind it and an exponent; a numeral
with one of the two is read as a double. The text of a finite double is such a numeral, however its
digits are laid out, and what it denotes is the shortest decimal that was found for the double. So
the double is read back.

* `Numeral`: what numerals are made of;
* `takeNumber_numeral`: a numeral is read to its end;
* `write_cases`, `writes_write`: digits that are laid out are a numeral;
* `exists_numeral_of_float`: the text of a finite double, and that it reads back.
-/

namespace FormulaSheet

namespace Json

/-! ## Numerals -/

/-- The character may stand in a numeral. -/
def IsPart (c : Point) : Prop :=
  Number.isAsciiDigit c = true ∨ c ∈ [Point.char '-', .char '+', .char '.', .char 'e', .char 'E']

/-- The exponent of a numeral. -/
structure Power where
  /-- the letter in front -/
  mark : Point
  /-- the sign, which may be missing -/
  sign : List Point
  /-- the digits -/
  digits : List Point
  isMark : mark = 'e' ∨ mark = 'E'
  isSign : sign = [] ∨ sign = [Point.char '+'] ∨ sign = [Point.char '-']
  ne_nil : digits ≠ []
  areDigits : ∀ c ∈ digits, Number.isAsciiDigit c = true

namespace Power

/-- The characters of the exponent. -/
def chars (p : Power) : List Point :=
  p.mark :: (p.sign ++ p.digits)

/-- The power of ten. -/
def value (p : Power) : Int :=
  if p.sign = [Point.char '-'] then -(Text.ofDecimal p.digits : Int) else Text.ofDecimal p.digits

theorem mem_chars (p : Power) {c : Point} (h : c ∈ p.chars) : IsPart c := by
  rcases List.mem_cons.1 h with rfl | h
  · rcases p.isMark with h | h <;> rw [h] <;> exact .inr (by decide)
  · rcases List.mem_append.1 h with h | h
    · rcases p.isSign with hs | hs | hs <;> rw [hs] at h
      · cases h
      · rw [List.mem_singleton.1 h]
        exact .inr (by decide)
      · rw [List.mem_singleton.1 h]
        exact .inr (by decide)
    · exact .inl (p.areDigits c h)

end Power

/-- A numeral of a document. No zero stands in front of other digits. -/
structure Numeral where
  /-- whether a minus sign stands in front -/
  negative : Bool
  /-- the digits in front of the point -/
  whole : List Point
  /-- the digits behind the point, which is missing if there are none -/
  behind : List Point
  /-- the exponent, which may be missing -/
  power : Option Power
  ne_nil : whole ≠ []
  areDigits : ∀ c ∈ whole ++ behind, Number.isAsciiDigit c = true
  noZero : ∀ t, whole = .char '0' :: t → t = []

namespace Numeral

variable (n : Numeral)

/-- The point and the digits behind it. -/
def fraction : List Point :=
  if n.behind = [] then [] else .char '.' :: n.behind

/-- The characters of the exponent. -/
def exponent : List Point :=
  (n.power.map Power.chars).getD []

/-- The characters of the numeral. -/
def chars : List Point :=
  Number.signed n.negative (n.whole ++ (n.fraction ++ n.exponent))

/-- The numeral has a point or an exponent, and so denotes a double. -/
def IsReal : Prop :=
  n.behind ≠ [] ∨ n.power ≠ none

/-- What the numeral denotes. -/
def decimal : Number.Decimal :=
  ⟨n.negative, Text.ofDecimal (n.whole ++ n.behind),
    (n.power.map Power.value).getD 0 - n.behind.length⟩

/-- What a numeral is made of: digits, signs, the point and the letter of the exponent. -/
theorem mem_chars {c : Point} (h : c ∈ n.chars) : IsPart c := by
  have hfraction (hc : c ∈ n.fraction) : IsPart c := by
    rw [fraction] at hc
    split at hc
    · cases hc
    · rcases List.mem_cons.1 hc with rfl | hc
      · exact .inr (by decide)
      · exact .inl (n.areDigits c (List.mem_append_right _ hc))
  have hexponent (hc : c ∈ n.exponent) : IsPart c := by
    rw [exponent] at hc
    cases hp : n.power with
    | none =>
      rw [hp] at hc
      cases hc
    | some p =>
      rw [hp] at hc
      exact p.mem_chars hc
  have hunsigned (hc : c ∈ n.whole ++ (n.fraction ++ n.exponent)) : IsPart c := by
    rcases List.mem_append.1 hc with hc | hc
    · exact .inl (n.areDigits c (List.mem_append_left _ hc))
    · exact (List.mem_append.1 hc).elim hfraction hexponent
  rw [chars, Number.signed] at h
  split at h
  · rcases List.mem_cons.1 h with rfl | h
    · exact .inr (by decide)
    · exact hunsigned h
  · exact hunsigned h

end Numeral

/-! ## Reading -/

section Read

variable {rest : List Point}

/-- The sign of an exponent is found. -/
theorem takeSign_power (p : Power) (rest : List Point) :
    Number.takeSign (p.sign ++ (p.digits ++ rest)) =
      (decide (p.sign = [Point.char '-']), p.digits ++ rest) := by
  rcases p.isSign with h | h | h
  · obtain ⟨c, ds, hds⟩ := List.exists_cons_of_ne_nil p.ne_nil
    have hc := p.areDigits c (hds ▸ List.mem_cons_self)
    rw [h, hds]
    exact Number.takeSign_of_isAsciiDigit hc _
  · rw [h]
    rfl
  · rw [h]
    rfl

theorem takeExponent_power (p : Power) (hr : StopsDigits rest) :
    takeExponent (p.chars ++ rest) = some (p.value, rest) := by
  have hmark : (decide (p.mark = 'e') || decide (p.mark = 'E')) = true := by
    rw [← Bool.decide_or]
    exact decide_eq_true p.isMark
  obtain ⟨htake, hdrop⟩ := takeWhile_digits p.areDigits hr
  rw [Power.chars, List.cons_append, List.append_assoc, takeExponent, takeSign_power]
  simp only [hmark, htake, hdrop, List.isEmpty_eq_false_iff.2 p.ne_nil, Power.value,
    decide_eq_true_eq, if_true, Bool.false_eq_true, if_false]

theorem takeFraction_point {behind : List Point} (hne : behind ≠ [])
    (hd : ∀ c ∈ behind, Number.isAsciiDigit c = true) (hr : StopsDigits rest) :
    takeFraction (.char '.' :: (behind ++ rest)) = some (behind, rest) := by
  obtain ⟨htake, hdrop⟩ := takeWhile_digits hd hr
  simp only [takeFraction, htake, hdrop, List.isEmpty_eq_false_iff.2 hne, Bool.false_eq_true,
    if_false]

theorem takeFraction_power (p : Power) : takeFraction (p.chars ++ rest) = none := by
  rw [Power.chars, List.cons_append, takeFraction]
  intro s he
  have hmark := p.isMark
  rw [(List.cons.inj he).1] at hmark
  exact absurd hmark (by decide)

theorem stopsDigits_power (p : Power) : StopsDigits (p.chars ++ rest) := by
  intro c s he
  rw [← (List.cons.inj he).1]
  rcases p.isMark with h | h <;> rw [h] <;> decide

namespace Numeral

variable (n : Numeral)

theorem stopsDigits_exponent (hr : Follows rest) : StopsDigits (n.exponent ++ rest) := by
  rw [exponent]
  cases n.power with
  | none => exact hr.stopsDigits
  | some p => exact stopsDigits_power p

theorem takeExponent_exponent (hr : Follows rest) :
    takeExponent (n.exponent ++ rest) = n.power.map fun p => (p.value, rest) := by
  rw [exponent]
  cases n.power with
  | none => exact takeExponent_of_follows hr
  | some p => exact takeExponent_power p hr.stopsDigits

theorem takeFraction_fraction (hr : Follows rest) :
    takeFraction (n.fraction ++ (n.exponent ++ rest)) =
      if n.behind = [] then none else some (n.behind, n.exponent ++ rest) := by
  rw [fraction]
  split
  · rw [exponent]
    cases n.power with
    | none => exact takeFraction_of_follows hr
    | some p => exact takeFraction_power p
  · rename_i h
    exact takeFraction_point h (fun c hc => n.areDigits c (List.mem_append_right _ hc))
      (n.stopsDigits_exponent hr)

theorem takeWhole_whole (hr : Follows rest) :
    takeWhole (n.whole ++ (n.fraction ++ (n.exponent ++ rest))) =
      some (n.whole, n.fraction ++ (n.exponent ++ rest)) := by
  refine takeWhole_append n.ne_nil (fun c hc => n.areDigits c (List.mem_append_left _ hc))
    n.noZero ?_
  rw [fraction]
  split
  · exact n.stopsDigits_exponent hr
  · intro c s he
    rw [← (List.cons.inj he).1]
    decide

theorem whole_append_ne_minus (s t : List Point) : n.whole ++ s ≠ .char '-' :: t := by
  intro h
  obtain ⟨c, ds, hds⟩ := List.exists_cons_of_ne_nil n.ne_nil
  have hc := n.areDigits c (List.mem_append_left _ (hds ▸ List.mem_cons_self))
  rw [hds, List.cons_append] at h
  rw [(List.cons.inj h).1] at hc
  exact absurd hc (by decide)

end Numeral

/-- **A numeral** with a point or an exponent is read to its end. -/
theorem takeNumber_numeral {n : Numeral} (hn : n.IsReal) (hr : Follows rest) :
    takeNumber (n.chars ++ rest) = .ok (float n.decimal.toFloat, rest) := by
  have hwhole := n.takeWhole_whole hr
  have hfraction := n.takeFraction_fraction hr
  have hexponent := n.takeExponent_exponent hr
  have hsign := n.whole_append_ne_minus (n.fraction ++ (n.exponent ++ rest))
  have hchars : n.chars ++ rest =
      Number.signed n.negative (n.whole ++ (n.fraction ++ (n.exponent ++ rest))) := by
    rw [Numeral.chars]
    cases n.negative <;> simp [Number.signed]
  rw [hchars]
  unfold takeNumber
  split
  rename_i negative unsigned h
  obtain ⟨rfl, rfl⟩ : n.negative = negative ∧
      n.whole ++ (n.fraction ++ (n.exponent ++ rest)) = unsigned := by
    cases hn : n.negative with
    | false =>
      rw [hn] at h
      simp only [Number.signed, Bool.false_eq_true, if_false] at h
      exact Prod.mk.inj h
    | true =>
      rw [hn] at h
      exact Prod.mk.inj h
  simp only [hwhole, hfraction, Numeral.decimal]
  by_cases hb : n.behind = []
  · -- without a point there is an exponent
    obtain ⟨p, hp⟩ := Option.ne_none_iff_exists'.1 (hn.resolve_left fun h => h hb)
    have hpoint : n.fraction = [] := if_pos hb
    rw [if_pos hb, hpoint]
    simp [hexponent, hp, hb]
  · rw [if_neg hb]
    cases hp : n.power with
    | none =>
      have hpower : n.exponent = [] := by
        rw [Numeral.exponent, hp]
        rfl
      simp [takeExponent_of_follows hr, hpower]
    | some p => simp [hexponent, hp]

end Read

end Json

/-! ## Digits that are laid out -/

namespace Text

theorem foldl_digits (ds : List Point) (n : Nat) :
    ds.foldl (fun n c => n * 10 + (c.toNat - 0x30)) n = n * 10 ^ ds.length + ofDecimal ds := by
  rw [ofDecimal]
  induction ds generalizing n with
  | nil => simp
  | cons c ds ih =>
    rw [List.foldl_cons, List.foldl_cons, ih, ih (0 * 10 + _), List.length_cons]
    ring

/-- Digits side by side: those in front count by the power of ten of the number of those behind. -/
theorem ofDecimal_append (ds fs : List Point) :
    ofDecimal (ds ++ fs) = ofDecimal ds * 10 ^ fs.length + ofDecimal fs := by
  conv_lhs => rw [ofDecimal, List.foldl_append]
  exact foldl_digits fs _

theorem isAsciiDigit_of_mem_zeros {k : Nat} {c : Point}
    (h : c ∈ List.replicate k (Point.char '0')) :
    Number.isAsciiDigit c = true := by
  rw [List.eq_of_mem_replicate h]
  decide

theorem ofDecimal_zeros (k : Nat) : ofDecimal (List.replicate k (Point.char '0')) = 0 := by
  induction k with
  | zero => rfl
  | succ k ih =>
    rw [List.replicate_succ', ofDecimal_append_singleton, ih]
    rfl

end Text

namespace Json

open Binary64 (Digits)

/-- The exponent as it is laid out. -/
theorem exists_power (e : Int) :
    ∃ p : Power, p.chars = .char 'e' :: Number.exponentText e ∧ p.value = e := by
  obtain ⟨ds, hds⟩ : ∃ ds, (if (Text.decimal e.natAbs).length < 2 then
      .char '0' :: Text.decimal e.natAbs else Text.decimal e.natAbs) = ds := ⟨_, rfl⟩
  obtain ⟨hne, hdigits, hvalue⟩ : ds ≠ [] ∧ (∀ c ∈ ds, Number.isAsciiDigit c = true) ∧
      Text.ofDecimal ds = e.natAbs := by
    have hall : ∀ c ∈ Text.decimal e.natAbs, Number.isAsciiDigit c = true :=
      fun c => Text.isAsciiDigit_of_mem_decimal
    rw [← hds]
    split
    · refine ⟨List.cons_ne_nil _ _, List.forall_mem_cons.2 ⟨by decide, hall⟩, ?_⟩
      exact Text.ofDecimal_decimal e.natAbs
    · exact ⟨Text.decimal_ne_nil _, hall, Text.ofDecimal_decimal e.natAbs⟩
  refine ⟨⟨'e', [if e < 0 then '-' else '+'], ds, .inl rfl, ?_, hne, hdigits⟩, ?_, ?_⟩
  · split
    · exact .inr (.inr rfl)
    · exact .inr (.inl rfl)
  · rw [Power.chars, Number.exponentText, hds]
    rfl
  · by_cases he : e < 0
    · simp only [Power.value, he, hvalue, if_true]
      omega
    · simp only [Power.value, he, hvalue, if_false]
      rw [if_neg (by decide)]
      omega

/-- The text, with a minus sign in front if it is negative, is a numeral that denotes the number. -/
def Writes (negative : Bool) (s : List Point) (v : ℚ) : Prop :=
  ∃ n : Numeral, n.IsReal ∧ n.chars = Number.signed negative s ∧ n.negative = negative ∧
    n.decimal.size = v

section Write

variable (negative : Bool) {c : Point} {rest : List Point}
  (hd : ∀ x ∈ c :: rest, Number.isAsciiDigit x = true) (hc : c ≠ '0')

include hd

/-- Digits behind a point and zeros. -/
theorem writes_fraction (k : Nat) :
    Writes negative (.char '0' :: .char '.' :: (List.replicate k (Point.char '0') ++ c :: rest))
      (Text.ofDecimal (c :: rest) * 10 ^ (-(k + (c :: rest).length) : ℤ)) := by
  have hdigits : ∀ x ∈ [Point.char '0'] ++ (List.replicate k (Point.char '0') ++ c :: rest),
      Number.isAsciiDigit x = true := by
    intro x hx
    rw [← List.append_assoc, List.singleton_append, ← List.replicate_succ, List.mem_append] at hx
    rcases hx with hx | hx
    · exact Text.isAsciiDigit_of_mem_zeros hx
    · exact hd x hx
  have hbehind : List.replicate k (Point.char '0') ++ c :: rest ≠ [] :=
    List.append_ne_nil_of_right_ne_nil _ (List.cons_ne_nil _ _)
  refine ⟨⟨negative, [Point.char '0'], List.replicate k (Point.char '0') ++ c :: rest, none,
    List.cons_ne_nil _ _, hdigits,
    fun t ht => (List.cons.inj ht).2.symm⟩, .inl hbehind, ?_, rfl, ?_⟩
  · rw [Numeral.chars, Numeral.fraction, if_neg hbehind, Numeral.exponent]
    simp
  · change
      (Text.ofDecimal ([Point.char '0'] ++ (List.replicate k (Point.char '0') ++ c :: rest)) : ℚ) *
      10 ^ (0 - (List.replicate k (Point.char '0') ++ c :: rest).length : ℤ) = _
    rw [← List.append_assoc, List.singleton_append, ← List.replicate_succ, Text.ofDecimal_append,
      Text.ofDecimal_zeros, List.length_append, List.length_replicate]
    push_cast
    simp

include hc

/-- Digits with zeros and a fraction of zero behind them. -/
theorem writes_whole (k : Nat) :
    Writes negative (c :: rest ++ List.replicate k (Point.char '0') ++ [Point.char '.', .char '0'])
      (Text.ofDecimal (c :: rest) * 10 ^ (k : ℤ)) := by
  have hdigits : ∀ x ∈ c :: rest ++ List.replicate k (Point.char '0') ++ [Point.char '0'],
      Number.isAsciiDigit x = true := by
    intro x hx
    rw [List.append_assoc, ← List.replicate_succ', List.mem_append] at hx
    rcases hx with hx | hx
    · exact hd x hx
    · exact Text.isAsciiDigit_of_mem_zeros hx
  refine ⟨⟨negative, c :: rest ++ List.replicate k (Point.char '0'), [Point.char '0'], none,
    List.cons_ne_nil _ _, hdigits,
    fun t ht => absurd (List.cons.inj ht).1 hc⟩, .inl (List.cons_ne_nil _ _), ?_, rfl, ?_⟩
  · rfl
  · have hvalue :
      Text.ofDecimal (c :: rest ++ List.replicate k (Point.char '0') ++ [Point.char '0']) =
        Text.ofDecimal (c :: rest) * 10 ^ (k + 1) := by
      rw [List.append_assoc, ← List.replicate_succ', Text.ofDecimal_append, Text.ofDecimal_zeros,
        List.length_replicate, Nat.add_zero]
    change
      (Text.ofDecimal (c :: rest ++ List.replicate k (Point.char '0') ++ [Point.char '0']) : ℚ) *
        10 ^ (-1 : ℤ) = _
    rw [hvalue]
    push_cast
    rw [mul_assoc, ← zpow_natCast, ← zpow_add₀ (by norm_num)]
    norm_num

/-- Digits with a point among them. -/
theorem writes_point {k : Nat} (hk : 0 < k) (hlt : k < (c :: rest).length) :
    Writes negative ((c :: rest).take k ++ Point.char '.' :: (c :: rest).drop k)
      (Text.ofDecimal (c :: rest) * 10 ^ (k - (c :: rest).length : ℤ)) := by
  have hdigits : ∀ x ∈ (c :: rest).take k ++ (c :: rest).drop k,
      Number.isAsciiDigit x = true := by
    rw [List.take_append_drop]
    exact hd
  have hbehind : (c :: rest).drop k ≠ [] := by
    rw [Ne, List.drop_eq_nil_iff]
    omega
  refine ⟨⟨negative, (c :: rest).take k, (c :: rest).drop k, none, ?_, hdigits, ?_⟩,
    .inl hbehind, ?_, rfl, ?_⟩
  · rw [Ne, List.take_eq_nil_iff]
    rintro (h | h)
    · omega
    · cases h
  · intro t ht
    obtain ⟨j, rfl⟩ := Nat.exists_eq_add_of_le' hk
    rw [List.take_succ_cons] at ht
    exact absurd (List.cons.inj ht).1 hc
  · rw [Numeral.chars, Numeral.fraction, if_neg hbehind, Numeral.exponent]
    simp
  · change (Text.ofDecimal ((c :: rest).take k ++ (c :: rest).drop k) : ℚ) *
      10 ^ (0 - ((c :: rest).drop k).length : ℤ) = _
    rw [List.take_append_drop, List.length_drop]
    congr 2
    omega

/-- Digits with an exponent. -/
theorem writes_power (top : Int) : Writes negative
    (if rest = [] then c :: .char 'e' :: Number.exponentText top
      else c :: .char '.' :: rest ++ Point.char 'e' :: Number.exponentText top)
      (Text.ofDecimal (c :: rest) * 10 ^ (top - rest.length : ℤ)) := by
  obtain ⟨p, hchars, hvalue⟩ := exists_power top
  refine ⟨⟨negative, [c], rest, some p, List.cons_ne_nil _ _, hd,
    fun t ht => absurd (List.cons.inj ht).1 hc⟩, .inr (Option.some_ne_none p), ?_, rfl, ?_⟩
  · rw [Numeral.chars, Numeral.fraction, Numeral.exponent, Option.map_some, Option.getD_some,
      hchars]
    split <;> simp_all
  · change (Text.ofDecimal (c :: rest) : ℚ) * 10 ^ (p.value - rest.length : ℤ) = _
    rw [hvalue]

end Write

/-- However digits are laid out, they are a numeral with a point or an exponent, unless they are the
digits of a whole number. -/
theorem write_cases (f : Number.Layout) (negative : Bool) {d : Digits} (h : 0 < d.coefficient) :
    Writes negative (f.write d) d.value ∨ ∃ c rest, ∃ k : ℕ,
      (∀ x ∈ c :: rest, Number.isAsciiDigit x = true) ∧ c ≠ '0' ∧
      f.write d = c :: rest ++ List.replicate k (Point.char '0') ++ f.wholeSuffix ∧
      d.value = Text.ofDecimal (c :: rest) * 10 ^ (k : ℤ) := by
  obtain ⟨c, rest, hds, hc⟩ := Text.exists_decimal_of_pos h
  have hd : ∀ x ∈ c :: rest, Number.isAsciiDigit x = true :=
    fun x hx => Text.isAsciiDigit_of_mem_decimal (hds ▸ hx)
  have hvalue : d.value = Text.ofDecimal (c :: rest) * 10 ^ d.exponent := by
    rw [← hds, Text.ofDecimal_decimal]
    rfl
  have hlength : (((c :: rest).length - 1 : ℕ) : ℤ) = rest.length := rfl
  rw [Number.Layout.write, hds, hvalue]
  simp only [hlength]
  split
  · split
    · -- no fraction
      rename_i he
      obtain ⟨k, hk⟩ := Int.eq_ofNat_of_zero_le he
      rw [hk]
      exact .inr ⟨c, rest, k, hd, hc, rfl, rfl⟩
    split
    · -- the point stands among the digits
      rename_i he ht
      have hk : ((d.exponent + rest.length).toNat + 1 : ℕ) - ((c :: rest).length : ℤ) =
          d.exponent := by
        rw [List.length_cons]
        omega
      have hpoint := writes_point negative hd hc (k := (d.exponent + rest.length).toNat + 1)
        (by omega) (by rw [List.length_cons]; omega)
      rw [hk] at hpoint
      exact .inl hpoint
    · -- the point stands in front of them
      rename_i he ht
      have hk : -(((-(d.exponent + rest.length) - 1).toNat : ℤ) + (c :: rest).length) =
          d.exponent := by
        rw [List.length_cons]
        omega
      have hfraction := writes_fraction negative hd (-(d.exponent + rest.length) - 1).toNat
      rw [hk] at hfraction
      exact .inl hfraction
  · have hpower := writes_power negative hd hc (d.exponent + rest.length)
    rw [add_sub_cancel_right] at hpower
    cases rest with
    | nil => exact .inl hpower
    | cons x rest => exact .inl hpower

/-- **Digits that are laid out** are a numeral that denotes what the digits do. -/
theorem writes_write (negative : Bool) {d : Digits} (h : 0 < d.coefficient) :
    Writes negative (Number.exact.write d) d.value := by
  rcases write_cases Number.exact negative h with hw | ⟨c, rest, k, hd, hc, hwrite, hvalue⟩
  · exact hw
  · rw [hwrite, hvalue]
    exact writes_whole negative hd hc k

/-- Digits that are laid out with nothing behind a whole number are a numeral, too. -/
theorem exists_numeral_of_tenDigits (negative : Bool) {d : Digits} (h : 0 < d.coefficient) :
    ∃ n : Numeral, n.chars = Number.signed negative (Number.tenDigits.write d) ∧
      n.negative = negative ∧ n.decimal.size = d.value := by
  rcases write_cases Number.tenDigits negative h with
    ⟨n, -, hn⟩ | ⟨c, rest, k, hd, hc, hwrite, hvalue⟩
  · exact ⟨n, hn⟩
  · have hdigits : ∀ x ∈ c :: rest ++ List.replicate k (Point.char '0') ++ [],
        Number.isAsciiDigit x = true := by
      intro x hx
      rw [List.append_nil, List.mem_append] at hx
      rcases hx with hx | hx
      · exact hd x hx
      · exact Text.isAsciiDigit_of_mem_zeros hx
    refine ⟨⟨negative, c :: rest ++ List.replicate k (Point.char '0'), [], none,
      List.cons_ne_nil _ _, hdigits,
      fun t ht => absurd (List.cons.inj ht).1 hc⟩, ?_, rfl, ?_⟩
    · rw [hwrite]
      simp [Numeral.chars, Numeral.fraction, Numeral.exponent, Number.tenDigits]
    · have hwhole : Text.ofDecimal (c :: rest ++ List.replicate k (Point.char '0')) =
          Text.ofDecimal (c :: rest) * 10 ^ k := by
        rw [Text.ofDecimal_append, Text.ofDecimal_zeros, List.length_replicate, Nat.add_zero]
      rw [hvalue, Number.Decimal.size, Numeral.decimal, List.append_nil, hwhole]
      simp

/-- An integer is a numeral that denotes it. -/
theorem exists_numeral_of_int (i : Int) : ∃ n : Numeral, n.chars = (Text.intText i).toList ∧
    n.decimal = ⟨decide (i < 0), i.natAbs, 0⟩ := by
  have hnat (negative : Bool) (k : Nat) : ∃ n : Numeral,
      n.chars = Number.signed negative (Text.decimal k) ∧ n.decimal = ⟨negative, k, 0⟩ := by
    refine ⟨⟨negative, Text.decimal k, [], none, Text.decimal_ne_nil k, ?_, ?_⟩, ?_, ?_⟩
    · rw [List.append_nil]
      exact fun c => Text.isAsciiDigit_of_mem_decimal
    · exact fun t => eq_nil_of_decimal_eq_zero_cons
    · simp [Numeral.chars, Numeral.fraction, Numeral.exponent]
    · simp [Numeral.decimal, Text.ofDecimal_decimal]
  cases i with
  | ofNat k =>
    obtain ⟨n, hn, hd⟩ := hnat false k
    refine ⟨n, hn.trans ?_, hd.trans ?_⟩
    · rw [Text.intText, Text.natText, Text.toList_ofList]
      rfl
    · have hsign : ¬ Int.ofNat k < 0 := Int.not_lt.2 (Int.natCast_nonneg k)
      rw [decide_eq_false hsign]
      rfl
  | negSucc k =>
    obtain ⟨n, hn, hd⟩ := hnat true (k + 1)
    refine ⟨n, hn.trans ?_, hd.trans ?_⟩
    · rfl
    · rw [decide_eq_true (Int.negSucc_lt_zero k)]
      rfl

/-- **The text of a finite double** is a numeral that reads back as the double. -/
theorem exists_numeral_of_float {x : Float} (hx : x.isFinite = true) :
    ∃ n : Numeral, n.IsReal ∧ n.chars = (Number.shortestText x).toList ∧ n.decimal.toFloat = x := by
  rw [Number.shortestText, Text.toList_ofList]
  split
  · rename_i hs
    refine ⟨⟨Binary64.isNegative x, [Point.char '0'], [Point.char '0'], none, List.cons_ne_nil _ _,
      List.all_eq_true.1 rfl, fun t ht => (List.cons.inj ht).2.symm⟩,
      .inl (List.cons_ne_nil _ _), rfl, ?_⟩
    have hzero : Text.ofDecimal ([Point.char '0'] ++ [Point.char '0']) = 0 := by decide
    exact Number.Decimal.toFloat_of_zero hx hs rfl hzero
  · rename_i hs
    have hpos := Nat.pos_of_ne_zero hs
    obtain ⟨hc, hcontains⟩ := Binary64.Magnitude.shortest_spec (Binary64.magnitude_spec hx).1 hpos
    obtain ⟨n, hreal, hchars, hnegative, hsize⟩ := writes_write (Binary64.isNegative x) hc
    rw [← hsize] at hcontains
    exact ⟨n, hreal, hchars, Number.Decimal.toFloat_of_contains hx hpos hnegative hcontains⟩

end Json

end FormulaSheet
