import FormulaSheet.Proofs.Json.Roundtrip

/-!
# What the reader refuses

A text that is no document either has not the form of one, or it was refused before that could be
told: an integer in it has too many digits, or a bracket opens one sequence or object too many. Such
a refusal always has its reason in the text, so a text in which neither so many digits stand in a
row nor so many brackets open is read, or has not the form of a document.

What one reader leaves for the next is an end of the text. A reason that is found there is therefore
one in the text, and an opening bracket that was passed counts as one more.

* `reads_takeNumber`: a number is refused only for the digits in front of its point;
* `reads_of_steps`: the readers of documents, of items and of fields refuse nothing without reason;
* `hasReason_of_ofChars`: a text is refused for a reason;
* `ofChars_of_digits`, `ofChars_of_brackets`: texts of nothing but digits or opening brackets are
  refused as soon as there are too many of them.
-/

namespace FormulaSheet.Json

/-! ## Reasons for a refusal -/

/-- Whether the character opens a sequence or an object. -/
def isOpening (c : Point) : Bool :=
  c == '[' || c == '\x7b'

/-- The text gives a reason for the refusal, if so many sequences and objects may stand one inside
another: as many digits as are named stand in a row and are more than are converted, or there are
more opening brackets than may stand one inside another. A wrong form needs no reason. -/
def Refusal.HasReason (depth : Nat) (s : List Point) : Refusal → Prop
  | malformed => True
  | tooManyDigits digits => Number.maxDigits < digits ∧
      ∃ t, t <:+ s ∧ (t.takeWhile Number.isAsciiDigit).length = digits
  | tooDeep _ => depth < (s.filter isOpening).length

/-- Reading from the text went as it may: what was read leaves an end of the text, or there is a
reason why it was refused. -/
def Reads {α : Type} (depth : Nat) (s : List Point) : Except Refusal (α × List Point) → Prop
  | .ok (_, rest) => rest <:+ s
  | .error e => e.HasReason depth s

variable {α β : Type} {depth n : Nat} {s t rest : List Point} {c : Point}

/-- A reason in an end of the text is one in the text. -/
theorem Refusal.HasReason.of_suffix {e : Refusal} (h : e.HasReason depth t) (ht : t <:+ s) :
    e.HasReason depth s := by
  cases e with
  | malformed => trivial
  | tooManyDigits digits =>
    obtain ⟨hlt, u, hu, hlength⟩ := h
    exact ⟨hlt, u, hu.trans ht, hlength⟩
  | tooDeep isObject => exact Nat.lt_of_lt_of_le h (ht.sublist.filter isOpening).length_le

/-- An opening bracket takes one away from the depth that is left. -/
theorem Refusal.HasReason.of_opening {e : Refusal} (h : e.HasReason depth s)
    (hc : isOpening c = true) : e.HasReason (depth + 1) (c :: s) := by
  cases e with
  | malformed => trivial
  | tooManyDigits digits =>
    obtain ⟨hlt, u, hu, hlength⟩ := h
    exact ⟨hlt, u, hu.trans (List.suffix_cons c s), hlength⟩
  | tooDeep isObject =>
    rw [HasReason, List.filter_cons_of_pos hc, List.length_cons]
    exact Nat.succ_lt_succ h

section Reads

variable {r : Except Refusal (α × List Point)}

theorem Reads.of_ok {a : α} (h : rest <:+ s) : Reads depth s (.ok (a, rest)) :=
  h

theorem Reads.of_suffix (h : Reads depth t r) (ht : t <:+ s) : Reads depth s r := by
  cases r with
  | error e => exact Refusal.HasReason.of_suffix h ht
  | ok p => exact List.IsSuffix.trans h ht

theorem Reads.of_opening (h : Reads depth s r) (hc : isOpening c = true) :
    Reads (depth + 1) (c :: s) r := by
  cases r with
  | error e => exact Refusal.HasReason.of_opening h hc
  | ok p => exact List.IsSuffix.trans h (List.suffix_cons c s)

/-- What is read next is read from an end of the text. -/
theorem Reads.bind {f : α × List Point → Except Refusal (β × List Point)} (h : Reads depth s r)
    (hf : ∀ a rest, rest <:+ s → Reads depth s (f (a, rest))) : Reads depth s (r >>= f) := by
  cases r with
  | error e => exact h
  | ok p => exact hf p.1 p.2 h

end Reads

theorem skipBlanks_suffix (s : List Point) : skipBlanks s <:+ s :=
  List.dropWhile_suffix isBlank

/-! ## Texts -/

theorem takeUnits_suffix {ns : List Nat} (h : takeUnits s = some (ns, rest)) : rest <:+ s := by
  fun_induction takeUnits s generalizing ns rest with
  | case1 => cases h
  | case2 s =>
    cases h
    exact List.suffix_cons _ _
  | case3 a b c d s ih =>
    obtain ⟨n, -, h⟩ := Option.bind_eq_some_iff.1 h
    obtain ⟨p, hp, h⟩ := Option.bind_eq_some_iff.1 h
    cases h
    exact (ih hp).trans (List.suffix_append [Point.char '\\', Point.char 'u', a, b, c, d] s)
  | case4 c s _ ih =>
    obtain ⟨e, -, h⟩ := Option.bind_eq_some_iff.1 h
    obtain ⟨p, hp, h⟩ := Option.bind_eq_some_iff.1 h
    cases h
    exact (ih hp).trans (List.suffix_append [Point.char '\\', c] s)
  | case5 c s _ _ _ _ => cases h
  | case6 c s _ _ _ _ ih =>
    obtain ⟨p, hp, h⟩ := Option.bind_eq_some_iff.1 h
    cases h
    exact (ih hp).trans (List.suffix_cons c s)

theorem reads_takeText (depth : Nat) (s : List Point) : Reads depth s (takeText s) := by
  rw [takeText]
  cases hu : takeUnits s with
  | none => trivial
  | some p => exact takeUnits_suffix hu

/-! ## Numbers -/

theorem takeWhole_suffix {whole : List Point} (h : takeWhole s = some (whole, rest)) :
    rest <:+ s ∧ (whole = [Point.char '0'] ∨ whole = s.takeWhile Number.isAsciiDigit) := by
  rw [takeWhole.eq_def] at h
  split at h
  · cases h
    exact ⟨List.suffix_cons _ _, .inl rfl⟩
  · dsimp only at h
    split at h
    · cases h
    · cases h
      exact ⟨List.dropWhile_suffix _, .inr rfl⟩

theorem takeFraction_suffix {ds : List Point} (h : takeFraction s = some (ds, rest)) :
    rest <:+ s := by
  rw [takeFraction.eq_def] at h
  split at h
  · dsimp only at h
    split at h
    · cases h
    · cases h
      exact (List.dropWhile_suffix _).trans (List.suffix_cons _ _)
  · cases h

theorem takeSign_suffix (s : List Point) : (Number.takeSign s).2 <:+ s := by
  fun_cases Number.takeSign s with
  | case1 s => exact List.suffix_cons _ s
  | case2 s => exact List.suffix_cons _ s
  | case3 => exact List.suffix_refl s

theorem takeExponent_suffix {e : Int} (h : takeExponent s = some (e, rest)) : rest <:+ s := by
  rw [takeExponent.eq_def] at h
  split at h
  · rename_i c t
    split at h
    · dsimp only at h
      split at h
      · cases h
      · cases h
        exact ((List.dropWhile_suffix _).trans (takeSign_suffix t)).trans (List.suffix_cons c t)
    · cases h
  · cases h

/-- What follows a part that may be missing is an end of the text. -/
theorem suffix_of_optional {o : Option (α × List Point)}
    (h : ∀ a rest, o = some (a, rest) → rest <:+ s) : (o.map (·.2)).getD s <:+ s := by
  cases o with
  | none => exact List.suffix_refl s
  | some p => exact h p.1 p.2 rfl

theorem unsigned_suffix {negative : Bool} (h : (match s with
    | .char '-' :: rest => (true, rest)
    | _ => (false, s)) = (negative, t)) : t <:+ s := by
  split at h
  · cases h
    exact List.suffix_cons _ _
  · cases h
    exact List.suffix_refl _

/-- **A number** is refused only for the digits in front of its point. -/
theorem reads_takeNumber (depth : Nat) (s : List Point) : Reads depth s (takeNumber s) := by
  unfold takeNumber
  split
  rename_i negative u hu
  split
  · trivial
  · rename_i whole rest hw
    obtain ⟨hrest, hwhole⟩ := takeWhole_suffix hw
    have hu := unsigned_suffix hu
    have hfraction := suffix_of_optional fun _ _ h => takeFraction_suffix (s := rest) h
    dsimp only
    generalize takeFraction rest = fraction at hfraction ⊢
    have hexponent := suffix_of_optional fun _ _ h =>
      takeExponent_suffix (s := (fraction.map (·.2)).getD rest) h
    have hend := ((hexponent.trans hfraction).trans hrest).trans hu
    split
    · exact Reads.of_ok hend
    · split
      · rename_i hlong
        refine ⟨hlong, u, hu, ?_⟩
        rcases hwhole with rfl | rfl
        · exact absurd hlong (by decide)
        · rfl
      · exact Reads.of_ok hend

theorem reads_takeLeaf (depth : Nat) (s : List Point) : Reads depth s (takeLeaf s) := by
  rw [takeLeaf]
  split
  · exact List.drop_suffix _ _
  · exact reads_takeNumber depth s

/-! ## Documents -/

theorem zero_lt_openings (hc : isOpening c = true) : 0 < ((c :: s).filter isOpening).length := by
  rw [List.filter_cons_of_pos hc]
  exact Nat.succ_pos _

theorem skipBlanks_cons_suffix (h : skipBlanks s = c :: t) : t <:+ s :=
  ((List.suffix_cons c t).trans (h ▸ List.suffix_refl _)).trans (skipBlanks_suffix s)

section Step

variable (hvalue : ∀ depth s, Reads depth s (takeValue depth n s))
  (hitems : ∀ depth s, Reads depth s (takeItems depth n s))
  (hfields : ∀ depth s, Reads depth s (takeFields depth n s))

include hitems hfields in
/-- One step into a document. -/
theorem reads_takeValue_succ (depth : Nat) (s : List Point) :
    Reads depth s (takeValue depth (n + 1) s) := by
  rw [takeValue.eq_def]
  split
  · trivial
  · rename_i s h
    cases h
    refine Reads.of_suffix (t := s) ?_ (List.suffix_cons _ s)
    exact (reads_takeText _ s).bind fun text rest ht => ht
  · exact zero_lt_openings rfl
  · rename_i depth _ s h
    cases h
    refine .of_opening ?_ rfl
    split
    · rename_i rest hs
      exact .of_ok (skipBlanks_cons_suffix hs)
    · refine Reads.of_suffix (t := skipBlanks s) ?_ (skipBlanks_suffix s)
      exact (hitems depth _).bind fun items rest ht => ht
  · exact zero_lt_openings rfl
  · rename_i depth _ s h
    cases h
    refine .of_opening ?_ rfl
    split
    · rename_i rest hs
      exact .of_ok (skipBlanks_cons_suffix hs)
    · refine Reads.of_suffix (t := skipBlanks s) ?_ (skipBlanks_suffix s)
      exact (hfields depth _).bind fun fields rest ht => ht
  · exact reads_takeLeaf _ _

include hvalue hitems in
/-- One step along the items of a sequence. -/
theorem reads_takeItems_succ (depth : Nat) (s : List Point) :
    Reads depth s (takeItems depth (n + 1) s) := by
  rw [takeItems.eq_def]
  refine (hvalue depth s).bind fun j rest ht => ?_
  dsimp only
  split
  · rename_i hs
    exact .of_ok ((skipBlanks_cons_suffix hs).trans ht)
  · rename_i t hs
    refine Reads.of_suffix (t := skipBlanks t) ?_
      (((skipBlanks_suffix t).trans (skipBlanks_cons_suffix hs)).trans ht)
    exact (hitems depth (skipBlanks t)).bind fun items rest hr => hr
  · trivial

include hvalue hfields in
/-- One step along the fields of an object. -/
theorem reads_takeFields_succ (depth : Nat) (s : List Point) :
    Reads depth s (takeFields depth (n + 1) s) := by
  rw [takeFields.eq_def]
  split
  · rename_i s h
    cases h
    refine Reads.of_suffix (t := s) ?_ (List.suffix_cons _ s)
    refine (reads_takeText _ s).bind fun name rest ht => ?_
    dsimp only
    split
    · rename_i t hs
      have ht := ((skipBlanks_suffix t).trans (skipBlanks_cons_suffix hs)).trans ht
      refine ((hvalue _ (skipBlanks t)).bind fun j rest hr => ?_).of_suffix ht
      dsimp only
      split
      · rename_i hs
        exact .of_ok ((skipBlanks_cons_suffix hs).trans hr)
      · rename_i u hs
        refine Reads.of_suffix (t := skipBlanks u) ?_
          (((skipBlanks_suffix u).trans (skipBlanks_cons_suffix hs)).trans hr)
        exact (hfields _ (skipBlanks u)).bind fun fields rest hr => hr
      · trivial
    · trivial
  · trivial

end Step

/-- The three readers, by induction on the number of parts that may be read. -/
theorem reads_of_steps (n : Nat) : (∀ depth s, Reads depth s (takeValue depth n s)) ∧
    (∀ depth s, Reads depth s (takeItems depth n s)) ∧
    ∀ depth s, Reads depth s (takeFields depth n s) := by
  induction n with
  | zero =>
    refine ⟨fun depth s => ?_, fun depth s => ?_, fun depth s => ?_⟩
    · rw [takeValue]
      trivial
    · rw [takeItems]
      trivial
    · rw [takeFields.eq_def]
      trivial
  | succ n ih =>
    obtain ⟨hvalue, hitems, hfields⟩ := ih
    exact ⟨reads_takeValue_succ hitems hfields, reads_takeItems_succ hvalue hitems,
      reads_takeFields_succ hvalue hfields⟩

/-- **A text is refused for a reason.** If it is refused for digits, so many of them stand in it in
a row, more than are converted; if it is refused for its depth, it has more opening brackets than
may stand one inside another. -/
theorem hasReason_of_ofChars {e : Refusal} (h : ofChars depth s = .error e) :
    e.HasReason depth s := by
  have hvalue := ((reads_of_steps (2 * s.length + 1)).1 depth (skipBlanks s)).of_suffix
    (skipBlanks_suffix s)
  rw [ofChars] at h
  cases hr : takeValue depth (2 * s.length + 1) (skipBlanks s) with
  | error f =>
    rw [hr] at h hvalue
    cases h
    exact hvalue
  | ok p =>
    rw [hr] at h
    change (if (skipBlanks p.2).isEmpty then Except.ok p.1 else .error Refusal.malformed) = _ at h
    split at h
    · cases h
    · cases h
      trivial

/-! ## Texts that are refused -/

theorem ofChars_of_takeValue {e : Refusal}
    (h : takeValue depth (2 * s.length + 1) (skipBlanks s) = .error e) :
    ofChars depth s = .error e := by
  rw [ofChars, h]
  rfl

theorem takeWhole_of_digits {ds : List Point} (hz : c ≠ '0')
    (hd : ∀ d ∈ c :: ds, Number.isAsciiDigit d = true) :
    takeWhole (c :: ds) = some (c :: ds, []) := by
  have htake : takeWhole (c :: ds ++ []) = some (c :: ds, []) :=
    takeWhole_append (List.cons_ne_nil c ds) hd (fun t ht => absurd (List.cons.inj ht).1 hz) nofun
  rwa [List.append_nil] at htake

/-- **Too many digits** are refused, unless the first of them is a zero. -/
theorem ofChars_of_digits {ds : List Point} (hz : c ≠ '0')
    (hd : ∀ d ∈ c :: ds, Number.isAsciiDigit d = true)
    (hl : Number.maxDigits < (c :: ds).length) :
    ofChars depth (c :: ds) = .error (.tooManyDigits (c :: ds).length) := by
  have hc := hd c List.mem_cons_self
  have hblanks : skipBlanks (c :: ds) = c :: ds := by
    rw [skipBlanks, List.dropWhile_cons_of_neg]
    simp [isBlank, ne_of_isAsciiDigit hc (d := ' ') rfl, ne_of_isAsciiDigit hc (d := '\t') rfl,
      ne_of_isAsciiDigit hc (d := '\n') rfl, ne_of_isAsciiDigit hc (d := '\r') rfl]
  have hnumber : takeNumber (c :: ds) = .error (.tooManyDigits (c :: ds).length) := by
    unfold takeNumber
    split
    rename_i negative unsigned h
    split at h
    · rename_i heq
      exact absurd (List.cons.inj heq).1 (ne_of_isAsciiDigit hc rfl)
    · cases h
      have hf : takeFraction [] = none := rfl
      have he : takeExponent [] = none := rfl
      simp only [takeWhole_of_digits hz hd, hf, he, Option.map_none, Option.getD_none,
        Option.isSome_none, Bool.or_self, Bool.false_eq_true, if_false, if_pos hl]
  refine ofChars_of_takeValue ?_
  rw [hblanks, takeValue_leaf (ne_of_isAsciiDigit hc rfl) (ne_of_isAsciiDigit hc rfl)
    (ne_of_isAsciiDigit hc rfl), takeLeaf, find?_words_of_digit hc]
  exact hnumber

theorem skipBlanks_brackets (k : Nat) (s : List Point) :
    skipBlanks (List.replicate (k + 1) (Point.char '[') ++ s) =
      List.replicate (k + 1) (Point.char '[') ++ s := by
  rw [List.replicate_succ, List.cons_append, skipBlanks, List.dropWhile_cons_of_neg (by decide)]

theorem takeValue_of_brackets (s : List Point) (hn : 2 * depth < n) :
    takeValue depth n (List.replicate (depth + 1) (Point.char '[') ++ s) =
      .error (.tooDeep false) := by
  -- each bracket takes one step into its sequence, and one step to its first item
  induction depth generalizing n with
  | zero =>
    obtain ⟨n, rfl⟩ := Nat.exists_eq_add_of_lt hn
    rfl
  | succ depth ih =>
    obtain ⟨n, rfl⟩ := Nat.exists_eq_add_of_le (show 2 ≤ n by omega)
    have hinner := ih (n := n) (by omega)
    have hitems : takeItems depth (n + 1) (List.replicate (depth + 1) (Point.char '[') ++ s) =
        .error (.tooDeep false) := by
      rw [takeItems, hinner]
      rfl
    rw [List.replicate_succ, List.cons_append, Nat.add_comm 2 n, takeValue, skipBlanks_brackets]
    split
    · rename_i h
      rw [List.replicate_succ, List.cons_append] at h
      exact absurd (List.cons.inj h).1 (by decide)
    · rw [hitems]
      rfl

/-- **Too many opening brackets** are refused, whatever stands behind them. -/
theorem ofChars_of_brackets (depth : Nat) (s : List Point) :
    ofChars depth (List.replicate (depth + 1) (Point.char '[') ++ s) = .error (.tooDeep false) := by
  refine ofChars_of_takeValue ?_
  rw [skipBlanks_brackets]
  refine takeValue_of_brackets s ?_
  rw [List.length_append, List.length_replicate]
  omega

end FormulaSheet.Json
