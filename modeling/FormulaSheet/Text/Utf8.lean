import FormulaSheet.Text

/-!
# Characters as octets

Files hold octets. A character is written as one to four of them; half of a character cannot be
written. A text is read back character by character. Octets that are no part of a character are
refused, or else the longest run that could begin a character but does not go on as one stands for a
single replacement character.

* `decode_encode`: what was written is read;
* `decode_of_read`: where no octets are refused, none are replaced;
* `halves?_eq_none_iff`: the texts that can be written.
-/

namespace FormulaSheet.Utf8

/-! ## Writing -/

/-- The octets of a code point. Half of a character is written as if it were one; where only
characters may be written, it must be kept out. -/
def octets (c : Point) : List UInt8 :=
  let n := c.toNat
  if n < 0x80 then [UInt8.ofNat n]
  else if n < 0x800 then [UInt8.ofNat (0xC0 + n / 0x40), UInt8.ofNat (0x80 + n % 0x40)]
  else if n < 0x10000 then
    [UInt8.ofNat (0xE0 + n / 0x1000), UInt8.ofNat (0x80 + n / 0x40 % 0x40),
      UInt8.ofNat (0x80 + n % 0x40)]
  else
    [UInt8.ofNat (0xF0 + n / 0x40000), UInt8.ofNat (0x80 + n / 0x1000 % 0x40),
      UInt8.ofNat (0x80 + n / 0x40 % 0x40), UInt8.ofNat (0x80 + n % 0x40)]

/-- The octets of a text. -/
def encode (s : List Point) : List UInt8 :=
  s.flatMap octets

/-- Halves of characters that stand side by side in a text. -/
structure Halves where
  /-- the first of them -/
  first : Half
  /-- how many others there are -/
  others : Nat
  /-- where in the text they start -/
  position : Nat
  deriving DecidableEq, Repr

/-- The first halves of characters in a text that starts at a position. -/
def halvesFrom (position : Nat) : List Point → Option Halves
  | [] => none
  | .char _ :: s => halvesFrom (position + 1) s
  | .half h :: s => some ⟨h, (s.takeWhile fun p => !p.isChar).length, position⟩

/-- The halves of characters that keep a text from being written, if there are any. -/
def halves? (s : Text) : Option Halves :=
  halvesFrom 0 s.toList

/-! ## Reading -/

/-- The character that stands for octets that are none. -/
def replacement : Point :=
  Point.ofNat 0xFFFD

/-- A character that has begun. -/
structure Begun where
  /-- its number as far as it was read -/
  number : Nat
  /-- how many octets are missing after the next one -/
  missing : Nat
  /-- the least value of the next octet -/
  least : Nat
  /-- the greatest value of the next octet -/
  greatest : Nat

/-- What an octet at the start of a character is. -/
inductive Lead where
  /-- a whole character -/
  | whole (c : Point)
  /-- the beginning of one -/
  | begun (b : Begun)
  /-- neither -/
  | stray

/-- What an octet at the start of a character is. The bounds on the octet behind it leave out the
numbers that need fewer octets and those that are no characters. -/
def lead (b : Nat) : Lead :=
  if b < 0x80 then .whole (Point.ofNat b)
  else if b < 0xC2 then .stray
  else if b < 0xE0 then .begun ⟨b - 0xC0, 0, 0x80, 0xBF⟩
  else if b = 0xE0 then .begun ⟨0, 1, 0xA0, 0xBF⟩
  else if b = 0xED then .begun ⟨0xD, 1, 0x80, 0x9F⟩
  else if b < 0xF0 then .begun ⟨b - 0xE0, 1, 0x80, 0xBF⟩
  else if b = 0xF0 then .begun ⟨0, 2, 0x90, 0xBF⟩
  else if b < 0xF4 then .begun ⟨b - 0xF0, 2, 0x80, 0xBF⟩
  else if b = 0xF4 then .begun ⟨4, 2, 0x80, 0x8F⟩
  else .stray

/-- Reads octets, the first of which may belong to a character that has begun. -/
def decodeFrom : Option Begun → List UInt8 → List Point
  | none, [] => []
  | some _, [] => [replacement]
  | begun, o :: s =>
    let b := o.toNat
    let fresh : Unit → List Point := fun _ => match lead b with
      | .whole c => c :: decodeFrom none s
      | .begun next => decodeFrom (some next) s
      | .stray => replacement :: decodeFrom none s
    match begun with
    | none => fresh ()
    | some p =>
      if p.least ≤ b ∧ b ≤ p.greatest then
        let n := p.number * 0x40 + (b - 0x80)
        match p.missing with
        | 0 => Point.ofNat n :: decodeFrom none s
        | m + 1 => decodeFrom (some ⟨n, m, 0x80, 0xBF⟩) s
      else replacement :: fresh ()

/-- Reads octets as text. -/
def decode (s : List UInt8) : List Point :=
  decodeFrom none s

/-! ## Reading with refusal -/

/-- What is wrong with octets that are no part of a text. -/
inductive Wrong where
  /-- no character starts like this -/
  | start
  /-- the character that has begun does not go on like this -/
  | continuation
  /-- the character that has begun goes on no more -/
  | ending
  deriving DecidableEq, Repr

/-- Octets that are no part of a text. -/
structure Stray where
  /-- the octets -/
  octets : List UInt8
  /-- where they start -/
  position : Nat
  /-- what is wrong with them -/
  wrong : Wrong
  deriving DecidableEq, Repr

/-- Reads octets that start at a position, the first of which may belong to a character that has
begun with the given ones. -/
def readFrom (position : Nat) : Option (Begun × List UInt8) → List UInt8 →
    Except Stray (List Point)
  | none, [] => .ok []
  | some (_, read), [] => .error ⟨read, position - read.length, .ending⟩
  | none, o :: s =>
    match lead o.toNat with
    | .whole c => (readFrom (position + 1) none s).map (c :: ·)
    | .begun next => readFrom (position + 1) (some (next, [o])) s
    | .stray => .error ⟨[o], position, .start⟩
  | some (p, read), o :: s =>
    let b := o.toNat
    if p.least ≤ b ∧ b ≤ p.greatest then
      let n := p.number * 0x40 + (b - 0x80)
      match p.missing with
      | 0 => (readFrom (position + 1) none s).map (Point.ofNat n :: ·)
      | m + 1 => readFrom (position + 1) (some (⟨n, m, 0x80, 0xBF⟩, read ++ [o])) s
    else .error ⟨read, position - read.length, .continuation⟩

/-- Reads octets as text, unless some of them are no part of one. -/
def read (s : List UInt8) : Except Stray (List Point) :=
  readFrom 0 none s

/-! ## What was written is read -/

theorem decodeFrom_octets (c : Char) (s : List UInt8) :
    decodeFrom none (octets c ++ s) = Point.char c :: decodeFrom none s := by
  have hc : Point.ofNat (Point.char c).toNat = c := Point.ofNat_toNat c
  have hv : (Point.char c).toNat < 0xD800 ∨
      0xDFFF < (Point.char c).toNat ∧ (Point.char c).toNat < 0x110000 := c.valid
  generalize hn : (Point.char c).toNat = n at hc hv
  have ho : ∀ m, m < 256 → (UInt8.ofNat m).toNat = m := fun m hm => by
    simp only [UInt8.toNat_ofNat']
    omega
  unfold octets
  rw [hn]
  by_cases h1 : n < 0x80
  · simp only [h1, if_true, List.cons_append, List.nil_append, decodeFrom]
    rw [ho n (by omega)]
    simp [lead, h1, hc]
  by_cases h2 : n < 0x800
  · simp only [h1, h2, if_true, if_false, List.cons_append, List.nil_append, decodeFrom]
    rw [ho _ (by omega), ho _ (by omega)]
    have hl : lead (0xC0 + n / 0x40) = .begun ⟨n / 0x40, 0, 0x80, 0xBF⟩ := by
      rw [lead, if_neg (by omega), if_neg (by omega), if_pos (by omega)]
      simp
    rw [hl]
    simp only
    rw [if_pos (by omega)]
    have hn' : n / 0x40 * 0x40 + (0x80 + n % 0x40 - 0x80) = n := by omega
    rw [hn', hc]
  by_cases h3 : n < 0x10000
  · simp only [h1, h2, h3, if_true, if_false, List.cons_append, List.nil_append, decodeFrom]
    rw [ho _ (by omega), ho _ (by omega), ho _ (by omega)]
    have hl : ∃ p, lead (0xE0 + n / 0x1000) = .begun p ∧ p.number = n / 0x1000 ∧ p.missing = 1 ∧
        p.least ≤ 0x80 + n / 0x40 % 0x40 ∧ 0x80 + n / 0x40 % 0x40 ≤ p.greatest := by
      unfold lead
      rw [if_neg (by omega), if_neg (by omega), if_neg (by omega)]
      split
      · exact ⟨_, rfl, by simp only; omega, rfl, by simp only; omega, by simp only; omega⟩
      split
      · exact ⟨_, rfl, by simp only; omega, rfl, by simp only; omega, by simp only; omega⟩
      rw [if_pos (by omega)]
      exact ⟨_, rfl, by simp only; omega, rfl, by simp only; omega, by simp only; omega⟩
    obtain ⟨p, hl, hnum, hm, hle, hge⟩ := hl
    rw [hl]
    simp only [hnum, hm]
    rw [if_pos ⟨hle, hge⟩]
    rw [if_pos (by omega)]
    have hn' : (n / 0x1000 * 0x40 + (0x80 + n / 0x40 % 0x40 - 0x80)) * 0x40 +
        (0x80 + n % 0x40 - 0x80) = n := by omega
    rw [hn', hc]
  · simp only [h1, h2, h3, if_false, List.cons_append, List.nil_append, decodeFrom]
    rw [ho _ (by omega), ho _ (by omega), ho _ (by omega), ho _ (by omega)]
    have hl : ∃ p, lead (0xF0 + n / 0x40000) = .begun p ∧ p.number = n / 0x40000 ∧ p.missing = 2 ∧
        p.least ≤ 0x80 + n / 0x1000 % 0x40 ∧ 0x80 + n / 0x1000 % 0x40 ≤ p.greatest := by
      unfold lead
      rw [if_neg (by omega), if_neg (by omega), if_neg (by omega), if_neg (by omega),
        if_neg (by omega), if_neg (by omega)]
      split
      · exact ⟨_, rfl, by simp only; omega, rfl, by simp only; omega, by simp only; omega⟩
      split
      · exact ⟨_, rfl, by simp only; omega, rfl, by simp only; omega, by simp only; omega⟩
      rw [if_pos (by omega)]
      exact ⟨_, rfl, by simp only; omega, rfl, by simp only; omega, by simp only; omega⟩
    obtain ⟨p, hl, hnum, hm, hle, hge⟩ := hl
    rw [hl]
    simp only [hnum, hm]
    rw [if_pos ⟨hle, hge⟩]
    rw [if_pos (by omega)]
    rw [if_pos (by omega)]
    have hn' : ((n / 0x40000 * 0x40 + (0x80 + n / 0x1000 % 0x40 - 0x80)) * 0x40 +
        (0x80 + n / 0x40 % 0x40 - 0x80)) * 0x40 + (0x80 + n % 0x40 - 0x80) = n := by omega
    rw [hn', hc]

/-- What was written is read, if it has no half of a character. -/
theorem decode_encode {s : List Point} (h : ∀ p ∈ s, p.isChar = true) :
    decode (encode s) = s := by
  induction s with
  | nil => rfl
  | cons p s ih =>
    obtain ⟨hp, hs⟩ := List.forall_mem_cons.1 h
    cases p with
    | half h => cases hp
    | char c =>
      rw [decode, encode, List.flatMap_cons, decodeFrom_octets]
      exact congrArg _ (ih hs)

/-! ## Refusal -/

theorem decodeFrom_of_readFrom {position : Nat} {begun : Option (Begun × List UInt8)}
    {s : List UInt8} {t : List Point} (h : readFrom position begun s = .ok t) :
    decodeFrom (begun.map (·.1)) s = t := by
  induction s generalizing position begun t with
  | nil =>
    cases begun with
    | none =>
      cases h
      rfl
    | some p => cases h
  | cons o s ih =>
    -- a character is put in front of what is read behind it
    have hcons {c : Point} (h : (readFrom (position + 1) none s).map (c :: ·) = .ok t) :
        c :: decodeFrom none s = t := by
      cases hr : readFrom (position + 1) none s with
      | error e =>
        rw [hr] at h
        cases h
      | ok more =>
        rw [hr] at h
        cases h
        exact congrArg _ (ih hr)
    cases begun with
    | none =>
      rw [readFrom] at h
      simp only [Option.map_none, decodeFrom]
      split at h
      · exact hcons h
      · exact ih h
      · cases h
    | some begun =>
      obtain ⟨p, read⟩ := begun
      rw [readFrom] at h
      simp only [Option.map_some, decodeFrom]
      dsimp only at h
      split at h
      · rename_i hb
        rw [if_pos hb]
        split at h
        · exact hcons h
        · exact ih h
      · cases h

/-- Where no octets are refused, none are replaced. -/
theorem decode_of_read {s : List UInt8} {t : List Point} (h : read s = .ok t) : decode s = t :=
  decodeFrom_of_readFrom h

/-- **A text can be written** if it has no half of a character. -/
theorem halves?_eq_none_iff {s : Text} : halves? s = none ↔ ∀ p ∈ s.toList, p.isChar = true := by
  have hfrom (position : Nat) (t : List Point) :
      halvesFrom position t = none ↔ ∀ p ∈ t, p.isChar = true := by
    induction t generalizing position with
    | nil => simp [halvesFrom]
    | cons p t ih =>
      cases p with
      | char c => simp [halvesFrom, ih, Point.isChar]
      | half h => simp [halvesFrom, Point.isChar]
  exact hfrom 0 s.toList

end FormulaSheet.Utf8
