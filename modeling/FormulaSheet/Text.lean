/-!
# Text

Text is a sequence of code points. A code point is a character, or one of the numbers in the gap
that the numbers of the characters have. Some notations write a character beyond the first 65536 as
two numbers from the gap, so that one of them alone is half of a character. Half of a character is
none, and has no octets; but a file may name it, and then it stands in a text like any other code
point.

* `Point.ofNat_toNat`: a code point is found again by its number;
* `Text.ofList_toList`, `Text.toList_ofString`: a text is the list of its code points.
-/

namespace FormulaSheet

/-- Half of a character: a number from the gap in the numbers of the characters. -/
structure Half where
  /-- the number -/
  number : Nat
  /-- it lies in the gap -/
  inGap : 0xD800 ≤ number ∧ number < 0xE000
  deriving DecidableEq, Repr

/-- A code point. -/
inductive Point where
  /-- a character -/
  | char (c : Char)
  /-- half of a character -/
  | half (h : Half)
  deriving DecidableEq, Repr

instance : Inhabited Point :=
  ⟨.char default⟩

instance : Coe Char Point :=
  ⟨Point.char⟩

namespace Point

/-- The number of a code point. -/
def toNat : Point → Nat
  | char c => c.toNat
  | half h => h.number

/-- The code point of a number. -/
def ofNat (n : Nat) : Point :=
  if h : 0xD800 ≤ n ∧ n < 0xE000 then half ⟨n, h⟩ else char (Char.ofNat n)

/-- Whether the code point is a character. -/
def isChar : Point → Bool
  | char _ => true
  | half _ => false

instance : LE Point :=
  ⟨fun p q => p.toNat ≤ q.toNat⟩

instance (p q : Point) : Decidable (p ≤ q) :=
  inferInstanceAs (Decidable (p.toNat ≤ q.toNat))

instance : LT Point :=
  ⟨fun p q => p.toNat < q.toNat⟩

@[simp]
theorem toNat_char (c : Char) : (char c).toNat = c.toNat :=
  rfl

theorem le_def {p q : Point} : p ≤ q ↔ p.toNat ≤ q.toNat :=
  Iff.rfl

@[simp]
theorem char_le_char {c d : Char} : char c ≤ char d ↔ c ≤ d := by
  rw [le_def, Char.le_def, UInt32.le_iff_toNat_le]
  rfl

theorem ofNat_toNat (p : Point) : ofNat p.toNat = p := by
  cases p with
  | half h => exact dif_pos h.inGap
  | char c =>
    have hv : c.toNat < 0xD800 ∨ 0xDFFF < c.toNat ∧ c.toNat < 0x110000 := c.valid
    rw [toNat, ofNat, dif_neg (by omega), Char.ofNat_toNat]

theorem toNat_lt (p : Point) : p.toNat < 0x110000 := by
  cases p with
  | half h => exact Nat.lt_trans h.inGap.2 (by decide)
  | char c =>
    have hv : c.toNat < 0xD800 ∨ 0xDFFF < c.toNat ∧ c.toNat < 0x110000 := c.valid
    rw [toNat]
    omega

/-- A code point is a character if its number is not in the gap. -/
theorem isChar_iff {p : Point} : p.isChar = true ↔ p.toNat < 0xD800 ∨ 0xE000 ≤ p.toNat := by
  cases p with
  | half h =>
    have hgap := h.inGap
    simp only [isChar, toNat, Bool.false_eq_true, false_iff]
    omega
  | char c =>
    have hv : c.toNat < 0xD800 ∨ 0xDFFF < c.toNat ∧ c.toNat < 0x110000 := c.valid
    simp only [isChar, toNat, true_iff]
    omega

theorem toNat_inj {p q : Point} : p.toNat = q.toNat ↔ p = q :=
  ⟨fun h => by rw [← ofNat_toNat p, h, ofNat_toNat], congrArg toNat⟩

theorem toNat_ofNat {n : Nat} (h : n < 0x110000) : (ofNat n).toNat = n := by
  rw [ofNat]
  split
  · rfl
  · rename_i hn
    have hv : n.isValidChar := by
      rw [Nat.isValidChar]
      omega
    rw [toNat, Char.ofNat, dif_pos hv]
    rfl

end Point

/-- A text. -/
structure Text where
  /-- the text of code points -/
  ofList ::
  /-- its code points -/
  toList : List Point
  deriving DecidableEq, Repr, Inhabited

namespace Text

/-- The text of characters. -/
def ofString (s : String) : Text :=
  ⟨s.toList.map .char⟩

instance : Coe String Text :=
  ⟨ofString⟩

/-- The number of code points. -/
def length (s : Text) : Nat :=
  s.toList.length

/-- Whether the text has no code point. -/
def isEmpty (s : Text) : Bool :=
  s.toList.isEmpty

/-- The text of one code point. -/
def singleton (p : Point) : Text :=
  ⟨[p]⟩

instance : Append Text :=
  ⟨fun s t => ⟨s.toList ++ t.toList⟩⟩

/-- Texts one behind the other. -/
def join (texts : List Text) : Text :=
  ⟨texts.flatMap toList⟩

/-- Texts with another text between them. -/
def intercalate (s : Text) (texts : List Text) : Text :=
  ⟨s.toList.intercalate (texts.map toList)⟩

/-- The characters of a text, if it has no half of one. -/
def characters? (s : List Point) : Option (List Char) :=
  s.mapM fun
    | .char c => some c
    | .half _ => none

@[simp]
theorem toList_ofList {s : List Point} : (ofList s).toList = s :=
  rfl

@[simp]
theorem ofList_toList {s : Text} : ofList s.toList = s :=
  rfl

theorem toList_ofString (s : String) : (ofString s).toList = s.toList.map .char :=
  rfl

theorem toList_append {s t : Text} : (s ++ t).toList = s.toList ++ t.toList :=
  rfl

theorem ofList_append {s t : List Point} : ofList (s ++ t) = ofList s ++ ofList t :=
  rfl

theorem length_ofList {s : List Point} : (ofList s).length = s.length :=
  rfl

theorem length_toList {s : Text} : s.toList.length = s.length :=
  rfl

theorem length_append {s t : Text} : (s ++ t).length = s.length + t.length :=
  List.length_append

theorem toList_inj {s t : Text} : s.toList = t.toList ↔ s = t :=
  ⟨fun h => congrArg ofList h, congrArg toList⟩

theorem ofList_inj {s t : List Point} : ofList s = ofList t ↔ s = t :=
  ⟨congrArg toList, congrArg ofList⟩

@[simp]
theorem intercalate_singleton (s t : Text) : s.intercalate [t] = t := by
  simp [intercalate]

theorem toList_intercalate_cons (s t u : Text) (texts : List Text) :
    (s.intercalate (t :: u :: texts)).toList =
      t.toList ++ (s.toList ++ (s.intercalate (u :: texts)).toList) := by
  simp [intercalate, List.intercalate]

@[simp]
theorem ofString_inj {s t : String} : ofString s = ofString t ↔ s = t := by
  refine ⟨fun h => String.toList_inj.1 ?_, congrArg ofString⟩
  exact (List.map_inj_right fun _ _ => Point.char.inj).1 (congrArg toList h)

end Text

end FormulaSheet
