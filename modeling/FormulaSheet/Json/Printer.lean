import FormulaSheet.Json
import FormulaSheet.Number.Decimal
import FormulaSheet.Number.Layout
import FormulaSheet.Text.Quoted

/-!
# Documents as text

A document is written in ASCII characters that can be seen, so that it is one line. In a text, quote
and backslash are escaped, as are all other characters: some by a letter, the others by their number
in hexadecimal, and a character beyond the first 65536 by two such numbers. For people there is a
second form with one item on each line.

Doubles are written with the fewest digits that read back, those that are no numbers by words.

* `isVisible_of_mem_quote`: a text in quotes consists of ASCII characters that can be seen.
-/

namespace FormulaSheet.Json

/-! ## Texts -/

/-- A character by its number, in four hexadecimal digits. -/
def unit (n : Nat) : List Point :=
  .char '\\' :: .char 'u' :: Text.hex 4 n

/-- The first of the two numbers for a character beyond the first 65536. -/
def highUnit (n : Nat) : Nat :=
  0xD800 + (n - 0x10000) / 0x400

/-- The second of the two numbers for a character beyond the first 65536. -/
def lowUnit (n : Nat) : Nat :=
  0xDC00 + (n - 0x10000) % 0x400

/-- A character inside a text. -/
def escape (c : Point) : List Point :=
  if c = '"' then [Point.char '\\', .char '"']
  else if c = '\\' then [Point.char '\\', .char '\\']
  else if c = '\n' then [Point.char '\\', .char 'n']
  else if c = '\r' then [Point.char '\\', .char 'r']
  else if c = '\t' then [Point.char '\\', .char 't']
  else if c.toNat = 0x08 then [Point.char '\\', .char 'b']
  else if c.toNat = 0x0C then [Point.char '\\', .char 'f']
  else if 0x20 ≤ c.toNat ∧ c.toNat < 0x7F then [c]
  else if c.toNat < 0x10000 then unit c.toNat
  else unit (highUnit c.toNat) ++ unit (lowUnit c.toNat)

/-- A text in quotes. -/
def quote (s : Text) : List Point :=
  .char '"' :: s.toList.flatMap escape ++ [Point.char '"']

/-- Whether the character is an ASCII character that can be seen, or the space. -/
def isVisible (c : Point) : Bool :=
  0x20 ≤ c.toNat && c.toNat < 0x7F

theorem isChar_of_isVisible {c : Point} (h : isVisible c = true) : c.isChar = true := by
  have hv := (Bool.and_eq_true_iff.1 h).2
  rw [decide_eq_true_eq] at hv
  exact Point.isChar_iff.2 (.inl (Nat.lt_trans hv (by decide)))

theorem isVisible_hexDigit {d : Nat} (h : d < 16) : isVisible (Text.hexDigit d) = true := by
  have all : ∀ d < 16, isVisible (Text.hexDigit d) = true := by decide
  exact all d h

theorem isVisible_of_mem_hex {width n : Nat} {c : Point} (h : c ∈ Text.hex width n) :
    isVisible c = true := by
  induction width generalizing n with
  | zero => simp [Text.hex] at h
  | succ width ih =>
    rw [Text.hex, List.mem_append, List.mem_singleton] at h
    rcases h with h | rfl
    · exact ih h
    · exact isVisible_hexDigit (Nat.mod_lt _ (by omega))

theorem isVisible_of_mem_unit {n : Nat} {c : Point} (h : c ∈ unit n) : isVisible c = true := by
  rcases List.mem_cons.1 h with rfl | h
  · decide
  rcases List.mem_cons.1 h with rfl | h
  · decide
  exact isVisible_of_mem_hex h

theorem isVisible_of_mem_escape {c d : Point} (h : d ∈ escape c) : isVisible d = true := by
  have two : ∀ a b : Point, isVisible a = true → isVisible b = true → d ∈ [a, b] →
      isVisible d = true := by
    intro a b ha hb hd
    rcases List.mem_cons.1 hd with rfl | hd
    · exact ha
    · rw [List.mem_singleton.1 hd]
      exact hb
  unfold escape at h
  split at h
  · exact two _ _ (by decide) (by decide) h
  split at h
  · exact two _ _ (by decide) (by decide) h
  split at h
  · exact two _ _ (by decide) (by decide) h
  split at h
  · exact two _ _ (by decide) (by decide) h
  split at h
  · exact two _ _ (by decide) (by decide) h
  split at h
  · exact two _ _ (by decide) (by decide) h
  split at h
  · exact two _ _ (by decide) (by decide) h
  split at h
  · rename_i hc
    rw [List.mem_singleton.1 h]
    simp [isVisible, hc]
  split at h
  · exact isVisible_of_mem_unit h
  · rcases List.mem_append.1 h with h | h
    · exact isVisible_of_mem_unit h
    · exact isVisible_of_mem_unit h

/-- A text in quotes consists of ASCII characters that can be seen. -/
theorem isVisible_of_mem_quote {s : Text} {c : Point} (h : c ∈ quote s) : isVisible c = true := by
  rw [quote, List.cons_append, List.mem_cons, List.mem_append, List.mem_flatMap,
    List.mem_singleton] at h
  rcases h with rfl | ⟨d, _, h⟩ | rfl
  · decide
  · exact isVisible_of_mem_escape h
  · decide

/-! ## Documents -/

/-- The text of a double. -/
def floatText (x : Float) : Text :=
  if x.isNaN then "NaN"
  else if x.isFinite then Number.shortestText x
  else if Binary64.isNegative x then "-Infinity" else "Infinity"

/-- Joins texts with a separator between them. -/
def joined (separator : List Point) : List (List Point) → List Point
  | [] => []
  | [s] => s
  | s :: rest => s ++ separator ++ joined separator rest

/-- The text of a document that holds no others. -/
def leaf : Json → List Point
  | null => ("null" : Text).toList
  | bool b => (if b then "true" else "false" : Text).toList
  | int n => (Text.intText n).toList
  | float x => (floatText x).toList
  | str s => quote s
  | arr _ | obj _ => []

mutual

/-- The text of a document in one line. -/
def text : Json → List Point
  | arr items => .char '[' :: joined [.char ',', .char ' '] (itemTexts items) ++ [Point.char ']']
  | obj fields => .char '\x7b' :: joined [.char ',', .char ' '] (fieldTexts fields) ++
      [Point.char '\x7d']
  | j => leaf j

/-- The texts of the items of a sequence. -/
def itemTexts : List Json → List (List Point)
  | [] => []
  | j :: items => text j :: itemTexts items

/-- The texts of the fields of an object. -/
def fieldTexts : List (Text × Json) → List (List Point)
  | [] => []
  | (name, j) :: fields => (quote name ++ Point.char ':' :: .char ' ' :: text j) ::
      fieldTexts fields

end

/-- A new line, indented to a depth. -/
def newLine (depth : Nat) : List Point :=
  .char '\n' :: List.replicate (2 * depth) (Point.char ' ')

/-- Items between brackets, each on a line of its own. -/
def block (left right : Point) (depth : Nat) (items : List (List Point)) : List Point :=
  if items.isEmpty then [left, right]
  else left :: newLine (depth + 1) ++ joined (.char ',' :: newLine (depth + 1)) items ++
    newLine depth ++ [right]

mutual

/-- The text of a document with each item on a line of its own, from the given depth on. -/
def page (depth : Nat) : Json → List Point
  | arr items => block '[' ']' depth (itemPages (depth + 1) items)
  | obj fields => block '\x7b' '\x7d' depth (fieldPages (depth + 1) fields)
  | j => leaf j

/-- The texts of the items of a sequence, with each item in them on a line of its own. -/
def itemPages (depth : Nat) : List Json → List (List Point)
  | [] => []
  | j :: items => page depth j :: itemPages depth items

/-- The texts of the fields of an object, with each item in them on a line of its own. -/
def fieldPages (depth : Nat) : List (Text × Json) → List (List Point)
  | [] => []
  | (name, j) :: fields => (quote name ++ Point.char ':' :: .char ' ' :: page depth j) ::
      fieldPages depth fields

end

mutual

/-- Whether all integers of a document have few enough digits to be written. -/
def isWritable : Json → Bool
  | int n => Number.isWritable n
  | arr items => areWritable items
  | obj fields => fieldsAreWritable fields
  | _ => true

/-- Whether all integers of the items have few enough digits to be written. -/
def areWritable : List Json → Bool
  | [] => true
  | j :: items => isWritable j && areWritable items

/-- Whether all integers of the fields have few enough digits to be written. -/
def fieldsAreWritable : List (Text × Json) → Bool
  | [] => true
  | (_, j) :: fields => isWritable j && fieldsAreWritable fields

end

end FormulaSheet.Json
