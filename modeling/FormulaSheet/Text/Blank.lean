import FormulaSheet.Text

/-!
# Blank characters

Formula text, tokens and log lines are padded with blanks from the whole of Unicode, not only with
the ASCII space. This module holds the class of blanks and the trimming of a text at both ends.
-/

namespace FormulaSheet.Text

/-- A blank is a tab, a line or page break, an information separator or a space of any width. -/
def isBlank (c : Point) : Bool :=
  let n := c.toNat
  (0x09 ≤ n && n ≤ 0x0D) || (0x1C ≤ n && n ≤ 0x20) || n == 0x85 || n == 0xA0 || n == 0x1680 ||
    (0x2000 ≤ n && n ≤ 0x200A) || n == 0x2028 || n == 0x2029 || n == 0x202F || n == 0x205F ||
    n == 0x3000

/-- The text without the blanks it starts with. -/
def trimLeft (s : List Point) : List Point :=
  s.dropWhile isBlank

/-- The text without the blanks it ends with. -/
def trimRight (s : List Point) : List Point :=
  (s.reverse.dropWhile isBlank).reverse

/-- The text without the blanks at either end. -/
def trim (s : List Point) : List Point :=
  trimRight (trimLeft s)

/-- The number of blanks a text starts with. -/
def leadingBlanks (s : List Point) : Nat :=
  (s.takeWhile isBlank).length

/-- Text that starts with no blank keeps its first character when it is trimmed. -/
theorem trimLeft_cons_of_not_blank {c : Point} (s : List Point) (h : isBlank c = false) :
    trimLeft (c :: s) = c :: s := by
  simp [trimLeft, h]

end FormulaSheet.Text
