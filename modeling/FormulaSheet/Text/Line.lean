import FormulaSheet.Text.Blank

/-!
# Lines

A text is split into lines at every character that ends a line or a section of text: not only at
line feed and carriage return, which count once if they stand together, but also at vertical tab,
form feed, the three upper separators of ASCII, next line, and the line and paragraph separators.
What follows the last of them is a line only if it is not empty.

Where a text is written, its lines may end in other characters than in the text itself (`LineEnd`).

* `lines_append_lineEnd`: a text without such characters is one line of what it stands in.
-/

namespace FormulaSheet

/-- How the lines of a text end where it is written. -/
inductive LineEnd where
  /-- with a line feed, as in the text -/
  | feed
  /-- with a carriage return and a line feed -/
  | returnFeed
  deriving DecidableEq, Repr

namespace LineEnd

/-- The characters that end a line. -/
def chars : LineEnd → List Point
  | feed => [.char '\n']
  | returnFeed => [.char '\r', .char '\n']

/-- A text with its line feeds as they are written. -/
def translate (lineEnd : LineEnd) (s : List Point) : List Point :=
  s.flatMap fun c => if c = Point.char '\n' then lineEnd.chars else [c]

end LineEnd

namespace Text

/-- Whether the character ends a line. -/
def endsLine (c : Point) : Bool :=
  let n := c.toNat
  (0x0A ≤ n && n ≤ 0x0D) || (0x1C ≤ n && n ≤ 0x1E) || n == 0x85 || n == 0x2028 || n == 0x2029

/-- The lines of a text, the first of which has begun with the given characters in reverse. -/
def linesFrom : List Point → List Point → List (List Point)
  | [], [] => []
  | begun, [] => [begun.reverse]
  | begun, .char '\r' :: .char '\n' :: s => begun.reverse :: linesFrom [] s
  | begun, c :: s =>
    if endsLine c then begun.reverse :: linesFrom [] s else linesFrom (c :: begun) s

/-- The lines of a text. -/
def lines (s : List Point) : List (List Point) :=
  linesFrom [] s

theorem linesFrom_append_lineEnd {s : List Point} (h : ∀ c ∈ s, endsLine c = false)
    (lineEnd : LineEnd) (begun rest : List Point) :
    linesFrom begun (s ++ (lineEnd.chars ++ rest)) = (begun.reverse ++ s) :: linesFrom [] rest := by
  induction s generalizing begun with
  | nil =>
    rw [List.nil_append, List.append_nil]
    cases lineEnd <;> cases begun <;> simp [LineEnd.chars, linesFrom, endsLine]
  | cons c s ih =>
    have hc := h c (by simp)
    have hr : c ≠ '\r' := by
      rintro rfl
      simp [endsLine] at hc
    have hs := ih (fun d hd => h d (by simp [hd])) (c :: begun)
    rw [List.cons_append, linesFrom]
    · rw [hc, if_neg (by simp), hs]
      simp
    · intro _ he
      exact absurd he hr

/-- A text without characters that end a line is the first line of what follows it, however it
ends. -/
theorem lines_append_lineEnd {s : List Point} (h : ∀ c ∈ s, endsLine c = false) (lineEnd : LineEnd)
    (rest : List Point) : lines (s ++ (lineEnd.chars ++ rest)) = s :: lines rest := by
  rw [lines, linesFrom_append_lineEnd h, List.reverse_nil, List.nil_append, lines]

end Text

end FormulaSheet
