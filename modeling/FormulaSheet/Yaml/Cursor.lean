import FormulaSheet.Fault

/-!
# Places in a YAML document

A YAML document is read from left to right. A cursor is a place in it: what is left to read, and
where that starts, because the structure of a document is given by columns. Lines end at a line
feed, a next line, or a line or paragraph separator; the last two are kept as they are, the others
are read as a line feed.
-/

namespace FormulaSheet.Yaml

/-- Whether the character ends a line. -/
def isBreak (c : Point) : Bool :=
  c == '\n' || c.toNat == 0x85 || c.toNat == 0x2028 || c.toNat == 0x2029

/-- Whether the character ends a line or stands between words. -/
def isSpace (c : Point) : Bool :=
  c == ' ' || c == '\t' || isBreak c

/-- Whether a line ends in front of the character, or the document does. -/
def endsLine : Option Point → Bool
  | none => true
  | some c => isBreak c

/-- Whether a word ends in front of the character, or the document does. -/
def endsWord : Option Point → Bool
  | none => true
  | some c => isSpace c

/-- Whether the character is an ASCII letter or digit, a hyphen or a low line. -/
def isNameChar (c : Point) : Bool :=
  ('0' ≤ c && c ≤ '9') || ('A' ≤ c && c ≤ 'Z') || ('a' ≤ c && c ≤ 'z') || c == '-' || c == '_'

/-- A place in a document. -/
structure Cursor where
  /-- what is left to read -/
  rest : List Point
  /-- how many characters were read -/
  index : Nat
  /-- in which line the rest starts -/
  line : Nat
  /-- in which column the rest starts -/
  column : Nat

namespace Cursor

/-- The start of a document. -/
def start (text : List Point) : Cursor :=
  ⟨text, 0, 0, 0⟩

/-- The next character. -/
def peek (c : Cursor) : Option Point :=
  c.rest.head?

/-- The character after a number of others. -/
def peekAt (c : Cursor) (n : Nat) : Option Point :=
  (c.rest.drop n).head?

/-- The place behind the next character. A byte order mark takes no column. -/
def next (c : Cursor) : Cursor :=
  match c.rest with
  | [] => c
  | ch :: rest =>
    if isBreak ch then ⟨rest, c.index + 1, c.line + 1, 0⟩
    else ⟨rest, c.index + 1, c.line, if ch.toNat = 0xFEFF then c.column else c.column + 1⟩

/-- The place behind a number of characters. -/
def skip : Nat → Cursor → Cursor
  | 0, c => c
  | n + 1, c => skip n c.next

/-- The place behind all next characters of a kind. -/
def skipWhile (p : Point → Bool) (c : Cursor) : Cursor :=
  c.skip (c.rest.takeWhile p).length

/-- The next characters of a kind. -/
def takeWhile (p : Point → Bool) (c : Cursor) : List Point :=
  c.rest.takeWhile p

/-- The end of a line that is next, as it is read, and the place behind it. -/
def lineBreak (c : Cursor) : List Point × Cursor :=
  match c.peek with
  | some ch =>
    if ch == '\n' || ch.toNat == 0x85 then ([Point.char '\n'], c.next)
    else if isBreak ch then ([ch], c.next)
    else ([], c)
  | none => ([], c)

/-- Whether a mark of three equal characters is next, and stands for itself. -/
def atMark (c : Cursor) (ch : Point) : Bool :=
  c.rest.take 3 == [ch, ch, ch] && endsWord (c.peekAt 3)

/-- Whether the start or the end of a document is marked here. -/
def atDocumentMark (c : Cursor) : Bool :=
  c.atMark '-' || c.atMark '.'

end Cursor

/-- A document that cannot be split into tokens. -/
def unreadable {α : Type} (detail : Text) : Except Fault α :=
  .error (.yaml .tokens detail)

end FormulaSheet.Yaml
