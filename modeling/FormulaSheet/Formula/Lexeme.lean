import FormulaSheet.Formula.Token
import FormulaSheet.Text.UpperCase

/-!
# Splitting a formula into tokens

The text of a formula is a sequence of lexemes with blanks between them. There are four kinds of
lexemes. At each place the first kind that fits is taken, with as many characters as it can have:

* a cell: ASCII letters, then ASCII digits;
* a number: digits of any script with an optional point, or a point and digits; then an optional
  exponent;
* a word: a letter or low line, then letters, digits, low lines and points;
* a symbol: an operator or a parenthesis.

Cells become tokens in upper case, all other lexemes as they stand. Between lexemes only five of the
blanks are skipped; around the whole text, and in front of the equals sign that may open a formula,
every blank is.

* `length_lt_of_lexeme?`: a lexeme takes at least one character.
* `scan` reads a text in full, or stops in front of the first character that starts no lexeme.
-/

namespace FormulaSheet

/-- The kinds of lexemes, in the order in which they are tried. -/
inductive LexemeKind where
  /-- the label of a cell -/
  | cell
  /-- a number -/
  | number
  /-- any other word -/
  | word
  /-- an operator or a parenthesis -/
  | symbol
  deriving DecidableEq, Repr

/-- A piece of a formula. -/
structure Lexeme where
  /-- its kind -/
  kind : LexemeKind
  /-- its characters as they stand in the text -/
  chars : List Point
  deriving DecidableEq, Repr

namespace Lexeme

/-- The token of a lexeme. -/
def token (l : Lexeme) : Text :=
  match l.kind with
  | .cell => Text.upper (Text.ofList l.chars)
  | _ => Text.ofList l.chars

/-! ## Character classes -/

/-- The blanks that may stand between lexemes. -/
def isGap (c : Point) : Bool :=
  c == ' ' || c == '\t' || c == '\n' || c == '\r' || c == '\x0c'

/-- An ASCII letter. -/
def isLetter (c : Point) : Bool :=
  ('A' ≤ c && c ≤ 'Z') || ('a' ≤ c && c ≤ 'z')

/-- A character that may start a word. -/
def startsWord (c : Point) : Bool :=
  isLetter c || c == '_'

/-- A character that may continue a word. -/
def continuesWord (c : Point) : Bool :=
  isLetter c || Number.isAsciiDigit c || c == '_' || c == '.'

/-- The characters that are lexemes by themselves. -/
def isSymbol (c : Point) : Bool :=
  c == '+' || c == '-' || c == '*' || c == '/' || c == '(' || c == ')'

/-! ## The four kinds

Each function gives the longest lexeme of its kind at the start of a text, and what follows it. -/

/-- A cell at the start of the text. -/
def cell? (s : List Point) : Option (List Point × List Point) :=
  let letters := s.takeWhile isLetter
  let rest := s.dropWhile isLetter
  let digits := rest.takeWhile Number.isAsciiDigit
  if letters.isEmpty || digits.isEmpty then none
  else some (letters ++ digits, rest.dropWhile Number.isAsciiDigit)

/-- The digits of a number with its point, at the start of the text; none if there is no digit. -/
def mantissa? (s : List Point) : Option (List Point × List Point) :=
  let whole := s.takeWhile Text.isDecimalDigit
  match s.dropWhile Text.isDecimalDigit with
  | .char '.' :: rest =>
    let fraction := rest.takeWhile Text.isDecimalDigit
    if whole.isEmpty && fraction.isEmpty then none
    else some (whole ++ Point.char '.' :: fraction, rest.dropWhile Text.isDecimalDigit)
  | rest => if whole.isEmpty then none else some (whole, rest)

/-- The sign at the start of the text, and what follows it. -/
def sign (s : List Point) : List Point × List Point :=
  match s with
  | .char '+' :: rest => ([Point.char '+'], rest)
  | .char '-' :: rest => ([Point.char '-'], rest)
  | rest => ([], rest)

/-- The exponent of a number, at the start of the text; empty if the text starts with none. -/
def exponent (s : List Point) : List Point × List Point :=
  match s with
  | [] => ([], [])
  | c :: rest =>
    let digits := (sign rest).2.takeWhile Text.isDecimalDigit
    if (c == 'e' || c == 'E') && !digits.isEmpty then
      (c :: (sign rest).1 ++ digits, (sign rest).2.dropWhile Text.isDecimalDigit)
    else ([], c :: rest)

/-- A number at the start of the text. -/
def number? (s : List Point) : Option (List Point × List Point) :=
  (mantissa? s).map fun (mantissa, rest) =>
    let (power, tail) := exponent rest
    (mantissa ++ power, tail)

/-- A word at the start of the text. -/
def word? (s : List Point) : Option (List Point × List Point) :=
  match s with
  | c :: rest =>
    if startsWord c then some (c :: rest.takeWhile continuesWord, rest.dropWhile continuesWord)
    else none
  | [] => none

/-- A symbol at the start of the text. -/
def symbol? (s : List Point) : Option (List Point × List Point) :=
  match s with
  | c :: rest => if isSymbol c then some ([c], rest) else none
  | [] => none

/-- The lexeme of the given kind at the start of the text, and what follows it. -/
def ofKind? : LexemeKind → List Point → Option (List Point × List Point)
  | .cell => cell?
  | .number => number?
  | .word => word?
  | .symbol => symbol?

/-- The lexeme at the start of the text: of the first kind that fits. -/
def lexeme? (s : List Point) : Option (Lexeme × List Point) :=
  [LexemeKind.cell, .number, .word, .symbol].findSome? fun kind =>
    (ofKind? kind s).map fun (chars, rest) => (⟨kind, chars⟩, rest)

/-! ## What a lexeme takes -/

/-- A sign and what follows it make up the text. -/
theorem sign_append (s : List Point) : (sign s).1 ++ (sign s).2 = s := by
  unfold sign
  split <;> rfl

/-- An exponent and what follows it make up the text. -/
theorem exponent_append (s : List Point) : (exponent s).1 ++ (exponent s).2 = s := by
  cases s with
  | nil => rfl
  | cons c rest =>
    simp only [exponent]
    split
    · simp only [List.cons_append, List.append_assoc, List.takeWhile_append_dropWhile, sign_append]
    · rfl

/-- A lexeme of any kind has a character, and with what follows makes up the text. -/
theorem append_eq_of_ofKind? {kind : LexemeKind} {s chars rest : List Point}
    (h : ofKind? kind s = some (chars, rest)) : chars ≠ [] ∧ chars ++ rest = s := by
  cases kind with
  | cell =>
    simp only [ofKind?, cell?] at h
    split at h
    · simp at h
    · rename_i hne
      simp only [Option.some.injEq, Prod.mk.injEq] at h
      obtain ⟨rfl, rfl⟩ := h
      simp only [Bool.or_eq_true, List.isEmpty_iff, not_or] at hne
      refine ⟨by simp [hne.1], ?_⟩
      rw [List.append_assoc, List.takeWhile_append_dropWhile, List.takeWhile_append_dropWhile]
  | number =>
    simp only [ofKind?, number?, Option.map_eq_some_iff] at h
    obtain ⟨⟨mantissa, tail⟩, hm, he⟩ := h
    simp only [Prod.mk.injEq] at he
    obtain ⟨rfl, rfl⟩ := he
    have key : mantissa ≠ [] ∧ mantissa ++ tail = s := by
      have hs := List.takeWhile_append_dropWhile (p := Text.isDecimalDigit) (l := s)
      simp only [mantissa?] at hm
      split at hm
      · rename_i rest hr
        rw [hr] at hs
        split at hm
        · simp at hm
        · simp only [Option.some.injEq, Prod.mk.injEq] at hm
          obtain ⟨rfl, rfl⟩ := hm
          refine ⟨by simp, ?_⟩
          rw [List.append_assoc, List.cons_append, List.takeWhile_append_dropWhile, hs]
      · split at hm
        · simp at hm
        · rename_i hw
          simp only [Option.some.injEq, Prod.mk.injEq] at hm
          obtain ⟨rfl, rfl⟩ := hm
          exact ⟨by simpa using hw, hs⟩
    exact ⟨by simp [key.1], by rw [List.append_assoc, exponent_append, key.2]⟩
  | word =>
    simp only [ofKind?, word?] at h
    split at h
    · split at h
      · simp only [Option.some.injEq, Prod.mk.injEq] at h
        obtain ⟨rfl, rfl⟩ := h
        simp [List.takeWhile_append_dropWhile]
      · simp at h
    · simp at h
  | symbol =>
    simp only [ofKind?, symbol?] at h
    split at h
    · split at h
      · simp only [Option.some.injEq, Prod.mk.injEq] at h
        obtain ⟨rfl, rfl⟩ := h
        simp
      · simp at h
    · simp at h

/-- The lexeme that is taken fits its kind. -/
theorem ofKind?_of_lexeme? {s : List Point} {l : Lexeme} {rest : List Point}
    (h : lexeme? s = some (l, rest)) : ofKind? l.kind s = some (l.chars, rest) := by
  obtain ⟨kind, -, hk⟩ := List.exists_of_findSome?_eq_some h
  obtain ⟨⟨chars, tail⟩, he, hp⟩ := Option.map_eq_some_iff.1 hk
  simp only [Prod.mk.injEq] at hp
  obtain ⟨rfl, rfl⟩ := hp
  exact he

/-- A lexeme takes at least one character. -/
theorem length_lt_of_lexeme? {s : List Point} {l : Lexeme} {rest : List Point}
    (h : lexeme? s = some (l, rest)) : rest.length < s.length := by
  obtain ⟨hne, hs⟩ := append_eq_of_ofKind? (ofKind?_of_lexeme? h)
  have := List.length_pos_iff.2 hne
  rw [← hs, List.length_append]
  omega

theorem length_dropWhile_le (p : Point → Bool) (s : List Point) :
    (s.dropWhile p).length ≤ s.length :=
  (List.dropWhile_sublist p).length_le

/-! ## Whole texts -/

/-- Splits a text into lexemes. If a character starts no lexeme, the text from there on is given
instead. -/
def scan (s : List Point) : Except (List Point) (List Lexeme) :=
  if (s.dropWhile isGap).isEmpty then .ok []
  else
    match h : lexeme? (s.dropWhile isGap) with
    | some (l, rest) =>
      have : rest.length < s.length :=
        Nat.lt_of_lt_of_le (length_lt_of_lexeme? h) (length_dropWhile_le isGap s)
      (scan rest).map (l :: ·)
    | none => .error (s.dropWhile isGap)
termination_by s.length

end Lexeme

namespace Formula

/-- A formula text without the blanks around it and without the equals sign that opens it. -/
def body (text : Text) : List Point :=
  match Text.trim text.toList with
  | .char '=' :: s => s
  | s => s

/-- The number of characters in front of the body of a formula text. -/
def bodyOffset (text : Text) : Nat :=
  Text.leadingBlanks text.toList + if (Text.trim text.toList).head? = some (.char '=') then 1 else 0

/-- The error for a text that has a character which starts no lexeme, given the part of the body
from that character on. -/
def unexpected (text : Text) (rest : List Point) : ParseError :=
  { detail := "unexpected character " ++ Text.quoted (Text.ofList (rest.take 1))
    position := some (bodyOffset text + ((body text).length - rest.length : Nat)) }

/-- The tokens of a formula text. -/
def tokenize (text : Text) : Except ParseError (List Text) :=
  match Lexeme.scan (body text) with
  | .ok lexemes => .ok (lexemes.map Lexeme.token)
  | .error rest => .error (unexpected text rest)

/-- The text that displays tokens: the tokens with spaces between them. -/
def detokenize (tokens : List Text) : Text :=
  Text.intercalate " " tokens

end Formula

end FormulaSheet
