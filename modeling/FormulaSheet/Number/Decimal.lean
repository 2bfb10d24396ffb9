import FormulaSheet.Number.Binary64
import FormulaSheet.Text.Blank
import FormulaSheet.Text.Digit

/-!
# Reading numbers

Numbers arrive as text: as tokens of a formula, as values of a sheet file, as settings. This module
reads a double or an integer from text that may be padded with blanks and written with the decimal
digits of any script.

A double is an optional sign and either digits with an optional point and exponent, or one of the
words for infinity and not-a-number. An integer is an optional sign and digits. In both a single low
line may stand between two digits. Doubles are rounded correctly whatever the length of the text;
integers have at most `maxDigits` digits.
-/

namespace FormulaSheet.Number

/-- The most digits an integer may have where integers and text are converted into each other. -/
def maxDigits : Nat :=
  4300

/-- Whether an integer has few enough digits to be written. -/
def isWritable (n : Int) : Bool :=
  n.natAbs < Nat.pow 10 maxDigits

theorem isWritable_of_le {n : Int} (h : n.natAbs ≤ maxDigits) : isWritable n = true := by
  have hlt (k : Nat) : k < Nat.pow 10 k := Nat.lt_pow_self (by decide)
  exact decide_eq_true (Nat.lt_of_le_of_lt h (hlt maxDigits))

/-- A number in decimal notation: `coefficient * 10 ^ exponent`, with a sign. -/
structure Decimal where
  /-- whether a minus sign stands in front -/
  negative : Bool
  /-- the digits, without the point -/
  coefficient : Nat
  /-- the power of ten they are multiplied by -/
  exponent : Int
  deriving DecidableEq, Repr

/-- The double nearest to a number in decimal notation. Numbers far beyond the range of the doubles
are settled by the place of their first digit alone. -/
def Decimal.toFloat (d : Decimal) : Float :=
  let top := Binary64.log10 d.coefficient + d.exponent
  if d.coefficient = 0 || top < -326 then Binary64.nearest d.negative 0 1
  else if 310 < top then Binary64.nearest d.negative (Nat.pow 2 1024) 1
  else
    Binary64.nearest d.negative (d.coefficient * Nat.pow 10 d.exponent.toNat)
      (Nat.pow 10 (-d.exponent).toNat)

/-! ## Preparing the text -/

/-- Whether the character is one of the ten ASCII digits. -/
def isAsciiDigit (c : Point) : Bool :=
  '0' ≤ c && c ≤ '9'

/-- Whether the character is white space of ASCII. -/
def isAsciiBlank (c : Point) : Bool :=
  c == ' ' || ('\t' ≤ c && c ≤ '\r')

/-- Writes digits of every script with ASCII digits and every blank beyond ASCII as a space. -/
def foldChar (c : Point) : Point :=
  if c.toNat < 0x7F then c
  else if Text.isBlank c then ' '
  else
    match Text.digitValue? c with
    | some d => Text.digitChar d
    | none => c

/-- The text of a number in ASCII digits and without the white space around it. -/
def normalize (s : List Point) : List Point :=
  (((s.map foldChar).dropWhile isAsciiBlank).reverse.dropWhile isAsciiBlank).reverse

/-- Removes the low lines between digits; nothing if one of them stands anywhere else. The first
argument is the character in front. -/
def dropSeparators : Option Point → List Point → Option (List Point)
  | prev, [] => if prev = some (.char '_') then none else some []
  | prev, c :: s =>
    if c = '_' then
      if prev.any isAsciiDigit then dropSeparators (some c) s else none
    else if prev = some (.char '_') && !isAsciiDigit c then none
    else (dropSeparators (some c) s).map (c :: ·)

/-- The sign in front of a number, and what follows it. -/
def takeSign : List Point → Bool × List Point
  | .char '-' :: s => (true, s)
  | .char '+' :: s => (false, s)
  | s => (false, s)

/-! ## Doubles -/

/-- The exponent part of a number: nothing, or a mark, an optional sign and digits to the end. -/
def readExponent? : List Point → Option Int
  | [] => some 0
  | c :: s =>
    if c = 'e' || c = 'E' then
      let (negative, ds) := takeSign s
      if ds.isEmpty || !ds.all isAsciiDigit then none
      else some (if negative then -(Text.ofDecimal ds : Int) else Text.ofDecimal ds)
    else none

/-- The digits behind a point, if there is one, and what follows them. -/
def takeFraction : List Point → List Point × List Point
  | .char '.' :: s => (s.takeWhile isAsciiDigit, s.dropWhile isAsciiDigit)
  | s => ([], s)

/-- An unsigned number in decimal notation: digits before or behind the point, then the exponent. -/
def readDecimal? (negative : Bool) (s : List Point) : Option Decimal := do
  let whole := s.takeWhile isAsciiDigit
  let (fraction, rest) := takeFraction (s.dropWhile isAsciiDigit)
  if whole.isEmpty && fraction.isEmpty then none
  let exponent ← readExponent? rest
  some ⟨negative, Text.ofDecimal (whole ++ fraction), exponent - fraction.length⟩

/-- A number as text writes it: in decimal notation, or one of the values that have a word. -/
inductive Numeral where
  /-- digits with a point or an exponent -/
  | decimal (d : Decimal)
  /-- a word for infinity -/
  | infinity (negative : Bool)
  /-- the word for not-a-number -/
  | nan

/-- The double that a numeral denotes. -/
def Numeral.toFloat : Numeral → Float
  | .decimal d => d.toFloat
  | .infinity negative => Binary64.nearest negative (Nat.pow 2 1024) 1
  | .nan => 0.0 / 0.0

/-- A small letter in place of an ASCII capital. -/
def lowerAscii (c : Point) : Point :=
  if 'A' ≤ c && c ≤ 'Z' then Point.ofNat (c.toNat + 0x20) else c

/-- Reads a numeral from text in ASCII digits without padding. -/
def readNumeral? (s : List Point) : Option Numeral := do
  let s ← dropSeparators none s
  let (negative, rest) := takeSign s
  let word := rest.map lowerAscii
  if word = ("inf" : Text).toList || word = ("infinity" : Text).toList then
    some (.infinity negative)
  else if word = ("nan" : Text).toList then some .nan
  else (readDecimal? negative rest).map .decimal

/-- The double that a text denotes, if it is a number. -/
def floatOfText? (s : Text) : Option Float :=
  (readNumeral? (normalize s.toList)).map Numeral.toFloat

/-! ## Integers -/

/-- Why a text is no integer. -/
inductive IntegerFault where
  /-- the text is no integer -/
  | malformed
  /-- the integer has more digits than are converted -/
  | tooLong (digits : Nat)
  deriving DecidableEq, Repr

/-- Counts the digits at the start of a text, in which single low lines may stand between digits,
and gives them with what follows; nothing if a low line stands anywhere else. -/
def takeDigits : Bool → List Point → Option (List Point × List Point)
  | afterLine, [] => if afterLine then none else some ([], [])
  | afterLine, c :: s =>
    if isAsciiDigit c then (takeDigits false s).map fun (ds, rest) => (c :: ds, rest)
    else if afterLine then none
    else if c = '_' then takeDigits true s
    else some ([], c :: s)

/-- Reads an integer. A text whose digits are too many is refused for that even if it is malformed
behind them. -/
def intOfText (s : Text) : Except IntegerFault Int :=
  let (negative, rest) := takeSign (normalize s.toList)
  if rest.head? = some (.char '_') then .error .malformed
  else
    match takeDigits false rest with
    | none => .error .malformed
    | some (ds, tail) =>
      if maxDigits < ds.length then .error (.tooLong ds.length)
      else if ds.isEmpty || !tail.isEmpty then .error .malformed
      else .ok (if negative then -(Text.ofDecimal ds : Int) else Text.ofDecimal ds)

/-- The value of a digit in notations with up to sixteen digits. -/
def hexValue? (c : Point) : Option Nat :=
  if isAsciiDigit c then some (c.toNat - 0x30)
  else if 'a' ≤ c ∧ c ≤ 'f' then some (c.toNat - 0x61 + 10)
  else if 'A' ≤ c ∧ c ≤ 'F' then some (c.toNat - 0x41 + 10)
  else none

/-- The letter that announces a notation whose base is a power of two. -/
def baseLetter? (base : Nat) : Option Point :=
  [(2, Point.char 'b'), (8, .char 'o'), (16, .char 'x')].lookup base

/-- The digits behind what announces their base, if it is announced. -/
def dropAnnouncement (base : Nat) (s : List Point) : List Point :=
  match s with
  | .char '0' :: c :: rest => if (baseLetter? base).any (· == lowerAscii c) then rest else s
  | _ => s

/-- The number that digits in the notation of a base denote, if they are digits of it. -/
def ofDigits? (base : Nat) (ds : List Point) : Option Nat :=
  if ds.isEmpty then none
  else ds.foldlM (fun n c => ((hexValue? c).filter (· < base)).map (n * base + ·)) 0

/-- The integer that a text in the notation of a base denotes. Its base may be announced behind the
sign. -/
def intInBase? (base : Nat) (s : List Point) : Option Int :=
  let (negative, rest) := takeSign (normalize s)
  (ofDigits? base (dropAnnouncement base rest)).map fun n => if negative then -(n : Int) else n

end FormulaSheet.Number
