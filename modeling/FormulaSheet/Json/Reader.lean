import FormulaSheet.Json
import FormulaSheet.Number.Decimal
import FormulaSheet.Text

/-!
# Documents from text

The module reads a document from text. Between the parts of a document there may be spaces, tabs and
ends of lines. Texts hold no control characters but escaped ones. A number is an integer unless it
has a point or an exponent, and starts with a zero only if that is all it has in front of the point.
The words for doubles that are no numbers are allowed. Of two fields of one name the last counts, in
the place of the first.

Only so many sequences and objects may stand one inside another; a bracket that would open one more
is refused before anything behind it is read.

Two escaped numbers that stand for one character are joined; one that stands alone is kept as half
of a character.
-/

namespace FormulaSheet.Json

/-- Why a text is no document. -/
inductive Refusal where
  /-- it has not the form of one -/
  | malformed
  /-- an integer in it has more digits than are converted -/
  | tooManyDigits (digits : Nat)
  /-- too many sequences and objects stand one inside another, the innermost an object or not -/
  | tooDeep (isObject : Bool)
  deriving DecidableEq, Repr

/-- Whether the character may stand between the parts of a document. -/
def isBlank (c : Point) : Bool :=
  c == ' ' || c == '\t' || c == '\n' || c == '\r'

/-- The text without the blanks in front. -/
def skipBlanks (s : List Point) : List Point :=
  s.dropWhile isBlank

/-! ## Texts -/

/-- The number that four hexadecimal digits denote. -/
def unitValue? (a b c d : Point) : Option Nat :=
  Number.ofDigits? 16 [a, b, c, d]

/-- The character that a letter behind a backslash stands for. -/
def escaped? (c : Point) : Option Point :=
  match c with
  | .char '"' => some (.char '"')
  | .char '\\' => some (.char '\\')
  | .char '/' => some (.char '/')
  | .char 'b' => some (Point.ofNat 0x08)
  | .char 'f' => some (Point.ofNat 0x0C)
  | .char 'n' => some (.char '\n')
  | .char 'r' => some (.char '\r')
  | .char 't' => some (.char '\t')
  | _ => none

/-- The numbers of the characters of a text up to its closing quote, and what follows it. -/
def takeUnits : List Point → Option (List Nat × List Point)
  | [] => none
  | .char '"' :: s => some ([], s)
  | .char '\\' :: .char 'u' :: a :: b :: c :: d :: s => do
    let n ← unitValue? a b c d
    let (ns, rest) ← takeUnits s
    some (n :: ns, rest)
  | .char '\\' :: c :: s => do
    let e ← escaped? c
    let (ns, rest) ← takeUnits s
    some (e.toNat :: ns, rest)
  | c :: s =>
    if c.toNat < 0x20 || c = '\\' then none
    else do
      let (ns, rest) ← takeUnits s
      some (c.toNat :: ns, rest)

/-- Whether the number is the first of two that stand for one character. -/
def isHigh (n : Nat) : Bool :=
  0xD800 ≤ n && n < 0xDC00

/-- Whether the number is the second of two that stand for one character. -/
def isLow (n : Nat) : Bool :=
  0xDC00 ≤ n && n < 0xE000

/-- The characters of numbers, two of which may stand for one character. -/
def joinUnits : List Nat → List Point
  | [] => []
  | [n] => [Point.ofNat n]
  | n :: m :: ns =>
    if isHigh n && isLow m then
      Point.ofNat (0x10000 + (n - 0xD800) * 0x400 + (m - 0xDC00)) :: joinUnits ns
    else Point.ofNat n :: joinUnits (m :: ns)

/-- The text up to its closing quote, and what follows it. -/
def takeText (s : List Point) : Except Refusal (Text × List Point) :=
  match takeUnits s with
  | some (ns, rest) => .ok (Text.ofList (joinUnits ns), rest)
  | none => .error .malformed

/-! ## Numbers -/

/-- The digits in front of the point: a zero, or digits that do not start with one. -/
def takeWhole (s : List Point) : Option (List Point × List Point) :=
  match s with
  | .char '0' :: rest => some ([Point.char '0'], rest)
  | _ =>
    let ds := s.takeWhile Number.isAsciiDigit
    if ds.isEmpty then none else some (ds, s.dropWhile Number.isAsciiDigit)

/-- The digits behind a point, if there is one with digits behind it. -/
def takeFraction (s : List Point) : Option (List Point × List Point) :=
  match s with
  | .char '.' :: rest =>
    let ds := rest.takeWhile Number.isAsciiDigit
    if ds.isEmpty then none else some (ds, rest.dropWhile Number.isAsciiDigit)
  | _ => none

/-- The exponent, if there is a mark for one with digits behind it. -/
def takeExponent (s : List Point) : Option (Int × List Point) :=
  match s with
  | c :: rest =>
    if c = 'e' || c = 'E' then
      let (negative, rest) := Number.takeSign rest
      let ds := rest.takeWhile Number.isAsciiDigit
      if ds.isEmpty then none
      else
        let n : Int := Text.ofDecimal ds
        some (if negative then -n else n, rest.dropWhile Number.isAsciiDigit)
    else none
  | [] => none

/-- The number at the start of a text, and what follows it. -/
def takeNumber (s : List Point) : Except Refusal (Json × List Point) :=
  let (negative, unsigned) := match s with
    | .char '-' :: rest => (true, rest)
    | _ => (false, s)
  match takeWhole unsigned with
  | none => .error .malformed
  | some (whole, rest) =>
    let fraction := takeFraction rest
    let rest := (fraction.map (·.2)).getD rest
    let exponent := takeExponent rest
    let rest := (exponent.map (·.2)).getD rest
    if fraction.isSome || exponent.isSome then
      let behind := (fraction.map (·.1)).getD []
      let d : Number.Decimal :=
        ⟨negative, Text.ofDecimal (whole ++ behind), (exponent.map (·.1)).getD 0 - behind.length⟩
      .ok (float d.toFloat, rest)
    else if Number.maxDigits < whole.length then .error (.tooManyDigits whole.length)
    else
      let n : Int := Text.ofDecimal whole
      .ok (int (if negative then -n else n), rest)

/-! ## Documents -/

/-- The words and what they stand for. -/
def words : List (List Point × Json) :=
  [(("null" : Text).toList, null), (("true" : Text).toList, bool true),
  (("false" : Text).toList, bool false),
   (("NaN" : Text).toList, float (0.0 / 0.0)), (("Infinity" : Text).toList, float (1.0 / 0.0)),
   (("-Infinity" : Text).toList, float (-1.0 / 0.0))]

/-- A document without parts at the start of a text, and what follows it. -/
def takeLeaf (s : List Point) : Except Refusal (Json × List Point) :=
  match words.find? fun w => w.1.isPrefixOf s with
  | some (word, j) => .ok (j, s.drop word.length)
  | none => takeNumber s

mutual

/-- The document at the start of a text, and what follows it. The first argument says how many
sequences and objects may stand one inside another, the second bounds the number of parts that are
read one inside or behind another. -/
def takeValue : Nat → Nat → List Point → Except Refusal (Json × List Point)
  | _, 0, _ => .error .malformed
  | _, _ + 1, .char '"' :: s => do
    let (text, rest) ← takeText s
    .ok (str text, rest)
  | 0, _ + 1, .char '[' :: _ => .error (.tooDeep false)
  | depth + 1, n + 1, .char '[' :: s =>
    match skipBlanks s with
    | .char ']' :: rest => .ok (arr [], rest)
    | s => do
      let (items, rest) ← takeItems depth n s
      .ok (arr items, rest)
  | 0, _ + 1, .char '\x7b' :: _ => .error (.tooDeep true)
  | depth + 1, n + 1, .char '\x7b' :: s =>
    match skipBlanks s with
    | .char '\x7d' :: rest => .ok (obj [], rest)
    | s => do
      let (fields, rest) ← takeFields depth n s
      .ok (obj (Register.ofList fields), rest)
  | _, _ + 1, s => takeLeaf s

/-- The items of a sequence up to its closing bracket, and what follows it. -/
def takeItems : Nat → Nat → List Point → Except Refusal (List Json × List Point)
  | _, 0, _ => .error .malformed
  | depth, n + 1, s => do
    let (j, rest) ← takeValue depth n s
    match skipBlanks rest with
    | .char ']' :: rest => .ok ([j], rest)
    | .char ',' :: rest => do
      let (items, rest) ← takeItems depth n (skipBlanks rest)
      .ok (j :: items, rest)
    | _ => .error .malformed

/-- The fields of an object up to its closing brace, and what follows it. -/
def takeFields : Nat → Nat → List Point → Except Refusal (List (Text × Json) × List Point)
  | depth, n + 1, .char '"' :: s => do
    let (name, rest) ← takeText s
    match skipBlanks rest with
    | .char ':' :: rest =>
      let (j, rest) ← takeValue depth n (skipBlanks rest)
      match skipBlanks rest with
      | .char '\x7d' :: rest => .ok ([(name, j)], rest)
      | .char ',' :: rest => do
        let (fields, rest) ← takeFields depth n (skipBlanks rest)
        .ok ((name, j) :: fields, rest)
      | _ => .error .malformed
    | _ => .error .malformed
  | _, _, _ => .error .malformed

end

/-- The document that a text holds, with at most so many sequences and objects one inside another. A
text of some length has at most twice as many parts. -/
def ofChars (depth : Nat) (s : List Point) : Except Refusal Json := do
  let (j, rest) ← takeValue depth (2 * s.length + 1) (skipBlanks s)
  if (skipBlanks rest).isEmpty then .ok j else .error .malformed

end FormulaSheet.Json
