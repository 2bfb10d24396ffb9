import FormulaSheet.Yaml.Timestamp

/-!
# Types of YAML nodes

A node of a document has a type. It is given by name, or else follows from the node itself: a plain
scalar is null, a truth value, a number or a date if it has the form of one, and a text if not.

The form of a scalar is the same whether or not a line ends behind it.
-/

namespace FormulaSheet.Yaml

/-- The type of a node. -/
inductive Tag where
  /-- no value -/
  | null
  /-- a truth value -/
  | bool
  /-- an integer -/
  | int
  /-- a double -/
  | float
  /-- octets -/
  | binary
  /-- a date, or a date with a time -/
  | timestamp
  /-- the key of mappings that are to be merged -/
  | merge
  /-- the key of the value that stands for a mapping -/
  | default
  /-- a text -/
  | str
  /-- a sequence -/
  | seq
  /-- a mapping -/
  | map
  /-- the keys of a mapping -/
  | set
  /-- an ordered mapping: a sequence of mappings with one entry each -/
  | omap
  /-- a sequence of mappings with one entry each -/
  | pairs
  /-- any other -/
  | unknown
  deriving DecidableEq

namespace Tag

/-- What the names of the common types start with. -/
def common : Text :=
  "tag:yaml.org,2002:"

/-- The common types by the rests of their names. -/
def names : List (Text × Tag) :=
  [("null", null), ("bool", bool), ("int", int), ("float", float), ("binary", binary),
   ("timestamp", timestamp), ("merge", merge), ("value", default), ("str", str), ("seq", seq),
   ("map", map), ("set", set), ("omap", omap), ("pairs", pairs)]

/-- The type of a name. -/
def ofName (name : Text) : Tag :=
  match names.find? fun n => common ++ n.1 == name with
  | some n => n.2
  | none => unknown

/-! ## Forms of plain scalars -/

/-- The plain scalars for null. -/
def nullWords : List Text :=
  ["", "~", "null", "Null", "NULL"]

/-- The plain scalars for truth. -/
def trueWords : List Text :=
  ["yes", "Yes", "YES", "true", "True", "TRUE", "on", "On", "ON"]

/-- The plain scalars for falsehood. -/
def falseWords : List Text :=
  ["no", "No", "NO", "false", "False", "FALSE", "off", "Off", "OFF"]

/-- Whether the character is a digit or a low line. -/
def isDigitOrLine (c : Point) : Bool :=
  Number.isAsciiDigit c || c == '_'

/-- Whether the text is a digit followed by digits and low lines. -/
def isDigits : List Point → Bool
  | [] => false
  | c :: s => Number.isAsciiDigit c && s.all isDigitOrLine

/-- Whether the text is a number below sixty, in one or two digits. -/
def isSixtieth : List Point → Bool
  | [c] => Number.isAsciiDigit c
  | [c, d] => '0' ≤ c && c ≤ '5' && Number.isAsciiDigit d
  | _ => false

/-- The parts of a text between colons. -/
def parts (s : List Point) : List (List Point) :=
  s.splitOn ':'

/-- Whether the text is digits followed by numbers below sixty, with colons between them. -/
def isSexagesimal (s : List Point) : Bool :=
  match parts s with
  | whole :: p :: more => isDigits whole && (p :: more).all isSixtieth
  | _ => false

/-- Whether the text is not empty and has only characters of a kind. -/
def allOf (p : Point → Bool) (s : List Point) : Bool :=
  !s.isEmpty && s.all p

/-- Whether the text is an integer: binary, octal, decimal, hexadecimal, or in sixtieths. -/
def isInt (s : List Point) : Bool :=
  match (Number.takeSign s).2 with
  | .char '0' :: .char 'b' :: ds => allOf (fun c => c == '0' || c == '1' || c == '_') ds
  | .char '0' :: .char 'x' :: ds => allOf (fun c => isDigitOrLine c || ('a' ≤ c && c ≤ 'f') ||
      ('A' ≤ c && c ≤ 'F')) ds
  | [.char '0'] => true
  | .char '0' :: ds => ds.all fun c => ('0' ≤ c && c ≤ '7') || c == '_'
  | s => isDigits s || isSexagesimal s

/-- Whether the text is nothing, or an exponent with a sign. -/
def isExponent : List Point → Bool
  | [] => true
  | e :: sign :: ds =>
    (e == 'e' || e == 'E') && (sign == '-' || sign == '+') && allOf Number.isAsciiDigit ds
  | _ => false

/-- Whether the text is a double: with a point and perhaps an exponent, in sixtieths with a point,
or one of the words. -/
def isFloat (s : List Point) : Bool :=
  let unsigned := (Number.takeSign s).2
  let whole := unsigned.takeWhile (· ≠ Point.char '.')
  let behind := (unsigned.dropWhile (· ≠ Point.char '.')).drop 1
  let tail := behind.dropWhile isDigitOrLine
  [(".inf" : Text), ".Inf", ".INF"].any (·.toList == unsigned) ||
    [(".nan" : Text), ".NaN", ".NAN"].any (·.toList == s) ||
    (unsigned.contains '.' &&
      ((isDigits whole && isExponent tail) || (isSexagesimal whole && tail.isEmpty))) ||
    match s with
    | .char '.' :: c :: _ => Number.isAsciiDigit c && isExponent tail
    | _ => false

/-- The text without an end of a line behind it. -/
def dropLineEnd (s : List Point) : List Point :=
  if s.getLast? = some (.char '\n') then s.dropLast else s

/-- The type of a scalar by its form. -/
def ofForm (s : List Point) : Tag :=
  let word := Text.ofList s
  if nullWords.contains word then null
  else if trueWords.contains word || falseWords.contains word then bool
  else if isFloat s then float
  else if isInt s then int
  else if word == "<<" then merge
  else if word == "=" then default
  else if Timestamp.isTimestamp s then timestamp
  else str

/-- The type of a plain scalar. Nothing at all is null, but an end of a line is a text. -/
def ofPlain (text : Text) : Tag :=
  if text == "\n" then str else ofForm (dropLineEnd text.toList)

end Tag

end FormulaSheet.Yaml
