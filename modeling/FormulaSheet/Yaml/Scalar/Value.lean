import FormulaSheet.Text.Base64
import FormulaSheet.Text.LowerCase
import FormulaSheet.Value
import FormulaSheet.Yaml.Tag

/-!
# Values of YAML scalars

A scalar has the value that its text denotes in its type. A scalar whose type follows from its form
always denotes one, but the type can also be given to a text of any form.
-/

namespace FormulaSheet.Yaml.Scalar

/-- A node whose type has no such value. -/
def valueless {α : Type} (detail : Text) : Except Fault α :=
  .error (.yaml .values detail)

/-- The sign of a number, and what follows it. There must be a character. -/
def signed (s : List Point) : Except Fault (Bool × List Point) :=
  if s.isEmpty then .error .textTooShort else .ok (Number.takeSign s)

/-! ## Integers -/

/-- The integer that a text denotes in the notation of a base. -/
def inBase (base : Nat) (s : List Point) : Except Fault Int :=
  match Number.intInBase? base s with
  | some n => .ok n
  | none => .error (.notInteger base (Text.quoted (Text.ofList s)))

/-- The integer that a decimal text denotes. -/
def decimal (s : List Point) : Except Fault Int :=
  (Value.str (Text.ofList s)).toInt

/-- The integer behind the sign of a scalar: binary, hexadecimal, octal, in sixtieths, or decimal.
-/
def magnitude (s : List Point) : Except Fault Int :=
  match s with
  | [] => .error .textTooShort
  | [.char '0'] => .ok 0
  | .char '0' :: .char 'b' :: ds => inBase 2 ds
  | .char '0' :: .char 'x' :: ds => inBase 16 ds
  | .char '0' :: _ => inBase 8 s
  | _ =>
    if s.contains ':' then do
      let ns ← (Tag.parts s).mapM decimal
      .ok (ns.foldl (fun n m => n * 60 + m) 0)
    else decimal s

/-- The integer of a scalar. Low lines in it are left out. -/
def intValue (text : Text) : Except Fault Value := do
  let (negative, s) ← signed (text.toList.filter (· ≠ '_'))
  let n ← magnitude s
  .ok (.int (if negative then -n else n))

/-! ## Doubles -/

/-- The double of a decimal text. -/
def double (s : List Point) : Except Fault Float :=
  (Value.str (Text.ofList s)).toFloat

/-- The sum of doubles in sixtieths, the smallest part first, from the given power of sixty on. -/
def sixtieths (base : Int) (sum : Float) : List Float → Except Fault Float
  | [] => .ok sum
  | x :: xs => do sixtieths (base * 60) (sum + x * (← (Value.int base).toFloat)) xs

/-- The double of a scalar. Low lines in it are left out, and capitals are small letters. -/
def floatValue (text : Text) : Except Fault Value := do
  let (negative, s) ← signed (Text.lower (text.toList.filter (· ≠ '_')))
  let x ←
    if s = (".inf" : Text).toList then .ok (1.0 / 0.0)
    else if s = (".nan" : Text).toList then .ok (0.0 / 0.0)
    else if s.contains ':' then do sixtieths 1 0.0 (← (Tag.parts s).mapM double).reverse
    else double s
  .ok (.float (if negative then -x else x))

/-! ## Other scalars -/

/-- The truth value of a scalar. Capitals are small letters. -/
def boolValue (text : Text) : Except Fault Value :=
  let word := Text.ofList (Text.lower text.toList)
  if Tag.trueWords.contains word then .ok (.bool true)
  else if Tag.falseWords.contains word then .ok (.bool false)
  else .error (.unknownWord word)

/-- The octets of a scalar. -/
def binaryValue (text : Text) : Except Fault Value :=
  if text.toList.any fun c => 0x80 ≤ c.toNat then valueless "letters for octets are unknown"
  else
    match Base64.decode text.toList with
    | some octets => .ok (.octets octets)
    | none => valueless "octets are not complete"

/-- The date or time of a scalar, which must have the form of one and must exist. -/
def timestampValue (text : Text) : Except Fault Value :=
  match Timestamp.read? (Tag.dropLineEnd text.toList) with
  | none => .error .noEntries
  | some t =>
    match t.wrongPart? with
    | some part => .error (.date part)
    | none => .ok (.timestamp t)

/-- The value of a scalar. -/
def value (tag : Tag) (text : Text) : Except Fault Value :=
  match tag with
  | .null => .ok .null
  | .bool => boolValue text
  | .int => intValue text
  | .float => floatValue text
  | .binary => binaryValue text
  | .timestamp => timestampValue text
  | .str => .ok (.str text)
  | .merge | .default | .seq | .map | .set | .omap | .pairs | .unknown =>
    valueless "the type has no scalars"

end FormulaSheet.Yaml.Scalar
