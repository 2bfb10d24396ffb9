import FormulaSheet.Text.Digit
import FormulaSheet.Text
import FormulaSheet.Text.Printable

/-!
# Quoted text in messages

Messages quote the text they complain about. A quoted text stands between single quotes, unless it
holds a single quote and no double quote; then it stands between double quotes. The chosen quote and
the backslash are escaped by a backslash, line feed, carriage return and tab have letters of their
own, and every other character that is not printable is written by its code point in hexadecimal.
Octets are quoted in the same way, with a letter in front.
-/

namespace FormulaSheet.Text

/-- A digit of hexadecimal notation, in small letters. -/
def hexDigit (d : Nat) : Point :=
  if d < 10 then Point.ofNat (0x30 + d) else Point.ofNat (0x61 + (d - 10))

/-- A code point in hexadecimal notation with the given number of digits. -/
def hex : Nat → Nat → List Point
  | 0, _ => []
  | width + 1, n => hex width (n / 16) ++ [hexDigit (n % 16)]

/-- The mark that encloses a quoted text. -/
def quoteMark (s : List Point) : Point :=
  if s.contains '\'' && !s.contains '"' then '"' else '\''

/-- One character of a text that is quoted with the given mark. -/
def quoteChar (mark c : Point) : List Point :=
  if c = mark || c = '\\' then [.char '\\', c]
  else if c = '\n' then [Point.char '\\', .char 'n']
  else if c = '\r' then [Point.char '\\', .char 'r']
  else if c = '\t' then [Point.char '\\', .char 't']
  else if isPrintable c then [c]
  else if c.toNat < 0x100 then .char '\\' :: .char 'x' :: hex 2 c.toNat
  else if c.toNat < 0x10000 then .char '\\' :: .char 'u' :: hex 4 c.toNat
  else .char '\\' :: .char 'U' :: hex 8 c.toNat

/-- The text as a message quotes it. -/
def quoted (s : Text) : Text :=
  let mark := quoteMark s.toList
  Text.ofList (mark :: s.toList.flatMap (quoteChar mark) ++ [mark])

/-- Octets as a message quotes them: those that are printable ASCII characters as such. -/
def quotedOctets (octets : List UInt8) : Text :=
  let s := octets.map fun o => Point.ofNat o.toNat
  let mark := quoteMark s
  Text.ofList (.char 'b' :: mark :: s.flatMap (quoteOctet mark) ++ [mark])
where
  /-- One octet, by the character of the same number. -/
  quoteOctet (mark c : Point) : List Point :=
    if 0x7F ≤ c.toNat then .char '\\' :: .char 'x' :: hex 2 c.toNat else quoteChar mark c

end FormulaSheet.Text
