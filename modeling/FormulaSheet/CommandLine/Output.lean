import FormulaSheet.Fault
import FormulaSheet.Formula.Lexeme

/-!
# Output

An answer is written text by text. Only a terminal is sent the codes by which terminals are told of
colours and the like; they are left out of what is written elsewhere. A text with halves of
characters cannot be written and keeps the rest from being written as well; what was written before
it remains.

A complaint is always written: halves of characters in it are shown by their numbers.
-/

namespace FormulaSheet.CommandLine

/-! ## Codes for terminals -/

/-- The character that starts a code. -/
def escapePoint : Point :=
  Point.ofNat 0x1B

/-- Whether the character stands between the start of a code and its last letter. -/
def isParameter (c : Point) : Bool :=
  c == ';' || c == '?' || Number.isAsciiDigit c

/-- How many characters a text starts with that end a code. -/
def codeEnd? : List Point → Option Nat
  | [] => none
  | c :: s =>
    if Lexeme.isLetter c then some 1
    else if isParameter c then (codeEnd? s).map (· + 1)
    else none

/-- How many characters follow the first in the code that a text starts with. -/
def code? : List Point → Option Nat
  | c :: .char '[' :: s => if c = escapePoint then (codeEnd? s).map (· + 1) else none
  | _ => none

/-- A text without its codes, behind so many more characters of a code that has begun. -/
def plainFrom : Nat → List Point → List Point
  | _, [] => []
  | n + 1, _ :: s => plainFrom n s
  | 0, c :: s =>
    match code? (c :: s) with
    | none => c :: plainFrom 0 s
    | some n => plainFrom n s

/-- A text without its codes. -/
def plain (s : Text) : Text :=
  Text.ofList (plainFrom 0 s.toList)

/-! ## Answers -/

/-- A text as it is sent to a terminal or elsewhere. -/
def sent (terminal : Bool) (s : Text) : Text :=
  if terminal then s else plain s

/-- Writes texts one after the other, up to the first that cannot be written. Gives what is written
and the fault of that text. -/
def write (terminal : Bool) : List Text → Text × Option Fault
  | [] => ("", none)
  | s :: texts =>
    match Utf8.halves? (sent terminal s) with
    | some halves => ("", some (.unencodable halves))
    | none =>
      let (more, fault) := write terminal texts
      (sent terminal s ++ more, fault)

/-! ## Complaints -/

/-- A code point as a complaint shows it. -/
def toldPoint (p : Point) : List Point :=
  if p.isChar then [p] else .char '\\' :: .char 'u' :: Text.hex 4 p.toNat

/-- A text as a complaint shows it on a terminal or elsewhere. -/
def told (terminal : Bool) (s : Text) : Text :=
  Text.ofList ((sent terminal s).toList.flatMap toldPoint)

end FormulaSheet.CommandLine
