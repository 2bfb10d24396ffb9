import FormulaSheet.Number.Decimal
import FormulaSheet.Timestamp

/-!
# Dates and times in a YAML document

A scalar may be a calendar date, alone or with the time of a clock, and that with a fraction of a
second and a difference from universal time. The module reads the form; whether the date exists is
another question.
-/

namespace FormulaSheet.Yaml.Timestamp

/-- A number of at least so many and at most so many digits, and what follows it. -/
def number? (least most : Nat) (s : List Point) : Option (Nat × List Point) :=
  let ds := (s.takeWhile Number.isAsciiDigit).take most
  if ds.length < least then none else some (Text.ofDecimal ds, s.drop ds.length)

/-- What follows a character that must be next. -/
def behind? (c : Point) : List Point → Option (List Point)
  | d :: s => if d = c then some s else none
  | [] => none

/-- Whether the character is a space or a tab. -/
def isPad (c : Point) : Bool :=
  c == ' ' || c == '\t'

/-- The fraction of a second, if there is one, and what follows it. -/
def fraction : List Point → List Point × List Point
  | .char '.' :: s => (s.takeWhile Number.isAsciiDigit, s.dropWhile Number.isAsciiDigit)
  | s => ([], s)

/-- The difference from universal time behind its sign: hours, and minutes behind a colon. -/
def signedOffset? (s : List Point) : Option Nat := do
  let (hours, s) ← number? 1 2 s
  match s with
  | [] => some (hours * 60)
  | _ => do
    let (minutes, s) ← number? 2 2 (← behind? ':' s)
    if s.isEmpty then some (hours * 60 + minutes) else none

/-- The difference from universal time in minutes, if there is one. -/
def offset? (s : List Point) : Option (Option Int) :=
  match s with
  | [] => some none
  | _ =>
    match s.dropWhile isPad with
    | [.char 'Z'] => some (some 0)
    | .char '+' :: s => (signedOffset? s).map fun m => some m
    | .char '-' :: s => (signedOffset? s).map fun m => some (-(m : Int))
    | _ => none

/-- The time behind a date: a letter or white space, then hours, minutes and seconds. -/
def clock? (s : List Point) : Option Clock := do
  let s ← match s with
    | [] => none
    | c :: rest =>
      if c = 'T' || c = 't' then some rest
      else if isPad c then some (rest.dropWhile isPad)
      else none
  let (hour, s) ← number? 1 2 s
  let (minute, s) ← number? 2 2 (← behind? ':' s)
  let (second, s) ← number? 2 2 (← behind? ':' s)
  let (digits, s) := fraction s
  let micros := Text.ofDecimal ((digits ++ List.replicate 6 (Point.char '0')).take 6)
  some ⟨hour, minute, second, micros, ← offset? s⟩

/-- Reads a date, and the time on it if there is one. -/
def read? (s : List Point) : Option Timestamp := do
  let (year, s) ← number? 4 4 s
  let (month, s) ← number? 1 2 (← behind? '-' s)
  let (day, s) ← number? 1 2 (← behind? '-' s)
  if s.isEmpty then some ⟨year, month, day, none⟩
  else some ⟨year, month, day, some (← clock? s)⟩

/-- Whether a plain scalar is a date or a time. A date alone has all its digits. -/
def isTimestamp (s : List Point) : Bool :=
  (read? s).any fun t => t.clock.isSome || s.length == 10

end FormulaSheet.Yaml.Timestamp
