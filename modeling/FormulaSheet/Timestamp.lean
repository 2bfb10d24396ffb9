import FormulaSheet.Fault

/-!
# Dates and times

A timestamp is a calendar date, alone or with the time of a clock; the time may be known as a
difference from universal time. The module refuses what does not exist in the calendar or on a
clock, tells which timestamps are the same, and writes a timestamp in two ways: for people, and part
by part.

Two times with a difference from universal time are the same if they are the same instant; a time
without one is never the same as a time with one.
-/

namespace FormulaSheet

/-- The time of a clock. -/
structure Clock where
  hour : Nat
  minute : Nat
  second : Nat
  /-- the millionths of a second -/
  micros : Nat
  /-- the difference from universal time in minutes, if there is one -/
  offset : Option Int
  deriving DecidableEq

/-- A calendar date, and the time of a clock on it. -/
structure Timestamp where
  year : Nat
  month : Nat
  day : Nat
  /-- the time, if there is one -/
  clock : Option Clock
  deriving DecidableEq

namespace Timestamp

/-! ## The calendar -/

/-- Whether the year has a day more. -/
def isLeap (year : Nat) : Bool :=
  year % 4 = 0 && (year % 100 ≠ 0 || year % 400 = 0)

/-- The number of days of a month. -/
def daysOfMonth (year month : Nat) : Nat :=
  if month = 2 then if isLeap year then 29 else 28
  else if month = 4 ∨ month = 6 ∨ month = 9 ∨ month = 11 then 30
  else 31

/-- The first part that does not exist, the difference from universal time before all others. -/
def wrongPart? (t : Timestamp) : Option DatePart :=
  let offset := (t.clock.bind (·.offset)).getD 0
  if 1440 ≤ offset.natAbs then some (.offset offset)
  else if t.year = 0 then some (.year t.year)
  else if t.month = 0 || 12 < t.month then some .month
  else if t.day = 0 || daysOfMonth t.year t.month < t.day then some .day
  else
    match t.clock with
    | none => none
    | some c =>
      if 23 < c.hour then some .hour
      else if 59 < c.minute then some .minute
      else if 59 < c.second then some .second
      else none

/-! ## Sameness -/

/-- The number of days in front of a date, from a day before all dates on. -/
def dayNumber (t : Timestamp) : Nat :=
  let years := t.year - 1
  let months := (List.range (t.month - 1)).foldl (fun days m => days + daysOfMonth t.year (m + 1)) 0
  years * 365 + years / 4 - years / 100 + years / 400 + months + t.day

/-- The minutes of a date and time, counted as the clock shows them. -/
def minutes (t : Timestamp) (c : Clock) : Int :=
  (t.dayNumber * 1440 + c.hour * 60 + c.minute : Nat)

/-- Whether two timestamps are the same. -/
def same (a b : Timestamp) : Bool :=
  match a.clock, b.clock with
  | some c, some d =>
    match c.offset, d.offset with
    | some m, some n =>
      a.minutes c - m == b.minutes d - n && c.second == d.second && c.micros == d.micros
    | _, _ => decide (a = b)
  | _, _ => decide (a = b)

/-! ## Writing -/

/-- The text of a date. -/
def dateText (t : Timestamp) : List Point :=
  Text.padded 4 t.year ++ Point.char '-' :: Text.padded 2 t.month ++ Point.char '-' ::
    Text.padded 2 t.day

/-- The text of a time. The fraction of a second has six digits, and is left out if it is zero. -/
def clockText (c : Clock) : List Point :=
  Text.padded 2 c.hour ++ Point.char ':' :: Text.padded 2 c.minute ++
    Point.char ':' :: Text.padded 2 c.second ++
    (if c.micros = 0 then [] else .char '.' :: Text.padded 6 c.micros) ++
    match c.offset with
    | none => []
    | some m => (if m < 0 then Point.char '-' else .char '+') :: Text.padded 2 (m.natAbs / 60) ++
        Point.char ':' ::
        Text.padded 2 (m.natAbs % 60)

/-- The text of a date, with the time on it if there is one. -/
def text (t : Timestamp) : Text :=
  Text.ofList <| t.dateText ++
    match t.clock with
    | none => []
    | some c => .char ' ' :: clockText c

/-- The parts of a timestamp as numbers. Seconds and millionths are left out if they and what
follows them are zero. -/
def parts (t : Timestamp) : List Nat :=
  [t.year, t.month, t.day] ++
    match t.clock with
    | none => []
    | some c => [c.hour, c.minute] ++
        if c.micros ≠ 0 then [c.second, c.micros] else if c.second ≠ 0 then [c.second] else []

/-- The difference from universal time as it is written behind the parts. -/
def zoneText (offset : Int) : Text :=
  if offset = 0 then "datetime.timezone.utc"
  else "datetime.timezone(" ++ durationText offset ++ ")"

/-- The parts of a timestamp between parentheses, with its type in front. -/
def partsText (t : Timestamp) : Text :=
  let zone := match t.clock.bind (·.offset) with
    | none => []
    | some m => ["tzinfo=" ++ zoneText m]
  let name := if t.clock.isSome then "datetime.datetime" else "datetime.date"
  name ++ "(" ++ Text.intercalate ", " (t.parts.map Text.natText ++ zone) ++ ")"

end Timestamp

end FormulaSheet
