import FormulaSheet.Text.Digit

/-!
# Time stamps

An event carries the time at which it was made: date and time in universal time, with the fraction
of the second in six digits. The module writes a time that is given in microseconds since the start
of the year 1970.
-/

namespace FormulaSheet.Stamp

/-- A day of the calendar. -/
structure Day where
  year : Nat
  month : Nat
  day : Nat
  deriving DecidableEq, Repr

/-- The day that is so many days after the first of January 1970. Years are counted from March on,
so that the leap day is the last day of a year; 400 such years have 146097 days. -/
def Day.ofCount (count : Nat) : Day :=
  let n := count + 719468
  let era := n / 146097
  let dayOfEra := n % 146097
  let yearOfEra := (dayOfEra - dayOfEra / 1460 + dayOfEra / 36524 - dayOfEra / 146096) / 365
  let dayOfYear := dayOfEra - (365 * yearOfEra + yearOfEra / 4 - yearOfEra / 100)
  let m := (5 * dayOfYear + 2) / 153
  let month := if m < 10 then m + 3 else m - 9
  ⟨era * 400 + yearOfEra + (if month ≤ 2 then 1 else 0), month, dayOfYear - (153 * m + 2) / 5 + 1⟩

/-- The text of the time that is so many microseconds after the start of 1970. -/
def ofMicroseconds (count : Nat) : Text :=
  let seconds := count / 1000000
  let d := Day.ofCount (seconds / 86400)
  Text.ofList <|
    Text.padded 4 d.year ++ Point.char '-' :: Text.padded 2 d.month ++
      Point.char '-' :: Text.padded 2 d.day ++
      .char 'T' :: Text.padded 2 (seconds / 3600 % 24) ++
      Point.char ':' :: Text.padded 2 (seconds / 60 % 60) ++
      .char ':' :: Text.padded 2 (seconds % 60) ++
      Point.char '.' :: Text.padded 6 (count % 1000000) ++ [Point.char 'Z']

end FormulaSheet.Stamp
