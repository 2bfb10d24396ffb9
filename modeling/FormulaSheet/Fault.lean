import FormulaSheet.Number.Decimal
import FormulaSheet.Text.Quoted
import FormulaSheet.Text.Utf8

/-!
# What can go wrong

Every way in which reading, storing or calculating can fail is one constructor of `Fault`, with
what its message needs. The messages are written in one place, `Fault.message`. The short name of a
fault, `Fault.name`, is what the event log records.

A fault of a formula or a label is the user's own mistake in a formula: `Fault.isFormulaFault` tells
these from the rest, because a reference that fails in this way is an error value and not a failure.
-/

namespace FormulaSheet

/-- A label that names no cell. -/
structure LabelError where
  /-- the label that was given -/
  label : Text
  /-- what is wrong with it; empty if it is no label at all -/
  detail : Text
  deriving DecidableEq, Repr

/-- The message about a label. -/
def LabelError.message (e : LabelError) : Text :=
  if e.detail = "" then "Invalid cell label: " ++ Text.quoted e.label else e.detail

/-- A text that is no formula. -/
structure ParseError where
  /-- what is wrong with it -/
  detail : Text
  /-- where, counted in characters from the start of the text -/
  position : Option Int
  deriving DecidableEq, Repr

/-- The message about a text that is no formula. -/
def ParseError.message (e : ParseError) : Text :=
  "Formula parse error: " ++ e.detail ++
    match e.position with
    | some p => " (at position " ++ Text.intText p ++ ")"
    | none => ""

/-- The kind of number that a value was needed as. -/
inductive NumberKind where
  /-- an integer -/
  | integer
  /-- a double -/
  | double
  deriving DecidableEq, Repr

/-- What a value was needed for, where its type does not serve. -/
inductive Need where
  /-- a number, from a value of the named type -/
  | number (kind : NumberKind) (given : Text)
  /-- a sequence of tokens -/
  | sequence
  /-- a text, from a value of the named type -/
  | text (given : Text)
  deriving DecidableEq, Repr

/-- The message about a value of the wrong type. -/
def Need.message : Need → Text
  | .number .integer given =>
    "int() argument must be a string, a bytes-like object or a real number, not '" ++ given ++ "'"
  | .number .double given =>
    "float() argument must be a string or a real number, not '" ++ given ++ "'"
  | .sequence => "a sequence of tokens is needed"
  | .text given => "expected string or bytes-like object, got '" ++ given ++ "'"

/-- What is wrong with a YAML document. -/
inductive YamlPart where
  /-- its characters -/
  | characters
  /-- its tokens -/
  | tokens
  /-- the order of its tokens -/
  | order
  /-- the names of its nodes -/
  | names
  /-- its values -/
  | values
  deriving DecidableEq, Repr

/-- The name under which a wrong document is recorded. -/
def YamlPart.name : YamlPart → Text
  | .characters => "ReaderError"
  | .tokens => "ScannerError"
  | .order => "ParserError"
  | .names => "ComposerError"
  | .values => "ConstructorError"

/-- The part of a calendar date or clock time that is out of range. -/
inductive DatePart where
  | year (given : Nat)
  | month
  | day
  | hour
  | minute
  | second
  /-- the difference from universal time, in minutes -/
  | offset (minutes : Int)
  deriving DecidableEq, Repr

/-- A duration of whole minutes in days and seconds, as messages show it. Parts that are zero are
left out. -/
def durationText (minutes : Int) : Text :=
  let days := minutes / 1440
  let seconds := minutes % 1440 * 60
  let parts := (if days = 0 then [] else ["days=" ++ Text.intText days]) ++
    (if seconds = 0 then [] else ["seconds=" ++ Text.intText seconds])
  "datetime.timedelta(" ++
    (if parts.isEmpty then ("0" : Text) else Text.intercalate ", " parts) ++ ")"

/-- The message about a part of a date. -/
def DatePart.message : DatePart → Text
  | .year given => "year " ++ Text.natText given ++ " is out of range"
  | .month => "month must be in 1..12"
  | .day => "day is out of range for month"
  | .hour => "hour must be in 0..23"
  | .minute => "minute must be in 0..59"
  | .second => "second must be in 0..59"
  | .offset minutes => "offset must be a timedelta strictly between -timedelta(hours=24) and " ++
      "timedelta(hours=24), not " ++ durationText minutes ++ "."

/-- The places of a text or a file from a first one on, so many in number. -/
def placesText (single several : Text) (first count : Nat) : Text :=
  if count = 1 then single ++ " in position " ++ Text.natText first
  else several ++ " in position " ++ Text.natText first ++ "-" ++ Text.natText (first + count - 1)

/-- The message about octets that are no part of a text. -/
def strayText (e : Utf8.Stray) : Text :=
  let shown := (e.octets.head?).elim [] fun o => Text.hex 2 o.toNat
  "'utf-8' codec can't decode " ++
    placesText ("byte 0x" ++ Text.ofList shown) "bytes" e.position e.octets.length ++ ": " ++
    match e.wrong with
    | .start => "invalid start byte"
    | .continuation => "invalid continuation byte"
    | .ending => "unexpected end of data"

/-- The message about halves of characters in a text that is to be written. -/
def halvesText (e : Utf8.Halves) : Text :=
  "'utf-8' codec can't encode " ++
    placesText ("character '\\u" ++ Text.ofList (Text.hex 4 e.first.number) ++ "'") "characters"
      e.position (e.others + 1) ++ ": surrogates not allowed"

/-- How a place in a file is reached. -/
inductive PlaceAccess where
  /-- by its number alone -/
  | number
  /-- by reading on from it -/
  | stream
  deriving DecidableEq, Repr

/-- A failure of the program, as opposed to an error value of a formula. -/
inductive Fault where
  /-- a label names no cell of the sheet -/
  | label (e : LabelError)
  /-- a text is no formula -/
  | formula (e : ParseError)
  /-- what is quoted is no integer in the notation of a base -/
  | notInteger (base : Nat) (quoted : Text)
  /-- what is quoted is no number -/
  | notNumber (quoted : Text)
  /-- a text has too many digits for an integer -/
  | tooManyDigits (digits : Nat)
  /-- an integer has too many digits to be written -/
  | integerTooLong
  /-- not-a-number was needed as an integer -/
  | nanAsInteger
  /-- an infinity was needed as an integer -/
  | infinityAsInteger
  /-- an integer is beyond the doubles -/
  | integerTooLarge
  /-- a sheet was to have no row or no column -/
  | emptyGrid
  /-- a file does not hold a mapping -/
  | notMapping (path : Text)
  /-- an event was to have an unknown type -/
  | unknownEventType (given : Text)
  /-- a date does not exist -/
  | date (part : DatePart)
  /-- a number is beyond those of the characters -/
  | noCharacter
  /-- a text is no word of a table -/
  | unknownWord (text : Text)
  /-- a text has no character where one was needed -/
  | textTooShort
  /-- values are nested too deep; the text says where that was found -/
  | nestedTooDeep (place : Text)
  /-- values of the context of an event are nested too deep -/
  | contextTooDeep
  /-- a place in a file is beyond all numbers of places -/
  | placeTooLarge (access : PlaceAccess)
  /-- octets of a file are no part of a text -/
  | undecodable (e : Utf8.Stray)
  /-- halves of characters in a text have no octets -/
  | unencodable (e : Utf8.Halves)
  /-- a path has a character that no path can have -/
  | nullInPath
  /-- a value has the wrong type -/
  | wrongType (need : Need)
  /-- a value that holds no entries was asked for one -/
  | noEntries
  /-- a file is no YAML document of known values -/
  | yaml (part : YamlPart) (detail : Text)
  /-- the fields of an event do not fit -/
  | invalidEvent
  /-- a file cannot be read or written -/
  | storage
  deriving DecidableEq, Repr

namespace Fault

/-- The name under which a fault is recorded. -/
def name : Fault → Text
  | .label _ => "CellLabelError"
  | .formula _ => "FormulaParseError"
  | .infinityAsInteger | .integerTooLarge | .placeTooLarge .number => "OverflowError"
  | .unknownWord _ => "KeyError"
  | .textTooShort => "IndexError"
  | .nestedTooDeep _ => "RecursionError"
  | .undecodable _ => "UnicodeDecodeError"
  | .unencodable _ => "UnicodeEncodeError"
  | .wrongType _ => "TypeError"
  | .noEntries => "AttributeError"
  | .yaml part _ => part.name
  | .invalidEvent => "ValidationError"
  | .storage => "OSError"
  | _ => "ValueError"

/-- The most characters of what is quoted in the message about an integer. -/
def quotedLimit : Nat :=
  200

/-- The message of a fault. -/
def message : Fault → Text
  | .label e => e.message
  | .formula e => e.message
  | .notInteger base quoted =>
    "invalid literal for int() with base " ++ Text.natText base ++ ": " ++
      Text.ofList (quoted.toList.take quotedLimit)
  | .notNumber quoted => "could not convert string to float: " ++ quoted
  | .tooManyDigits digits =>
    "Exceeds the limit (" ++ Text.natText Number.maxDigits ++
      " digits) for integer string conversion: value has " ++ Text.natText digits ++
      " digits; use sys.set_int_max_str_digits() to increase the limit"
  | .integerTooLong =>
    "Exceeds the limit (" ++ Text.natText Number.maxDigits ++
      " digits) for integer string conversion; " ++
      "use sys.set_int_max_str_digits() to increase the limit"
  | .nanAsInteger => "cannot convert float NaN to integer"
  | .infinityAsInteger => "cannot convert float infinity to integer"
  | .integerTooLarge => "int too large to convert to float"
  | .emptyGrid => "a sheet needs at least one row and one column"
  | .notMapping path => path ++ " must contain a mapping"
  | .unknownEventType given => given ++ " is not a valid EventType"
  | .date part => part.message
  | .noCharacter => "chr() arg not in range(0x110000)"
  | .unknownWord text => Text.quoted text
  | .textTooShort => "string index out of range"
  | .nestedTooDeep place => "maximum recursion depth exceeded" ++ place
  | .contextTooDeep => "Circular reference detected (depth exceeded)"
  | .placeTooLarge .number => "Python int too large to convert to C long"
  | .placeTooLarge .stream => "cannot fit 'int' into an offset-sized integer"
  | .undecodable e => strayText e
  | .unencodable e => halvesText e
  | .nullInPath => "embedded null byte"
  | .wrongType need => need.message
  | .noEntries => "the value has no entries"
  | .yaml _ detail => detail
  | .invalidEvent => "the fields of the event do not fit"
  | .storage => "the file cannot be read or written"

/-- Whether the fault lies in a value that has the right type. -/
def isOfValue : Fault → Bool
  | .notInteger _ _ | .notNumber _ | .tooManyDigits _ | .integerTooLong | .nanAsInteger | .emptyGrid
  | .notMapping _ | .unknownEventType _ | .date _ | .noCharacter | .undecodable _
  | .unencodable _ => true
  | _ => false

/-- Whether the fault lies in the type of a value. -/
def isOfType : Fault → Bool
  | .wrongType _ => true
  | _ => false

/-- Whether the fault lies in a YAML document. -/
def isOfYaml : Fault → Bool
  | .yaml _ _ => true
  | _ => false

/-- Whether the fault lies in a formula or a label. -/
def isFormulaFault : Fault → Bool
  | .label _ | .formula _ => true
  | _ => false

end Fault

end FormulaSheet
