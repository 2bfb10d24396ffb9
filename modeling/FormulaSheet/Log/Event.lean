import FormulaSheet.Formula.Evaluator
import FormulaSheet.Json.Printer
import FormulaSheet.Value

/-!
# Events

What happens to formulas and sheets is recorded as events. An event has a level, a type, a message,
a context of named values, and for failures the code of the error; it also has the time at which it
was made and the version of this form.

Events can be made from values of unknown type; then each of them must fit its field. Before an
event is recorded on behalf of the program its context is capped, so that a long formula does not
make the log grow.

* `length_capText_le`: a capped text is only a little longer than the cap.
-/

namespace FormulaSheet

/-- How grave an event is. -/
inductive Level where
  | info
  | warning
  | error
  deriving DecidableEq, Repr

/-- The name of a level. -/
def Level.name : Level → Text
  | .info => "info"
  | .warning => "warning"
  | .error => "error"

/-- The level of a name. -/
def Level.ofName? (name : Text) : Option Level :=
  [info, warning, error].find? fun l => l.name == name

/-- What an event is about. -/
inductive EventType where
  /-- formulas were evaluated -/
  | formulaEvaluated
  /-- a formula has an error -/
  | formulaError
  /-- a reference leads back to where it came from -/
  | circularReference
  /-- a sheet was read from its file -/
  | sheetLoaded
  /-- a sheet could not be read from its file -/
  | sheetLoadFailed
  deriving DecidableEq, Repr

/-- The name of an event type. -/
def EventType.name : EventType → Text
  | .formulaEvaluated => "formula_evaluated"
  | .formulaError => "formula_error"
  | .circularReference => "circular_reference"
  | .sheetLoaded => "sheet_loaded"
  | .sheetLoadFailed => "sheet_load_failed"

/-- The event type of a name. -/
def EventType.ofName? (name : Text) : Option EventType :=
  [formulaEvaluated, formulaError, circularReference, sheetLoaded, sheetLoadFailed].find? fun t =>
    t.name == name

/-- An event. -/
structure Event where
  /-- the version of the form of events -/
  version : Int
  /-- when it was made -/
  stamp : Text
  /-- how grave it is -/
  level : Level
  /-- what it is about -/
  type : EventType
  /-- named values that tell more -/
  context : Register Value
  /-- what happened, in words -/
  message : Text
  /-- the code of an error -/
  code : Option Text

namespace Event

/-- The version of events made by the program. -/
def currentVersion : Int :=
  1

/-! ## Documents of values -/

/-- The name under which a key appears in a document. -/
def keyName : Value → Text
  | .null => "None"
  | .bool b => if b then "true" else "false"
  | .int n => Text.intText n
  | .float x => Number.floatText x
  | .str s => s
  | .octets s => Text.quotedOctets s
  | .timestamp t => t.text
  | .list _ | .map _ | .set _ => ""

mutual

/-- The document of a value. Doubles that are no numbers become null. -/
def valueDocument : Value → Json
  | .null => .null
  | .bool b => .bool b
  | .int n => .int n
  | .float x => if x.isFinite then .float x else .null
  | .str s => .str s
  | .octets s => .str (Text.quotedOctets s)
  | .timestamp t => .str t.text
  | .list items | .set items => .arr (itemDocuments items)
  | .map entries => .obj (Register.ofList (entryDocuments entries))

/-- The documents of the items of a sequence. -/
def itemDocuments : List Value → List Json
  | [] => []
  | v :: items => valueDocument v :: itemDocuments items

/-- The documents of the entries of a mapping, under the names of their keys. -/
def entryDocuments : List (Value × Value) → List (Text × Json)
  | [] => []
  | (k, v) :: entries => (keyName k, valueDocument v) :: entryDocuments entries

end

/-- The document of a context. -/
def contextDocument (context : Register Value) : Json :=
  .obj (context.map fun e => (e.1, valueDocument e.2))

/-- The document of an event. -/
def document (e : Event) : Json :=
  .obj [("schema_version", .int e.version), ("ts", .str e.stamp), ("level", .str e.level.name),
    ("event_type", .str e.type.name), ("context", contextDocument e.context),
    ("message", .str e.message),
    ("error_code", match e.code with
      | some code => .str code
      | none => .null)]

/-- The most sequences and mappings that may stand one inside another in a value of a context. -/
def maxDepth : Nat :=
  255

/-- The document of an event whose context is not nested too deep. -/
def document? (e : Event) : Except Fault Json :=
  if maxDepth + 1 < (contextDocument e.context).depth then .error .contextTooDeep
  else .ok e.document

/-- Why an event cannot be written, if it cannot: its context is nested too deep, or an integer is
too long. -/
def refusal? (e : Event) : Option Fault :=
  match e.document? with
  | .error f => some f
  | .ok j => if j.isWritable then none else some .integerTooLong

/-! ## Events of values -/

/-- Whether the character is white space around the text of a version. -/
def isPad (c : Point) : Bool :=
  Text.isBlank c && !(0x1C ≤ c.toNat && c.toNat ≤ 0x1F)

/-- The text of a number without the zeros in front, between which low lines may stand; one zero
stays where no other digit follows. A number with a minus sign keeps its zeros. -/
def dropZeros? : List Point → Option (List Point)
  | .char '-' :: s => some (.char '-' :: s)
  | .char '0' :: s =>
    let zeros := Point.char '0' :: s.takeWhile fun c : Point => c == '0' || c == '_'
    match (.char '0' :: s).drop zeros.length with
    | [] => zeros.getLast?.map fun c => [c]
    | .char '.' :: rest => zeros.getLast?.map fun c => c :: .char '.' :: rest
    | c :: rest => if Number.isAsciiDigit c then some (c :: rest) else none
  | c :: s => if Number.isAsciiDigit c then some (c :: s) else none
  | [] => none

/-- The text without its low lines, which may only stand alone and inside of it. -/
def dropLines? (s : List Point) : Option (List Point) :=
  if s.head? = some (.char '_') || s.getLast? = some (.char '_') ||
      (s.zip (s.drop 1)).contains ('_', '_') then none
  else some (s.filter (· ≠ '_'))

/-- The integer that digits denote. Only zero itself starts with a zero. -/
def integerOfDigits? (negative : Bool) (ds : List Point) : Option Int :=
  if ds.isEmpty || !ds.all Number.isAsciiDigit || (ds.head? = some (.char '0') && 1 < ds.length) ||
      Number.maxDigits < ds.length then none
  else some (if negative then -(Text.ofDecimal ds : Int) else Text.ofDecimal ds)

/-- The integer that a text denotes. It may have a sign in front, and a point with only zeros behind
it. -/
def versionOfText? (text : Text) : Option Int := do
  let s := ((text.toList.dropWhile isPad).reverse.dropWhile isPad).reverse
  let s ← match s with
    | .char '+' :: .char '-' :: _ => none
    | .char '+' :: rest => some rest
    | _ => some s
  let s ← dropZeros? s
  let whole := s.takeWhile (· ≠ Point.char '.')
  if ((s.drop whole.length).drop 1).any (· ≠ '0') then none
  match ← dropLines? whole with
  | .char '-' :: ds => integerOfDigits? true ds
  | ds => integerOfDigits? false ds

/-- The version that a value denotes. -/
def version? : Value → Option Int
  | .int n => some n
  | .bool b => some (if b then 1 else 0)
  | .float x =>
    if Binary64.isIntegral x && (Binary64.truncate x).natAbs < Nat.pow 2 63 then
      some (Binary64.truncate x)
    else none
  | .str s => versionOfText? s
  | _ => none

/-- The text that a value is. -/
def text? : Value → Option Text
  | .str s => some s
  | _ => none

/-- The text that a value is, or nothing if it is null. -/
def optionalText? : Value → Option (Option Text)
  | .null => some none
  | .str s => some (some s)
  | _ => none

/-- The context that a value is: a mapping under texts. -/
def context? : Value → Option (Register Value)
  | .map entries => entries.mapM fun e => (text? e.1).map fun name => (name, e.2)
  | _ => none

/-- The value of a field: the default if it is not given, what it is read as if it fits. -/
def given {α : Type} (fields : Register Value) (name : Text) (default : Option α)
    (read : Value → Option α) : Except Fault α :=
  match fields.find? name with
  | none => (default.map Except.ok).getD (.error .invalidEvent)
  | some v => ((read v).map Except.ok).getD (.error .invalidEvent)

/-- The event of the given fields. A level and a type must be given. -/
def ofFields (now : Text) (fields : Register Value) : Except Fault Event := do
  let version ← given fields "schema_version" (some currentVersion) version?
  let stamp ← given fields "ts" (some now) text?
  let level ← given fields "level" none fun v => do Level.ofName? (← text? v)
  let type ← given fields "event_type" none fun v => do EventType.ofName? (← text? v)
  let context ← given fields "context" (some []) context?
  let message ← given fields "message" (some ("" : Text)) text?
  let code ← given fields "error_code" (some none) optionalText?
  .ok ⟨version, stamp, level, type, context, message, code⟩

/-- The event type that a value names. -/
def typeOfValue (v : Value) : Except Fault EventType :=
  match (text? v).bind EventType.ofName? with
  | some t => .ok t
  | none => do .error (.unknownEventType (← v.inner))

/-- The event of the given level and type whose other fields are given as values. A context that
counts as false is an empty one. -/
def ofValues (now : Text) (level : Level) (type : EventType) (message context code : Value) :
    Except Fault Event :=
  ofFields now [("level", .str level.name), ("event_type", .str type.name), ("message", message),
    ("context", if context.isTrue then context else .map []), ("error_code", code)]

/-! ## Events of the program -/

/-- An event of the current version. -/
def make (now : Text) (level : Level) (type : EventType) (message : Text)
    (context : Register Value) (code : Option Text) : Event :=
  ⟨currentVersion, now, level, type, context, message, code⟩

/-- The event of a notice of an evaluation. -/
def ofNotice (now : Text) : Notice → Event
  | .circular origin label =>
    make now .warning .circularReference
      ("circular reference from " ++ origin ++ " through " ++ label)
      [("origin", .str origin), ("label", .str label)] (some "#CIRC!")
  | .failed tokens origin position error code =>
    make now .warning .formulaError ("formula evaluation failed: " ++ error)
      [("formula", .str (Text.intercalate " " tokens)),
       ("origin", match origin with
         | some label => .str label
         | none => .null),
       ("position", .int position)] (some code)

/-! ## Capping -/

/-- The most characters of a text in the context of a recorded event. -/
def cap : Nat :=
  256

/-- What follows a text that was cut. -/
def cutMark : List Point :=
  ("...[truncated]" : Text).toList

/-- A text, cut if it is too long. -/
def capText (s : List Point) : List Point :=
  if cap < s.length then s.take cap ++ cutMark else s

/-- A value, cut if it is a text that is too long. -/
def capValue : Value → Value
  | .str s => .str (Text.ofList (capText s.toList))
  | v => v

/-- The event with long texts of its context cut. Texts inside of other values stay. -/
def capped (e : Event) : Event :=
  { e with context := e.context.map fun f => (f.1, capValue f.2) }

theorem length_capText_le (s : List Point) : (capText s).length ≤ cap + cutMark.length := by
  rw [capText]
  split
  · rw [List.length_append, List.length_take]
    omega
  · omega

end Event

end FormulaSheet
