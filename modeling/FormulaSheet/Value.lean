import FormulaSheet.Number.Layout
import FormulaSheet.Timestamp

/-!
# Values of files

Sheet files, settings and event contexts hold values whose type is known only when they are read.
`Value` is the type of these values. This module holds it with what does not need conversions:
whether a value counts as true, when two values are the same key, the entries of a mapping, and the
text of a value.

A mapping keeps its entries in the order in which their keys came; an entry that is written again
keeps its place and its key.

* `find?_put_self`: an entry that was put is found.
-/

namespace FormulaSheet

/-- A value as a file holds it. -/
inductive Value where
  /-- no value -/
  | null
  /-- a truth value -/
  | bool (b : Bool)
  /-- an integer of any size -/
  | int (n : Int)
  /-- a double -/
  | float (x : Float)
  /-- a text -/
  | str (s : Text)
  /-- a sequence -/
  | list (items : List Value)
  /-- a mapping, in the order of its keys -/
  | map (entries : List (Value × Value))
  /-- octets -/
  | octets (s : List UInt8)
  /-- a calendar date, or a date with a time -/
  | timestamp (t : Timestamp)
  /-- a set, in the order of `setOrder` -/
  | set (members : List Value)
  deriving Inhabited

namespace Value

/-- Whether a value counts as true: it is neither false nor null, nor a zero, nor empty. -/
def isTrue : Value → Bool
  | null => false
  | bool b => b
  | int n => n != 0
  | float x => !(x == 0)
  | str s => s != ""
  | list items => !items.isEmpty
  | map entries => !entries.isEmpty
  | octets s => !s.isEmpty
  | timestamp _ => true
  | set members => !members.isEmpty

/-- The type of a value as messages name it. -/
def typeName : Value → Text
  | null => "NoneType"
  | bool _ => "bool"
  | int _ => "int"
  | float _ => "float"
  | str _ => "str"
  | list _ => "list"
  | map _ => "dict"
  | octets _ => "bytes"
  | timestamp t => if t.clock.isSome then "datetime.datetime" else "datetime.date"
  | set _ => "set"

/-- The integer that a truth value, an integer or an integral double stands for. -/
def integer? : Value → Option Int
  | bool b => some (if b then 1 else 0)
  | int n => some n
  | float x => if Binary64.isIntegral x then some (Binary64.truncate x) else none
  | _ => none

/-- Whether two values are the same key of a mapping. Numbers of any type are compared by what they
stand for, so that the integer one, the double one and truth are the same key. -/
def same (a b : Value) : Bool :=
  match a, b with
  | null, null => true
  | str s, str t => s == t
  | octets s, octets t => s == t
  | timestamp s, timestamp t => s.same t
  | float x, float y => x == y
  | a, b => match a.integer?, b.integer? with
    | some m, some n => m == n
    | _, _ => false

/-! ## Entries of a mapping -/

/-- The value of the first entry with the key. -/
def find? (key : Value) (entries : List (Value × Value)) : Option Value :=
  (entries.find? fun e => e.1.same key).map (·.2)

/-- Gives the key a value: in the place of the entry that has it, or else at the end. -/
def put (key value : Value) : List (Value × Value) → List (Value × Value)
  | [] => [(key, value)]
  | e :: entries => if e.1.same key then (e.1, value) :: entries else e :: put key value entries

/-- Puts all entries of the second list into the first, one after the other. -/
def putAll (entries more : List (Value × Value)) : List (Value × Value) :=
  more.foldl (fun es e => put e.1 e.2 es) entries

/-- The value of the entry with the given name, if the value is a mapping that has one. -/
def entry? (name : Text) : Value → Option Value
  | map entries => find? (str name) entries
  | _ => none

theorem find?_put_self {key : Value} (h : key.same key = true) (value : Value)
    (entries : List (Value × Value)) : find? key (put key value entries) = some value := by
  induction entries with
  | nil => simp [put, find?, h]
  | cons e entries ih =>
    rw [put]
    split
    · rename_i he
      simp [find?, he]
    · rename_i he
      simpa [find?, List.find?_cons, he] using ih

/-! ## Members of a set -/

/-- The number of places that a set of so many members has: a power of two, and eight at least. -/
def placesOfSet (count : Nat) : Nat :=
  if count < 5 then 8 else Nat.pow 2 (Nat.log2 (2 * count) + 1)

/-- The place of an integer in a set: its remainder by the number of places. Minus one stands where
minus two does. -/
def placeInSet (places : Nat) (n : Int) : Int :=
  (if n = -1 then -2 else n) % places

/-- The members of a set in its own order: integers by their places, and members of other kinds as
they came. -/
def setOrder (members : List Value) : List Value :=
  match members.mapM integer? with
  | none => members
  | some ns =>
    let places := placesOfSet members.length
    ((ns.zip members).mergeSort fun a b => placeInSet places a.1 ≤ placeInSet places b.1).map (·.2)

/-! ## Text of a value -/

mutual

/-- The text of a value inside a collection: as `text`, but texts are quoted, and timestamps given
part by part. -/
def inner : Value → Except Fault Text
  | null => .ok "None"
  | bool b => .ok (if b then "True" else "False")
  | int n => if Number.isWritable n then .ok (Text.intText n) else .error .integerTooLong
  | float x => .ok (Number.floatText x)
  | str s => .ok (Text.quoted s)
  | list items => do .ok ("[" ++ Text.intercalate ", " (← innerItems items) ++ "]")
  | map entries => do .ok ("\x7b" ++ Text.intercalate ", " (← innerEntries entries) ++ "\x7d")
  | octets s => .ok (Text.quotedOctets s)
  | timestamp t => .ok t.partsText
  | set [] => .ok "set()"
  | set members => do .ok ("\x7b" ++ Text.intercalate ", " (← innerItems members) ++ "\x7d")

/-- The texts of the items of a sequence. -/
def innerItems : List Value → Except Fault (List Text)
  | [] => .ok []
  | v :: items => do .ok ((← inner v) :: (← innerItems items))

/-- The texts of the entries of a mapping. -/
def innerEntries : List (Value × Value) → Except Fault (List Text)
  | [] => .ok []
  | (k, v) :: entries => do .ok (((← inner k) ++ ": " ++ (← inner v)) :: (← innerEntries entries))

end

/-- The text of a value: a text itself, numbers by the fewest digits that read back, and words for
the other scalars. An integer with too many digits has none. -/
def text : Value → Except Fault Text
  | str s => .ok s
  | timestamp t => .ok t.text
  | v => inner v

theorem text_str (s : Text) : text (str s) = .ok s :=
  rfl

/-! ## Conversions -/

/-- Octets as the text that numbers are read from. An octet that is no ASCII character is part of no
number. -/
def asciiText (s : List UInt8) : Text :=
  Text.ofList (s.map fun o => if o.toNat < 0x80 then Point.ofNat o.toNat else '?')

/-- The integer that was read from a text, or why there is none. -/
def readInt (quoted : Text) (r : Except Number.IntegerFault Int) : Except Fault Int :=
  match r with
  | .ok n => .ok n
  | .error .malformed => .error (.notInteger 10 quoted)
  | .error (.tooLong digits) => .error (.tooManyDigits digits)

/-- The double that was read from a text, if there is one. -/
def readFloat (quoted : Text) (r : Option Float) : Except Fault Float :=
  match r with
  | some x => .ok x
  | none => .error (.notNumber quoted)

/-- The value as an integer. A double loses its fraction, a text is read, and octets as well. -/
def toInt : Value → Except Fault Int
  | int n => .ok n
  | bool b => .ok (if b then 1 else 0)
  | float x =>
    if x.isNaN then .error .nanAsInteger
    else if x.isFinite then .ok (Binary64.truncate x)
    else .error .infinityAsInteger
  | str s => readInt (Text.quoted s) (Number.intOfText s)
  | octets s =>
    readInt (Text.quotedOctets (s.take Fault.quotedLimit)) (Number.intOfText (asciiText s))
  | v => .error (.wrongType (.number .integer v.typeName))

/-- The value as a double. -/
def toFloat : Value → Except Fault Float
  | float x => .ok x
  | int n =>
    let x := Binary64.ofInt n
    if x.isFinite then .ok x else .error .integerTooLarge
  | bool b => .ok (if b then 1 else 0)
  | str s => readFloat (Text.quoted s) (Number.floatOfText? s)
  | octets s => readFloat (Text.quotedOctets s) (Number.floatOfText? (asciiText s))
  | v => .error (.wrongType (.number .double v.typeName))

/-- The text that a value is, or that its octets are. -/
def plainText? : Value → Option Text
  | str s => some s
  | octets s => String.fromUTF8? ⟨s.toArray⟩
  | _ => none

/-- The value as a sequence of tokens: the items of a sequence, the characters of a text, the keys
of a mapping, the numbers of octets, the members of a set. -/
def elements : Value → Except Fault (List Value)
  | list items => .ok items
  | str s => .ok (s.toList.map fun c => str (Text.singleton c))
  | map entries => .ok (entries.map (·.1))
  | octets s => .ok (s.map fun o => int o.toNat)
  | set members => .ok members
  | _ => .error (.wrongType .sequence)

end Value

end FormulaSheet
