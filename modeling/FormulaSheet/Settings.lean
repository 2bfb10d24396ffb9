import FormulaSheet.Formula.Evaluator

/-!
# Settings of a project

A project folder may hold a file of settings. What the file does not set has a standard value, and
what it sets beyond the known settings is kept. Settings may have any type; where one is used it is
read as what is needed: as a truth value, or as an integer.

* `ofFile_none`: without a file the settings are the standard ones.
-/

namespace FormulaSheet.Settings

/-- The name of the file of settings. -/
def fileName : Text :=
  "sheetcalc.yaml"

/-- The standard settings. -/
def standard : List (Value × Value) :=
  [(.str "blank_is_zero", .bool false), (.str "check_cycles", .bool true), (.str "n_cols", .int 26),
   (.str "n_rows", .int 100), (.str "logging_fsync", .bool false),
   (.str "logging_tail_bytes", .int 2097152)]

/-- The settings of a project. The content of the file is given with its path; a content that counts
as false sets nothing. -/
def ofFile (path : Text) : Option Value → Except Fault Value
  | none => .ok (.map standard)
  | some content =>
    if content.isTrue then
      match content with
      | .map entries => .ok (.map (Value.putAll standard entries))
      | _ => .error (.notMapping path)
    else .ok (.map standard)

/-- A setting; a default if it is missing. Only a mapping can be asked. -/
def get (settings : Value) (name : Text) (default : Value) : Except Fault Value :=
  match settings with
  | .map _ => .ok ((settings.entry? name).getD default)
  | _ => .error .noEntries

/-- The options of an evaluator according to settings, on the given stack. -/
def options (stack : Stack) (settings : Value) : Except Fault Options := do
  let blankIsZero ← get settings "blank_is_zero" (.bool false)
  let checkCycles ← get settings "check_cycles" (.bool true)
  .ok ⟨blankIsZero.isTrue, checkCycles.isTrue, .pattern, stack⟩

/-- The extent of a sheet according to settings. -/
def grid (settings : Value) : Except Fault Grid := do
  let columns ← (← get settings "n_cols" .null).toInt
  let rows ← (← get settings "n_rows" .null).toInt
  Grid.ofSize columns rows

/-- How the event log is kept. -/
structure Logging where
  /-- whether every event is forced to the disk -/
  sync : Bool
  /-- how many octets at the end of the journal are read -/
  tail : Int
  deriving DecidableEq, Repr

/-- How many octets at the end of the journal are read if nothing is said about it. -/
def standardTail : Int :=
  2097152

/-- How the event log is kept according to settings. -/
def logging (settings : Value) : Except Fault Logging := do
  let sync ← get settings "logging_fsync" (.bool false)
  match ← get settings "logging_tail_bytes" .null with
  | .null => .ok ⟨sync.isTrue, standardTail⟩
  | v => .ok ⟨sync.isTrue, ← v.toInt⟩

end FormulaSheet.Settings
