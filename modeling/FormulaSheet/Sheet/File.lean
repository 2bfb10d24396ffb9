import FormulaSheet.Log.Event
import FormulaSheet.Path
import FormulaSheet.Sheet.Spec
import FormulaSheet.Yaml.Document

/-!
# Sheet files

A sheet file is a YAML document that describes a sheet. An empty document describes an empty sheet;
one that is not a mapping describes none. When a sheet was loaded, or could not be, the event log is
told.
-/

namespace FormulaSheet.Sheet

/-- The sheet that the content of a file describes. -/
def ofContent (path : Text) (content : Value) : Except Fault Sheet :=
  if content.isTrue then
    match content with
    | .map _ => ofSpec content
    | _ => .error (.notMapping (Path.normal path))
  else ofSpec (.map [])

/-- The sheet that the text of a file describes, with at most so many collections one inside
another. -/
def ofFile (limit : Nat) (path text : Text) : Except Fault Sheet := do
  ofContent path (← Yaml.ofText limit text)

/-- The event that a sheet was loaded from a file. -/
def loadedEvent (now path : Text) (s : Sheet) : Event :=
  Event.make now .info .sheetLoaded
    ("loaded " ++ Text.natText s.size ++ " cells from " ++ Path.name path)
    [("path", .str (Path.normal path)), ("n_cols", .int s.grid.columns),
     ("n_rows", .int s.grid.rows)]
    none

/-- The event that a sheet could not be loaded from a file. -/
def failedEvent (now path : Text) (f : Fault) : Event :=
  Event.make now .error .sheetLoadFailed ("could not load " ++ path ++ ": " ++ f.message)
    [("path", .str path)] (some f.name)

end FormulaSheet.Sheet
