import FormulaSheet.Text

/-!
# Paths of files

A path is written as names with slashes between them. Slashes that are doubled and names that stand
for the folder itself add nothing, so a path has one normal text without them; only two slashes at
the start of a path are kept, because they may have a meaning of their own.
-/

namespace FormulaSheet.Path

/-- The slashes that a path starts with, as they count. -/
def root (path : List Point) : List Point :=
  match path with
  | .char '/' :: .char '/' :: .char '/' :: _ => [Point.char '/']
  | .char '/' :: .char '/' :: _ => [Point.char '/', .char '/']
  | .char '/' :: _ => [Point.char '/']
  | _ => []

/-- The names of a path. -/
def names (path : List Point) : List (List Point) :=
  (path.splitOn (.char '/')).filter fun n => !n.isEmpty && n != [.char '.']

/-- The text of slashes and names; the folder itself if there are none. -/
def write (root : List Point) (names : List (List Point)) : Text :=
  let s := root ++ [Point.char '/'].intercalate names
  if s.isEmpty then "." else Text.ofList s

/-- The normal text of a path. -/
def normal (path : Text) : Text :=
  write (root path.toList) (names path.toList)

/-- The path of a name in a folder. -/
def join (folder name : Text) : Text :=
  write (root folder.toList) (names folder.toList ++ [name.toList])

/-- The last name of a path. -/
def name (path : Text) : Text :=
  Text.ofList (((names path.toList).getLast?).getD [])

end FormulaSheet.Path
