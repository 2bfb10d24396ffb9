import FormulaSheet.Yaml.Graph.Value

/-!
# Values of YAML documents

A text that is one YAML document of known types has a value. A text without a document has the value
null. Ends of lines are all read as line feeds, and only characters that people can read may stand
in a document.
-/

namespace FormulaSheet.Yaml

/-- Whether the character may stand in a document. -/
def isAllowed (c : Point) : Bool :=
  let n := c.toNat
  n == 0x09 || n == 0x0A || (0x20 ≤ n && n ≤ 0x7E) || n == 0x85 || (0xA0 ≤ n && n ≤ 0xD7FF) ||
    (0xE000 ≤ n && n ≤ 0xFFFD) || 0x10000 ≤ n

/-- The text of a file with every end of a line written as a line feed. -/
def lineFeeds : List Point → List Point
  | [] => []
  | .char '\r' :: .char '\n' :: s => .char '\n' :: lineFeeds s
  | c :: s => (if c = '\r' then '\n' else c) :: lineFeeds s

/-- The value of the document that a file holds, with at most so many collections one inside
another. -/
def ofText (limit : Nat) (text : Text) : Except Fault Value := do
  let s := lineFeeds text.toList
  if !s.all isAllowed then .error (.yaml .characters "a character is not allowed")
  else
    match ← Composition.ofTokens limit (Token.scan s) with
    | none => .ok .null
    | some c => c.value

end FormulaSheet.Yaml
