import FormulaSheet.Register

/-!
# Structured documents

The event log and the machine-readable answers are JSON documents. `Json` is the type of these
documents. An object keeps its fields in the order in which their names came, and has no name twice
if it was built by putting one field after the other.
-/

namespace FormulaSheet

/-- A JSON document. Integers have any size, and doubles may be no numbers or infinite. -/
inductive Json where
  /-- nothing -/
  | null
  /-- a truth value -/
  | bool (b : Bool)
  /-- an integer -/
  | int (n : Int)
  /-- a double -/
  | float (x : Float)
  /-- a text -/
  | str (s : Text)
  /-- a sequence -/
  | arr (items : List Json)
  /-- named fields -/
  | obj (fields : List (Text × Json))
  deriving Inhabited

namespace Json

/-- The field of the given name, if the document is an object that has one. -/
def field? (name : Text) : Json → Option Json
  | obj fields => Register.find? name fields
  | _ => none

/-- Whether the document is the given text. -/
def isText (text : Text) : Json → Bool
  | str s => s == text
  | _ => false

/-- Whether the first text comes before the second, character by character, or is the same. -/
def notAfter : List Point → List Point → Bool
  | [], _ => true
  | _ :: _, [] => false
  | c :: s, d :: t => c.toNat < d.toNat || (c == d && notAfter s t)

/-- Whether the name of the first field comes before that of the second, or is the same. -/
def precedes (a b : Text × Json) : Bool :=
  notAfter a.1.toList b.1.toList

mutual

/-- The document with the fields of every object in the order of their names. -/
def sorted : Json → Json
  | arr items => arr (sortedItems items)
  | obj fields => obj ((sortedFields fields).mergeSort precedes)
  | j => j

/-- The items of a sequence, each with its fields in order. -/
def sortedItems : List Json → List Json
  | [] => []
  | j :: items => sorted j :: sortedItems items

/-- The fields of an object, each with its own fields in order. -/
def sortedFields : List (Text × Json) → List (Text × Json)
  | [] => []
  | (name, j) :: fields => (name, sorted j) :: sortedFields fields

end

mutual

/-- The most sequences and objects of the document that stand one inside another. -/
def depth : Json → Nat
  | arr items => itemsDepth items + 1
  | obj fields => fieldsDepth fields + 1
  | _ => 0

/-- The greatest depth of items. -/
def itemsDepth : List Json → Nat
  | [] => 0
  | j :: items => max (depth j) (itemsDepth items)

/-- The greatest depth of fields. -/
def fieldsDepth : List (Text × Json) → Nat
  | [] => 0
  | (_, j) :: fields => max (depth j) (fieldsDepth fields)

end

end Json

end FormulaSheet
