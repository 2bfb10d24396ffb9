import FormulaSheet.Yaml.Tag

/-!
# Nodes of a YAML document

The nodes of a document form a graph: a node that has a name can stand at several places, also
inside of itself. So nodes are numbered, and a collection holds the numbers of the nodes in it. A
node is a scalar, a sequence or a mapping, each with its type.
-/

namespace FormulaSheet.Yaml

/-- What a node consists of. Other nodes are given by their numbers. -/
inductive Shape where
  /-- a text -/
  | scalar (text : Text)
  /-- a sequence of nodes -/
  | sequence (items : List Nat)
  /-- keys and their values -/
  | mapping (entries : List (Nat × Nat))
  deriving DecidableEq

/-- A node of a document. -/
structure Node where
  /-- its type -/
  tag : Tag
  /-- what it consists of -/
  shape : Shape
  deriving DecidableEq

/-- A scalar of nothing. -/
def Node.empty : Node :=
  ⟨Tag.ofPlain "", .scalar ""⟩

/-- Whether the node is the key of mappings that are to be merged. -/
def Node.isMergeKey (node : Node) : Bool :=
  node.tag = .merge

/-- The nodes of a document by their numbers. -/
abbrev Graph : Type :=
  Array Node

namespace Graph

/-- The node of a number. -/
def node (g : Graph) (n : Nat) : Node :=
  g.getD n Node.empty

/-- Gives a number that is in use another node. -/
def put (g : Graph) (n : Nat) (node : Node) : Graph :=
  g.setIfInBounds n node

/-- The text of a node as a scalar. A mapping stands for the value under its key of that type. The
first argument bounds the number of mappings inside of each other. -/
def text (g : Graph) : Nat → Nat → Except Fault Text
  | 0, _ => .error (.nestedTooDeep "")
  | fuel + 1, n =>
    match (g.node n).shape with
    | .scalar text => .ok text
    | .sequence _ => .error (.yaml .values "a sequence stands for no scalar")
    | .mapping entries =>
      match entries.find? fun e => (g.node e.1).tag = .default with
      | some e => text g fuel e.2
      | none => .error (.yaml .values "a mapping stands for no scalar")

end Graph

end FormulaSheet.Yaml
