import FormulaSheet.Yaml.Graph.Merge
import FormulaSheet.Yaml.Graph.Reader
import FormulaSheet.Yaml.Scalar.Value

/-!
# Values of YAML nodes

Every node has one value, at however many places it stands. The value of a scalar is known as soon
as the node is met. A collection is only noted then, and what is in it is met a round later: so
nodes are met level by level, and of several that have no value the first on the least level makes
the document wrong.

When all nodes were met, the collections are put together, each behind those inside of it. A
collection that stands inside of itself is given there as it is known so far; putting all together
several times unfolds it deeper than anything looks into it.
-/

namespace FormulaSheet.Yaml

/-- What is known of the value of a node that was met. Other nodes are given by their numbers. -/
inductive Made where
  /-- a collection that was only noted -/
  | noted
  /-- a value without parts -/
  | value (v : Value)
  /-- a sequence -/
  | list (items : List Nat)
  /-- a mapping -/
  | map (entries : List (Nat × Nat))
  /-- a set -/
  | set (members : List Nat)
  /-- a sequence of pairs -/
  | pairs (entries : List (Nat × Nat))

/-- The state of meeting nodes. -/
structure Valuing where
  /-- the nodes -/
  graph : Graph
  /-- the number of entries of all mappings of the document -/
  entryCount : Nat
  /-- what is known of the nodes that were met -/
  made : Array (Option Made)
  /-- the collections that were noted in this round, the last one first -/
  noted : List Nat

namespace Valuing

/-- A step of meeting nodes. -/
abbrev Making : Type → Type :=
  StateT Valuing (Except Fault)

/-- Remembers what is known of a node. -/
def know (n : Nat) (m : Made) : Making Unit :=
  modify fun s => { s with made := s.made.setIfInBounds n (some m) }

/-- Whether nodes of the type are collections. -/
def isCollection : Tag → Bool
  | .seq | .map | .set | .omap | .pairs => true
  | _ => false

/-- The value of a node of a type of scalars. A mapping may stand for a scalar, but not for a date.
-/
def scalarValue (g : Graph) (n : Nat) : Except Fault Value := do
  let node := g.node n
  match node.tag, node.shape with
  | .merge, _ | .default, _ | .unknown, _ => Scalar.valueless "the type has no values"
  | .timestamp, .mapping _ => do
    let _ ← g.text (g.size + 1) n
    .error (.wrongType (.text (Value.list []).typeName))
  | tag, _ => do Scalar.value tag (← g.text (g.size + 1) n)

/-- Meets a node. -/
def meet (n : Nat) : Making Unit := do
  let s ← get
  match s.made.getD n none with
  | some _ => pure ()
  | none =>
    if isCollection (s.graph.node n).tag then
      modify fun s => { s with noted := n :: s.noted }
      know n .noted
    else know n (.value (← scalarValue s.graph n))

/-- Meets the key of an entry. A collection cannot be a key. -/
def meetKey (n : Nat) : Making Value := do
  meet n
  match (← get).made.getD n none with
  | some (.value v) => pure v
  | _ => throw (.yaml .values "a collection is a key")

/-! ## Contents of collections -/

/-- Whether two values are one key of a mapping. Here all doubles that are not-a-number are one. -/
def isSameKey (a b : Value) : Bool :=
  match a, b with
  | .float x, .float y => x == y || (x.isNaN && y.isNaN)
  | a, b => a.same b

/-- Puts an entry into a mapping, given with the value of its key: in the place of the entry that
has the key, or else at the end. -/
def putKey (key : Value) (e : Nat × Nat) : List (Value × Nat × Nat) → List (Value × Nat × Nat)
  | [] => [(key, e)]
  | d :: entries =>
    if isSameKey d.1 key then (d.1, d.2.1, e.2) :: entries else d :: putKey key e entries

/-- Meets keys and values, and gives the entries without those whose key comes again. -/
def meetEntries (entries : List (Nat × Nat)) : Making (List (Nat × Nat)) := do
  let met ← entries.foldlM (fun met e => do
    let key ← meetKey e.1
    meet e.2
    pure (putKey key e met)) []
  pure (met.map (·.2))

/-- The entries of a mapping when all merging in it is done. -/
def mergedEntries (n : Nat) : Making (List (Nat × Nat)) := do
  let s ← get
  let (entries, graph) ← s.graph.mergedEntries s.entryCount n
  set { s with graph }
  pure entries

/-- Meets the only entry of a mapping, whose key may be a collection. -/
def meetPair (n : Nat) : Making (Nat × Nat) := do
  match ((← get).graph.node n).shape with
  | .mapping [e] => do
    meet e.1
    meet e.2
    pure e
  | _ => throw (.yaml .values "a pair is no mapping of one entry")

/-- The items of a sequence. -/
def itemsOf (n : Nat) : Making (List Nat) := do
  match ((← get).graph.node n).shape with
  | .sequence items => pure items
  | _ => throw (.yaml .values "the type needs a sequence")

/-- Meets what is in a collection. -/
def meetContents (n : Nat) : Making Unit := do
  match ((← get).graph.node n).tag with
  | .map => do know n (.map (← meetEntries (← mergedEntries n)))
  | .set => do know n (.set ((← meetEntries (← mergedEntries n)).map (·.1)))
  | .omap | .pairs => do know n (.pairs (← (← itemsOf n).mapM meetPair))
  | _ => do
    let items ← itemsOf n
    items.forM meet
    know n (.list items)

/-- Meets what is in the collections that were noted, round by round, until none was. The first
argument bounds the number of rounds. -/
def rounds : Nat → Making Unit
  | 0 => pure ()
  | fuel + 1 => do
    let noted := (← get).noted
    if noted.isEmpty then pure ()
    else
      modify fun s => { s with noted := [] }
      noted.reverse.forM meetContents
      rounds fuel

end Valuing

/-! ## Putting together -/

/-- The value of a node, given values for the nodes in it. -/
def Made.assemble (values : Array Value) : Made → Value
  | .noted => .null
  | .value v => v
  | .list items => .list (items.map fun n => values.getD n .null)
  | .map entries => .map (entries.map fun e => (values.getD e.1 .null, values.getD e.2 .null))
  | .set members => .set (Value.setOrder (members.map fun n => values.getD n .null))
  | .pairs entries =>
    .list (entries.map fun e => .list [values.getD e.1 .null, values.getD e.2 .null])

/-- The values of all nodes with the given collections put together, one after the other. -/
def assembleAll (made : Array (Option Made)) (collections : List Nat) (values : Array Value) :
    Array Value :=
  collections.foldl (fun values n =>
    match made.getD n none with
    | some m => values.setIfInBounds n (m.assemble values)
    | none => values) values

/-- How many times a collection is unfolded inside of itself. -/
def unfoldings : Nat :=
  4

/-- The value of a document. Every round meets a node that was not met before. -/
def Composition.value (c : Composition) : Except Fault Value := do
  let start : Valuing := ⟨c.graph, c.graph.entryCount, Array.replicate c.graph.size none, []⟩
  let meeting : Valuing.Making Unit := do
    Valuing.meet c.root
    Valuing.rounds (c.graph.size + 1)
  let (_, s) ← meeting.run start
  let known := s.made.map fun m => (m.map (Made.assemble #[])).getD .null
  let values := Nat.repeat (assembleAll s.made c.collections) unfoldings known
  .ok (values.getD c.root .null)

end FormulaSheet.Yaml
