import FormulaSheet.Yaml.Graph

/-!
# Merging mappings of a YAML document

In a mapping the entries of other mappings can be merged. The other mapping, or a sequence of them,
stands under a key of a type of its own. Its entries come in front of the others, so that a
mapping's own values count where a key is given twice; of several mappings the last one comes first.

A mapping that is merged must have all its own merging done before. As nodes can stand at several
places, and inside of themselves, merging changes the graph: the keys that ask for it are taken out
as they are met, so that each is met once.
-/

namespace FormulaSheet.Yaml.Graph

/-- A step of merging. -/
abbrev Merging : Type → Type :=
  StateT Graph (Except Fault)

/-- The entries of a mapping. Nothing else can be merged. -/
def entriesOf (n : Nat) : Merging (List (Nat × Nat)) := do
  match ((← get).node n).shape with
  | .mapping entries => pure entries
  | _ => throw (.yaml .values "only mappings can be merged")

/-- Gives a mapping other entries. -/
def setEntries (n : Nat) (entries : List (Nat × Nat)) : Merging Unit :=
  modify fun g => g.put n ⟨(g.node n).tag, .mapping entries⟩

/-- A key as it is used: the key of the value that stands for a mapping is a text. -/
def usedKey (node : Node) : Node :=
  if node.tag = .default then { node with tag := .str } else node

/-- Makes a node a key as it is used. -/
def useKey (n : Nat) : Merging Unit :=
  modify fun g => if (g.node n).tag = .default then g.put n (usedKey (g.node n)) else g

mutual

/-- Does all merging in a mapping. The first argument bounds the number of steps. -/
def merge : Nat → Nat → Merging Unit
  | 0, _ => throw (.nestedTooDeep "")
  | fuel + 1, n => do
    let merged ← takeMerged fuel n
    let own ← entriesOf n
    own.forM fun e => useKey e.1
    if !merged.isEmpty then setEntries n (merged ++ own)

/-- Takes the keys that ask for merging out of a mapping. Gives the entries to be merged. -/
def takeMerged : Nat → Nat → Merging (List (Nat × Nat))
  | 0, _ => throw (.nestedTooDeep "")
  | fuel + 1, n => do
    let entries ← entriesOf n
    let g ← get
    let front := entries.takeWhile fun e => !(g.node e.1).isMergeKey
    match entries.drop front.length with
    | [] => pure []
    | e :: behind => do
      setEntries n (front ++ behind)
      let found ← entriesUnder fuel e.2
      pure (found ++ (← takeMerged fuel n))

/-- The entries that a value gives to be merged: those of a mapping, or of several, the last of them
first. -/
def entriesUnder : Nat → Nat → Merging (List (Nat × Nat))
  | 0, _ => throw (.nestedTooDeep "")
  | fuel + 1, n => do
    match ((← get).node n).shape with
    | .sequence items => do
      let found ← items.mapM fun item => do
        merge fuel item
        entriesOf item
      pure found.reverse.flatten
    | _ => do
      merge fuel n
      entriesOf n

end

/-- The number of entries of all mappings. -/
def entryCount (g : Graph) : Nat :=
  g.foldl (fun count node => match node.shape with
    | .mapping entries => count + entries.length
    | _ => count) 0

/-- The entries of a mapping when all merging in it is done, with the graph that is left. Every key
that asks for merging is taken out once, in three steps, so that the bound is never met. -/
def mergedEntries (g : Graph) (bound n : Nat) : Except Fault (List (Nat × Nat) × Graph) :=
  (do merge (3 * bound + 3) n
      entriesOf n : Merging (List (Nat × Nat))).run g

end FormulaSheet.Yaml.Graph
