import FormulaSheet.Register
import FormulaSheet.Yaml.Graph
import FormulaSheet.Yaml.Token

/-!
# Reading the nodes of a YAML document

The tokens of a document form nodes. A node may have a name, by which it can stand at other places
as well, even inside of itself: a collection has its number and its name before the nodes in it are
read. A place where a node is expected and none is given holds an empty scalar.
-/

namespace FormulaSheet.Yaml

/-- The nodes of a document. -/
structure Composition where
  /-- the nodes by their numbers -/
  graph : Graph
  /-- the number of the outermost node -/
  root : Nat
  /-- the numbers of the collections, each behind those inside of it -/
  collections : List Nat

/-- The state of reading nodes. -/
structure NodeReader where
  /-- the tokens that are left -/
  tokens : List Token
  /-- the nodes that were read -/
  graph : Graph
  /-- the numbers of the collections that were read to their ends, the last one first -/
  closed : List Nat
  /-- the number of collections that are being read -/
  depth : Nat
  /-- the most of them that there may be -/
  limit : Nat
  /-- the numbers of the nodes that have names -/
  named : Register Nat
  /-- what handles stand for -/
  handles : Register Text

namespace NodeReader

/-- A step of reading nodes. -/
abbrev Reading : Type → Type :=
  StateT NodeReader (Except Fault)

/-- A document whose tokens are out of order. -/
def misplaced {α : Type} (detail : Text) : Reading α :=
  throw (.yaml .order detail)

/-- The next token, if there is one. What is wrong with the characters shows here. -/
def peek : Reading (Option Token) := do
  match (← get).tokens with
  | [] => pure none
  | .broken f :: _ => throw f
  | t :: _ => pure (some t)

/-- Goes behind the next token. -/
def advance : Reading Unit :=
  modify fun r => { r with tokens := r.tokens.drop 1 }

/-- A node with a new number. -/
def newNode (node : Node) : Reading Nat :=
  modifyGet fun r => (r.graph.size, { r with graph := r.graph.push node })

/-- An empty scalar without a type. -/
def emptyScalar : Reading Nat :=
  newNode Node.empty

/-- The full name of a type. A handle must stand for something. -/
def fullName (name : TagName) : Reading Text := do
  match name.handle with
  | none => pure name.suffix
  | some handle =>
    match (← get).handles.find? handle with
    | some meaning => pure (meaning ++ name.suffix)
    | none => misplaced "a handle stands for nothing"

/-- The name and the type in front of a node, in either order. -/
def properties : Reading (Option Text × Option Text) := do
  match ← peek with
  | some (.anchor a) => do
    advance
    match ← peek with
    | some (.tag t) => do
      advance
      pure (some a, some (← fullName t))
    | _ => pure (some a, none)
  | some (.tag t) => do
    advance
    let t ← fullName t
    match ← peek with
    | some (.anchor a) => do
      advance
      pure (some a, some t)
    | _ => pure (none, some t)
  | _ => pure (none, none)

/-- The type of a scalar: the one that is named, or that of a plain scalar. A single mark in place
of a name makes any scalar a plain one. -/
def scalarTag (tag : Option Text) (text : Text) (isPlain : Bool) : Tag :=
  match tag with
  | none => if isPlain then Tag.ofPlain text else .str
  | some t => if t == "!" then Tag.ofPlain text else Tag.ofName t

/-- The type of a collection: the one that is named, or the usual one. -/
def collectionTag (tag : Option Text) (usual : Tag) : Tag :=
  match tag with
  | none => usual
  | some t => if t == "!" then usual else Tag.ofName t

/-- Gives a node its name. -/
def nameNode (anchor : Option Text) (n : Nat) : Reading Unit :=
  match anchor with
  | none => pure ()
  | some a => modify fun r => { r with named := r.named.put a n }

/-- A collection, given what reads the nodes in it. It has its number and its name before they are
read. -/
def collection (anchor : Option Text) (tag : Tag) (read : Reading Shape) : Reading Nat := do
  if (← get).limit ≤ (← get).depth then throw (.nestedTooDeep "")
  let n ← newNode ⟨tag, .sequence []⟩
  nameNode anchor n
  modify fun r => { r with depth := r.depth + 1 }
  let shape ← read
  modify fun r => { r with
    graph := r.graph.put n ⟨tag, shape⟩, closed := n :: r.closed, depth := r.depth - 1 }
  pure n

/-- Whether a block ends here, or its next part starts. -/
def endsBlockPart : Option Token → Bool
  | some .key | some .value | some .blockEnd => true
  | _ => false

/-- Whether an item of a sequence of lines ends here. -/
def endsBlockItem : Option Token → Bool
  | some .blockEntry | some .blockEnd => true
  | _ => false

/-- Whether a part of a sequence in brackets ends here. -/
def endsItem : Option Token → Bool
  | some .flowEntry | some .sequenceEnd => true
  | _ => false

/-- Whether a part of a mapping in braces ends here. -/
def endsEntry : Option Token → Bool
  | some .flowEntry | some .mappingEnd => true
  | _ => false

/-- Whether the value of an entry comes here. -/
def isValue : Option Token → Bool
  | some .value => true
  | _ => false

mutual

/-- The node that is next. Where it is allowed the node may be made of lines, and its sequence of
lines need not be indented. The first argument bounds the number of steps. -/
def node : Nat → Bool → Bool → Reading Nat
  | 0, _, _ => misplaced "the document is nested too deep"
  | n + 1, lines, bare => do
    match ← peek with
    | some (.alias name) => do
      advance
      match (← get).named.find? name with
      | some number => pure number
      | none => throw (.yaml .names "an alias names no node")
    | _ => do
      let (anchor, tag) ← properties
      let known := (← get).named
      if anchor.any fun a => (known.find? a).isSome then
        throw (.yaml .names "a name is given twice")
      content n lines bare anchor tag

/-- The content of a node behind its name and its type. -/
def content : Nat → Bool → Bool → Option Text → Option Text → Reading Nat
  | 0, _, _, _, _ => misplaced "the document is nested too deep"
  | n + 1, lines, bare, anchor, tag => do
    let sequence read := collection anchor (collectionTag tag .seq) (Shape.sequence <$> read)
    let mapping read := collection anchor (collectionTag tag .map) (Shape.mapping <$> read)
    let scalar text isPlain := do
      let number ← newNode ⟨scalarTag tag text isPlain, .scalar text⟩
      nameNode anchor number
      pure number
    match ← peek with
    | some (.scalar text isPlain) => do
      advance
      scalar text isPlain
    | some .sequenceStart => do
      advance
      sequence (items n true)
    | some .mappingStart => do
      advance
      mapping (entries n true)
    | t =>
      match t, lines, bare with
      | some .blockEntry, _, true => sequence (bareItems n)
      | some .blockSequenceStart, true, _ => do
        advance
        sequence (blockItems n)
      | some .blockMappingStart, true, _ => do
        advance
        mapping (blockEntries n)
      | _, _, _ =>
        if anchor.isSome || tag.isSome then scalar "" true
        else misplaced "a node is missing"

/-- The items of a sequence of lines. -/
def blockItems : Nat → Reading (List Nat)
  | 0 => misplaced "the document is nested too deep"
  | n + 1 => do
    match ← peek with
    | some .blockEntry => do
      advance
      let item ← if endsBlockItem (← peek) then emptyScalar else node n true false
      pure (item :: (← blockItems n))
    | some .blockEnd => do
      advance
      pure []
    | _ => misplaced "a sequence does not end"

/-- The items of a sequence of lines that is not indented. It ends where no item follows. -/
def bareItems : Nat → Reading (List Nat)
  | 0 => misplaced "the document is nested too deep"
  | n + 1 => do
    match ← peek with
    | some .blockEntry => do
      advance
      let t ← peek
      let item ← if endsBlockItem t || endsBlockPart t then emptyScalar else node n true false
      pure (item :: (← bareItems n))
    | _ => pure []

/-- The entries of a mapping of lines. -/
def blockEntries : Nat → Reading (List (Nat × Nat))
  | 0 => misplaced "the document is nested too deep"
  | n + 1 => do
    match ← peek with
    | some .key => do
      advance
      let key ← if endsBlockPart (← peek) then emptyScalar else node n true true
      let value ←
        if isValue (← peek) then do
          advance
          if endsBlockPart (← peek) then emptyScalar else node n true true
        else emptyScalar
      pure ((key, value) :: (← blockEntries n))
    | some .blockEnd => do
      advance
      pure []
    | _ => misplaced "a mapping does not end"

/-- The items of a sequence in brackets. A key among them is a mapping of one entry. -/
def items : Nat → Bool → Reading (List Nat)
  | 0, _ => misplaced "the document is nested too deep"
  | n + 1, first => do
    match ← peek with
    | some .sequenceEnd => do
      advance
      pure []
    | t => do
      if !first then
        match t with
        | some .flowEntry => advance
        | _ => misplaced "a sequence needs a comma or its end"
      match ← peek with
      | some .sequenceEnd => do
        advance
        pure []
      | some .key => do
        advance
        let pair ← collection none .map do
          let t ← peek
          let key ← if isValue t || endsItem t then emptyScalar else node n false false
          let value ←
            if isValue (← peek) then do
              advance
              if endsItem (← peek) then emptyScalar else node n false false
            else emptyScalar
          pure (.mapping [(key, value)])
        pure (pair :: (← items n false))
      | _ => do
        let item ← node n false false
        pure (item :: (← items n false))

/-- The entries of a mapping in braces. A node that is no key has an empty value. -/
def entries : Nat → Bool → Reading (List (Nat × Nat))
  | 0, _ => misplaced "the document is nested too deep"
  | n + 1, first => do
    match ← peek with
    | some .mappingEnd => do
      advance
      pure []
    | t => do
      if !first then
        match t with
        | some .flowEntry => advance
        | _ => misplaced "a mapping needs a comma or its end"
      match ← peek with
      | some .mappingEnd => do
        advance
        pure []
      | some .key => do
        advance
        let t ← peek
        let key ← if isValue t || endsEntry t then emptyScalar else node n false false
        let value ←
          if isValue (← peek) then do
            advance
            if endsEntry (← peek) then emptyScalar else node n false false
          else emptyScalar
        pure ((key, value) :: (← entries n false))
      | _ => do
        let key ← node n false false
        let value ← emptyScalar
        pure ((key, value) :: (← entries n false))

end

/-! ## Documents -/

/-- Reads the instructions in front of a document. -/
def directives : Nat → Bool → Register Text → Reading (Register Text)
  | 0, _, handles => pure handles
  | n + 1, versioned, handles => do
    match ← peek with
    | some (.directive d) => do
      advance
      match d with
      | .version major =>
        if versioned || major ≠ 1 then misplaced "the version is given twice, or unknown"
        else directives n true handles
      | .handle name meaning =>
        if (handles.find? name).isSome then misplaced "a handle is given twice"
        else directives n versioned (handles.put name meaning)
      | .other => directives n versioned handles
    | _ => pure handles

/-- The handles that stand for something in every document, unless they are given. -/
def usualHandles : Register Text :=
  [("!", "!"), ("!!", Tag.common)]

/-- The node of a document behind its mark. -/
def markedDocument (n : Nat) : Reading Nat := do
  match ← peek with
  | none | some (.directive _) | some .documentStart | some .documentEnd => emptyScalar
  | _ => node n true false

/-- Goes behind the marks at the end of a document. -/
def skipEnds : Nat → Reading Unit
  | 0 => pure ()
  | n + 1 => do
    match ← peek with
    | some .documentEnd => do
      advance
      skipEnds n
    | _ => pure ()

/-- The node of the only document, if there is one. -/
def document : Reading (Option Nat) := do
  let count := (← get).tokens.length
  let bound := 3 * count + 3
  match ← peek with
  | none => pure none
  | t => do
    let marked := match t with
      | some (.directive _) | some .documentStart => true
      | _ => false
    let root ←
      if marked then do
        let given ← directives count false []
        match ← peek with
        | some .documentStart => do
          advance
          modify fun r => { r with
            handles := given ++ usualHandles.filter fun h => (given.find? h.1).isNone }
          markedDocument bound
        | _ => misplaced "a document needs its mark"
      else node bound true false
    skipEnds count
    match ← peek with
    | none => pure (some root)
    | _ => throw (.yaml .names "there is more than one document")

end NodeReader

/-- The nodes of the only document that tokens form, if there is one. -/
def Composition.ofTokens (limit : Nat) (tokens : List Token) :
    Except Fault (Option Composition) := do
  let (root, r) ← NodeReader.document.run ⟨tokens, #[], [], 0, limit, [], NodeReader.usualHandles⟩
  .ok (root.map fun n => ⟨r.graph, n, r.closed.reverse⟩)

end FormulaSheet.Yaml
