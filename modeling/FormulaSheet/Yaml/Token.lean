import FormulaSheet.Yaml.Scalar

/-!
# Tokens of a YAML document

A document is read as tokens: marks, scalars, and the starts and ends of collections. The blocks of
a document are given by indentation alone, so their starts and ends have no characters of their own.
They arise from the columns: a block starts where a mark stands further to the right than the block
around it, and ends where a line starts further to the left.

A key needs no mark either. Only the colon behind it tells that something was a key, so a reader
remembers where one could have started, at each depth of brackets, until the line ends; when the
colon comes the mark of the key is put there. Where a key must be and no colon comes the document is
wrong.

Reading never fails as a whole. What is wrong with the characters of a document becomes its last
token, which no document may contain.
-/

namespace FormulaSheet.Yaml

/-- The name of a type as a document gives it: a handle that stands for the first part of it, and
the rest. -/
structure TagName where
  /-- the handle, if there is one -/
  handle : Option Text
  /-- the rest -/
  suffix : Text
  deriving DecidableEq

/-- A line with instructions on how to read a document. -/
inductive Directive where
  /-- the version of the format -/
  | version (major : Nat)
  /-- a handle and what it stands for -/
  | handle (name : Text) (meaning : Text)
  /-- anything else -/
  | other
  deriving DecidableEq

/-- A token of a document. -/
inductive Token where
  /-- instructions on how to read the document -/
  | directive (d : Directive)
  /-- the mark at the start of a document -/
  | documentStart
  /-- the mark at the end of a document -/
  | documentEnd
  /-- the start of a sequence of lines -/
  | blockSequenceStart
  /-- the start of a mapping of lines -/
  | blockMappingStart
  /-- the end of a sequence or mapping of lines -/
  | blockEnd
  /-- the mark in front of an item of a sequence of lines -/
  | blockEntry
  /-- the bracket in front of a sequence -/
  | sequenceStart
  /-- the bracket behind a sequence -/
  | sequenceEnd
  /-- the brace in front of a mapping -/
  | mappingStart
  /-- the brace behind a mapping -/
  | mappingEnd
  /-- the comma between items in brackets or braces -/
  | flowEntry
  /-- the place in front of a key -/
  | key
  /-- the mark in front of a value -/
  | value
  /-- the name of a node that stands elsewhere -/
  | alias (name : Text)
  /-- the name for the node that follows -/
  | anchor (name : Text)
  /-- the type of the node that follows -/
  | tag (name : TagName)
  /-- a scalar, plain or not -/
  | scalar (text : Text) (plain : Bool)
  /-- the place where the characters are wrong -/
  | broken (f : Fault)

/-- A place where a key could have started. -/
structure PossibleKey where
  /-- the number of tokens in front -/
  position : Nat
  /-- whether a key must be here -/
  required : Bool
  /-- how many characters are in front -/
  index : Nat
  /-- the line -/
  line : Nat
  /-- the column -/
  column : Nat

/-- A reader of tokens. -/
structure TokenReader where
  /-- the place in the document -/
  cursor : Cursor
  /-- the tokens so far, the last one first -/
  tokens : List Token
  /-- how many brackets and braces are open -/
  depth : Nat
  /-- the column of the innermost block -/
  indent : Int
  /-- the columns of the blocks around it -/
  outer : List Int
  /-- whether a key may start here -/
  keyAllowed : Bool
  /-- where a key could have started, by the number of open brackets -/
  keys : List (Nat × PossibleKey)
  /-- whether the document is read -/
  done : Bool

namespace TokenReader

/-- The reader at the start of a document. A byte order mark there is left out. -/
def start (text : List Point) : TokenReader where
  cursor :=
    let c := Cursor.start text
    if c.peek.any (·.toNat = 0xFEFF) then c.next else c
  tokens := []
  depth := 0
  indent := -1
  outer := []
  keyAllowed := true
  keys := []
  done := false

/-- Adds a token. -/
def push (s : TokenReader) (t : Token) : TokenReader :=
  { s with tokens := t :: s.tokens }

/-- Adds a token and goes behind some characters. -/
def take (s : TokenReader) (t : Token) (count : Nat) : TokenReader :=
  { s with tokens := t :: s.tokens, cursor := s.cursor.skip count }

/-! ## Keys -/

/-- Forgets where a key could have started at the present depth. -/
def forgetKey (s : TokenReader) : Except Fault TokenReader :=
  match s.keys.lookup s.depth with
  | some k =>
    if k.required then unreadable "a key has no colon"
    else .ok { s with keys := s.keys.filter (·.1 ≠ s.depth) }
  | none => .ok s

/-- Remembers that a key could start here. -/
def rememberKey (s : TokenReader) : Except Fault TokenReader :=
  if s.keyAllowed then do
    let s ← s.forgetKey
    let c := s.cursor
    .ok { s with keys :=
      (s.depth, ⟨s.tokens.length, s.depth = 0 && s.indent = c.column, c.index, c.line, c.column⟩) ::
        s.keys }
  else .ok s

/-- Whether it is too late for the colon of a key: the line has ended, or too much was read. -/
def isStale (s : TokenReader) (k : PossibleKey) : Bool :=
  k.line ≠ s.cursor.line || 1024 < s.cursor.index - k.index

/-- Forgets the keys for which it is too late. -/
def forgetStale (s : TokenReader) : Except Fault TokenReader :=
  if s.keys.any fun k => s.isStale k.2 && k.2.required then unreadable "a key has no colon"
  else .ok { s with keys := s.keys.filter fun k => !s.isStale k.2 }

/-! ## Blocks -/

/-- Ends the blocks that are further to the right than a column. -/
def endBlocks (column : Int) : List Int → TokenReader → TokenReader
  | [], s => s
  | i :: outer, s =>
    if column < s.indent then endBlocks column outer { s.push .blockEnd with indent := i, outer }
    else s

/-- Ends the blocks that are further to the right than a column, unless brackets are open. -/
def unwind (s : TokenReader) (column : Int) : TokenReader :=
  if s.depth = 0 then endBlocks column s.outer s else s

/-- Starts a block at a column, if it is further to the right than the present one. The start is put
in front of the given number of tokens. -/
def startBlock (s : TokenReader) (column : Int) (t : Token) (behind : Nat) : TokenReader :=
  if s.indent < column then
    { s with
      indent := column
      outer := s.indent :: s.outer
      tokens := s.tokens.take behind ++ t :: s.tokens.drop behind }
  else s

/-! ## Single tokens -/

/-- Goes to the next token. Behind the end of a line outside of brackets a key may start. -/
def skipGap : Nat → TokenReader → TokenReader
  | 0, s => s
  | n + 1, s =>
    let c := s.cursor.skipWhile (· == ' ')
    let c := if c.peek == some (.char '#') then c.skipWhile (!isBreak ·) else c
    if c.peek.any isBreak then
      skipGap n { s with cursor := c.lineBreak.2, keyAllowed := s.keyAllowed || s.depth = 0 }
    else { s with cursor := c }

/-- The end of the text. -/
def atEnd (s : TokenReader) : Except Fault TokenReader := do
  let s ← (s.unwind (-1)).forgetKey
  .ok { s with keyAllowed := false, keys := [], done := true }

/-- The name of a directive, which ends at a space or with the line. -/
def directiveName (c : Cursor) : Except Fault (List Point × Cursor) :=
  let name := c.takeWhile isNameChar
  let c := c.skip name.length
  if name.isEmpty || !(endsLine c.peek || c.peek == some (.char ' ')) then
    unreadable "a directive needs a name"
  else .ok (name, c)

/-- A number in a directive, and the place behind it. -/
def directiveNumber (c : Cursor) : Except Fault (Nat × Cursor) :=
  let ds := c.takeWhile Number.isAsciiDigit
  if ds.isEmpty then unreadable "a version needs a number"
  else if Number.maxDigits < ds.length then .error (.tooManyDigits ds.length)
  else .ok (Text.ofDecimal ds, c.skip ds.length)

/-- The characters of the rest of a tag or of what a handle stands for. -/
def isTagChar (c : Point) : Bool :=
  isNameChar c || (";/?:@&=+$,_.!~*'()[]%" : Text).toList.contains c

/-- The octets that escapes by two hexadecimal digits stand for, and what follows them. -/
def escapedOctets : List Point → Except Fault (List UInt8 × List Point)
  | .char '%' :: a :: b :: s =>
    match Number.ofDigits? 16 [a, b] with
    | some n => do
      let (octets, rest) ← escapedOctets s
      .ok (UInt8.ofNat n :: octets, rest)
    | none => unreadable "an escape needs hexadecimal digits"
  | .char '%' :: _ => unreadable "an escape needs hexadecimal digits"
  | s => .ok ([], s)

/-- The rest of a tag with its escapes resolved. -/
def unescape : Nat → List Point → Except Fault (List Point)
  | 0, s => .ok s
  | n + 1, s => do
    let plain := s.takeWhile (· ≠ Point.char '%')
    let rest := s.drop plain.length
    if rest.isEmpty then .ok plain
    else
      let (octets, rest) ← escapedOctets rest
      match String.fromUTF8? ⟨octets.toArray⟩ with
      | some piece => .ok (plain ++ (piece : Text).toList ++ (← unescape n rest))
      | none => unreadable "an escape is no character"

/-- The rest of a tag, and the place behind it. -/
def tagText (c : Cursor) : Except Fault (Text × Cursor) := do
  let s := c.takeWhile isTagChar
  if s.isEmpty then unreadable "a tag needs a name"
  else .ok (Text.ofList (← unescape s.length s), c.skip s.length)

/-- A handle, and the place behind it. A handle is a mark, or a name between two marks. -/
def tagHandle (c : Cursor) : Except Fault (Text × Cursor) :=
  if c.peek == some (.char '!') then
    if c.next.peek == some (.char ' ') then .ok ("!", c.next)
    else
      let name := c.next.takeWhile isNameChar
      let c := c.next.skip name.length
      if c.peek == some (.char '!') then
        .ok (Text.ofList (.char '!' :: name ++ [Point.char '!']), c.next)
      else unreadable "a handle is not closed"
  else unreadable "a handle needs a mark"

/-- The rest of a directive for the version, and the place behind it. -/
def versionDirective (c : Cursor) : Except Fault (Directive × Cursor) := do
  let (major, c) ← directiveNumber (c.skipWhile (· == ' '))
  if c.peek ≠ some (.char '.') then unreadable "a version needs a point"
  else
    let (_, c) ← directiveNumber c.next
    if endsLine c.peek || c.peek == some (.char ' ') then .ok (.version major, c)
    else unreadable "a version goes on behind its end"

/-- The rest of a directive for a handle, and the place behind it. -/
def handleDirective (c : Cursor) : Except Fault (Directive × Cursor) := do
  let (name, c) ← tagHandle (c.skipWhile (· == ' '))
  if c.peek ≠ some (.char ' ') then unreadable "a handle needs a meaning"
  else
    let (meaning, c) ← tagText (c.skipWhile (· == ' '))
    if endsLine c.peek || c.peek == some (.char ' ') then .ok (.handle name meaning, c)
    else unreadable "the meaning of a handle goes on behind its end"

/-- A directive. -/
def directive (s : TokenReader) : Except Fault TokenReader := do
  let s ← (s.unwind (-1)).forgetKey
  let (name, c) ← directiveName s.cursor.next
  let (d, c) ←
    if name = ("YAML" : Text).toList then versionDirective c
    else if name = ("TAG" : Text).toList then handleDirective c
    else .ok (.other, c.skipWhile (!isBreak ·))
  let c ← Scalar.emptyLine c
  .ok { s with cursor := c, tokens := .directive d :: s.tokens, keyAllowed := false }

/-- The mark of a document. -/
def documentMark (s : TokenReader) (t : Token) : Except Fault TokenReader := do
  let s ← (s.unwind (-1)).forgetKey
  .ok { s.take t 3 with keyAllowed := false }

/-- A bracket or brace in front of a collection. -/
def openFlow (s : TokenReader) (t : Token) : Except Fault TokenReader := do
  let s ← s.rememberKey
  .ok { s.take t 1 with depth := s.depth + 1, keyAllowed := true }

/-- A bracket or brace behind a collection. -/
def closeFlow (s : TokenReader) (t : Token) : Except Fault TokenReader := do
  let s ← s.forgetKey
  .ok { s.take t 1 with depth := s.depth - 1, keyAllowed := false }

/-- A comma between items. -/
def flowEntry (s : TokenReader) : Except Fault TokenReader := do
  let s ← s.forgetKey
  .ok { s.take .flowEntry 1 with keyAllowed := true }

/-- The mark of an item of a sequence of lines. -/
def blockEntry (s : TokenReader) : Except Fault TokenReader := do
  if s.depth = 0 && !s.keyAllowed then unreadable "an item cannot stand here"
  else
    let s := if s.depth = 0 then s.startBlock s.cursor.column .blockSequenceStart 0 else s
    let s ← s.forgetKey
    .ok { s.take .blockEntry 1 with keyAllowed := true }

/-- The mark of a key. -/
def markedKey (s : TokenReader) : Except Fault TokenReader := do
  if s.depth = 0 && !s.keyAllowed then unreadable "a key cannot stand here"
  else
    let s := if s.depth = 0 then s.startBlock s.cursor.column .blockMappingStart 0 else s
    let s ← s.forgetKey
    .ok { s.take .key 1 with keyAllowed := s.depth = 0 }

/-- The mark of a value. If a key could have started in front of it, that was a key. -/
def markedValue (s : TokenReader) : Except Fault TokenReader :=
  match s.keys.lookup s.depth with
  | some k =>
    let behind := s.tokens.length - k.position
    let s := { s with
      keys := s.keys.filter (·.1 ≠ s.depth)
      tokens := s.tokens.take behind ++ Token.key :: s.tokens.drop behind }
    let s :=
      if s.depth = 0 then s.startBlock k.column .blockMappingStart (behind + 1) else s
    .ok { s.take .value 1 with keyAllowed := false }
  | none => do
    if s.depth = 0 && !s.keyAllowed then unreadable "a value cannot stand here"
    else
      let s := if s.depth = 0 then s.startBlock s.cursor.column .blockMappingStart 0 else s
      let s ← s.forgetKey
      .ok { s.take .value 1 with keyAllowed := s.depth = 0 }

/-- Adds what was read as a node without a structure of its own, which could be a key. -/
def leaf (s : TokenReader) (read : Cursor → Except Fault (Token × Cursor)) :
    Except Fault TokenReader := do
  let s ← s.rememberKey
  let (t, c) ← read s.cursor
  .ok { s with cursor := c, tokens := t :: s.tokens, keyAllowed := false }

/-- The name behind the mark of an alias or an anchor, and the place behind it. -/
def nodeName (c : Cursor) : Except Fault (Text × Cursor) :=
  let name := c.next.takeWhile isNameChar
  let c := c.next.skip name.length
  if name.isEmpty then unreadable "a name is missing"
  else if endsWord c.peek || c.peek.any (("?:,]\x7d%@\x60" : Text).toList.contains ·) then
    .ok (Text.ofList name, c)
  else unreadable "a name goes on behind its end"

/-- A tag, and the place behind it. -/
def tagName (c : Cursor) : Except Fault (TagName × Cursor) := do
  let (name, c) ←
    if c.peekAt 1 == some (.char '<') then do
      let (text, c) ← tagText (c.skip 2)
      if c.peek == some (.char '>') then .ok (TagName.mk none text, c.next)
      else unreadable "a tag is not closed"
    else if endsWord (c.peekAt 1) then .ok (TagName.mk none "!", c.next)
    else
      let word := c.next.takeWhile fun ch => !(ch == ' ' || isBreak ch)
      if word.contains '!' then do
        let (handle, c) ← tagHandle c
        let (text, c) ← tagText c
        .ok (TagName.mk (some handle) text, c)
      else do
        let (text, c) ← tagText c.next
        .ok (TagName.mk (some "!") text, c)
  if endsLine c.peek || c.peek == some (.char ' ') then .ok (name, c)
  else unreadable "a tag goes on behind its end"

/-- A plain scalar. Where it ends in a new line a key may start behind it. -/
def plainScalar (s : TokenReader) : Except Fault TokenReader := do
  let s ← s.rememberKey
  let (text, c, ended) := Scalar.plain (s.depth ≠ 0) (s.indent + 1) s.cursor
  .ok { s with
    cursor := c
    tokens := .scalar (Text.ofList text) true :: s.tokens
    keyAllowed := ended }

/-- A block scalar. -/
def blockScalar (s : TokenReader) (folded : Bool) : Except Fault TokenReader := do
  let s ← s.forgetKey
  let (text, c) ← Scalar.block folded s.indent s.cursor
  .ok { s with
    cursor := c
    tokens := .scalar (Text.ofList text) false :: s.tokens
    keyAllowed := true }

/-- Whether a plain scalar may start with the character. -/
def startsPlain (s : TokenReader) (c : Point) : Bool :=
  let marks := ("-?:,[]\x7b\x7d#&*!|>'\"%@\x60" : Text).toList
  (!isSpace c && !marks.contains c) ||
    (!endsWord (s.cursor.peekAt 1) && (c == '-' || (s.depth = 0 && (c == '?' || c == ':'))))

/-- Reads the token that is next. -/
def token (s : TokenReader) (c : Point) : Except Fault TokenReader :=
  let lineStart := s.cursor.column = 0
  let alone := s.depth ≠ 0 || endsWord (s.cursor.peekAt 1)
  if c == '%' && lineStart then s.directive
  else if lineStart && s.cursor.atMark '-' then s.documentMark .documentStart
  else if lineStart && s.cursor.atMark '.' then s.documentMark .documentEnd
  else if c == '[' then s.openFlow .sequenceStart
  else if c == '\x7b' then s.openFlow .mappingStart
  else if c == ']' then s.closeFlow .sequenceEnd
  else if c == '\x7d' then s.closeFlow .mappingEnd
  else if c == ',' then s.flowEntry
  else if c == '-' && endsWord (s.cursor.peekAt 1) then s.blockEntry
  else if c == '?' && alone then s.markedKey
  else if c == ':' && alone then s.markedValue
  else if c == '*' then s.leaf fun c => do
    let (name, c) ← nodeName c
    .ok (.alias name, c)
  else if c == '&' then s.leaf fun c => do
    let (name, c) ← nodeName c
    .ok (.anchor name, c)
  else if c == '!' then s.leaf fun c => do
    let (name, c) ← tagName c
    .ok (.tag name, c)
  else if c == '|' && s.depth = 0 then s.blockScalar false
  else if c == '>' && s.depth = 0 then s.blockScalar true
  else if c == '\'' || c == '"' then s.leaf fun cur => do
    let (text, cur) ← Scalar.quoted (c == '"') cur
    .ok (.scalar (Text.ofList text) false, cur)
  else if s.startsPlain c then s.plainScalar
  else unreadable "no token can start here"

/-- Reads one token, with the ends of blocks in front of it. -/
def step (s : TokenReader) : Except Fault TokenReader := do
  let s ← (s.skipGap (s.cursor.rest.length + 1)).forgetStale
  let s := s.unwind s.cursor.column
  match s.cursor.peek with
  | none => s.atEnd
  | some c => s.token c

/-- Reads tokens until the text ends or something is wrong with it. Every round but the last reads a
character. -/
def run : Nat → TokenReader → List Token
  | 0, s => s.tokens.reverse
  | n + 1, s =>
    match s.step with
    | .error f => (.broken f :: s.tokens).reverse
    | .ok s => if s.done then s.tokens.reverse else run n s

end TokenReader

/-- The tokens of a text. -/
def Token.scan (text : List Point) : List Token :=
  TokenReader.run (text.length + 1) (TokenReader.start text)

end FormulaSheet.Yaml
