import FormulaSheet.Yaml.Cursor

/-!
# Scalars of a YAML document

A scalar is a piece of text. It is plain, in single or double quotes, or a block of whole lines. A
scalar may go on for several lines; how they are joined depends on its form. In most of them a
single end of a line is read as a space, and of several the first is dropped.

Each reader gives the text of the scalar and the place behind it. The loops are bounded by the
number of characters that are left, of which every round reads one.
-/

namespace FormulaSheet.Yaml.Scalar

open Cursor

/-- The text between two pieces of a scalar that the given ends of lines separate. -/
def fold (first more : List Point) : List Point :=
  if first ≠ [Point.char '\n'] then first ++ more
  else if more.isEmpty then [Point.char ' ']
  else more

/-! ## Plain scalars -/

/-- Whether a character ends a plain scalar inside of brackets. -/
def isFlowMark (c : Point) : Bool :=
  c == ',' || c == '?' || c == '[' || c == ']' || c == '\x7b' || c == '\x7d'

/-- Whether a colon in front of the character is one that separates a key from its value. -/
def endsKey (flow : Bool) (o : Option Point) : Bool :=
  endsWord o || (flow && o.any fun c : Point =>
    c == ',' || c == '[' || c == ']' || c == '\x7b' || c == '\x7d')

/-- The word of a plain scalar that is next. -/
def plainWord (flow : Bool) : List Point → List Point
  | [] => []
  | c :: s =>
    if isSpace c || (c == ':' && endsKey flow s.head?) || (flow && isFlowMark c) then []
    else c :: plainWord flow s

/-- The ends of lines that are next, with the spaces between them left out; nothing if they lead to
the mark of a document. -/
def plainBreaks : Nat → List Point → Cursor → Option (List Point) × Cursor
  | 0, breaks, c => (some breaks, c)
  | n + 1, breaks, c =>
    match c.peek with
    | some ch =>
      if ch == ' ' then plainBreaks n breaks c.next
      else if isBreak ch then
        let (b, c) := c.lineBreak
        if c.atDocumentMark then (none, c) else plainBreaks n (breaks ++ b) c
      else (some breaks, c)
    | none => (some breaks, c)

/-- The text between two words of a plain scalar, the place behind it, and whether a line ended. The
text is empty if no word can follow. -/
def plainGap (c : Cursor) : List Point × Cursor × Bool :=
  let spaces := c.takeWhile (· == ' ')
  let c := c.skip spaces.length
  if c.peek.any isBreak then
    let (first, c) := c.lineBreak
    if c.atDocumentMark then ([], c, true)
    else
      match plainBreaks c.rest.length [] c with
      | (none, c) => ([], c, true)
      | (some more, c) => (fold first more, c, true)
  else (spaces, c, false)

/-- The words of a plain scalar. The arguments are the text so far, the gap behind it, and whether a
line ended in the gap. -/
def plainFrom (flow : Bool) (indent : Int) :
    Nat → List Point → List Point → Bool → Cursor → List Point × Cursor × Bool
  | 0, text, _, ended, c => (text, c, ended)
  | n + 1, text, gap, ended, c =>
    let word := plainWord flow c.rest
    if c.peek == some (.char '#') || word.isEmpty then (text, c, ended)
    else
      let text := text ++ gap ++ word
      let (gap, c, ended) := plainGap (c.skip word.length)
      if gap.isEmpty || c.peek == some (.char '#') || (!flow && (c.column : Int) < indent) then
        (text, c, ended)
      else plainFrom flow indent n text gap ended c

/-- The plain scalar that is next, the place behind it, and whether that is in a new line. Outside
of brackets every line of it must be indented at least so far. -/
def plain (flow : Bool) (indent : Int) (c : Cursor) : List Point × Cursor × Bool :=
  plainFrom flow indent c.rest.length [] [] false c

/-! ## Quoted scalars -/

/-- The ends of lines that are next, with the white space between them left out. -/
def quotedBreaks : Nat → List Point → Cursor → Except Fault (List Point × Cursor)
  | 0, breaks, c => .ok (breaks, c)
  | n + 1, breaks, c =>
    if c.atDocumentMark then unreadable "a document ends inside of quotes"
    else
      let c := c.skipWhile fun ch => ch == ' ' || ch == '\t'
      if c.peek.any isBreak then
        let (b, c) := c.lineBreak
        quotedBreaks n (breaks ++ b) c
      else .ok (breaks, c)

/-- The white space that is next inside of quotes, as it is read. -/
def quotedGap (c : Cursor) : Except Fault (List Point × Cursor) :=
  let spaces := c.takeWhile fun ch => ch == ' ' || ch == '\t'
  let c := c.skip spaces.length
  match c.peek with
  | none => unreadable "the text ends inside of quotes"
  | some ch =>
    if isBreak ch then do
      let (first, c) := c.lineBreak
      let (more, c) ← quotedBreaks (c.rest.length + 1) [] c
      .ok (fold first more, c)
    else .ok (spaces, c)

/-- The character that a letter behind a backslash stands for. -/
def escaped? (c : Point) : Option Point :=
  match c with
  | .char '0' => some (Point.ofNat 0)
  | .char 'a' => some (Point.ofNat 0x07)
  | .char 'b' => some (Point.ofNat 0x08)
  | .char 't' | .char '\t' => some (.char '\t')
  | .char 'n' => some (.char '\n')
  | .char 'v' => some (Point.ofNat 0x0B)
  | .char 'f' => some (Point.ofNat 0x0C)
  | .char 'r' => some (.char '\r')
  | .char 'e' => some (Point.ofNat 0x1B)
  | .char ' ' => some (.char ' ')
  | .char '"' => some (.char '"')
  | .char '\\' => some (.char '\\')
  | .char '/' => some (.char '/')
  | .char 'N' => some (Point.ofNat 0x85)
  | .char '_' => some (Point.ofNat 0xA0)
  | .char 'L' => some (Point.ofNat 0x2028)
  | .char 'P' => some (Point.ofNat 0x2029)
  | _ => none

/-- The number of hexadecimal digits that a letter behind a backslash announces. -/
def escapeWidth? (c : Point) : Option Nat :=
  match c with
  | .char 'x' => some 2
  | .char 'u' => some 4
  | .char 'U' => some 8
  | _ => none

/-- The character of a number, or the half of one. -/
def character (n : Nat) : Except Fault Point :=
  if n < 0x110000 then .ok (Point.ofNat n) else .error .noCharacter

/-- What follows a backslash inside of double quotes, as it is read. -/
def escape (c : Cursor) : Except Fault (List Point × Cursor) :=
  match c.peek with
  | none => unreadable "the text ends inside of quotes"
  | some ch =>
    match escaped? ch, escapeWidth? ch with
    | some e, _ => .ok ([e], c.next)
    | none, some width =>
      let ds := c.next.rest.take width
      match Number.ofDigits? 16 ds with
      | some n =>
        if ds.length = width then do .ok ([← character n], c.next.skip width)
        else unreadable "an escape needs more hexadecimal digits"
      | none => unreadable "an escape needs hexadecimal digits"
    | none, none =>
      if isBreak ch then quotedBreaks (c.rest.length + 1) [] c.lineBreak.2
      else unreadable "an escape is unknown"

/-- The text up to the closing quote, and the place behind that. -/
def quotedFrom (double : Bool) : Nat → List Point → Cursor → Except Fault (List Point × Cursor)
  | 0, _, _ => unreadable "the text ends inside of quotes"
  | n + 1, text, c =>
    match c.peek with
    | none => unreadable "the text ends inside of quotes"
    | some ch =>
      if isSpace ch then do
        let (gap, c) ← quotedGap c
        quotedFrom double n (text ++ gap) c
      else if !double && ch == '\'' then
        if c.peekAt 1 == some (.char '\'') then
          quotedFrom double n (text ++ [Point.char '\'']) (c.skip 2)
        else .ok (text, c.next)
      else if double && ch == '"' then .ok (text, c.next)
      else if double && ch == '\\' then do
        let (piece, c) ← escape c.next
        quotedFrom double n (text ++ piece) c
      else
        let run := c.takeWhile fun d => !isSpace d && d != '\'' && d != '"' && d != '\\'
        let run := if run.isEmpty then [ch] else run
        quotedFrom double n (text ++ run) (c.skip run.length)

/-- The quoted scalar that is next, and the place behind it. -/
def quoted (double : Bool) (c : Cursor) : Except Fault (List Point × Cursor) :=
  quotedFrom double (c.rest.length + 1) [] c.next

/-! ## Block scalars -/

/-- What becomes of the ends of lines at the end of a block. -/
inductive Chomping where
  /-- one is kept -/
  | clip
  /-- none is kept -/
  | strip
  /-- all are kept -/
  | keep
  deriving DecidableEq

/-- The sign for what becomes of the ends of lines. -/
def chomping? (o : Option Point) : Option Chomping :=
  if o = some (.char '+') then some .keep else if o = some (.char '-') then some .strip else none

/-- The digit for the indentation of a block. -/
def indentation? (o : Option Point) : Option Nat :=
  o.bind fun c => if '0' ≤ c ∧ c ≤ '9' then some (c.toNat - 0x30) else none

/-- The signs behind the mark of a block, in either order, and the place behind them. -/
def blockHeader (c : Cursor) : Chomping × Option Nat × Cursor :=
  match chomping? c.peek with
  | some chomping =>
    match indentation? c.next.peek with
    | some n => (chomping, some n, c.next.next)
    | none => (chomping, none, c.next)
  | none =>
    match indentation? c.peek with
    | some n =>
      match chomping? c.next.peek with
      | some chomping => (chomping, some n, c.next.next)
      | none => (.clip, some n, c.next)
    | none => (.clip, none, c)

/-- The place behind the rest of a line that may hold only spaces and a comment. -/
def emptyLine (c : Cursor) : Except Fault Cursor :=
  let c := c.skipWhile (· == ' ')
  let c := if c.peek == some (.char '#') then c.skipWhile (!isBreak ·) else c
  if endsLine c.peek then .ok c.lineBreak.2 else unreadable "a line goes on behind its end"

/-- The ends of empty lines in front of a block, the widest indentation of them, and the place
behind them. -/
def leadingBreaks : Nat → List Point → Nat → Cursor → List Point × Nat × Cursor
  | 0, breaks, widest, c => (breaks, widest, c)
  | n + 1, breaks, widest, c =>
    match c.peek with
    | some ch =>
      if ch == ' ' then leadingBreaks n breaks (max widest c.next.column) c.next
      else if isBreak ch then
        let (b, c) := c.lineBreak
        leadingBreaks n (breaks ++ b) widest c
      else (breaks, widest, c)
    | none => (breaks, widest, c)

/-- The place behind the spaces that are next, but not beyond a column. -/
def skipIndent : Nat → Nat → Cursor → Cursor
  | 0, _, c => c
  | n + 1, indent, c =>
    if c.column < indent && c.peek == some (.char ' ') then skipIndent n indent c.next else c

/-- The ends of empty lines inside a block, and the place behind them and behind the indentation. -/
def innerBreaks (indent : Nat) : Nat → List Point → Cursor → List Point × Cursor
  | 0, breaks, c => (breaks, c)
  | n + 1, breaks, c =>
    let c := skipIndent c.rest.length indent c
    if c.peek.any isBreak then
      let (b, c) := c.lineBreak
      innerBreaks indent n (breaks ++ b) c
    else (breaks, c)

/-- Whether the character is a space or a tab. -/
def isPad (o : Option Point) : Bool :=
  o == some (.char ' ') || o == some (.char '\t')

/-- The lines of a block. The arguments are the text so far with the end of its last line left out,
that end, and the ends of empty lines behind it. -/
def blockFrom (folded : Bool) (indent : Nat) :
    Nat → List Point → List Point → List Point → Cursor →
      List Point × List Point × List Point × Cursor
  | 0, text, last, breaks, c => (text, last, breaks, c)
  | n + 1, text, last, breaks, c =>
    if c.column == indent && c.peek.isSome then
      let padded := isPad c.peek
      let line := c.takeWhile (!isBreak ·)
      let text := text ++ breaks ++ line
      let (last, c) := (c.skip line.length).lineBreak
      let (breaks, c) := innerBreaks indent (c.rest.length + 1) [] c
      if c.column == indent && c.peek.isSome then
        let glue :=
          if folded && last == [Point.char '\n'] && !padded && !isPad c.peek then
            if breaks.isEmpty then [Point.char ' '] else []
          else last
        blockFrom folded indent n (text ++ glue) last breaks c
      else (text, last, breaks, c)
    else (text, last, breaks, c)

/-- The block scalar that is next, and the place behind it. The block is indented further than the
given column. -/
def block (folded : Bool) (parent : Int) (c : Cursor) : Except Fault (List Point × Cursor) := do
  let (chomping, indentation, c) := blockHeader c.next
  if indentation = some 0 then unreadable "a block must be indented"
  else if !(endsLine c.peek || c.peek == some (.char ' ')) then
    unreadable "the signs of a block are unknown"
  else
    let c ← emptyLine c
    let least := (parent + 1).toNat.max 1
    let (breaks, indent, c) := match indentation with
      | none =>
        let (breaks, widest, c) := leadingBreaks (c.rest.length + 1) [] 0 c
        (breaks, least.max widest, c)
      | some n =>
        let indent := least + n - 1
        let (breaks, c) := innerBreaks indent (c.rest.length + 1) [] c
        (breaks, indent, c)
    let (text, last, breaks, c) := blockFrom folded indent (c.rest.length + 1) [] [] breaks c
    let text := match chomping with
      | .strip => text
      | .clip => text ++ last
      | .keep => text ++ last ++ breaks
    .ok (text, c)

end FormulaSheet.Yaml.Scalar
