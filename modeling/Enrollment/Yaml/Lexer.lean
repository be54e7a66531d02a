import Enrollment.Yaml.Scalar

/-!
# From a text to its tokens

A lexer goes through a text once. Blocks open and close with the indentation, and a key may show
only after the fact, by the colon behind it: a token that could begin a key waits until that is
settled. The result of `tokens` is the list of the tokens that are settled, and the fault that
ended it, if one did.
-/

namespace Enrollment.Yaml

/-- A place where a key could have begun. -/
structure PossibleKey where
  /-- How many tokens come before the key. -/
  number : Nat
  /-- Whether nothing but a key can stand here. -/
  required : Bool
  index : Nat
  line : Nat
  column : Nat
deriving Repr

/-- How far the colon may be from the begin of its key. -/
def keyReach : Nat := 1024

/-- The state of a lexer. -/
structure Lexer where
  cursor : Cursor
  /-- Tokens that are not settled yet. -/
  waiting : List Token := []
  /-- How many tokens are settled. -/
  settled : Nat := 0
  atEnd : Bool := false
  /-- How many brackets are open; below zero if too many were closed. -/
  depth : Int := 0
  indent : Int := -1
  /-- The indentations of the blocks around. -/
  outer : List Int := []
  /-- Whether a key may begin here without a mark. -/
  allowsKey : Bool := true
  /-- Where the last key could have begun, by depth. -/
  keys : List (Int × PossibleKey) := []

namespace Lexer

/-- Whether the lexer is inside of brackets. -/
def inFlow (l : Lexer) : Bool := l.depth != 0

/-- Adds a token. -/
def push (t : Token) (l : Lexer) : Lexer := { l with waiting := l.waiting ++ [t] }

/-- Puts a token before the one with the number `n`. -/
def insert (n : Nat) (t : Token) (l : Lexer) : Lexer :=
  { l with waiting := l.waiting.insertIdx (n - l.settled) t }

/-! ## Keys -/

/-- Whether the colon of a possible key can no longer come. -/
def isStale (l : Lexer) (k : PossibleKey) : Bool :=
  k.line != l.cursor.line || keyReach < l.cursor.index - k.index

/-- Forgets the possible keys that did not become one. -/
def dropStale (l : Lexer) : Except Fault Lexer :=
  if l.keys.any fun (_, k) => l.isStale k && k.required then unscannable
  else .ok { l with keys := l.keys.filter fun (_, k) => !l.isStale k }

/-- Forgets the possible key at this depth. -/
def dropKey (l : Lexer) : Except Fault Lexer :=
  match l.keys.lookup l.depth with
  | none => .ok l
  | some k =>
    if k.required then unscannable
    else .ok { l with keys := l.keys.filter (·.1 != l.depth) }

/-- Notes that a key could begin here. -/
def noteKey (l : Lexer) : Except Fault Lexer :=
  if l.allowsKey then do
    let l ← l.dropKey
    let k : PossibleKey :=
      { number := l.settled + l.waiting.length
        required := !l.inFlow && l.indent == l.cursor.column
        index := l.cursor.index
        line := l.cursor.line
        column := l.cursor.column }
    return { l with keys := (l.depth, k) :: l.keys }
  else .ok l

/-! ## Indentation -/

/-- Closes the blocks that are indented by more than `column`. -/
def unwindTo (column : Int) : Nat → Lexer → Lexer
  | 0, l => l
  | fuel + 1, l =>
    if column < l.indent then
      ({ l with indent := l.outer.headD (-1), outer := l.outer.tail }.push .blockEnd).unwindTo
        column fuel
    else l

/-- Closes the blocks that are indented by more than `column`; inside of brackets there are
none. -/
def unwind (column : Int) (l : Lexer) : Lexer :=
  if l.inFlow then l else unwindTo column (l.outer.length + 1) l

/-- Opens a block at a column, if that is further in. -/
def indentTo (column : Nat) (l : Lexer) : Bool × Lexer :=
  if l.indent < column then
    (true, { l with outer := l.indent :: l.outer, indent := column })
  else (false, l)

/-- Opens a block of some kind here, where a key has to be allowed; inside of brackets there are
none. -/
def openBlock (start : Token) (l : Lexer) : Except Fault Lexer :=
  if l.inFlow then .ok l
  else if !l.allowsKey then unscannable
  else
    let (opened, l) := l.indentTo l.cursor.column
    .ok (if opened then l.push start else l)

/-! ## Single tokens -/

/-- Goes on to the next token, past blanks, comments and line ends. After a line end a key may
begin. -/
def skipGap : Nat → Lexer → Lexer
  | 0, l => l
  | fuel + 1, l =>
    let c := l.cursor.skipSpaces.skipComment
    if isBreak c.peek then
      { l with cursor := c.lineBreak.2, allowsKey := l.allowsKey || !l.inFlow }.skipGap fuel
    else { l with cursor := c }

/-- Takes characters as a token. -/
def mark (t : Token) (width : Nat) (l : Lexer) : Lexer :=
  { l with cursor := l.cursor.advance width }.push t

/-- The end of the text. -/
def finish (l : Lexer) : Except Fault Lexer := do
  let l ← (l.unwind (-1)).dropKey
  return { l with allowsKey := false, keys := [], atEnd := true }.push .streamEnd

/-- A line that is not part of a document: all blocks end there. -/
def betweenDocuments (scan : Cursor → Except Fault (Token × Cursor)) (l : Lexer) :
    Except Fault Lexer := do
  let l ← (l.unwind (-1)).dropKey
  let (t, c) ← scan l.cursor
  return { l with allowsKey := false, cursor := c }.push t

/-- An opening bracket. -/
def openFlow (t : Token) (l : Lexer) : Except Fault Lexer := do
  let l ← l.noteKey
  return { l with depth := l.depth + 1, allowsKey := true }.mark t 1

/-- A closing bracket. -/
def closeFlow (t : Token) (l : Lexer) : Except Fault Lexer := do
  let l ← l.dropKey
  return { l with depth := l.depth - 1, allowsKey := false }.mark t 1

/-- A comma. -/
def flowEntry (l : Lexer) : Except Fault Lexer := do
  let l ← { l with allowsKey := true }.dropKey
  return l.mark .flowEntry 1

/-- The mark of an item. -/
def blockEntry (l : Lexer) : Except Fault Lexer := do
  let l ← l.openBlock .blockSequenceStart
  let l ← { l with allowsKey := true }.dropKey
  return l.mark .blockEntry 1

/-- The mark of a key. -/
def key (l : Lexer) : Except Fault Lexer := do
  let l ← l.openBlock .blockMappingStart
  let l ← { l with allowsKey := !l.inFlow }.dropKey
  return l.mark .key 1

/-- A colon: what could be a key before it is one. -/
def value (l : Lexer) : Except Fault Lexer := do
  match l.keys.lookup l.depth with
  | some k =>
    let l := { l with keys := l.keys.filter (·.1 != l.depth) }.insert k.number .key
    let l :=
      if l.inFlow then l
      else
        let (opened, l) := l.indentTo k.column
        if opened then l.insert k.number .blockMappingStart else l
    return { l with allowsKey := false }.mark .value 1
  | none =>
    let l ← l.openBlock .blockMappingStart
    let l ← { l with allowsKey := !l.inFlow }.dropKey
    return l.mark .value 1

/-- A token that can begin a key, and after which none can begin. -/
def beginning (scan : Cursor → Except Fault (Token × Cursor)) (l : Lexer) :
    Except Fault Lexer := do
  let l ← l.noteKey
  let (t, c) ← scan l.cursor
  return { l with allowsKey := false, cursor := c }.push t

/-- A text that is indented as a block, after which a key may begin. -/
def blockText (l : Lexer) : Except Fault Lexer := do
  let l ← { l with allowsKey := true }.dropKey
  let (t, c) ← block l.indent l.cursor
  return { l with cursor := c }.push t

/-- A plain text. After a line end behind it a key may begin. -/
def plainText (l : Lexer) : Except Fault Lexer := do
  let l ← l.noteKey
  let (text, c, broken) :=
    plain l.inFlow (l.indent + 1) (l.cursor.rest.length + 1) l.cursor
  return { l with allowsKey := broken, cursor := c }.push (.scalar true (String.ofList text))

/-- The marks that a plain text cannot begin with. -/
def indicators : List Char := "-?:,[]\x7b\x7d#&*!|>'\"%@\x60".toList

/-- Whether a plain text begins here. -/
def atPlain (l : Lexer) : Bool :=
  let x := l.cursor.peek
  (!isBlankOrEnd x && !indicators.contains x) ||
    (!isBlankOrEnd (l.cursor.peekAt 1) && (x == '-' || (!l.inFlow && (x == '?' || x == ':'))))

/-- Whether a mark of one character stands here; outside of brackets a blank has to follow. -/
def atMark (x : Char) (l : Lexer) : Bool :=
  l.cursor.peek == x && (l.inFlow || isBlankOrEnd (l.cursor.peekAt 1))

/-- The next token. -/
def dispatch (l : Lexer) : Except Fault Lexer :=
  let c := l.cursor
  let x := c.peek
  if x == endMark then l.finish
  else if x == '%' && c.column = 0 then l.betweenDocuments directive
  else if c.column = 0 && c.isDocumentMark '-' then
    l.betweenDocuments fun c => .ok (.documentStart, c.advance 3)
  else if c.column = 0 && c.isDocumentMark '.' then
    l.betweenDocuments fun c => .ok (.documentEnd, c.advance 3)
  else if x == '[' then l.openFlow .flowSequenceStart
  else if x == '\x7b' then l.openFlow .flowMappingStart
  else if x == ']' then l.closeFlow .flowSequenceEnd
  else if x == '\x7d' then l.closeFlow .flowMappingEnd
  else if x == ',' then l.flowEntry
  else if x == '-' && isBlankOrEnd (c.peekAt 1) then l.blockEntry
  else if l.atMark '?' then l.key
  else if l.atMark ':' then l.value
  else if x == '*' then l.beginning fun c => do
    let (name, c) ← anchorName c
    return (.alias_ name, c)
  else if x == '&' then l.beginning fun c => do
    let (name, c) ← anchorName c
    return (.anchor name, c)
  else if x == '!' then l.beginning tag
  else if (x == '|' || x == '>') && !l.inFlow then l.blockText
  else if x == '\'' || x == '"' then l.beginning quoted
  else if l.atPlain then l.plainText
  else unscannable

/-- Reads one token more, and what opens or closes before it. -/
def fetch (l : Lexer) : Except Fault Lexer := do
  let l := l.skipGap (l.cursor.rest.length + 1)
  let l ← l.dropStale
  (l.unwind l.cursor.column).dispatch

/-- Whether the first waiting token is settled: it is there and cannot begin a key any more. -/
def isReady (l : Lexer) : Bool :=
  l.atEnd || (!l.waiting.isEmpty && !l.keys.any fun (_, k) => k.number == l.settled)

/-- The settled tokens from here on, and the fault that ended them. -/
def run : Nat → Lexer → List Token × Option Fault
  | 0, _ => ([], none)
  | fuel + 1, l =>
    match (if l.atEnd || l.waiting.isEmpty then .ok l else l.dropStale) with
    | .error fault => ([], some fault)
    | .ok l =>
      if l.isReady then
        match l.waiting with
        | [] => ([], none)
        | t :: more =>
          let (later, fault) := run fuel { l with waiting := more, settled := l.settled + 1 }
          (t :: later, fault)
      else
        match l.fetch with
        | .error fault => ([], some fault)
        | .ok l => run fuel l

end Lexer

/-- The tokens of a text, up to the fault that ended them. A byte order mark in front of the text
is no part of it. -/
def tokens (text : List Char) : List Token × Option Fault :=
  let c : Cursor := ⟨text, 0, 0, 0⟩
  let c := if c.peek == '\uFEFF' then c.next else c
  Lexer.run (8 * text.length + 16) { cursor := c }

end Enrollment.Yaml
