import Enrollment.Octets.Utf8
import Enrollment.Yaml.Cursor
import Enrollment.Yaml.Token

/-!
# Scalars in a text

The five ways to write a text down in YAML: plain, between apostrophes or quotation marks, and as
a block that keeps its line ends or folds them. Tags and directives, which are single words with
rules of their own, are here as well.
-/

namespace Enrollment.Yaml

/-- What a text is refused with while it is cut into tokens. -/
def unscannable : Except Fault α := .error (.refused .scanner)

/-! ## Quoted texts -/

/-- What the escapes of one character stand for. -/
def escapes : List (Char × Char) := [
  ('0', '\x00'), ('a', '\x07'), ('b', '\x08'), ('t', '\t'), ('\t', '\t'), ('n', '\n'),
  ('v', '\x0b'), ('f', '\x0c'), ('r', '\r'), ('e', '\x1b'), (' ', ' '), ('"', '"'), ('\\', '\\'),
  ('/', '/'), ('N', '\u0085'), ('_', '\u00a0'), ('L', '\u2028'), ('P', '\u2029')]

/-- How many hexadecimal digits follow an escape. -/
def escapeWidths : List (Char × Nat) := [('x', 2), ('u', 4), ('U', 8)]

/-- The character of a code point that an escape gives. -/
def escapedChar (n : Nat) : Except Fault Char :=
  if n < 0x110000 then .ok (Char.ofNat n)
  else if n < Nat.pow 2 31 then .error (.scalar .beyondUnicode)
  else .error (.scalar .beyondWord)

/-- The line ends from here on and the place after them; blanks around them are skipped. A
quoted text may not go on into another document. -/
def quotedBreaks : Nat → Cursor → Except Fault (List Char × Cursor)
  | 0, c => .ok ([], c)
  | fuel + 1, c =>
    if c.isSeparator then unscannable
    else
      let c := c.skipWhile fun x => x == ' ' || x == '\t'
      if isBreak c.peek then do
        let (first, c) := c.lineBreak
        let (more, c) ← quotedBreaks fuel c
        return (first ++ more, c)
      else .ok ([], c)

/-- The escape after a backslash. -/
def quotedEscape (c : Cursor) : Except Fault (List Char × Cursor) :=
  match escapes.lookup c.peek, escapeWidths.lookup c.peek with
  | some x, _ => .ok ([x], c.next)
  | none, some width =>
    let c := c.next
    let digits := c.rest.take width
    if digits.length = width && digits.all isHexDigit then do
      let x ← escapedChar (ofHexDigits digits)
      return ([x], c.advance width)
    else unscannable
  | none, none =>
    if isBreak c.peek then quotedBreaks c.rest.length c.lineBreak.2 else unscannable

/-- The part of a quoted text up to a blank, a line end or the closing mark. -/
def quotedWord (double : Bool) : Nat → Cursor → Except Fault (List Char × Cursor)
  | 0, c => .ok ([], c)
  | fuel + 1, c => do
    let (run, c) := c.takeWhile fun x =>
      !(x == '\'' || x == '"' || x == '\\' || isBlankOrEnd x)
    let x := c.peek
    if !double && x == '\'' && c.peekAt 1 == '\'' then
      let (more, c) ← quotedWord double fuel (c.advance 2)
      return (run ++ '\'' :: more, c)
    else if (double && x == '\'') || (!double && (x == '"' || x == '\\')) then
      let (more, c) ← quotedWord double fuel c.next
      return (run ++ x :: more, c)
    else if double && x == '\\' then
      let (escaped, c) ← quotedEscape c.next
      let (more, c) ← quotedWord double fuel c
      return (run ++ escaped ++ more, c)
    else return (run, c)

/-- The blanks and line ends between two words of a quoted text. A single line end is a space. -/
def quotedGap (c : Cursor) : Except Fault (List Char × Cursor) := do
  let (blanks, c) := c.takeWhile fun x => x == ' ' || x == '\t'
  if c.peek == endMark then unscannable
  else if isBreak c.peek then
    let (first, c) := c.lineBreak
    let (breaks, c) ← quotedBreaks (c.rest.length + 1) c
    if first != ['\n'] then return (first ++ breaks, c)
    else if breaks.isEmpty then return ([' '], c)
    else return (breaks, c)
  else return (blanks, c)

/-- The rest of a quoted text after a word of it. -/
def quotedRest (double : Bool) (mark : Char) : Nat → Cursor → Except Fault (List Char × Cursor)
  | 0, _ => unscannable
  | fuel + 1, c =>
    if c.peek == mark then .ok ([], c.next)
    else do
      let (gap, c) ← quotedGap c
      let (word, c) ← quotedWord double (c.rest.length + 1) c
      let (more, c) ← quotedRest double mark fuel c
      return (gap ++ word ++ more, c)

/-- A quoted text, from its opening mark on. -/
def quoted (c : Cursor) : Except Fault (Token × Cursor) := do
  let mark := c.peek
  let double := mark == '"'
  let (word, c) ← quotedWord double (c.rest.length + 1) c.next
  let (more, c) ← quotedRest double mark (c.rest.length + 1) c
  return (.scalar false (String.ofList (word ++ more)), c)

/-! ## Plain texts -/

/-- Whether a character ends a plain text inside of brackets. -/
def isFlowMark (x : Char) : Bool :=
  x == ',' || x == '[' || x == ']' || x == '\x7b' || x == '\x7d'

/-- The part of a plain text up to a blank or a mark. -/
def plainWord (flow : Bool) : List Char → List Char
  | [] => []
  | x :: more =>
    let after := more.headD endMark
    if isBlankOrEnd x then []
    else if x == ':' && (isBlankOrEnd after || (flow && isFlowMark after)) then []
    else if flow && (x == '?' || isFlowMark x) then []
    else x :: plainWord flow more

/-- The spaces and line ends from here on; none if another document begins or ends. -/
def plainBreaks : Nat → Cursor → Option (List Char) × Cursor
  | 0, c => (some [], c)
  | fuel + 1, c =>
    if c.peek == ' ' then plainBreaks fuel c.next
    else if isBreak c.peek then
      let (first, c) := c.lineBreak
      if c.isSeparator then (none, c)
      else
        let (more, c) := plainBreaks fuel c
        (more.map (first ++ ·), c)
    else (some [], c)

/-- The gap after a word of a plain text: the text it stands for, the place after it, and
whether it holds a line end. -/
def plainGap (c : Cursor) : List Char × Cursor × Bool :=
  let (spaces, c) := c.takeWhile (· == ' ')
  if isBreak c.peek then
    let (first, c) := c.lineBreak
    if c.isSeparator then ([], c, true)
    else
      match plainBreaks (c.rest.length + 1) c with
      | (none, c) => ([], c, true)
      | (some breaks, c) =>
        if first != ['\n'] then (first ++ breaks, c, true)
        else if breaks.isEmpty then ([' '], c, true)
        else (breaks, c, true)
  else (spaces, c, false)

/-- A plain text: what it says, the place after it and the gap that follows, and whether that gap
holds a line end. It goes on as long as the lines are indented by `indent`. -/
def plain (flow : Bool) (indent : Int) : Nat → Cursor → List Char × Cursor × Bool
  | 0, c => ([], c, false)
  | fuel + 1, c =>
    if c.peek == '#' then ([], c, false)
    else
      let word := plainWord flow c.rest
      if word.isEmpty then ([], c, false)
      else
        let (gap, c, broken) := plainGap (c.advance word.length)
        if gap.isEmpty || c.peek == '#' || (!flow && (c.column : Int) < indent) then
          (word, c, broken)
        else
          match plain flow indent fuel c with
          | ([], c, _) => (word, c, broken)
          | (more, c, last) => (word ++ gap ++ more, c, last)

/-! ## Blocks -/

/-- What becomes of the line ends at the end of a block. -/
inductive Chomping where
  | strip
  | clip
  | keep
deriving DecidableEq, Repr

/-- The chomping that a mark asks for. -/
def chomping? (x : Char) : Option Chomping :=
  if x == '+' then some .keep else if x == '-' then some .strip else none

/-- The indentation that a digit asks for; zero is refused. -/
def increment? (c : Cursor) : Except Fault (Option Nat × Cursor) :=
  if c.peek.isDigit then
    if c.peek == '0' then unscannable else .ok (some (c.peek.toNat - 48), c.next)
  else .ok (none, c)

/-- The marks of a block, in either order. -/
def blockMarks (c : Cursor) : Except Fault (Chomping × Option Nat × Cursor) := do
  let (chomping, increment, c) ← match chomping? c.peek with
    | some chomping => do
      let (increment, c) ← increment? c.next
      pure (chomping, increment, c)
    | none => do
      let (increment, c) ← increment? c
      match increment, chomping? c.peek with
      | some _, some chomping => pure (chomping, increment, c.next)
      | _, _ => pure (Chomping.clip, increment, c)
  if isSpaceOrEnd c.peek then return (chomping, increment, c) else unscannable

/-- The place after the rest of a line that holds nothing but a comment. -/
def restOfLine (c : Cursor) : Except Fault Cursor :=
  let c := c.skipSpaces.skipComment
  if isBreakOrEnd c.peek then .ok c.lineBreak.2 else unscannable

/-- The empty lines at the start of a block, and the deepest indentation among them and the first
line that is not empty. -/
def blockIndentation : Nat → Nat → Cursor → List Char × Nat × Cursor
  | 0, deepest, c => ([], deepest, c)
  | fuel + 1, deepest, c =>
    if c.peek == ' ' then
      let c := c.next
      blockIndentation fuel (max deepest c.column) c
    else if isBreak c.peek then
      let (first, c) := c.lineBreak
      let (more, deepest, c) := blockIndentation fuel deepest c
      (first ++ more, deepest, c)
    else ([], deepest, c)

/-- The place after at most so many spaces that the column is `indent`. -/
def skipIndent (indent : Nat) (c : Cursor) : Cursor :=
  let spaces := (c.rest.takeWhile (· == ' ')).length
  c.advance (min spaces (indent - c.column))

/-- The line ends of the empty lines from here on. -/
def blockBreaks (indent : Nat) : Nat → Cursor → List Char × Cursor
  | 0, c => ([], c)
  | fuel + 1, c =>
    let c := skipIndent indent c
    if isBreak c.peek then
      let (first, c) := c.lineBreak
      let (more, c) := blockBreaks indent fuel c
      (first ++ more, c)
    else ([], c)

/-- The lines of a block, the last line end and the empty lines after it. `breaks` are the empty
lines before. -/
def blockLines (folded : Bool) (indent : Nat) :
    Nat → List Char → Cursor → List Char × List Char × List Char × Cursor
  | 0, breaks, c => ([], [], breaks, c)
  | fuel + 1, breaks, c =>
    if c.column = indent ∧ c.peek ≠ endMark then
      let indented := c.peek == ' ' || c.peek == '\t'
      let (line, c) := c.takeWhile fun x => !isBreakOrEnd x
      let (lineEnd, c) := c.lineBreak
      let (after, c) := blockBreaks indent (c.rest.length + 1) c
      if c.column = indent ∧ c.peek ≠ endMark then
        let joint :=
          if folded && lineEnd == ['\n'] && !indented && !(c.peek == ' ' || c.peek == '\t') then
            (if after.isEmpty then [' '] else [])
          else lineEnd
        let (more, lastEnd, tail, c) := blockLines folded indent fuel after c
        (breaks ++ line ++ joint ++ more, lastEnd, tail, c)
      else (breaks ++ line, lineEnd, after, c)
    else ([], [], breaks, c)

/-- A block, from its mark on; `indent` is the indentation of what it is in. -/
def block (indent : Int) (c : Cursor) : Except Fault (Token × Cursor) := do
  let folded := c.peek == '>'
  let (chomping, increment, c) ← blockMarks c.next
  let c ← restOfLine c
  let least := (max (indent + 1) 1).toNat
  let (breaks, indent, c) := match increment with
    | none =>
      let (breaks, deepest, c) := blockIndentation (c.rest.length + 1) 0 c
      (breaks, max least deepest, c)
    | some n =>
      let indent := least + n - 1
      let (breaks, c) := blockBreaks indent (c.rest.length + 1) c
      (breaks, indent, c)
  let (lines, lastEnd, tail, c) := blockLines folded indent (c.rest.length + 1) breaks c
  let text := lines ++ (if chomping = .strip then [] else lastEnd) ++
    (if chomping = .keep then tail else [])
  return (.scalar false (String.ofList text), c)

/-! ## Names, tags and directives -/

/-- A name, which has to have a character. -/
def name (c : Cursor) : Except Fault (String × Cursor) :=
  let (run, c) := c.takeWhile isNameChar
  if run.isEmpty then unscannable else .ok (String.ofList run, c)

/-- The name of an anchor or an alias, from its mark on. -/
def anchorName (c : Cursor) : Except Fault (String × Cursor) := do
  let (text, c) ← name c.next
  let x := c.peek
  if isBlankOrEnd x || (['?', ':', ',', ']', '\x7d', '%', '@', '\x60'] : List Char).contains x then
    return (text, c)
  else unscannable

/-- Whether a character can stand in the address of a tag. -/
def isAddressChar (x : Char) : Bool :=
  x.isAlphanum || ("-;/?:@&=+$,_.!~*'()[]%".toList).contains x

/-- The octets that per cent signs and digits spell from here on. -/
def percentOctets : Nat → Cursor → Except Fault (Octets × Cursor)
  | 0, c => .ok ([], c)
  | fuel + 1, c =>
    if c.peek == '%' then
      let digits := (c.rest.drop 1).take 2
      if digits.length = 2 && digits.all isHexDigit then do
        let (more, c) ← percentOctets fuel (c.advance 3)
        return (UInt8.ofNat (ofHexDigits digits) :: more, c)
      else unscannable
    else .ok ([], c)

/-- The characters of an address from here on. -/
def addressChars : Nat → Cursor → Except Fault (List Char × Cursor)
  | 0, c => .ok ([], c)
  | fuel + 1, c =>
    if c.peek == '%' then do
      let (bytes, c) ← percentOctets (c.rest.length + 1) c
      match Octets.utf8Chars? bytes with
      | none => unscannable
      | some chars =>
        let (more, c) ← addressChars fuel c
        return (chars ++ more, c)
    else if isAddressChar c.peek then do
      let x := c.peek
      let (more, c) ← addressChars fuel c.next
      return (x :: more, c)
    else .ok ([], c)

/-- The address of a tag, which has to have a character. -/
def address (c : Cursor) : Except Fault (String × Cursor) := do
  let (chars, after) ← addressChars (c.rest.length + 1) c
  if after.index = c.index then unscannable else return (String.ofList chars, after)

/-- The handle of a tag: a mark, or a name between two marks. -/
def tagHandle (c : Cursor) : Except Fault (String × Cursor) :=
  if c.peek != '!' then unscannable
  else if c.peekAt 1 == ' ' then .ok ("!", c.next)
  else
    let (run, after) := c.next.takeWhile isNameChar
    if after.peek == '!' then .ok (String.ofList ('!' :: run ++ ['!']), after.next)
    else unscannable

/-- A tag, from its mark on. -/
def tag (c : Cursor) : Except Fault (Token × Cursor) := do
  let x := c.peekAt 1
  let (token, c) ←
    if x == '<' then do
      let (text, c) ← address (c.advance 2)
      if c.peek == '>' then pure (Token.tag none text, c.next) else unscannable
    else if isBlankOrEnd x then pure (Token.tag none "!", c.next)
    else if ((c.rest.drop 1).takeWhile fun x => !isSpaceOrEnd x).contains '!' then do
      let (handle, c) ← tagHandle c
      let (suffix, c) ← address c
      pure (Token.tag (some handle) suffix, c)
    else do
      let (suffix, c) ← address c.next
      pure (Token.tag (some "!") suffix, c)
  if isSpaceOrEnd c.peek then return (token, c) else unscannable

/-- A number in a directive. -/
def directiveNumber (c : Cursor) : Except Fault (Nat × Cursor) :=
  let (digits, c) := c.takeWhile Char.isDigit
  if digits.isEmpty then unscannable
  else .ok (digits.foldl (fun n x => n * 10 + (x.toNat - 48)) 0, c)

/-- A directive, from its mark on. -/
def directive (c : Cursor) : Except Fault (Token × Cursor) := do
  let (word, c) ← name c.next
  if !isSpaceOrEnd c.peek then unscannable
  let (d, c) ←
    if word == "YAML" then do
      let (major, c) ← directiveNumber c.skipSpaces
      if c.peek != '.' then unscannable
      let (minor, c) ← directiveNumber c.next
      if isSpaceOrEnd c.peek then pure (Directive.version major minor, c) else unscannable
    else if word == "TAG" then do
      let (handle, c) ← tagHandle c.skipSpaces
      if c.peek != ' ' then unscannable
      let (pre, c) ← address c.skipSpaces
      if isSpaceOrEnd c.peek then pure (Directive.tag handle pre, c) else unscannable
    else pure (Directive.other word, c.skipWhile fun x => !isBreakOrEnd x)
  let c ← restOfLine c
  return (.directive d, c)

end Enrollment.Yaml
