/-!
# A place in a text

What is left of a text, and where that is: the count of characters before it, the line and the
column. Beyond the end of the text stand NUL characters.
-/

namespace Enrollment.Yaml

/-- The character that stands for the end of a text. -/
def endMark : Char := '\x00'

/-- Whether a character ends a line. -/
def isBreak (c : Char) : Bool :=
  c == '\n' || c == '\r' || c == '\u0085' || c == '\u2028' || c == '\u2029'

/-- Whether a line or the text ends here. -/
def isBreakOrEnd (c : Char) : Bool := isBreak c || c == endMark

/-- Whether a space, a line end or the end of the text is here. -/
def isSpaceOrEnd (c : Char) : Bool := c == ' ' || isBreakOrEnd c

/-- As `isSpaceOrEnd`, or a tab. -/
def isBlankOrEnd (c : Char) : Bool := c == '\t' || isSpaceOrEnd c

/-- Whether a character can stand in the name of an anchor, a handle or a directive. -/
def isNameChar (c : Char) : Bool := c.isAlphanum || c == '-' || c == '_'

/-- Whether a character is a hexadecimal digit. -/
def isHexDigit (c : Char) : Bool :=
  c.isDigit || ('a' ≤ c && c ≤ 'f') || ('A' ≤ c && c ≤ 'F')

/-- The number that hexadecimal digits spell. -/
def ofHexDigits (digits : List Char) : Nat :=
  digits.foldl (fun n c =>
    n * 16 + (if c.isDigit then c.toNat - 48 else if 'a' ≤ c then c.toNat - 87 else c.toNat - 55)) 0

/-- A place in a text. -/
structure Cursor where
  rest : List Char
  index : Nat := 0
  line : Nat := 0
  column : Nat := 0
deriving Repr, Inhabited

namespace Cursor

/-- The character at a place. -/
def peek (c : Cursor) : Char := c.rest.headD endMark

/-- The character some places on. -/
def peekAt (c : Cursor) (n : Nat) : Char := (c.rest[n]?).getD endMark

/-- The place after one character. A byte order mark takes no column. -/
def next (c : Cursor) : Cursor :=
  match c.rest with
  | [] => c
  | x :: more =>
    if x == '\n' || x == '\u0085' || x == '\u2028' || x == '\u2029' ||
        (x == '\r' && more.head? != some '\n') then
      ⟨more, c.index + 1, c.line + 1, 0⟩
    else if x == '\uFEFF' then ⟨more, c.index + 1, c.line, c.column⟩
    else ⟨more, c.index + 1, c.line, c.column + 1⟩

/-- The place after some characters. -/
def advance (c : Cursor) : Nat → Cursor
  | 0 => c
  | n + 1 => c.next.advance n

/-- The characters from a place on that satisfy `p`, and the place after them. -/
def takeWhile (c : Cursor) (p : Char → Bool) : List Char × Cursor :=
  let run := c.rest.takeWhile p
  (run, c.advance run.length)

/-- The place after the characters that satisfy `p`. -/
def skipWhile (c : Cursor) (p : Char → Bool) : Cursor := (c.takeWhile p).2

/-- The place after spaces. -/
def skipSpaces (c : Cursor) : Cursor := c.skipWhile (· == ' ')

/-- The place after a comment, if there is one. -/
def skipComment (c : Cursor) : Cursor :=
  if c.peek == '#' then c.skipWhile fun x => !isBreakOrEnd x else c

/-- Takes one line end, as the text that it stands for; none if there is none. -/
def lineBreak (c : Cursor) : List Char × Cursor :=
  let x := c.peek
  if x == '\r' && c.peekAt 1 == '\n' then (['\n'], c.advance 2)
  else if x == '\r' || x == '\n' || x == '\u0085' then (['\n'], c.next)
  else if x == '\u2028' || x == '\u2029' then ([x], c.next)
  else ([], c)

/-- Whether three of the same mark and a blank stand here. -/
def isDocumentMark (c : Cursor) (mark : Char) : Bool :=
  c.rest.take 3 == [mark, mark, mark] && isBlankOrEnd (c.peekAt 3)

/-- Whether a document begins or ends here. -/
def isSeparator (c : Cursor) : Bool := c.isDocumentMark '-' || c.isDocumentMark '.'

end Cursor

end Enrollment.Yaml
