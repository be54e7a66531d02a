import Enrollment.Octets.Utf8
import Enrollment.Text.Printable

/-!
# Quoted text

A text is shown between apostrophes, or between quotation marks when it holds an apostrophe and
no quotation mark. The mark, the backslash and the characters that are not printable are written
with a backslash. Octets are shown the same way, with every octet outside printable ASCII in
hexadecimal.
-/

namespace Enrollment.Text

/-- The mark that surrounds a quoted text. -/
def quoteMark (text : List Char) : Char :=
  if text.contains '\'' && !text.contains '"' then '"' else '\''

/-- The `width` lowest hexadecimal digits of a number. -/
def hexDigits (width n : Nat) : List Char :=
  (List.range width).reverse.map fun i => Octets.hexDigit (n / Nat.pow 16 i % 16)

/-- A character inside a text quoted with `mark`. -/
def quoteChar (mark c : Char) : List Char :=
  let n := c.toNat
  if c == mark || c == '\\' then ['\\', c]
  else if c == '\n' then ['\\', 'n']
  else if c == '\r' then ['\\', 'r']
  else if c == '\t' then ['\\', 't']
  else if isPrintable c then [c]
  else if n < 0x100 then '\\' :: 'x' :: hexDigits 2 n
  else if n < 0x10000 then '\\' :: 'u' :: hexDigits 4 n
  else '\\' :: 'U' :: hexDigits 8 n

/-- The quoted form of a text. -/
def quote (text : String) : String :=
  let mark := quoteMark text.toList
  String.ofList (mark :: text.toList.flatMap (quoteChar mark) ++ [mark])

/-- An octet inside octets quoted with `mark`. -/
def quoteOctet (mark : Char) (b : UInt8) : List Char :=
  if 127 ≤ b then '\\' :: 'x' :: hexDigits 2 b.toNat else quoteChar mark (Char.ofNat b.toNat)

/-- The quoted form of octets, which begins with the letter b. -/
def quoteOctets (bytes : Octets) : String :=
  let mark := quoteMark bytes.toLatin
  String.ofList ('b' :: mark :: bytes.flatMap (quoteOctet mark) ++ [mark])

end Enrollment.Text
