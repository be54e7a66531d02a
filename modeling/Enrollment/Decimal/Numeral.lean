import Enrollment.Decimal.Binary64
import Enrollment.Text.Blank

/-!
# Numerals

Texts of integers and of floating point numbers, as people write them into configuration files:
blanks around, a sign, underscores between digits, zeros after a decimal point, exponents.
-/

namespace Enrollment.Numeral

/-- The number that ASCII digits spell. -/
def ofDigits (digits : List Char) : Nat :=
  digits.foldl (fun n c => n * 10 + (c.toNat - 48)) 0

/-- The digits of a text in which single underscores may stand between digits. -/
def ungroup : List Char → Option (List Char)
  | [] => none
  | [c] => if c.isDigit then some [c] else none
  | c :: '_' :: more => if c.isDigit then (ungroup more).map (c :: ·) else none
  | c :: more => if c.isDigit then (ungroup more).map (c :: ·) else none

/-- The sign of a text and the rest of it; a plus sign says nothing. -/
def splitSign : List Char → Bool × List Char
  | '-' :: rest => (true, rest)
  | '+' :: rest => (false, rest)
  | text => (false, text)

/-- Why a text is not an integer. -/
inductive Fault where
  | notNumeral
  | tooLong
deriving DecidableEq, Repr

/-- How many characters the text of an integer may have. -/
def lengthLimit : Nat := 4300

/-- The integer that a text spells; a decimal point is fine if zeros follow, and only those. -/
def integer (text : List Char) : Except Fault Int :=
  let text := Text.trimBy Text.isWhiteSpace text
  if lengthLimit < text.length then .error .tooLong
  else
    let (negative, text) := splitSign text
    let (whole, fraction) := text.span (· != '.')
    let zeros := match fraction with
      | [] => true
      | _ :: digits => !digits.isEmpty && digits.all (· == '0')
    match ungroup whole with
    | some digits =>
      if zeros then .ok (if negative then -(ofDigits digits : Int) else ofDigits digits)
      else .error .notNumeral
    | none => .error .notNumeral

/-- Whether a text is a word, whatever the case of its ASCII letters. -/
def isWord (word : String) (text : List Char) : Bool := text.map Char.toLower == word.toList

/-- The exponent at the end of a text, if there is a well-formed one. -/
def exponent? : List Char → Option Int
  | [] => some 0
  | e :: rest =>
    if e = 'e' ∨ e = 'E' then
      let (negative, digits) := splitSign rest
      if !digits.isEmpty && digits.all Char.isDigit then
        some (if negative then -(ofDigits digits : Int) else ofDigits digits)
      else none
    else none

/-- The floating point number that a text without blanks spells. -/
def floating? (text : List Char) : Option Binary64 :=
  let (negative, text) := splitSign text
  if isWord "nan" text then some .nan
  else if isWord "inf" text || isWord "infinity" text then some (.infinite negative)
  else
    let (whole, rest) := text.span Char.isDigit
    let (fraction, rest) := match rest with
      | '.' :: more => more.span Char.isDigit
      | _ => ([], rest)
    if whole.isEmpty && fraction.isEmpty then none
    else (exponent? rest).map fun e =>
      Binary64.ofDecimal negative (ofDigits (whole ++ fraction)) (e - fraction.length)

/-- The text without underscores, if none stands at an end and no two stand together. -/
def dropUnderscores? (text : List Char) : Option (List Char) :=
  if text.head? == some '_' || text.getLast? == some '_' then none
  else if (text.zip text.tail).contains ('_', '_') then none
  else some (text.filter (· != '_'))

/-- The floating point number that a text spells, with blanks around it or underscores in it. -/
def number? (text : List Char) : Option Binary64 :=
  match floating? (Text.trimBy Text.isWhiteSpace text) with
  | some x => some x
  | none => (dropUnderscores? text).bind floating?

end Enrollment.Numeral
