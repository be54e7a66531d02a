import Enrollment.Text.Pieces
import Enrollment.Yaml.Cursor
import Enrollment.Yaml.Timestamp

/-!
# Tags

A tag says what a part of a document stands for. It may be written out; a plain text without one
gets its tag from its form, by the rules of YAML 1.1: `resolve` goes through the forms one after
the other.
-/

namespace Enrollment.Yaml

/-- What a part of a document stands for. -/
inductive Tag where
  | null
  | bool
  | int
  | float
  | octets
  | timestamp
  | ordered
  | pairs
  | set
  | text
  | list
  | table
  /-- A key whose value is merged into the table around. -/
  | merge
  /-- A key for what a table is worth as a scalar. -/
  | worth
  /-- A tag that says nothing here. -/
  | unknown
deriving DecidableEq, Repr

namespace Tag

/-- What the addresses of the known tags begin with. -/
def space : String := "tag:yaml.org,2002:"

/-- The known tags by name. -/
def names : List (String × Tag) := [
  ("null", null), ("bool", bool), ("int", int), ("float", float), ("binary", octets),
  ("timestamp", timestamp), ("omap", ordered), ("pairs", pairs), ("set", set), ("str", text),
  ("seq", list), ("map", table), ("merge", merge), ("value", worth)]

/-- The tag with an address. -/
def ofAddress (address : String) : Tag :=
  ((names.find? fun (name, _) => space ++ name = address).map Prod.snd).getD unknown

/-! ## Forms of plain texts -/

/-- The words for truth values. -/
def boolWords : List String := [
  "yes", "Yes", "YES", "no", "No", "NO", "true", "True", "TRUE", "false", "False", "FALSE",
  "on", "On", "ON", "off", "Off", "OFF"]

/-- The words for nothing. -/
def nullWords : List String := ["~", "null", "Null", "NULL", ""]

/-- Whether a character is a digit, or an underscore between digits. -/
def isGrouped (c : Char) : Bool := c.isDigit || c == '_'

/-- The text without a sign in front. -/
def unsigned (text : List Char) : List Char := (Numeral.splitSign text).2

/-- Whether a text is a number below sixty, of one digit or two. -/
def isSixtieth : List Char → Bool
  | [a] => a.isDigit
  | [a, b] => '0' ≤ a && a ≤ '5' && b.isDigit
  | _ => false

/-- Whether a text is a digit and more digits or underscores; `first` tells what the first digit
may be. -/
def isNumeral (first : Char → Bool) : List Char → Bool
  | [] => false
  | c :: rest => first c && rest.all isGrouped

/-- Whether a text is an exponent with a sign, or empty. -/
def isExponent : List Char → Bool
  | [] => true
  | e :: sign :: digits =>
    (e == 'e' || e == 'E') && (sign == '-' || sign == '+') && !digits.isEmpty &&
      digits.all Char.isDigit
  | _ => false

/-- Whether a text is digits, a point and perhaps an exponent. -/
def isDecimal (text : List Char) : Bool :=
  let (whole, rest) := text.span isGrouped
  match rest with
  | '.' :: rest => isNumeral Char.isDigit whole && isExponent (rest.dropWhile isGrouped)
  | _ => false

/-- Whether a text is a point, digits and perhaps an exponent. -/
def isFraction : List Char → Bool
  | '.' :: rest =>
    let (digits, rest) := rest.span isGrouped
    isNumeral Char.isDigit digits && isExponent rest
  | _ => false

/-- Whether a text has several parts between colons, all but the first below sixty; the last one
may go on with a point and digits if `decimal` is set, and then has to. -/
def isSexagesimal (first : Char → Bool) (decimal : Bool) (text : List Char) : Bool :=
  let (text, rest) := text.span (· != '.')
  (match rest with
    | [] => !decimal
    | _ :: digits => decimal && digits.all isGrouped) &&
  match Text.pieces ':' text with
  | whole :: part :: parts => isNumeral first whole && (part :: parts).all isSixtieth
  | _ => false

/-- Whether a text has the form of a floating point number. -/
def isFloat (text : List Char) : Bool :=
  isDecimal (unsigned text) || isFraction text ||
    isSexagesimal Char.isDigit true (unsigned text) ||
    [".inf", ".Inf", ".INF"].contains (String.ofList (unsigned text)) ||
    [".nan", ".NaN", ".NAN"].contains (String.ofList text)

/-- Whether a character is a digit other than zero. -/
def isLeadingDigit (c : Char) : Bool := c.isDigit && c != '0'

/-- Whether a text has the form of an integer. -/
def isInt (text : List Char) : Bool :=
  let text := unsigned text
  (match text with
    | '0' :: 'b' :: rest => !rest.isEmpty && rest.all fun c => c == '0' || c == '1' || c == '_'
    | '0' :: 'x' :: rest => !rest.isEmpty && rest.all fun c => isHexDigit c || c == '_'
    | '0' :: rest => rest.all fun c => ('0' ≤ c && c ≤ '7') || c == '_'
    | text => isNumeral isLeadingDigit text) ||
  isSexagesimal isLeadingDigit false text

/-- Whether a text has the form of a timestamp; a day alone has to have two digits for month and
day. -/
def isTimestamp (text : List Char) : Bool :=
  match Timestamp.read? text with
  | none => false
  | some t => t.time.isSome || t.isPadded

/-- The text without a line end at its end, unless it is nothing else. -/
def dropLineEnd (text : List Char) : List Char :=
  if text.getLast? = some '\n' ∧ 1 < text.length then text.dropLast else text

/-- The tag that the form of a text gives it. -/
def resolve (text : String) : Tag :=
  let form := dropLineEnd text.toList
  let word := String.ofList form
  if boolWords.contains word then bool
  else if isFloat form then float
  else if isInt form then int
  else if word = "<<" then merge
  else if nullWords.contains word then null
  else if isTimestamp form then timestamp
  else if word = "=" then worth
  else if word = "!" ∨ word = "&" ∨ word = "*" then unknown
  else Tag.text

end Tag

end Enrollment.Yaml
