import Enrollment.Octets.Utf8
import Enrollment.Value

/-!
# Issues of a configuration

Checking a configuration goes on after the first fault, so the outcome of a check is a value or a
list of issues. An issue says where it is, what is wrong and what was found there.
-/

namespace Enrollment.Configuration

/-- What can be wrong with a part of a configuration. -/
inductive Problem where
  | notSection (name : String)
  | frozen
  | missing
  | notText
  | notInteger
  | notNumeral
  | fractional
  | longNumeral
  | notFinite
  | below (least : Nat)
  | above (greatest : Nat)
  | notNumber
  | notNumberText
  | notPositive
  | notBoolean
  | notBooleanText
  | notPath
  | notChoice (choices : List String)
  | missingCredentials (mode : String)
deriving DecidableEq, Repr

namespace Problem

/-- The choices with a comma between them and an "or" before the last. -/
def choiceText : List String → String
  | [] => ""
  | [a] => "'" ++ a ++ "'"
  | [a, b] => "'" ++ a ++ "' or '" ++ b ++ "'"
  | a :: more => "'" ++ a ++ "', " ++ choiceText more

/-- The word for a kind of problem. -/
def kind : Problem → String
  | notSection _ => "model_type"
  | frozen => "frozen_instance"
  | missing => "missing"
  | notText => "string_type"
  | notInteger => "int_type"
  | notNumeral => "int_parsing"
  | fractional => "int_from_float"
  | longNumeral => "int_parsing_size"
  | notFinite => "finite_number"
  | below _ => "greater_than_equal"
  | above _ => "less_than_equal"
  | notNumber => "float_type"
  | notNumberText => "float_parsing"
  | notPositive => "greater_than"
  | notBoolean => "bool_type"
  | notBooleanText => "bool_parsing"
  | notPath => "path_type"
  | notChoice _ => "enum"
  | missingCredentials _ => "value_error"

/-- What is wrong, for a reader. -/
def message : Problem → String
  | notSection name => "Input should be a valid dictionary or instance of " ++ name
  | frozen => "Instance is frozen"
  | missing => "Field required"
  | notText => "Input should be a valid string"
  | notInteger => "Input should be a valid integer"
  | notNumeral => "Input should be a valid integer, unable to parse string as an integer"
  | fractional => "Input should be a valid integer, got a number with a fractional part"
  | longNumeral => "Unable to parse input string as an integer, exceeded maximum size"
  | notFinite => "Input should be a finite number"
  | below least => "Input should be greater than or equal to " ++ toString least
  | above greatest => "Input should be less than or equal to " ++ toString greatest
  | notNumber => "Input should be a valid number"
  | notNumberText => "Input should be a valid number, unable to parse string as a number"
  | notPositive => "Input should be greater than 0"
  | notBoolean => "Input should be a valid boolean"
  | notBooleanText => "Input should be a valid boolean, unable to interpret input"
  | notPath => "Input is not a valid path for <class 'pathlib.Path'>"
  | notChoice choices => "Input should be " ++ choiceText choices
  | missingCredentials mode =>
    "Value error, auth mode '" ++ mode ++ "' requires the '" ++ mode ++ "' section"

end Problem

/-- A problem, where it is and what was found there. -/
structure Issue where
  place : List String
  problem : Problem
  found : Value
deriving Repr

namespace Issue

/-- The issue as seen from the section that the place is in. -/
def inside (name : String) (i : Issue) : Issue := { i with place := name :: i.place }

/-- The longest beginning of a text with at most `limit` octets. -/
def headWithin : Nat → List Char → List Char
  | _, [] => []
  | limit, c :: more =>
    let width := (Octets.ofChar c).length
    if width ≤ limit then c :: headWithin (limit - width) more else []

/-- A text of at most fifty octets; of a longer one both ends. -/
def abridged (text : String) : String :=
  let chars := text.toList
  if (Octets.ofChars chars).length ≤ 50 then text
  else
    String.ofList (headWithin 25 chars) ++ "..." ++
      String.ofList (headWithin 24 chars.reverse).reverse

/-- What an issue shows of what was found. A value that cannot be written down is only named. -/
def shown (i : Issue) : String :=
  abridged <| if i.found.isWritable then i.found.wording
    else "<unprintable " ++ i.found.kindName ++ " object>"

/-- The issue on two lines; an issue of the whole has one. -/
def text (i : Issue) : String :=
  (if i.place.isEmpty then "" else String.intercalate "." i.place ++ "\n") ++
    "  " ++ i.problem.message ++ " [type=" ++ i.problem.kind ++ ", input_value=" ++
    i.shown ++ ", input_type=" ++ i.found.kindName ++ "]"

end Issue

/-- The issues of a configuration, one after the other. -/
def issuesText (issues : List Issue) : String :=
  toString issues.length ++ " validation error" ++ (if issues.length = 1 then "" else "s") ++
    " for ClientConfig\n" ++ String.intercalate "\n" (issues.map Issue.text)

/-- The outcome of a check. -/
abbrev Checked (α : Type) := Except (List Issue) α

namespace Checked

/-- A check that found one problem. -/
def fail (problem : Problem) (found : Value) : Checked α := .error [⟨[], problem, found⟩]

/-- Two checks, both made. -/
def both (a : Checked α) (b : Checked β) : Checked (α × β) :=
  match a, b with
  | .ok a, .ok b => .ok (a, b)
  | .error i, .ok _ => .error i
  | .ok _, .error k => .error k
  | .error i, .error k => .error (i ++ k)

/-- A check of something in a section. -/
def inside (name : String) (a : Checked α) : Checked α := a.mapError (List.map (Issue.inside name))

end Checked

end Enrollment.Configuration
