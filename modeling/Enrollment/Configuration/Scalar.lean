import Enrollment.Configuration.Issue
import Enrollment.Decimal.Numeral
import Enrollment.Files.Path

/-!
# Single values of a configuration

Readers for the kinds of values that a section can hold. Numbers may be written as texts, and
truth values as words or as zero and one.
-/

namespace Enrollment.Configuration

/-- Reads a text. -/
def text (v : Value) : Checked String :=
  match v with
  | .text s => .ok s
  | .octets bytes =>
    match Octets.utf8? bytes with
    | some s => .ok s
    | none => Checked.fail .notText v
  | _ => Checked.fail .notText v

/-- Reads an integer: of a floating point number the value, if it has no fraction. -/
def integer (v : Value) : Checked Int :=
  match v with
  | .int n => .ok n
  | .bool b => .ok (if b then 1 else 0)
  | .float x =>
    if !x.isFinite then Checked.fail .notFinite v
    else match x.toInt? with
      | none => Checked.fail .fractional v
      | some n => if n.natAbs < Nat.pow 2 63 then .ok n else Checked.fail .longNumeral v
  | .text s =>
    match Numeral.integer s.toList with
    | .ok n => .ok n
    | .error .notNumeral => Checked.fail .notNumeral v
    | .error .tooLong => Checked.fail .longNumeral v
  | _ => Checked.fail .notInteger v

/-- Reads an integer that is not below `least`. -/
def integerFrom (least : Nat) (v : Value) : Checked Int :=
  (integer v).bind fun n => if n < least then Checked.fail (.below least) v else .ok n

/-- Reads an integer from `least` to `greatest`. -/
def integerWithin (least greatest : Nat) (v : Value) : Checked Int :=
  (integerFrom least v).bind fun n =>
    if (greatest : Int) < n then Checked.fail (.above greatest) v else .ok n

/-- Reads a floating point number. An integer that is too large for one is none. -/
def number (v : Value) : Checked Binary64 :=
  match v with
  | .float x => .ok x
  | .int n =>
    match Binary64.ofInt n with
    | .infinite _ => Checked.fail .notNumber v
    | x => .ok x
  | .bool b => .ok (.ofInt (if b then 1 else 0))
  | .text s =>
    match Numeral.number? s.toList with
    | some x => .ok x
    | none => Checked.fail .notNumberText v
  | _ => Checked.fail .notNumber v

/-- Reads a floating point number above zero. -/
def positiveNumber (v : Value) : Checked Binary64 :=
  (number v).bind fun x => if x.isPositive then .ok x else Checked.fail .notPositive v

/-- The words for a truth value. -/
def truthWords : List String := ["1", "on", "t", "true", "y", "yes"]

/-- The words for the other one. -/
def falsehoodWords : List String := ["0", "off", "f", "false", "n", "no"]

/-- Reads a truth value. -/
def boolean (v : Value) : Checked Bool :=
  let ofInteger (n : Int) : Checked Bool :=
    if n = 0 then .ok false else if n = 1 then .ok true else Checked.fail .notBooleanText v
  match v with
  | .bool b => .ok b
  | .int n => ofInteger n
  | .float x =>
    match x.toInt? with
    | some n => ofInteger n
    | none => Checked.fail .notBoolean v
  | .text s =>
    if truthWords.any fun w => Numeral.isWord w s.toList then .ok true
    else if falsehoodWords.any fun w => Numeral.isWord w s.toList then .ok false
    else Checked.fail .notBooleanText v
  | _ => Checked.fail .notBoolean v

/-- Reads a path. -/
def path (v : Value) : Checked Path :=
  match v with
  | .text s => .ok (.ofText s)
  | _ => Checked.fail .notPath v

/-- Reads one of several words. -/
def choice (options : List (String × α)) (v : Value) : Checked α :=
  let refused : Checked α := Checked.fail (.notChoice (options.map Prod.fst)) v
  match v with
  | .text s =>
    match options.lookup s with
    | some a => .ok a
    | none => refused
  | _ => refused

/-- Reads what may be left empty. -/
def optional (read : Value → Checked α) (v : Value) : Checked (Option α) :=
  match v with
  | .null => .ok none
  | v => (read v).map some

/-- The entries of a section. -/
def entries (name : String) (v : Value) : Checked (List (Value × Value)) :=
  match v with
  | .table entries => .ok entries
  | _ => Checked.fail (.notSection name) v

/-- Reads an entry of a section, which has a default. -/
def entryOr (section_ : List (Value × Value)) (key : String) (default : α)
    (read : Value → Checked α) : Checked α :=
  match Value.entry? key section_ with
  | some v => (read v).inside key
  | none => .ok default

/-- Reads an entry that a section has to have. -/
def entry (section_ : List (Value × Value)) (key : String) (read : Value → Checked α) :
    Checked α :=
  match Value.entry? key section_ with
  | some v => (read v).inside key
  | none => .error [⟨[key], .missing, .table section_⟩]

end Enrollment.Configuration
