import Enrollment.Decimal.Numeral
import Enrollment.Text.Digit

/-!
# Integers in other bases

Integers as people type them: blanks around, a sign, a mark for the base, single underscores
between the digits, and decimal digits of any script.
-/

namespace Enrollment.Radix

/-- Why a text is not an integer. -/
inductive Fault where
  | notInteger
  | tooLong (digits : Nat)
deriving DecidableEq, Repr

/-- How many digits an integer may have, unless the base is a power of two. -/
def digitLimit : Nat := 4300

/-- The value of a digit or letter. -/
def digitValue? (c : Char) : Option Nat :=
  match Text.decimalDigit? c with
  | some d => some d
  | none =>
    if 'a' ≤ c ∧ c ≤ 'z' then some (c.toNat - 87)
    else if 'A' ≤ c ∧ c ≤ 'Z' then some (c.toNat - 55)
    else none

/-- The value of a digit in a base. -/
def digit? (radix : Nat) (c : Char) : Option Nat := (digitValue? c).filter (· < radix)

/-- The values of digits between which single underscores may stand. -/
def digits? (radix : Nat) : List Char → Option (List Nat)
  | [] => none
  | [c] => (digit? radix c).map fun d => [d]
  | c :: '_' :: more => do return (← digit? radix c) :: (← digits? radix more)
  | c :: more => do return (← digit? radix c) :: (← digits? radix more)

/-- The letter that marks a base. -/
def letter? : Nat → Option Char
  | 2 => some 'b'
  | 8 => some 'o'
  | 16 => some 'x'
  | _ => none

/-- The text without the mark of its base. One underscore may follow the mark. -/
def dropMark (radix : Nat) (text : List Char) : List Char :=
  match text, letter? radix with
  | z :: m :: rest, some letter =>
    if Text.decimalDigit? z = some 0 ∧ m.toLower = letter then
      (if rest.head? = some '_' then rest.tail else rest)
    else text
  | _, _ => text

/-- The integer that a text spells in a base. -/
def read (radix : Nat) (text : List Char) : Except Fault Int :=
  let (negative, rest) := Numeral.splitSign (Text.trim text)
  let rest := dropMark radix rest
  match digits? radix rest with
  | none => .error .notInteger
  | some digits =>
    if (letter? radix).isNone ∧ digitLimit < digits.length then .error (.tooLong digits.length)
    else
      let n : Nat := digits.foldl (fun n d => n * radix + d) 0
      .ok (if negative then -(n : Int) else n)

end Enrollment.Radix
