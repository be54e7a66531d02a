/-!
# Binary floating point

A number of the 64-bit binary format, held exactly: a mantissa below 2^53 and a power of two.
`ofRatio` rounds a quotient of natural numbers to the nearest such number, a half to the even
mantissa.
-/

namespace Enrollment

/-- A number of the 64-bit binary floating point format. A finite one is
`± mantissa · 2 ^ exponent` with `-1074 ≤ exponent`. -/
inductive Binary64 where
  | nan
  | infinite (negative : Bool)
  | finite (negative : Bool) (mantissa : Nat) (exponent : Int)
deriving DecidableEq, Repr, Inhabited

namespace Binary64

/-- The quotient of two natural numbers, rounded to the nearest, a half to the even one. -/
def roundDiv (num den : Nat) : Nat :=
  let floor := num / den
  let twice := 2 * (num % den)
  if twice < den then floor
  else if den < twice then floor + 1
  else if floor % 2 = 0 then floor else floor + 1

/-- `num / den` scaled by `2 ^ (-exponent)`, as a quotient. -/
def scaled (num den : Nat) (exponent : Int) : Nat × Nat :=
  if 0 ≤ exponent then (num, den * Nat.pow 2 exponent.toNat)
  else (num * Nat.pow 2 (-exponent).toNat, den)

/-- The number nearest to `± num / den`; `den` is not zero. -/
def ofRatio (negative : Bool) (num den : Nat) : Binary64 :=
  if num = 0 then .finite negative 0 (-1074)
  else
    let guess : Int := (Nat.log2 num : Int) - (Nat.log2 den : Int) - 52
    -- the guess gives a mantissa of 52 to 54 bits; one step makes it exactly 53
    let exact : Int :=
      let (n, d) := scaled num den guess
      if n < d * Nat.pow 2 52 then guess - 1 else if d * Nat.pow 2 53 ≤ n then guess + 1 else guess
    let exponent : Int := max exact (-1074)
    let (n, d) := scaled num den exponent
    let mantissa := roundDiv n d
    let (mantissa, exponent) :=
      if mantissa = Nat.pow 2 53 then (Nat.pow 2 52, exponent + 1) else (mantissa, exponent)
    if 971 < exponent then .infinite negative else .finite negative mantissa exponent

/-- The number nearest to `± digits · 10 ^ exponent`. Powers beyond the range of the format are
decided without being written out. -/
def ofDecimal (negative : Bool) (digits : Nat) (exponent : Int) : Binary64 :=
  if digits = 0 then .finite negative 0 (-1074)
  else
    let magnitude : Int := (Nat.log2 digits : Int) * 3 / 10 + exponent
    if 330 < magnitude then .infinite negative
    else if magnitude < -400 - (Nat.log2 digits : Int) then .finite negative 0 (-1074)
    else if 0 ≤ exponent then ofRatio negative (digits * Nat.pow 10 exponent.toNat) 1
    else ofRatio negative digits (Nat.pow 10 (-exponent).toNat)

/-- The number nearest to an integer. -/
def ofInt (n : Int) : Binary64 := ofRatio (n < 0) n.natAbs 1

/-- The value of a finite number as a quotient: sign, numerator and denominator. -/
def ratio? : Binary64 → Option (Bool × Nat × Nat)
  | .finite negative mantissa exponent =>
    if 0 ≤ exponent then some (negative, mantissa * Nat.pow 2 exponent.toNat, 1)
    else some (negative, mantissa, Nat.pow 2 (-exponent).toNat)
  | _ => none

/-- The integer that a finite number is, if it is one. -/
def toInt? (x : Binary64) : Option Int :=
  match x.ratio? with
  | some (negative, num, den) =>
    if num % den = 0 then some (if negative then -(num / den : Int) else (num / den : Int))
    else none
  | none => none

/-- The number with the other sign. -/
def negate : Binary64 → Binary64
  | .nan => .nan
  | .infinite negative => .infinite !negative
  | .finite negative mantissa exponent => .finite (!negative) mantissa exponent

/-- The sum of two numbers, rounded to the nearest. -/
def add (x y : Binary64) : Binary64 :=
  match x.ratio?, y.ratio? with
  | some (s, n, d), some (t, m, e) =>
    let signed (negative : Bool) (k : Nat) : Int := if negative then -(k : Int) else k
    let sum := signed s n * e + signed t m * d
    ofRatio (if sum = 0 then s && t else sum < 0) sum.natAbs (d * e)
  | some _, none => y
  | none, some _ => x
  | none, none => if x = y then x else .nan

/-- The product of a number and a natural number, rounded to the nearest. -/
def timesNat (x : Binary64) (k : Nat) : Binary64 :=
  match x.ratio? with
  | some (negative, n, d) => ofRatio negative (n * k) d
  | none => if k = 0 then .nan else x

/-- Whether the number is finite. -/
def isFinite : Binary64 → Bool
  | .finite _ _ _ => true
  | _ => false

/-- Whether the number is above zero. -/
def isPositive : Binary64 → Bool
  | .nan => false
  | .infinite negative => !negative
  | .finite negative mantissa _ => !negative && mantissa != 0

/-- Whether the number is zero, of either sign. -/
def isZero : Binary64 → Bool
  | .finite _ mantissa _ => mantissa == 0
  | _ => false

end Binary64

end Enrollment
