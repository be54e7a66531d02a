import Enrollment.Decimal.Binary64

/-!
# Shortest decimal text

A finite number is written with the fewest digits that read back as it, and of the texts with so
many digits with the one nearest to it. Exponents below -4 and from 16 on are written in
scientific notation.
-/

namespace Enrollment.Binary64

/-- Ten to an integer power as a quotient. -/
def tenTo (e : Int) : Nat × Nat :=
  if 0 ≤ e then (Nat.pow 10 e.toNat, 1) else (1, Nat.pow 10 (-e).toNat)

/-- The reals that round to `mantissa · 2 ^ exponent`, as a quotient of four times the mantissa
scale: lower end, upper end, and whether the ends themselves round to it. -/
structure RoundingInterval where
  low : Nat
  middle : Nat
  high : Nat
  scale : Nat
  closed : Bool

/-- The interval of a number that is not zero. The gap below a power of two is half as wide. -/
def roundingInterval (mantissa : Nat) (exponent : Int) : RoundingInterval :=
  let below := if mantissa = Nat.pow 2 52 ∧ -1074 < exponent then 1 else 2
  let (up, down) :=
    if 0 ≤ exponent then (Nat.pow 2 exponent.toNat, 1) else (1, Nat.pow 2 (-exponent).toNat)
  { low := (4 * mantissa - below) * up
    middle := 4 * mantissa * up
    high := (4 * mantissa + 2) * up
    scale := 4 * down
    closed := mantissa % 2 = 0 }

/-- Whether `n · 10 ^ e` lies in the interval. -/
def RoundingInterval.contains (i : RoundingInterval) (n : Nat) (e : Int) : Bool :=
  let (num, den) := tenTo e
  let x := n * num * i.scale
  if i.closed then i.low * den ≤ x && x ≤ i.high * den else i.low * den < x && x < i.high * den

/-- How far `n · 10 ^ e` is from the middle, on a scale common to all `n`. -/
def RoundingInterval.distance (i : RoundingInterval) (n : Nat) (e : Int) : Nat :=
  let (num, den) := tenTo e
  let x := n * num * i.scale
  let m := i.middle * den
  (x - m) + (m - x)

/-- The power of ten just above the middle: the least `e`, up from `guess`, with
`middle / scale < 10 ^ e`. -/
def RoundingInterval.decimalPlace (i : RoundingInterval) : Nat → Int → Int
  | 0, guess => guess
  | fuel + 1, guess =>
    let (num, den) := tenTo guess
    if i.middle * den < num * i.scale then guess else i.decimalPlace fuel (guess + 1)

/-- The best multiple of `10 ^ e` in the interval: the nearer of the two neighbours of the
middle, at a tie the even one. -/
def RoundingInterval.onGrid (i : RoundingInterval) (e : Int) : Option Nat :=
  let (num, den) := tenTo e
  let lower := i.middle * den / (num * i.scale)
  let upper := lower + 1
  match i.contains lower e, i.contains upper e with
  | true, true =>
    let a := i.distance lower e
    let b := i.distance upper e
    some (if a < b then lower else if b < a then upper
      else if lower % 2 = 0 then lower else upper)
  | true, false => some lower
  | false, true => some upper
  | false, false => none

/-- Tries the grids of `10 ^ (place - 1)`, `10 ^ (place - 2)` and so on. -/
def RoundingInterval.search (i : RoundingInterval) : Nat → Int → Nat × Int
  | 0, e => (i.middle / i.scale, e)
  | fuel + 1, e =>
    match i.onGrid (e - 1) with
    | some n => (n, e - 1)
    | none => i.search fuel (e - 1)

/-- The digits of a number in base ten. -/
def digitsOf (n : Nat) : List Char := (toString n).toList

/-- The shortest digits of a number that is not zero, and the power of ten that stands above the
first of them: the number reads `0.digits · 10 ^ place`. -/
def shortest (mantissa : Nat) (exponent : Int) : List Char × Int :=
  let i := roundingInterval mantissa exponent
  let guess : Int := ((Nat.log2 mantissa : Int) + exponent) * 30103 / 100000 - 1
  let place := i.decimalPlace 4 guess
  let (n, e) := i.search 18 place
  let digits := digitsOf n
  let trimmed := (digits.reverse.dropWhile (· == '0')).reverse
  (trimmed, e + digits.length)

/-- Digits with a decimal point, or in scientific notation when the exponent is far from zero. -/
def layOut (digits : List Char) (place : Int) : List Char :=
  let count : Int := digits.length
  if -4 < place ∧ place ≤ 16 then
    if place ≤ 0 then '0' :: '.' :: List.replicate (-place).toNat '0' ++ digits
    else if count ≤ place then
      digits ++ List.replicate (place - count).toNat '0' ++ ['.', '0']
    else digits.take place.toNat ++ '.' :: digits.drop place.toNat
  else
    let e := place - 1
    let mark := if e < 0 then '-' else '+'
    let power := digitsOf e.natAbs
    let power := if power.length < 2 then '0' :: power else power
    let front := match digits with
      | [] => []
      | [d] => [d]
      | d :: more => d :: '.' :: more
    front ++ 'e' :: mark :: power

/-- The text of a number. -/
def text : Binary64 → String
  | .nan => "nan"
  | .infinite negative => if negative then "-inf" else "inf"
  | .finite negative mantissa exponent =>
    let body :=
      if mantissa = 0 then ['0', '.', '0']
      else
        let (digits, place) := shortest mantissa exponent
        layOut digits place
    String.ofList (if negative then '-' :: body else body)

end Enrollment.Binary64
