import Enrollment.Decimal.Shortest

/-!
# Decimals with a given number of digits

A quotient is written with so many places after the decimal point (`places`) or with so many
digits from the first one on that is not zero (`leading`). Both round the exact quotient to the
nearest, a half to the even digit.
-/

namespace Enrollment.Binary64

/-- The digits of a number, with zeros in front if there are fewer than `least`. -/
def paddedDigits (least n : Nat) : List Char :=
  let digits := digitsOf n
  List.replicate (least - digits.length) '0' ++ digits

/-- The digits of `num / den` before the decimal point, and `count` digits after it. -/
def places (num den count : Nat) : List Char × List Char :=
  let n := roundDiv (num * Nat.pow 10 count) den
  (digitsOf (n / Nat.pow 10 count),
    if count = 0 then [] else paddedDigits count (n % Nat.pow 10 count))

/-- The least `e`, up from `guess`, with `num / den < 10 ^ e`. -/
def powerAbove (num den : Nat) : Nat → Int → Int
  | 0, guess => guess
  | fuel + 1, guess =>
    let (up, down) := tenTo guess
    if num * down < up * den then guess else powerAbove num den fuel (guess + 1)

/-- The `count` leading digits of `num / den`, and the power of ten that stands above the first:
the quotient is about `0.digits · 10 ^ place`. Zero has zeros for digits and one of them before
the point. -/
def leading (num den count : Nat) : List Char × Int :=
  if num = 0 then (List.replicate count '0', 1)
  else
    let guess : Int := ((Nat.log2 num : Int) - (Nat.log2 den : Int) - 1) * 30103 / 100000 - 1
    let place := powerAbove num den 5 guess
    let (up, down) := tenTo ((count : Int) - place)
    let n := roundDiv (num * up) (den * down)
    if n = Nat.pow 10 count then (digitsOf (Nat.pow 10 (count - 1)), place + 1)
    else (digitsOf n, place)

example : places 5 2 0 = (['2'], []) ∧ places 1 8 2 = (['0'], ['1', '2']) := by decide +kernel

example : leading 995 1 2 = (['1', '0'], 4) ∧ leading 1 300 3 = (['3', '3', '3'], -2) := by
  decide +kernel

end Enrollment.Binary64
