/-!
# Arithmetic modulo a number

Powers by repeated squaring, and what they give modulo a prime: inverses and, where the prime is
one less than a multiple of four, square roots.
-/

namespace Enrollment.Modular

/-- `base ^ exponent` modulo `m`, multiplied into `acc`; `fuel` bounds the bits of the
exponent. -/
def powFrom (m : Nat) : Nat → Nat → Nat → Nat → Nat
  | 0, acc, _, _ => acc
  | fuel + 1, acc, base, exponent =>
    if exponent = 0 then acc
    else
      powFrom m fuel (if exponent % 2 = 1 then acc * base % m else acc) (base * base % m)
        (exponent / 2)

/-- `base ^ exponent` modulo `m`. -/
def pow (m base exponent : Nat) : Nat :=
  powFrom m (Nat.log2 exponent + 1) (1 % m) (base % m) exponent

/-- The inverse of `a` modulo the prime `p`. -/
def inverse (p a : Nat) : Nat := pow p a (p - 2)

/-- `a - b` modulo `m`, for `a` and `b` below `m`. -/
def sub (m a b : Nat) : Nat := (a + m - b) % m

/-- A square root of `a` modulo a prime `p` with `p % 4 = 3`, if there is one. -/
def sqrt? (p a : Nat) : Option Nat :=
  let r := pow p a ((p + 1) / 4)
  if r * r % p = a % p then some r else none

end Enrollment.Modular
