import Enrollment.Curve.Modular
import Enrollment.Octets.Basic

/-!
# Montgomery curves

The two key agreement functions of RFC 7748 on the first coordinate of a point, by the ladder
that keeps a multiple of the point and the next one.
-/

namespace Enrollment.Montgomery

/-- The numbers of a curve: the prime, `(A - 2) / 4`, the base point and the octets of a
number. -/
structure Parameters where
  p : Nat
  a24 : Nat
  base : Nat
  width : Nat

/-- The curve of X25519. -/
def curve25519 : Parameters := ⟨Nat.pow 2 255 - 19, 121665, 9, 32⟩

/-- The curve of X448. -/
def curve448 : Parameters := ⟨Nat.pow 2 448 - Nat.pow 2 224 - 1, 39081, 5, 56⟩

/-- A multiple of the base point and the next one, each as a fraction. -/
structure Rung where
  x2 : Nat
  z2 : Nat
  x3 : Nat
  z3 : Nat

/-- The rung with both points exchanged. -/
def Rung.swap (r : Rung) : Rung := ⟨r.x3, r.z3, r.x2, r.z2⟩

/-- The rung for twice the multiple. -/
def Rung.step (k : Parameters) (r : Rung) : Rung :=
  let p := k.p
  let a := (r.x2 + r.z2) % p
  let aa := a * a % p
  let b := Modular.sub p r.x2 r.z2
  let bb := b * b % p
  let e := Modular.sub p aa bb
  let c := (r.x3 + r.z3) % p
  let d := Modular.sub p r.x3 r.z3
  let da := d * a % p
  let cb := c * b % p
  let s := (da + cb) % p
  let t := Modular.sub p da cb
  ⟨aa * bb % p, e * ((aa + k.a24 * e) % p) % p, s * s % p, k.base * (t * t % p) % p⟩

/-- Goes down the lowest `bits` bits of `n`, highest first. -/
def ladder (k : Parameters) (n : Nat) : Nat → Rung → Rung
  | 0, r => r
  | bits + 1, r =>
    if n.testBit bits then ladder k n bits (r.swap.step k).swap else ladder k n bits (r.step k)

/-- `n` times the base point as octets. -/
def multiplyBase (k : Parameters) (n : Nat) : Octets :=
  let r := ladder k n (8 * k.width) ⟨1, 0, k.base, 1⟩
  Octets.ofNatLittle k.width (r.x2 * Modular.inverse k.p r.z2 % k.p)

/-- The X25519 public key of 32 secret octets. -/
def public25519 (secret : Octets) : Octets :=
  let n := Octets.toNatLittle secret
  multiplyBase curve25519 (n % Nat.pow 2 254 / 8 * 8 + Nat.pow 2 254)

/-- The X448 public key of 56 secret octets. -/
def public448 (secret : Octets) : Octets :=
  let n := Octets.toNatLittle secret
  multiplyBase curve448 (n % Nat.pow 2 447 / 4 * 4 + Nat.pow 2 447)

end Enrollment.Montgomery
