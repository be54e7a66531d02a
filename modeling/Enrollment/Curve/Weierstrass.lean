import Enrollment.Curve.Modular
import Enrollment.Octets.Basic

/-!
# Curves in short Weierstrass form

The named curves `y² = x³ + ax + b` over prime fields. A point is affine where it is stored and
Jacobian, `(X / Z², Y / Z³)`, where it is computed with.
-/

namespace Enrollment

/-- A named curve. -/
inductive Curve where
  | p224
  | p256
  | p384
  | p521
  | k256
deriving DecidableEq, Repr, Inhabited

/-- The numbers that make a curve: the prime, the two coefficients, the base point and its
order. -/
structure CurveParameters where
  p : Nat
  a : Nat
  b : Nat
  baseX : Nat
  baseY : Nat
  order : Nat

namespace Curve

/-- All named curves. -/
def all : List Curve := [p224, p256, p384, p521, k256]

/-- The numbers of a curve. -/
def parameters : Curve → CurveParameters
  | p224 => {
    p := 0xffffffffffffffffffffffffffffffff000000000000000000000001
    a := 0xfffffffffffffffffffffffffffffffefffffffffffffffffffffffe
    b := 0xb4050a850c04b3abf54132565044b0b7d7bfd8ba270b39432355ffb4
    baseX := 0xb70e0cbd6bb4bf7f321390b94a03c1d356c21122343280d6115c1d21
    baseY := 0xbd376388b5f723fb4c22dfe6cd4375a05a07476444d5819985007e34
    order := 0xffffffffffffffffffffffffffff16a2e0b8f03e13dd29455c5c2a3d }
  | p256 => {
    p := 0xffffffff00000001000000000000000000000000ffffffffffffffffffffffff
    a := 0xffffffff00000001000000000000000000000000fffffffffffffffffffffffc
    b := 0x5ac635d8aa3a93e7b3ebbd55769886bc651d06b0cc53b0f63bce3c3e27d2604b
    baseX := 0x6b17d1f2e12c4247f8bce6e563a440f277037d812deb33a0f4a13945d898c296
    baseY := 0x4fe342e2fe1a7f9b8ee7eb4a7c0f9e162bce33576b315ececbb6406837bf51f5
    order := 0xffffffff00000000ffffffffffffffffbce6faada7179e84f3b9cac2fc632551 }
  | p384 => {
    p :=
      0xfffffffffffffffffffffffffffffffffffffffffffffffffffffffffffffffeffffffff0000000000000000ffffffff
    a :=
      0xfffffffffffffffffffffffffffffffffffffffffffffffffffffffffffffffeffffffff0000000000000000fffffffc
    b :=
      0xb3312fa7e23ee7e4988e056be3f82d19181d9c6efe8141120314088f5013875ac656398d8a2ed19d2a85c8edd3ec2aef
    baseX :=
      0xaa87ca22be8b05378eb1c71ef320ad746e1d3b628ba79b9859f741e082542a385502f25dbf55296c3a545e3872760ab7
    baseY :=
      0x3617de4a96262c6f5d9e98bf9292dc29f8f41dbd289a147ce9da3113b5f0b8c00a60b1ce1d7e819d7a431d7c90ea0e5f
    order :=
      0xffffffffffffffffffffffffffffffffffffffffffffffffc7634d81f4372ddf581a0db248b0a77aecec196accc52973 }
  | p521 => {
    p :=
      0x1ffffffffffffffffffffffffffffffffffffffffffffffffffffffffffffffffffffffffffffffffffffffffffffffffffffffffffffffffffffffffffffffffff
    a :=
      0x1fffffffffffffffffffffffffffffffffffffffffffffffffffffffffffffffffffffffffffffffffffffffffffffffffffffffffffffffffffffffffffffffffc
    b :=
      0x51953eb9618e1c9a1f929a21a0b68540eea2da725b99b315f3b8b489918ef109e156193951ec7e937b1652c0bd3bb1bf073573df883d2c34f1ef451fd46b503f00
    baseX :=
      0xc6858e06b70404e9cd9e3ecb662395b4429c648139053fb521f828af606b4d3dbaa14b5e77efe75928fe1dc127a2ffa8de3348b3c1856a429bf97e7e31c2e5bd66
    baseY :=
      0x11839296a789a3bc0045c8a5fb42c7d1bd998f54449579b446817afbd17273e662c97ee72995ef42640c550b9013fad0761353c7086a272c24088be94769fd16650
    order :=
      0x1fffffffffffffffffffffffffffffffffffffffffffffffffffffffffffffffffa51868783bf2f966b7fcc0148f709a5d03bb5c9b8899c47aebb6fb71e91386409 }
  | k256 => {
    p := 0xfffffffffffffffffffffffffffffffffffffffffffffffffffffffefffffc2f
    a := 0x0
    b := 0x7
    baseX := 0x79be667ef9dcbbac55a06295ce870b07029bfcdb2dce28d959f2815b16f81798
    baseY := 0x483ada7726a3c4655da4fbfc0e1108a8fd17b448a68554199c47d08ffb10d4b8
    order := 0xfffffffffffffffffffffffffffffffebaaedce6af48a03bbfd25e8cd0364141 }

/-- How many octets a coordinate takes. -/
def width : Curve → Nat
  | p224 => 28
  | p256 => 32
  | p384 => 48
  | p521 => 66
  | k256 => 32

/-- The object identifier of a curve. -/
def oid : Curve → Octets
  | p224 => [0x2b, 0x81, 0x04, 0x00, 0x21]
  | p256 => [0x2a, 0x86, 0x48, 0xce, 0x3d, 0x03, 0x01, 0x07]
  | p384 => [0x2b, 0x81, 0x04, 0x00, 0x22]
  | p521 => [0x2b, 0x81, 0x04, 0x00, 0x23]
  | k256 => [0x2b, 0x81, 0x04, 0x00, 0x0a]

/-- The curve with an object identifier. -/
def ofOid? (oid : Octets) : Option Curve := all.find? fun c => c.oid == oid

theorem ofOid?_oid (c : Curve) : ofOid? c.oid = some c := by cases c <;> decide

/-- Whether a pair of coordinates is a point of the curve. -/
def contains (c : Curve) (x y : Nat) : Bool :=
  let k := c.parameters
  x < k.p && y < k.p && y * y % k.p == (x * x * x + k.a * x + k.b) % k.p

/-! ## Jacobian points -/

/-- A point in Jacobian coordinates; `z = 0` is the point at infinity. -/
structure Point where
  x : Nat
  y : Nat
  z : Nat

/-- The point at infinity. -/
def infinity : Point := ⟨1, 1, 0⟩

/-- Twice a point. -/
def double (k : CurveParameters) (q : Point) : Point :=
  let p := k.p
  let yy := q.y * q.y % p
  let s := 4 * q.x * yy % p
  let zz := q.z * q.z % p
  let m := (3 * q.x * q.x + k.a * (zz * zz % p)) % p
  let x := Modular.sub p (m * m % p) (2 * s % p)
  let y := Modular.sub p (m * Modular.sub p s x % p) (8 * yy * yy % p)
  ⟨x, y, 2 * q.y * q.z % p⟩

/-- The sum of two points. -/
def add (k : CurveParameters) (q r : Point) : Point :=
  let p := k.p
  if q.z = 0 then r
  else if r.z = 0 then q
  else
    let zz1 := q.z * q.z % p
    let zz2 := r.z * r.z % p
    let u1 := q.x * zz2 % p
    let u2 := r.x * zz1 % p
    let s1 := q.y * zz2 * r.z % p
    let s2 := r.y * zz1 * q.z % p
    if u1 = u2 then (if s1 = s2 then double k q else infinity)
    else
      let h := Modular.sub p u2 u1
      let t := Modular.sub p s2 s1
      let hh := h * h % p
      let hhh := h * hh % p
      let v := u1 * hh % p
      let x := Modular.sub p (Modular.sub p (t * t % p) hhh) (2 * v % p)
      let y := Modular.sub p (t * Modular.sub p v x % p) (s1 * hhh % p)
      ⟨x, y, h * q.z * r.z % p⟩

/-- `acc + n · q`; `fuel` bounds the bits of `n`. -/
def multiplyFrom (k : CurveParameters) : Nat → Point → Point → Nat → Point
  | 0, acc, _, _ => acc
  | fuel + 1, acc, q, n =>
    if n = 0 then acc
    else multiplyFrom k fuel (if n % 2 = 1 then add k acc q else acc) (double k q) (n / 2)

/-- The affine coordinates of `n` times the base point; `n` is below the order and not zero. -/
def publicPoint (c : Curve) (n : Nat) : Nat × Nat :=
  let k := c.parameters
  let q := multiplyFrom k (Nat.log2 n + 1) infinity ⟨k.baseX, k.baseY, 1⟩ n
  let i := Modular.inverse k.p q.z
  let ii := i * i % k.p
  (q.x * ii % k.p, q.y * ii * i % k.p)

/-! ## Points as octets -/

/-- A point as octets: the mark 4 and both coordinates. -/
def pointOctets (c : Curve) (x y : Nat) : Octets :=
  4 :: Octets.ofNatWidth c.width x ++ Octets.ofNatWidth c.width y

/-- Reads a point: both coordinates, or one and the parity of the other. -/
def point? (c : Curve) : Octets → Option (Nat × Nat)
  | [] => none
  | mark :: rest =>
    let x := Octets.toNat (rest.take c.width)
    let y := Octets.toNat (rest.drop c.width)
    if mark = 4 then
      if rest.length = 2 * c.width && c.contains x y then some (x, y) else none
    else if (mark = 2 ∨ mark = 3) ∧ rest.length = c.width then
      let k := c.parameters
      match Modular.sqrt? k.p (x * x * x + k.a * x + k.b) with
      | none => none
      | some r =>
        let y := if r % 2 = mark.toNat % 2 then r else Modular.sub k.p 0 r
        if c.contains x y then some (x, y) else none
    else none

end Curve

end Enrollment
