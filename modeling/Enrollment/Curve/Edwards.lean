import Enrollment.Curve.Modular
import Enrollment.Hash.Sha512
import Enrollment.Hash.Shake256

/-!
# Edwards curves

The two curves `ax² + y² = 1 + dx²y²` of RFC 8032, and how a secret seed becomes a public key: the
hash of the seed, with some bits set and cleared, counts how often the base point is added.
-/

namespace Enrollment.Edwards

/-- The numbers that make a curve. -/
structure Parameters where
  p : Nat
  a : Nat
  d : Nat
  baseX : Nat
  baseY : Nat
  width : Nat

/-- The curve of Ed25519. -/
def curve25519 : Parameters where
  p := Nat.pow 2 255 - 19
  a := Nat.pow 2 255 - 20
  d := 37095705934669439343138083508754565189542113879843219016388785533085940283555
  baseX := 15112221349535400772501151409588531511454012693041857206046113283949847762202
  baseY := 46316835694926478169428394003475163141307993866256225615783033603165251855960
  width := 32

/-- The curve of Ed448. -/
def curve448 : Parameters where
  p := Nat.pow 2 448 - Nat.pow 2 224 - 1
  a := 1
  d := Nat.pow 2 448 - Nat.pow 2 224 - 1 - 39081
  baseX := 0x4f1970c66bed0ded221d15a622bf36da9e146570470f1767ea6de324a3d3a46412ae1af72ab66511433b80e18b00938e2626a82bc70cc05e
  baseY := 0x693f46716eb6bc248876203756c9c7624bea73736ca3984087789c1e05a0c2d73ad3ff1ce67c39c4fdbd132c4ed7c8ad9808795bf230fa14
  width := 57

/-- A point in projective coordinates. -/
structure Point where
  x : Nat
  y : Nat
  z : Nat

/-- The sum of two points; the formula holds for all pairs. -/
def add (k : Parameters) (q r : Point) : Point :=
  let p := k.p
  let a := q.z * r.z % p
  let b := a * a % p
  let c := q.x * r.x % p
  let d := q.y * r.y % p
  let e := k.d * c * d % p
  let f := Modular.sub p b e
  let g := (b + e) % p
  let cross := Modular.sub p ((q.x + q.y) * (r.x + r.y) % p) ((c + d) % p)
  ⟨a * f * cross % p, a * g * Modular.sub p d (k.a * c % p) % p, f * g % p⟩

/-- `acc + n · q`; `fuel` bounds the bits of `n`. -/
def multiplyFrom (k : Parameters) : Nat → Point → Point → Nat → Point
  | 0, acc, _, _ => acc
  | fuel + 1, acc, q, n =>
    if n = 0 then acc
    else multiplyFrom k fuel (if n % 2 = 1 then add k acc q else acc) (add k q q) (n / 2)

/-- `n` times the base point as octets: the second coordinate, least significant octet first,
with the parity of the first coordinate in the highest bit. -/
def multiplyBase (k : Parameters) (n : Nat) : Octets :=
  let q := multiplyFrom k (Nat.log2 n + 1) ⟨0, 1, 1⟩ ⟨k.baseX, k.baseY, 1⟩ n
  let i := Modular.inverse k.p q.z
  let x := q.x * i % k.p
  let y := q.y * i % k.p
  Octets.ofNatLittle k.width (y + x % 2 * Nat.pow 2 (8 * k.width - 1))

/-- The Ed25519 public key of a seed of 32 octets. -/
def public25519 (seed : Octets) : Octets :=
  let h := Octets.toNatLittle ((Hash.sha512 seed).take 32)
  multiplyBase curve25519 (h % Nat.pow 2 254 / 8 * 8 + Nat.pow 2 254)

/-- The Ed448 public key of a seed of 57 octets. -/
def public448 (seed : Octets) : Octets :=
  let h := Octets.toNatLittle ((Hash.shake256 114 seed).take 56)
  multiplyBase curve448 (h % Nat.pow 2 447 / 4 * 4 + Nat.pow 2 447)

end Enrollment.Edwards
