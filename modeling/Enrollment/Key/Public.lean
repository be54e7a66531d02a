import Enrollment.Curve.Weierstrass
import Enrollment.X509.Algorithm

/-!
# Public keys

The public halves of the key types, and their one encoding as public key information: two keys
are the same when these octets are the same.
-/

namespace Enrollment

open Der X509

/-- A public key. -/
inductive PublicKey where
  | rsa (modulus exponent : Nat)
  | dsa (p q g y : Nat)
  | ec (curve : Curve) (x y : Nat)
  | ed25519 (bytes : Octets)
  | ed448 (bytes : Octets)
  | x25519 (bytes : Octets)
  | x448 (bytes : Octets)
deriving DecidableEq, Repr

namespace PublicKey

/-- The parameters of a DSA key. -/
def dsaAlgorithm (p q g : Nat) : Algorithm :=
  ⟨oidDsa, some (.make tagSequence ([p, q, g].flatMap natural))⟩

/-- The algorithm of an elliptic curve key: the curve by its name. -/
def ecAlgorithm (curve : Curve) : Algorithm := ⟨oidEc, some (.make tagOid curve.oid)⟩

/-- The algorithm and bits of a key. -/
def subjectKey : PublicKey → SubjectKey
  | .rsa modulus exponent => ⟨.withNull oidRsa, 0, sequence [natural modulus, natural exponent]⟩
  | .dsa p q g y => ⟨dsaAlgorithm p q g, 0, natural y⟩
  | .ec curve x y => ⟨ecAlgorithm curve, 0, curve.pointOctets x y⟩
  | .ed25519 bytes => ⟨.plain oidEd25519, 0, bytes⟩
  | .ed448 bytes => ⟨.plain oidEd448, 0, bytes⟩
  | .x25519 bytes => ⟨.plain oidX25519, 0, bytes⟩
  | .x448 bytes => ⟨.plain oidX448, 0, bytes⟩

/-- The public key information of a key. -/
def encode (k : PublicKey) : Octets := k.subjectKey.encode

/-- The natural numbers of a sequence of integers. -/
def naturals? (e : Element) : Option (List Nat) := do
  (← e.partsOf? tagSequence).mapM fun part => do natural? (← part.contentOf? tagInteger)

/-- The curve that parameters name. -/
def curve? (parameters : Option Element) : Option Curve := do
  Curve.ofOid? (← (← parameters).contentOf? tagOid)

/-- The key that an algorithm and bits stand for. -/
def ofSubjectKey? (k : SubjectKey) : Option PublicKey := do
  if k.unused ≠ 0 then none
  let oid := k.algorithm.oid
  if oid = oidRsa then
    match ← naturals? (← Element.readOne k.bits) with
    | [modulus, exponent] => some (.rsa modulus exponent)
    | _ => none
  else if oid = oidDsa then
    let (p, q, g) ← dsaParameters? (← k.algorithm.parameters)
    some (.dsa p q g (← natural? (← (← Element.readOne k.bits).contentOf? tagInteger)))
  else if oid = oidEc then
    let curve ← curve? k.algorithm.parameters
    let (x, y) ← curve.point? k.bits
    some (.ec curve x y)
  else if oid = oidEd25519 then sized 32 (.ed25519 k.bits)
  else if oid = oidEd448 then sized 57 (.ed448 k.bits)
  else if oid = oidX25519 then sized 32 (.x25519 k.bits)
  else if oid = oidX448 then sized 56 (.x448 k.bits)
  else none
where
  /-- The key, if the bits are so many octets. -/
  sized (n : Nat) (key : PublicKey) : Option PublicKey :=
    if k.bits.length = n then some key else none

end PublicKey

end Enrollment
