import Enrollment.Der.Primitive

/-!
# Algorithm identifiers and public key information

An algorithm identifier is an object identifier and, depending on it, parameters: none, an
optional NULL, a curve, the three DSA integers, or anything. `SubjectKey` is the element that
holds an algorithm and the bits of a public key.
-/

namespace Enrollment.X509

open Enrollment.Der

/-! ## Object identifiers -/

def oidRsa : Oid := [0x2a, 0x86, 0x48, 0x86, 0xf7, 0x0d, 0x01, 0x01, 0x01]
def oidEc : Oid := [0x2a, 0x86, 0x48, 0xce, 0x3d, 0x02, 0x01]
def oidDsa : Oid := [0x2a, 0x86, 0x48, 0xce, 0x38, 0x04, 0x01]
def oidX25519 : Oid := [0x2b, 0x65, 0x6e]
def oidX448 : Oid := [0x2b, 0x65, 0x6f]
def oidEd25519 : Oid := [0x2b, 0x65, 0x70]
def oidEd448 : Oid := [0x2b, 0x65, 0x71]

/-- The PKCS #1 arc, under which the RSA signature algorithms stand. -/
def arcPkcs1 : Oid := [0x2a, 0x86, 0x48, 0x86, 0xf7, 0x0d, 0x01, 0x01]
/-- The arc of the ECDSA signatures with SHA-2. -/
def arcEcdsaSha2 : Oid := [0x2a, 0x86, 0x48, 0xce, 0x3d, 0x04, 0x03]
/-- The NIST arc of hash functions. -/
def arcNistHash : Oid := [0x60, 0x86, 0x48, 0x01, 0x65, 0x03, 0x04, 0x02]
/-- The NIST arc of signature algorithms. -/
def arcNistSignature : Oid := [0x60, 0x86, 0x48, 0x01, 0x65, 0x03, 0x04, 0x03]

/-- An object identifier right below an arc. -/
def under (arc : Oid) (n : UInt8) : Oid := arc ++ [n]

def oidRsaSha256 : Oid := under arcPkcs1 0x0b
def oidEcdsaSha256 : Oid := under arcEcdsaSha2 0x02
def oidDsaSha256 : Oid := under arcNistSignature 0x02

/-! ## Parameters -/

/-- What an algorithm admits as parameters. -/
inductive ParameterRule where
  | none
  | optionalNull
  | curve
  | dsa
  | anything

/-- The algorithms that admit no parameters but an optional NULL: hashes and the RSA, DSA and
ECDSA signatures. -/
def nullAlgorithms : List Oid :=
  [oidRsa, [0x2b, 0x0e, 0x03, 0x02, 0x1a], [0x2b, 0x0e, 0x03, 0x02, 0x1d]] ++
  [0x05, 0x0b, 0x0c, 0x0d, 0x0e].map (under arcPkcs1) ++
  [0x01, 0x02, 0x03, 0x04].map (under arcEcdsaSha2) ++
  [0x01, 0x02, 0x03, 0x04, 0x07, 0x08, 0x09, 0x0a].map (under arcNistHash) ++
  [0x01, 0x02, 0x03, 0x04, 0x09, 0x0a, 0x0b, 0x0c, 0x0d, 0x0e, 0x0f, 0x10].map
    (under arcNistSignature)

/-- The rule for the parameters of an algorithm. -/
def parameterRule (algorithm : Oid) : ParameterRule :=
  if [oidX25519, oidX448, oidEd25519, oidEd448].contains algorithm then .none
  else if algorithm = oidEc then .curve
  else if algorithm = oidDsa then .dsa
  else if nullAlgorithms.contains algorithm then .optionalNull
  else .anything

/-- The three integers of DSA parameters: prime, divisor and base. -/
def dsaParameters? (e : Element) : Option (Nat × Nat × Nat) := do
  match ← e.partsOf? tagSequence with
  | [p, q, g] =>
    let p ← natural? (← p.contentOf? tagInteger)
    let q ← natural? (← q.contentOf? tagInteger)
    let g ← natural? (← g.contentOf? tagInteger)
    some (p, q, g)
  | _ => none

/-- Whether an element stands for a curve: its name, NULL, or the curve spelled out. -/
def isCurve (e : Element) : Bool :=
  (e.hasTag tagOid && isOid e.content) || (e.hasTag tagNull && e.content.isEmpty) ||
    e.hasTag tagSequence

/-- Whether parameters obey a rule. -/
def ParameterRule.admits : ParameterRule → Option Element → Bool
  | .none, p => p.isNone
  | .optionalNull, p => p.all fun e => e.hasTag tagNull && e.content.isEmpty
  | .curve, some e => isCurve e
  | .curve, Option.none => false
  | .dsa, some e => (dsaParameters? e).isSome
  | .dsa, Option.none => false
  | .anything, _ => true

/-- An algorithm and its parameters. -/
structure Algorithm where
  oid : Oid
  parameters : Option Element
deriving DecidableEq, Repr, Inhabited

namespace Algorithm

/-- Reads an algorithm identifier. -/
def ofElement? (e : Element) : Option Algorithm := do
  let parts ← e.partsOf? tagSequence
  match parts with
  | [name] => check name none
  | [name, parameters] => check name (some parameters)
  | _ => none
where
  /-- The algorithm, if its name is one and its parameters obey its rule. -/
  check (name : Element) (parameters : Option Element) : Option Algorithm := do
    let oid ← name.contentOf? tagOid
    if isOid oid && (parameterRule oid).admits parameters then some ⟨oid, parameters⟩ else none

/-- The algorithm identifier, encoded. -/
def encode (a : Algorithm) : Octets :=
  sequence [Der.oid a.oid, (a.parameters.map Element.encode).getD []]

/-- An algorithm without parameters. -/
def plain (oid : Oid) : Algorithm := ⟨oid, none⟩

/-- An algorithm with NULL as its parameters. -/
def withNull (oid : Oid) : Algorithm := ⟨oid, some (Element.make tagNull [])⟩

end Algorithm

/-- An algorithm and the bits of a public key for it. -/
structure SubjectKey where
  algorithm : Algorithm
  unused : Nat
  bits : Octets
deriving DecidableEq, Repr, Inhabited

namespace SubjectKey

/-- Reads public key information. -/
def ofElement? (e : Element) : Option SubjectKey := do
  match ← e.partsOf? tagSequence with
  | [algorithm, bits] =>
    let algorithm ← Algorithm.ofElement? algorithm
    let (unused, bits) ← bitString? (← bits.contentOf? tagBitString)
    some ⟨algorithm, unused, bits⟩
  | _ => none

/-- Public key information, encoded. -/
def encode (k : SubjectKey) : Octets :=
  sequence [k.algorithm.encode, wrap tagBitString (UInt8.ofNat k.unused :: k.bits)]

end SubjectKey

end Enrollment.X509
