import Enrollment.Curve.Edwards
import Enrollment.Curve.Montgomery
import Enrollment.Error
import Enrollment.Key.Public
import Enrollment.Pem

/-!
# Private keys

A private key is read from PKCS #8 or from one of the three older forms, and written as PKCS #8
without encryption. `PrivateKey.publicKey` computes the public half where it is not stored.
-/

namespace Enrollment

open Der X509

/-- The eight numbers of an RSA key after its version. -/
structure RsaNumbers where
  n : Nat
  e : Nat
  d : Nat
  p : Nat
  q : Nat
  dp : Nat
  dq : Nat
  qInverse : Nat
deriving DecidableEq, Repr

/-- Whether the numbers of an RSA key fit together. -/
def RsaNumbers.isConsistent (k : RsaNumbers) : Bool :=
  1 < k.p && 1 < k.q && k.p * k.q == k.n && k.e % 2 == 1 && 1 < k.e &&
    k.d * k.e % (k.p - 1) == 1 % (k.p - 1) && k.d * k.e % (k.q - 1) == 1 % (k.q - 1) &&
    k.d % (k.p - 1) == k.dp && k.d % (k.q - 1) == k.dq && k.qInverse * k.q % k.p == 1

/-- A private key. -/
inductive PrivateKey where
  | rsa (numbers : RsaNumbers)
  | dsa (p q g y x : Nat)
  | ec (curve : Curve) (secret x y : Nat)
  | ed25519 (seed : Octets)
  | ed448 (seed : Octets)
  | x25519 (secret : Octets)
  | x448 (secret : Octets)
deriving DecidableEq, Repr

namespace PrivateKey

/-- The public half of a key. -/
def publicKey : PrivateKey → PublicKey
  | .rsa k => .rsa k.n k.e
  | .dsa p q g y _ => .dsa p q g y
  | .ec curve _ x y => .ec curve x y
  | .ed25519 seed => .ed25519 (Edwards.public25519 seed)
  | .ed448 seed => .ed448 (Edwards.public448 seed)
  | .x25519 secret => .x25519 (Montgomery.public25519 secret)
  | .x448 secret => .x448 (Montgomery.public448 secret)

/-- Whether keys of this type sign; the others only agree on secrets. -/
def isSigning : PrivateKey → Bool
  | .x25519 _ | .x448 _ => false
  | _ => true

/-! ## Writing -/

/-- The octets inside a PKCS #8 key. -/
def inner : PrivateKey → Octets
  | .rsa k => sequence ([0, k.n, k.e, k.d, k.p, k.q, k.dp, k.dq, k.qInverse].map natural)
  | .dsa _ _ _ _ x => natural x
  | .ec curve secret x y =>
    sequence [natural 1, wrap tagOctetString (Octets.ofNatWidth curve.width secret),
      wrap (tagContext 1) (bitString (curve.pointOctets x y))]
  | .ed25519 seed | .ed448 seed => wrap tagOctetString seed
  | .x25519 secret | .x448 secret => wrap tagOctetString secret

/-- The PKCS #8 encoding of a key. -/
def toPkcs8 (k : PrivateKey) : Octets :=
  sequence [natural 0, k.publicKey.subjectKey.algorithm.encode, wrap tagOctetString k.inner]

/-! ## Reading -/

/-- Why octets are not a private key. -/
inductive ReadFault where
  | malformed
  | encrypted
  /-- A key on a curve that is not known. -/
  | unsupported
deriving DecidableEq, Repr

/-- The fault of a key that is needed but cannot be read. -/
def ReadFault.toFault : ReadFault → CryptographicFault
  | malformed => .malformed
  | encrypted => .wrongType
  | unsupported => .unsupported

/-- Reads the older form of an RSA key. -/
def ofRsa? (e : Element) : Option PrivateKey := do
  match ← PublicKey.naturals? e with
  | [0, n, e, d, p, q, dp, dq, qInverse] =>
    let k : RsaNumbers := ⟨n, e, d, p, q, dp, dq, qInverse⟩
    if k.isConsistent then some (.rsa k) else none
  | _ => none

/-- Reads the older form of a DSA key. -/
def ofDsa? (e : Element) : Option PrivateKey := do
  match ← PublicKey.naturals? e with
  | [0, p, q, g, y, x] => ofDsaNumbers? p q g (some y) x
  | _ => none
where
  /-- The key of three parameters and a secret; a stated public number has to be its power. -/
  ofDsaNumbers? (p q g : Nat) (y : Option Nat) (x : Nat) : Option PrivateKey :=
    let power := Modular.pow p g x
    if y.all (· = power) then some (.dsa p q g power x) else none

/-- The element with a context tag in front of a list, and the rest. -/
def takeContext (n : UInt8) : List Element → Option Element × List Element
  | e :: rest => if e.hasTag (tagContext n) then (some e, rest) else (none, e :: rest)
  | [] => (none, [])

/-- Reads the older form of an elliptic curve key; the curve may be known from outside. -/
def ofEc? (known : Option Curve) (e : Element) : Option PrivateKey := do
  match ← e.partsOf? tagSequence with
  | version :: secret :: rest =>
    if (← natural? (← version.contentOf? tagInteger)) ≠ 1 then none
    let secret := Octets.toNat (← secret.contentOf? tagOctetString)
    let (parameters, rest) := takeContext 0 rest
    let (point, rest) := takeContext 1 rest
    if !rest.isEmpty then none
    let curve ← match known, parameters with
      | some curve, _ => some curve
      | none, some e => PublicKey.curve? (Element.readOne e.content)
      | none, none => none
    if secret = 0 || curve.parameters.order ≤ secret then none
    let (x, y) := curve.publicPoint secret
    match point with
    | none => some (.ec curve secret x y)
    | some e =>
      let (unused, bits) ← bitString? (← (← Element.readOne e.content).contentOf? tagBitString)
      if unused = 0 && curve.point? bits == some (x, y) then some (.ec curve secret x y) else none
  | _ => none

/-- Reads the inside of a PKCS #8 key. -/
def ofInner? (a : Algorithm) (content : Octets) : Option PrivateKey := do
  let e ← Element.readOne content
  let sized (n : Nat) (make : Octets → PrivateKey) : Option PrivateKey := do
    let bytes ← e.contentOf? tagOctetString
    if bytes.length = n then some (make bytes) else none
  if a.oid = oidRsa then ofRsa? e
  else if a.oid = oidEc then ofEc? (some (← PublicKey.curve? a.parameters)) e
  else if a.oid = oidDsa then
    let (p, q, g) ← dsaParameters? (← a.parameters)
    ofDsa?.ofDsaNumbers? p q g none (← natural? (← e.contentOf? tagInteger))
  else if a.oid = oidEd25519 then sized 32 .ed25519
  else if a.oid = oidEd448 then sized 57 .ed448
  else if a.oid = oidX25519 then sized 32 .x25519
  else if a.oid = oidX448 then sized 56 .x448
  else none

/-- Reads a PKCS #8 key; attributes may follow the key. -/
def ofPkcs8? (e : Element) : Option PrivateKey := do
  match ← e.partsOf? tagSequence with
  | version :: algorithm :: content :: rest =>
    if (← natural? (← version.contentOf? tagInteger)) > 1 then none
    let algorithm ← Algorithm.ofElement? algorithm
    let content ← content.contentOf? tagOctetString
    if rest.all fun e => e.hasTag (tagContext 0) || e.hasTag (tagContextPrimitive 1) then
      ofInner? algorithm content
    else none
  | _ => none

/-- Whether an element is an encrypted PKCS #8 key: an algorithm and octets. -/
def isEncrypted (e : Element) : Bool :=
  match e.partsOf? tagSequence with
  | some [algorithm, content] =>
    (Algorithm.ofElement? algorithm).isSome && content.hasTag tagOctetString
  | _ => false

/-- The parameters that the older form of an elliptic curve key goes by: its own, or those known
from outside, which its own may repeat. -/
def ecParameters? (known : Option Element) (e : Element) : Option Element := do
  match ← e.partsOf? tagSequence with
  | version :: secret :: rest =>
    if (← natural? (← version.contentOf? tagInteger)) ≠ 1 || !secret.hasTag tagOctetString then none
    let (own, rest) := takeContext 0 rest
    let (point, rest) := takeContext 1 rest
    if let some e := point then
      let _ ← bitString? (← (← Element.readOne e.content).contentOf? tagBitString)
    if !rest.isEmpty then none
    match known, own with
    | some parameters, none => some parameters
    | some parameters, some e =>
      if Element.readOne e.content = some parameters then some parameters else none
    | none, some e => Element.readOne e.content
    | none, none => none
  | _ => none

/-- The parameters of the elliptic curve key inside a PKCS #8 key. -/
def pkcs8EcParameters? (e : Element) : Option Element := do
  match ← e.partsOf? tagSequence with
  | _ :: algorithm :: content :: _ =>
    let algorithm ← Algorithm.ofElement? algorithm
    if algorithm.oid ≠ oidEc then none
    let content ← Element.readOne (← content.contentOf? tagOctetString)
    ecParameters? (some (← algorithm.parameters)) content
  | _ => none

/-- Whether parameters name a curve that is not known. -/
def isForeignCurve (parameters : Element) : Bool :=
  (parameters.contentOf? tagOid).any fun oid => isOid oid && (Curve.ofOid? oid).isNone

/-- Reads a key of a known form; where that fails, `parameters` finds the curve that may be the
reason. -/
def ofForm (read : Element → Option PrivateKey) (parameters : Element → Option Element)
    (e : Element) : Except ReadFault PrivateKey :=
  match read e with
  | some k => .ok k
  | none => .error (if (parameters e).any isForeignCurve then .unsupported else .malformed)

/-- Reads a key in any of its encodings. They are tried one after the other, so why one of them does
not fit is not told. -/
def ofDer (der : Octets) : Except ReadFault PrivateKey :=
  match Element.readOne der with
  | none => .error .malformed
  | some e =>
    match ofPkcs8? e <|> ofRsa? e <|> ofEc? none e <|> ofDsa? e with
    | some k => .ok k
    | none => .error (if isEncrypted e then .encrypted else .malformed)

/-! ## PEM -/

/-- The labels of key sections and how to read what they hold. -/
def readers : List (Octets × (Element → Except ReadFault PrivateKey)) := [
  (Octets.ofAscii "PRIVATE KEY", ofForm ofPkcs8? pkcs8EcParameters?),
  (Octets.ofAscii "RSA PRIVATE KEY", ofForm ofRsa? fun _ => none),
  (Octets.ofAscii "EC PRIVATE KEY", ofForm (ofEc? none) (ecParameters? none)),
  (Octets.ofAscii "DSA PRIVATE KEY", ofForm ofDsa? fun _ => none)]

/-- The label of an encrypted key. -/
def encryptedLabel : Octets := Octets.ofAscii "ENCRYPTED PRIVATE KEY"

/-- Reads the first key section of a run. The headers of an older form may say that it is
encrypted. -/
def ofPem (bytes : Octets) : Except ReadFault PrivateKey :=
  match Pem.find? (encryptedLabel :: readers.map Prod.fst) bytes with
  | none => .error .malformed
  | some s =>
    if s.label = encryptedLabel then
      match Element.readOne s.data with
      | some e => .error (if isEncrypted e then .encrypted else .malformed)
      | none => .error .malformed
    else if s.headers.contains ("Proc-Type", "4,ENCRYPTED") then .error .encrypted
    else
      match readers.lookup s.label, Element.readOne s.data with
      | some read, some e => read e
      | _, _ => .error .malformed

/-- The PEM text of a key. -/
def toPem (k : PrivateKey) : Octets := Pem.encode (Octets.ofAscii "PRIVATE KEY") k.toPkcs8

end PrivateKey

end Enrollment
