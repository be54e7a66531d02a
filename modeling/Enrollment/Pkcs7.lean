import Enrollment.Ber
import Enrollment.Certificates

/-!
# Certificate collections

A PKCS #7 message of signed data can carry certificates and no signature at all. `certificates`
reads the certificates of such a message in the order they stand in; `encode` writes one. A
message of another type is a message, but has no certificates to read.
-/

namespace Enrollment.Pkcs7

open Der

/-! ## Types of messages -/

/-- The object identifier of the PKCS #7 type with a number. -/
def oidType (n : UInt8) : Oid := [0x2a, 0x86, 0x48, 0x86, 0xf7, 0x0d, 0x01, 0x07, n]

/-- The object identifier of data. -/
def oidData : Oid := oidType 1

/-- The object identifier of signed data. -/
def oidSignedData : Oid := oidType 2

/-- The object identifier of enveloped data. -/
def oidEnvelopedData : Oid := oidType 3

/-- The object identifier of signed and enveloped data. -/
def oidSignedAndEnvelopedData : Oid := oidType 4

/-- The object identifier of digested data. -/
def oidDigestedData : Oid := oidType 5

/-- The object identifier of encrypted data. -/
def oidEncryptedData : Oid := oidType 6

/-- Whether an element names an algorithm, perhaps with a parameter. -/
def isAlgorithm (e : Element) : Bool :=
  match e.partsOf? tagSequence with
  | some [name] | some [name, _] => name.hasTag tagOid
  | _ => false

/-- Whether an element says what is encrypted and how. -/
def isEncryptedContent (e : Element) : Bool :=
  match e.partsOf? tagSequence with
  | some (type :: algorithm :: content) =>
    type.hasTag tagOid && isAlgorithm algorithm && content.length ≤ 1
  | _ => false

/-- Whether an element is the content of a message whose type is not signed data. -/
def isOtherContent (type : Oid) (content : Element) : Bool :=
  if type = oidData then content.hasTag tagOctetString
  else if type = oidEnvelopedData then
    match content.partsOf? tagSequence with
    | some [version, recipients, inner] =>
      version.hasTag tagInteger && recipients.hasTag tagSet && isEncryptedContent inner
    | _ => false
  else if type = oidSignedAndEnvelopedData then
    match content.partsOf? tagSequence with
    | some (version :: recipients :: algorithms :: inner :: _) =>
      version.hasTag tagInteger && recipients.hasTag tagSet && algorithms.hasTag tagSet &&
        isEncryptedContent inner
    | _ => false
  else if type = oidDigestedData then
    match content.partsOf? tagSequence with
    | some [version, algorithm, inner, digest] =>
      version.hasTag tagInteger && isAlgorithm algorithm && inner.hasTag tagSequence &&
        digest.hasTag tagOctetString
    | _ => false
  else if type = oidEncryptedData then
    match content.partsOf? tagSequence with
    | some [version, inner] => version.hasTag tagInteger && isEncryptedContent inner
    | _ => false
  else true

/-! ## Reading -/

/-- What a message is found to be. -/
inductive Message where
  /-- Signed data, with the octets of its certificates. -/
  | collection (members : List Octets)
  /-- A message of another type. -/
  | other
deriving DecidableEq, Repr

/-- The octets of the certificates in the parts of signed data: version, hash algorithms, content
and the certificates with the context tag 0. -/
def members? : List Element → Option (List Octets)
  | version :: algorithms :: content :: certificates :: rest => do
    let _ ← integer? (← version.contentOf? tagInteger)
    let _ ← algorithms.partsOf? tagSet
    let _ ← content.partsOf? tagSequence
    let members ← certificates.partsOf? (tagContext 0)
    match rest with
    | [signers] => some (← inSet signers members)
    | [lists, signers] => do
      let _ ← lists.partsOf? (tagContext 1)
      some (← inSet signers members)
    | _ => none
  | _ => none
where
  /-- The members, if what follows them is a set of signers. -/
  inSet (signers : Element) (members : List Element) : Option (List Octets) := do
    let _ ← signers.partsOf? tagSet
    some (members.map Element.encode)

/-- The message at the front of a run in DER. What follows it does not matter. -/
def messageOfDer? (der : Octets) : Option Message := do
  let (message, _) ← Element.read der
  match ← message.partsOf? tagSequence with
  | [type] =>
    let type ← type.contentOf? tagOid
    if type = oidSignedData then none else some .other
  | [type, content] =>
    let type ← type.contentOf? tagOid
    let content ← Element.readOne (← content.contentOf? (tagContext 0))
    if type = oidSignedData then
      let members ← members? (← content.partsOf? tagSequence)
      some (.collection members)
    else if isOtherContent type content then some .other
    else none
  | _ => none

/-- The message at the front of a run, which need not be in DER. -/
def message? (bytes : Octets) : Option Message :=
  messageOfDer? bytes <|> (Ber.toDer bytes).bind messageOfDer?

/-- Reads octets as certificates, in order; the first that is none decides. -/
def readMembers : List Octets → Except X509.ReadFault (List Certificate)
  | [] => .ok []
  | der :: more => do
    let c ← Certificate.ofDer der
    return c :: (← readMembers more)

/-- The certificates of a message. -/
def certificates (bytes : Octets) : Except CryptographicFault (List Certificate) :=
  match message? bytes with
  | none => .error .malformed
  | some .other => .error .unsupported
  | some (.collection members) => (readMembers members).mapError X509.ReadFault.toFault

/-! ## Writing -/

/-- A message that carries certificates and nothing else. -/
def encode (certificates : List Certificate) : Octets :=
  sequence [Der.oid oidSignedData, wrap (tagContext 0) <|
    sequence [natural 1, wrap tagSet [], sequence [Der.oid oidData],
      wrap (tagContext 0) (certificates.flatMap Certificate.der), wrap tagSet []]]

end Enrollment.Pkcs7
