import Enrollment.Key.Private
import Enrollment.SigningRequest

/-!
# Renewal requests

The request for a renewed certificate carries the public half of the key, and the subject and the
subject alternative name of the old certificate, taken apart and put together again. Only its signed
part is built here: the signature itself depends on chance.
-/

namespace Enrollment

open Der X509

/-- The algorithm that a key signs a request with; none for keys that do not sign. -/
def PrivateKey.signatureAlgorithm? : PrivateKey → Option Algorithm
  | .rsa _ => some (.withNull oidRsaSha256)
  | .dsa _ _ _ _ _ => some (.plain oidDsaSha256)
  | .ec _ _ _ _ => some (.plain oidEcdsaSha256)
  | .ed25519 _ => some (.plain oidEd25519)
  | .ed448 _ => some (.plain oidEd448)
  | .x25519 _ | .x448 _ => none

/-- A request that lacks its signature: the signed part and the algorithm. -/
structure RenewalRequest where
  signed : Octets
  algorithm : Algorithm
deriving DecidableEq, Repr

namespace RenewalRequest

/-- The attribute type that asks for extensions. -/
def oidExtensionRequest : Oid := [0x2a, 0x86, 0x48, 0x86, 0xf7, 0x0d, 0x01, 0x09, 0x0e]

/-- The attributes of a request for an extension, or for none. -/
def attributes : Option Extension → Octets
  | none => wrap (tagContext 0) []
  | some x => wrap (tagContext 0) <|
    sequence [Der.oid oidExtensionRequest, wrap tagSet (sequence [x.encode])]

/-- The signed part of a request. -/
def signedPart (subject : DecodedName) (key : PublicKey) (extension : Option DecodedExtension) :
    Octets :=
  sequence [natural 0, subject.toName.toElement.encode, key.encode,
    attributes (extension.map DecodedExtension.toExtension)]

/-- The fault of a name that cannot be taken apart. -/
def nameFault : NameFault → CryptographicFault
  | .illFormed => .malformed
  | .bitString => .wrongType

/-- The fault of an extension that cannot be taken apart. -/
def extensionFault : ExtensionFault → CryptographicFault
  | .illFormed => .malformed
  | .name fault => nameFault fault
  | .unsupportedName => .unsupportedName

/-- The subject alternative name among extensions. All of them are taken apart, and none may stand
twice. -/
def alternativeName (extensions : List Extension) :
    Except CryptographicFault (Option DecodedExtension) := do
  if !Extension.areDistinct extensions then throw .duplicateExtension
  let decoded ← (extensions.mapM Extension.decode).mapError extensionFault
  return decoded.find? fun x => x.oid == oidSubjectAltName

/-- The request for renewing a certificate with a key. -/
def build (old : Certificate) (key : PrivateKey) : Except CryptographicFault RenewalRequest := do
  let subject ← (Name.decode old.content.subject).mapError nameFault
  let extension ← alternativeName old.content.extensions
  match key.signatureAlgorithm? with
  | none => throw .wrongType
  | some algorithm => return ⟨signedPart subject key.publicKey extension, algorithm⟩

/-- The request for renewing a certificate, from the octets of both. -/
def ofOctets (old key : Octets) : Except CryptographicFault RenewalRequest := do
  let old ← (Certificate.ofDer old).mapError ReadFault.toFault
  let key ← (PrivateKey.ofDer key).mapError PrivateKey.ReadFault.toFault
  build old key

end RenewalRequest

end Enrollment
