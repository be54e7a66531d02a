import Enrollment.X509.GeneralName

/-!
# Extensions

An extension is named by an object identifier, may be critical, and holds octets.
`Extension.decode` takes a subject alternative name apart. The other known ones are looked into only
as far as it takes to say whether they are what their name says, and the octets of an unknown one
may be anything.
-/

namespace Enrollment.X509

open Enrollment.Der

/-- An extension. -/
structure Extension where
  oid : Oid
  critical : Bool
  value : Octets
deriving DecidableEq, Repr, Inhabited

/-- The identifier of the subject's key. -/
def oidSubjectKeyIdentifier : Oid := [0x55, 0x1d, 0x0e]
/-- What the key is for. -/
def oidKeyUsage : Oid := [0x55, 0x1d, 0x0f]
/-- The subject alternative name. -/
def oidSubjectAltName : Oid := [0x55, 0x1d, 0x11]
/-- Whether the subject is an authority. -/
def oidBasicConstraints : Oid := [0x55, 0x1d, 0x13]
/-- The purposes of the certificate. -/
def oidExtendedKeyUsage : Oid := [0x55, 0x1d, 0x25]

namespace Extension

/-- Reads an extension. An explicit "not critical" is refused, since it is the default. -/
def ofElement? (e : Element) : Option Extension := do
  match ← e.partsOf? tagSequence with
  | [name, value] =>
    let oid ← name.contentOf? tagOid
    let value ← value.contentOf? tagOctetString
    if isOid oid then some ⟨oid, false, value⟩ else none
  | [name, critical, value] =>
    let oid ← name.contentOf? tagOid
    let critical ← boolean? (← critical.contentOf? tagBoolean)
    let value ← value.contentOf? tagOctetString
    if isOid oid && critical then some ⟨oid, true, value⟩ else none
  | _ => none

/-- The extension, encoded. -/
def encode (x : Extension) : Octets :=
  sequence [Der.oid x.oid, if x.critical then wrap tagBoolean [255] else [],
    wrap tagOctetString x.value]

/-- Reads a sequence of extensions. -/
def listOfElement? (e : Element) : Option (List Extension) := do
  (← e.partsOf? tagSequence).mapM ofElement?

/-- Whether no two extensions have the same name. -/
def areDistinct (xs : List Extension) : Bool := allDistinct (xs.map Extension.oid)

end Extension

/-! ## Known extensions -/

/-- Whether the value of an extension says that the subject is an authority, perhaps with a limit
on the authorities below it, or says nothing. -/
def isBasicConstraints (value : Octets) : Bool :=
  match (Element.readOne value).bind fun e => e.partsOf? tagSequence with
  | some [] => true
  | some (authority :: limit) =>
    (authority.contentOf? tagBoolean).bind boolean? == some true &&
      match limit with
      | [] => true
      | [n] => ((n.contentOf? tagInteger).bind natural?).any (· < Nat.pow 2 64)
      | _ => false
  | none => false

/-- Whether a bit is set; the first is the highest of the first octet. -/
def hasBit (bytes : Octets) (n : Nat) : Bool :=
  (bytes.getD (n / 8) 0).toNat.testBit (7 - n % 8)

/-- Whether the value of an extension is a set of uses. The uses "only to encipher" and "only to
decipher" restrict the use for key agreement, which has to be there. -/
def isKeyUsage (value : Octets) : Bool :=
  match (Element.readOne value).bind fun e => (e.contentOf? tagBitString).bind bitString? with
  | some (_, bits) => hasBit bits 4 || !(hasBit bits 7 || hasBit bits 8)
  | none => false

/-- Whether the value of an extension is a list of purposes. -/
def isExtendedKeyUsage (value : Octets) : Bool :=
  match (Element.readOne value).bind fun e => e.partsOf? tagSequence with
  | some purposes => purposes.all fun e => (e.contentOf? tagOid).any isOid
  | none => false

/-- Whether the value of an extension is an identifier of a key. -/
def isKeyIdentifier (value : Octets) : Bool :=
  ((Element.readOne value).bind fun e => e.contentOf? tagOctetString).isSome

/-- Whether an extension with octets for its value is what its name says. -/
def Extension.isWellFormed (x : Extension) : Bool :=
  if x.oid == oidBasicConstraints then isBasicConstraints x.value
  else if x.oid == oidKeyUsage then isKeyUsage x.value
  else if x.oid == oidExtendedKeyUsage then isExtendedKeyUsage x.value
  else if x.oid == oidSubjectKeyIdentifier then isKeyIdentifier x.value
  else true

/-! ## Extensions taken apart -/

/-- What the value of an extension says: general names, or octets that are left as they are. -/
inductive ExtensionValue where
  | names (names : List DecodedGeneralName)
  | octets (value : Octets)
deriving DecidableEq, Repr

/-- The octets of a value. -/
def ExtensionValue.toOctets : ExtensionValue → Octets
  | .names list => encodeNames list
  | .octets value => value

/-- What an extension says. -/
structure DecodedExtension where
  oid : Oid
  critical : Bool
  value : ExtensionValue
deriving DecidableEq, Repr

/-- Takes an extension apart. -/
def Extension.decode (x : Extension) : Except ExtensionFault DecodedExtension :=
  if x.oid == oidSubjectAltName then
    (decodeNames x.value).map fun names => ⟨x.oid, x.critical, .names names⟩
  else if x.isWellFormed then .ok ⟨x.oid, x.critical, .octets x.value⟩
  else .error .illFormed

/-- The extension that says so. -/
def DecodedExtension.toExtension (x : DecodedExtension) : Extension :=
  ⟨x.oid, x.critical, x.value.toOctets⟩

end Enrollment.X509
