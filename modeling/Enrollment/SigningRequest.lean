import Enrollment.Certificates
import Enrollment.Key.Public

/-!
# Signing requests

A PKCS #10 request names a subject, carries a public key and attributes, and is signed. A
`SigningRequest` is a run of octets together with the fact that it reads as one. Requests come as
DER, as PEM, or as base64 text.
-/

namespace Enrollment

open Der

namespace X509

/-- What a signing request says. The whole of the signed part is kept as it is written. -/
structure RequestContent where
  subject : Name
  key : SubjectKey
  attributes : List Element
  signed : Element
  algorithm : Algorithm
deriving DecidableEq, Repr, Inhabited

namespace RequestContent

/-- Whether an element is an attribute: a type and a set of values in order. -/
def isAttribute (e : Element) : Bool :=
  match e.partsOf? tagSequence with
  | some [type, values] =>
    type.hasTag tagOid && isOid type.content &&
      (match values.partsOf? tagSet with
        | some parts => isSorted (parts.map Element.encode)
        | none => false)
  | _ => false

/-- Reads the attributes of a request: a set in order, which may be empty but not left out. -/
def attributes? (e : Element) : Option (List Element) := do
  let parts ← e.partsOf? (tagContext 0)
  if parts.all isAttribute && isSorted (parts.map Element.encode) then some parts else none

/-- Reads a request: its version and what it says. -/
def ofOctets? (der : Octets) : Option (Nat × RequestContent) := do
  match ← (← Element.readOne der).partsOf? tagSequence with
  | [signed, algorithm, signature] =>
    match ← signed.partsOf? tagSequence with
    | [version, subject, key, attributes] =>
      let version ← natural? (← version.contentOf? tagInteger)
      if 255 < version then none
      let subject ← Name.ofElement? subject
      let key ← SubjectKey.ofElement? key
      let attributes ← attributes? attributes
      let algorithm ← Algorithm.ofElement? algorithm
      let _ ← bitString? (← signature.contentOf? tagBitString)
      some (version, ⟨subject, key, attributes, signed, algorithm⟩)
    | _ => none
  | _ => none

/-- What the octets of a request say. There is one version. -/
def ofDer (der : Octets) : Except ReadFault RequestContent :=
  match ofOctets? der with
  | none => .error .malformed
  | some (version, content) => if version = 0 then .ok content else .error .unknownVersion

end RequestContent

end X509

open X509

/-- A signing request: octets that read as one. -/
structure SigningRequest where
  der : Octets
  content : RequestContent
  reads : RequestContent.ofDer der = .ok content

namespace SigningRequest

/-- Reads a signing request. -/
def ofDer (der : Octets) : Except ReadFault SigningRequest :=
  match h : RequestContent.ofDer der with
  | .ok content => .ok ⟨der, content, h⟩
  | .error fault => .error fault

theorem ofDer_der (r : SigningRequest) : ofDer r.der = .ok r := by
  obtain ⟨der, content, reads⟩ := r
  unfold ofDer
  split
  · next content' h =>
    rw [reads] at h
    cases h
    rfl
  · next h =>
    rw [reads] at h
    cases h

theorem der_of_ofDer {der : Octets} {r : SigningRequest} (h : ofDer der = .ok r) : r.der = der := by
  unfold ofDer at h
  split at h
  · cases h
    rfl
  · cases h

/-- The label of a request section. -/
def label : Octets := Octets.ofAscii "CERTIFICATE REQUEST"

/-- The labels under which a section is taken for a request. -/
def labels : List Octets := [label, Octets.ofAscii "NEW CERTIFICATE REQUEST"]

/-- The PEM text of a request. -/
def toPem (r : SigningRequest) : Octets := Pem.encode label r.der

/-- Reads the first request section of a run. -/
def ofPem (bytes : Octets) : Except ReadFault SigningRequest :=
  match Pem.find? labels bytes with
  | none => .error .malformed
  | some s => ofDer s.data

/-- The text of the subject. -/
def subject (r : SigningRequest) : Except Failure String :=
  r.content.subject.text.mapError NameFault.toFailure

/-- The public key, if it is of a known type. -/
def publicKey (r : SigningRequest) : Except Failure PublicKey :=
  match PublicKey.ofSubjectKey? r.content.key with
  | some k => .ok k
  | none => .error (.fault (.cryptographic .malformed))

/-! ## The forms of a request -/

/-- What opens a PEM text. -/
def pemStart : Octets := Octets.ofAscii "-----BEGIN"

/-- The failure of a request that cannot be read or written. -/
def failure (reason : String) : Failure := .ofCause .encoding (.requestEncoding reason)

/-- The failure that stands for a reading fault. -/
def readFailure : ReadFault → Failure
  | .malformed => failure cryptographicText
  | .unknownVersion => .fault (.cryptographic .unknownVersion)

/-- Reads a request that is PEM, if it begins like one, or DER. -/
def ofOctets (bytes : Octets) : Except Failure SigningRequest :=
  (if pemStart.isPrefixOf bytes then ofPem bytes else ofDer bytes).mapError readFailure

/-- Reads a request that is PEM text or the base64 text of DER, with blanks around it. -/
def ofText (text : String) : Except Failure SigningRequest :=
  let chars := Text.trim text.toList
  if pemStart.isPrefixOf (Octets.ofChars chars) then ofOctets (Octets.ofChars chars)
  else
    match Base64.readChars chars with
    | .ok bytes => ofOctets bytes
    | .error fault => .error (failure fault.message)

/-- Reads a request from whatever was given for one. -/
def ofValue : Value → Except Failure SigningRequest
  | .octets bytes => ofOctets bytes
  | .text text => ofText text
  | v => .error (.fault (.lacking v.kindName "startswith"))

end SigningRequest

end Enrollment
