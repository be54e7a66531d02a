import Enrollment.X509.Algorithm
import Enrollment.X509.Extension

/-!
# Certificates

`Content.ofDer` reads the octets of a certificate and refuses all that is not strict DER. A
`Certificate` is a run of octets together with the fact that it reads, so whoever holds one can
read it again with the same outcome.
-/

namespace Enrollment

namespace X509

open Enrollment.Der

/-- Why octets are not a certificate or a signing request. -/
inductive ReadFault where
  | malformed
  /-- The structure reads, and its version is none of the known ones. -/
  | unknownVersion
deriving DecidableEq, Repr

/-- What a certificate says. -/
structure Content where
  serial : Int
  issuer : Name
  notBefore : Moment
  notAfter : Moment
  subject : Name
  key : SubjectKey
  extensions : List Extension
deriving DecidableEq, Repr, Inhabited

namespace Content

/-- The version of a certificate, if the first element states one, and the elements after it.
The default version is not stated. -/
def version? : List Element → Option (Nat × List Element)
  | first :: rest =>
    if first.hasTag (tagContext 0) then do
      let version ← natural? (← (← Element.readOne first.content).contentOf? tagInteger)
      if version = 0 ∨ 255 < version then none else some (version, rest)
    else some (0, first :: rest)
  | [] => none

/-- The elements after an optional unique identifier. -/
def skipUniqueId (n : UInt8) : List Element → Option (List Element)
  | first :: rest =>
    if first.hasTag (tagContextPrimitive n) then (bitString? first.content).map fun _ => rest
    else some (first :: rest)
  | [] => some []

/-- The extensions that end the list of elements, if there are any. -/
def extensions? : List Element → Option (List Extension)
  | [] => some []
  | [e] => do
    if e.hasTag (tagContext 3) then Extension.listOfElement? (← Element.readOne e.content) else none
  | _ => none

/-- Reads the two ends of a validity. -/
def validity? (e : Element) : Option (Moment × Moment) := do
  match ← e.partsOf? tagSequence with
  | [start, stop] => some (← time? start, ← time? stop)
  | _ => none

/-- Reads the signed part of a certificate: its version and what it says. -/
def ofElement? (e : Element) : Option (Nat × Content) := do
  let (version, parts) ← version? (← e.partsOf? tagSequence)
  match parts with
  | serial :: algorithm :: issuer :: validity :: subject :: key :: rest =>
    let serial ← integer? (← serial.contentOf? tagInteger)
    let _ ← Algorithm.ofElement? algorithm
    let issuer ← Name.ofElement? issuer
    let (notBefore, notAfter) ← validity? validity
    let subject ← Name.ofElement? subject
    let key ← SubjectKey.ofElement? key
    let rest ← skipUniqueId 1 rest
    let rest ← skipUniqueId 2 rest
    let extensions ← extensions? rest
    some (version, ⟨serial, issuer, notBefore, notAfter, subject, key, extensions⟩)
  | _ => none

/-- Reads a certificate's signed part, algorithm and signature; nothing may follow. -/
def ofOctets? (der : Octets) : Option (Nat × Content) := do
  match ← (← Element.readOne der).partsOf? tagSequence with
  | [signed, algorithm, signature] =>
    let content ← ofElement? signed
    let _ ← Algorithm.ofElement? algorithm
    let _ ← bitString? (← signature.contentOf? tagBitString)
    some content
  | _ => none

/-- What the octets of a certificate say. The known versions are the first and the third. -/
def ofDer (der : Octets) : Except ReadFault Content :=
  match ofOctets? der with
  | none => .error .malformed
  | some (version, content) =>
    if version = 0 ∨ version = 2 then .ok content else .error .unknownVersion

end Content

end X509

open X509

/-- A certificate: octets that read as one. -/
structure Certificate where
  der : Octets
  content : Content
  reads : Content.ofDer der = .ok content

namespace Certificate

/-- Reads a certificate. -/
def ofDer (der : Octets) : Except ReadFault Certificate :=
  match h : Content.ofDer der with
  | .ok content => .ok ⟨der, content, h⟩
  | .error fault => .error fault

theorem ofDer_der (c : Certificate) : ofDer c.der = .ok c := by
  obtain ⟨der, content, reads⟩ := c
  unfold ofDer
  split
  · next content' h =>
    rw [reads] at h
    cases h
    rfl
  · next h =>
    rw [reads] at h
    cases h

theorem der_of_ofDer {der : Octets} {c : Certificate} (h : ofDer der = .ok c) : c.der = der := by
  unfold ofDer at h
  split at h
  · cases h
    rfl
  · cases h

theorem ext_der {c d : Certificate} (h : c.der = d.der) : c = d := by
  have hc := ofDer_der c
  rw [h, ofDer_der d] at hc
  cases hc
  rfl

instance : DecidableEq Certificate := fun c d =>
  if h : c.der = d.der then .isTrue (ext_der h) else .isFalse fun e => h (e ▸ rfl)

/-- The text of the subject. -/
def subjectText (c : Certificate) : Except NameFault String := c.content.subject.text

end Certificate

end Enrollment
