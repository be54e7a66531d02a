import Enrollment.Error
import Enrollment.Pem
import Enrollment.X509.Certificate

/-!
# Certificates as text

Certificates travel as PEM: one after the other in a server's response, and as a bundle of trust
anchors with NUL octets at its end. `Certificate.toPem` writes one, `Reading.ofStream` reads all
of a run, and `firstCertificate` reads the first.
-/

namespace Enrollment

/-- The label of a certificate section. -/
def certificateLabel : Octets := Octets.ofAscii "CERTIFICATE"

/-- The labels under which a section is taken for a certificate. -/
def certificateLabels : List Octets := [certificateLabel, Octets.ofAscii "X509 CERTIFICATE"]

/-- The PEM text of a certificate. -/
def Certificate.toPem (c : Certificate) : Octets := Pem.encode certificateLabel c.der

/-- The fault that stands for a reading fault. -/
def X509.ReadFault.toFault : X509.ReadFault → CryptographicFault
  | .malformed => .malformed
  | .unknownVersion => .unknownVersion

/-- The failure that stands for a name without a text. -/
def X509.NameFault.toFailure : X509.NameFault → Failure
  | .illFormed => .fault (.cryptographic .malformed)
  | .bitString => .fault (.cryptographic .wrongType)

/-- The text of the subject of a certificate. -/
def Certificate.subject (c : Certificate) : Except Failure String :=
  c.subjectText.mapError X509.NameFault.toFailure

/-- Reads the first certificate section of a run. -/
def Certificate.ofPem (bytes : Octets) : Except X509.ReadFault Certificate :=
  match Pem.find? certificateLabels bytes with
  | none => .error .malformed
  | some s => Certificate.ofDer s.data

/-! ## Responses -/

/-- The certificates that were read from a run, and the failure that ended the reading. -/
structure Reading where
  certificates : List Certificate
  failure : Option Failure

namespace Reading

/-- A reading with one more certificate in front. -/
def cons (c : Certificate) (r : Reading) : Reading := ⟨c :: r.certificates, r.failure⟩

/-- A reading that failed before the first certificate. -/
def failed (f : Failure) : Reading := ⟨[], some f⟩

/-- All certificates, or the failure. -/
def toExcept (r : Reading) : Except Failure (List Certificate) :=
  match r.failure with
  | none => .ok r.certificates
  | some f => .error f

end Reading

/-- The first certificate block of a run, from its BEGIN line to its END line, and what comes
after it; the inner `none` stands for a block without an end. -/
def nextBlock (bytes : Octets) : Option (Option (Octets × Octets)) :=
  let stop := Pem.endLine certificateLabel
  (Octets.breakAt (Pem.beginLine certificateLabel) bytes).map fun (_, block) =>
    (Octets.breakAt stop block).map fun (inner, rest) => (inner ++ stop, rest.drop stop.length)

/-- Reads the blocks of a run from the one with the number `index` on. Each block is longer than
one octet, so the length of the run bounds their number. -/
def readBlocks : Nat → Nat → Octets → Reading
  | 0, _, _ => ⟨[], none⟩
  | fuel + 1, index, bytes =>
    let malformed (reason : String) : Reading :=
      .failed (.ofCause .certificateParse (.malformedBlock index reason))
    match nextBlock bytes with
    | none => ⟨[], none⟩
    | some none => malformed "missing END CERTIFICATE marker"
    | some (some (block, rest)) =>
      match Certificate.ofPem block with
      | .error .malformed => malformed cryptographicText
      | .error .unknownVersion => .failed (.fault (.cryptographic .unknownVersion))
      | .ok c => (readBlocks fuel (index + 1) rest).cons c

/-- The error of a run without any certificate. -/
def noCertificate (length : Nat) : Failure := .ofCause .certificateParse (.noCertificate length)

/-- The first `length` octets of a run, or all but the last `-length` if it is negative. -/
def upTo (length : Option Int) (bytes : Octets) : Octets :=
  match length with
  | none => bytes
  | some (.ofNat n) => bytes.take n
  | some (.negSucc n) => bytes.take (bytes.length - (n + 1))

/-- Reads the certificates of a response. NUL octets at its end and text between the blocks do
not matter; a response that holds something and no block is an error. -/
def Reading.ofStream (bytes : Octets) (length : Option Int := none) : Reading :=
  let view := (upTo length bytes).dropTrailingNul
  match nextBlock view with
  | none => ⟨[], if view.isBlank then none else some (noCertificate view.length)⟩
  | some _ => readBlocks (view.length + 1) 0 view

/-- Reads the first certificate of a response. -/
def firstCertificate (bytes : Octets) (length : Option Int := none) : Except Failure Certificate :=
  match Reading.ofStream bytes length with
  | ⟨c :: _, _⟩ => .ok c
  | ⟨[], some f⟩ => .error f
  | ⟨[], none⟩ => .error (noCertificate bytes.length)

/-! ## Bundles -/

/-- Trust anchors as the engine gets them: a buffer that ends with NUL octets, and how many
anchors it holds. -/
structure Bundle where
  data : Octets
  count : Int
deriving DecidableEq, Repr, Inhabited

/-- The NUL octets that end a bundle. -/
def bundleEnd : Octets := [0, 0]

/-- The buffer of no anchors. -/
def emptyBundle : Octets := [0]

/-- The buffer for PEM texts: never empty, and with NUL octets at its end. -/
def bundleData (texts : List Octets) : Octets :=
  if texts.isEmpty then emptyBundle else texts.flatten ++ bundleEnd

/-- The text of a bundle without the NUL octets. -/
def Bundle.pem (b : Bundle) : Octets := b.data.dropTrailingNul

end Enrollment
