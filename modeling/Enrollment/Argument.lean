import Enrollment.Key.Private
import Enrollment.SigningRequest

/-!
# What a caller passes

Certificates, keys and requests reach a session from outside, and nothing keeps a caller from
passing something else. Each of the three types here holds the genuine object, an object of the
right kind that cannot be written down, or plain data. Every operation on the wrong kind fails
with a fault that names it.
-/

namespace Enrollment

/-- The fault of data that lacks an operation. -/
def Value.lacks (v : Value) (operation : String) : Fault := .lacking v.kindName operation

/-- The name of the kind of a public key. -/
def PublicKey.kindName (k : PublicKey) : String :=
  "cryptography.hazmat.bindings._rust.openssl." ++
    match k with
    | .rsa _ _ => "rsa.RSAPublicKey"
    | .dsa _ _ _ _ => "dsa.DSAPublicKey"
    | .ec _ _ _ => "ec.ECPublicKey"
    | .ed25519 _ => "ed25519.Ed25519PublicKey"
    | .ed448 _ => "ed448.Ed448PublicKey"
    | .x25519 _ => "x25519.X25519PublicKey"
    | .x448 _ => "x448.X448PublicKey"

/-! ## Certificates -/

/-- What is passed for a certificate. -/
inductive CertificateValue where
  | certificate (c : Certificate)
  /-- A certificate whose encoding fails with a text. -/
  | unencodable (text : String)
  | plain (v : Value)

instance : Inhabited CertificateValue := ⟨.plain .null⟩

namespace CertificateValue

/-- Whether a certificate was passed, encodable or not. -/
def isCertificate : CertificateValue → Bool
  | .plain _ => false
  | _ => true

/-- Whether nothing was passed. -/
def isNull : CertificateValue → Bool
  | .plain .null => true
  | _ => false

/-- The name of the kind of what was passed. -/
def kindName : CertificateValue → String
  | .plain v => v.kindName
  | _ => "Certificate"

/-- The failure of a certificate that cannot be written, with a reason. -/
def failure (reason : String) : Failure := .ofCause .encoding (.certificateEncoding reason)

/-- The DER octets of a certificate. -/
def toDer : CertificateValue → Except Failure Octets
  | .certificate c => .ok c.der
  | .unencodable text => .error (failure text)
  | .plain v => .error (failure (v.lacks "public_bytes").message)

/-- The PEM text of a certificate. -/
def toPem (c : CertificateValue) : Except Failure Octets :=
  c.toDer.map (Pem.encode certificateLabel)

/-- The text of the subject of a certificate. -/
def subject : CertificateValue → Except Failure String
  | .certificate c => c.subject
  | .unencodable _ => .ok "CN=broken"
  | .plain v => .error (.fault (v.lacks "subject"))

end CertificateValue

/-- What is passed for a list of certificates. -/
inductive CertificatesValue where
  | list (items : List CertificateValue)
  | plain (v : Value)

/-- The parts that plain data consists of; what counts as nothing has none. -/
def Value.parts (v : Value) : Except Failure (List Value) :=
  if !v.isTruthy then .ok []
  else match v with
    | .text s => .ok (s.toList.map fun c => .text (String.singleton c))
    | .octets bytes => .ok (bytes.map fun b => .int b.toNat)
    | .list items | .tuple items | .set items => .ok items
    | .table entries => .ok (entries.map Prod.fst)
    | v => .error (.fault (.notIterable v.kindName))

/-- The certificates of a list. -/
def CertificatesValue.items : CertificatesValue → Except Failure (List CertificateValue)
  | .list items => .ok items
  | .plain v => v.parts.map fun parts => parts.map CertificateValue.plain

/-- The buffer of trust anchors: their PEM texts one after the other. -/
def anchorsData (anchors : List CertificateValue) : Except Failure Octets := do
  return bundleData (← anchors.mapM CertificateValue.toPem)

/-- The bundle of trust anchors. -/
def Bundle.ofAnchors (anchors : List CertificateValue) : Except Failure Bundle := do
  return ⟨← anchorsData anchors, anchors.length⟩

/-! ## Keys -/

/-- What is passed for a private key. -/
inductive KeyValue where
  | secret (k : PrivateKey)
  | public_ (k : PublicKey)
  /-- An object of an unknown key type: writing it fails with a text, and so does its public
  half unless there is one. -/
  | unencodable (text : String) (half : Option PublicKey)
  | plain (v : Value)

instance : Inhabited KeyValue := ⟨.plain .null⟩

namespace KeyValue

/-- Whether nothing was passed. -/
def isNull : KeyValue → Bool
  | .plain .null => true
  | _ => false

/-- The failure of a key that cannot be written, with a reason. -/
def failure (reason : String) : Failure := .ofCause .encoding (.privateKeyEncoding reason)

/-- The PKCS #8 octets of a key. -/
def toPkcs8 : KeyValue → Except Failure Octets
  | .secret k => .ok k.toPkcs8
  | .public_ k => .error (failure (Fault.lacking k.kindName "private_bytes").message)
  | .unencodable text _ => .error (failure text)
  | .plain v => .error (failure (v.lacks "private_bytes").message)

/-- The public half of a key. -/
def publicKey : KeyValue → Except Failure PublicKey
  | .secret k => .ok k.publicKey
  | .public_ k => .error (.fault (.lacking k.kindName "public_key"))
  | .unencodable _ (some k) => .ok k
  | .unencodable text none => .error (.fault (.thrown "ValueError" text))
  | .plain v => .error (.fault (v.lacks "public_key"))

end KeyValue

/-! ## Signing requests -/

/-- What is passed for a signing request. -/
inductive RequestValue where
  | request (r : SigningRequest)
  /-- A request whose encoding fails with a text; its public key too, unless there is one. -/
  | unencodable (text : String) (half : Option PublicKey)
  | plain (v : Value)

/-- A request that need not be read any more. -/
inductive RequestObject where
  | request (r : SigningRequest)
  | unencodable (text : String) (half : Option PublicKey)

namespace RequestObject

/-- The text of the subject. -/
def subject : RequestObject → Except Failure String
  | .request r => r.subject
  | .unencodable _ _ => .ok "CN=broken"

/-- The public key. -/
def publicKey : RequestObject → Except Failure PublicKey
  | .request r => r.publicKey
  | .unencodable _ (some k) => .ok k
  | .unencodable text none => .error (.fault (.thrown "ValueError" text))

/-- The DER octets. -/
def toDer : RequestObject → Except Failure Octets
  | .request r => .ok r.der
  | .unencodable text _ => .error (SigningRequest.failure text)

/-- Whether a request carries the public half of a key. -/
def matchesKey (r : RequestObject) (key : KeyValue) : Except Failure Bool := do
  let requested ← r.publicKey
  let own ← key.publicKey
  return requested.encode == own.encode

end RequestObject

/-- The name of the kind of a request that was read. -/
def requestKindName : String := "cryptography.hazmat.bindings._rust.x509.CertificateSigningRequest"

/-- Reads what was passed, which has to be data. -/
def RequestValue.read : RequestValue → Except Failure SigningRequest
  | .plain v => SigningRequest.ofValue v
  | _ => .error (.fault (.lacking requestKindName "startswith"))

/-- The request that was passed, read if it is data. -/
def RequestValue.toObject : RequestValue → Except Failure RequestObject
  | .request r => .ok (.request r)
  | .unencodable text half => .ok (.unencodable text half)
  | .plain v => (SigningRequest.ofValue v).map .request

end Enrollment
