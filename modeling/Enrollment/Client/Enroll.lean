import Enrollment.Client.Basic

/-!
# Certificates for a client

Enrolling a new certificate and renewing an old one take the same way: the mode is selected, the
request is prepared, the engine is called and its answer is interpreted. All checks come before
the call, and each step leaves its mark on the progress of the client.
-/

namespace Enrollment

/-- What a certificate is asked for with. -/
inductive Petition where
  /-- A new certificate for a signing request. -/
  | new (request : RequestObject)
  /-- A renewal of a certificate. -/
  | renewal (old : CertificateValue)

namespace Petition

/-- The action of a petition. -/
def action : Petition → Action
  | new _ => .enroll
  | renewal _ => .reenroll

/-- Whether the petition and the key belong together: a signing request carries the public half of
the key, and a renewal names a certificate. -/
def check (key : KeyValue) : Petition → Except Failure Unit
  | new request =>
    match request.matchesKey key with
    | .ok true => .ok ()
    | .ok false =>
      .error (SigningRequest.failure "CSR public key does not match the signing key")
    | .error failure => .error (KeyValue.failure failure.message)
  | renewal old =>
    if old.isCertificate then .ok ()
    else .error (CertificateValue.failure ("expected an X.509 certificate, got " ++ old.kindName))

/-- The text of the subject. -/
def subject : Petition → Except Failure String
  | new request => request.subject
  | renewal old => old.subject

/-- The octets that go to the engine. -/
def payload : Petition → Except Failure Octets
  | new request => request.toDer
  | renewal old => old.toDer

end Petition

/-- Everything that a call is made with. -/
def Store.prepare (s : Store) (p : Petition) (key : KeyValue) (mode : AuthMode)
    (disablePop : Bool) (maxLength : Nat) : Except Failure EngineCall := do
  let anchors ← Bundle.ofAnchors s.anchors
  let privateKey ← key.toPkcs8
  let payload ← p.payload
  let arguments ← s.modeArguments mode
  return .certificate p.action
    { anchors, privateKey, endpoint := s.endpoint, disablePop, payload, maxLength } arguments

/-- A response without the NUL octets at its end. -/
def responseOctets (data : Option Octets) : Octets := (data.getD []).dropTrailingNul

/-- What the record of a certificate says of it. A date before the first year has no text. -/
def certificateFacts (c : Certificate) : Except Failure (String × Moment × Moment) := do
  let subject ← c.subject
  if c.content.notBefore.date.year = 0 || c.content.notAfter.date.year = 0 then
    throw (.fault (.cryptographic .malformed))
  return (subject, c.content.notBefore, c.content.notAfter)

/-- The outcome of an operation that a failure ended: the failure is recorded, and the failure
`final` comes out. -/
def faulted (w : World σ) (context : String) (failure final : Failure) : Outcome σ α :=
  match w.recordFailure failure context with
  | .ok w => ⟨.error final, .faulted, w⟩
  | .error failure => ⟨.error failure, .faulted, w⟩

/-- Interprets the octets of a response. -/
def interpretResponse (a : Action) (server : String) (maxLength : Nat) (data : Option Octets)
    (w : World σ) : Outcome σ (Option Certificate) :=
  let bytes := responseOctets data
  if bytes.isEmpty then
    ⟨.ok none, .issued, { w with journal := w.journal.noCertificate a.operation server }⟩
  else if maxLength < bytes.length then
    let failure := .ofCause .bufferSize (.tooLong bytes.length maxLength)
    faulted w a.operation failure failure
  else match firstCertificate bytes with
    | .error (.client e) => faulted w a.operation (.client e) (.client e)
    | .error (.fault f) => ⟨.error (.fault f), .awaiting, w⟩
    | .ok c =>
      match certificateFacts c with
      | .error failure => ⟨.error failure, .awaiting, w⟩
      | .ok (subject, notBefore, notAfter) =>
        let journal := w.journal.certificateReceived a.operation subject (.int c.content.serial)
          notBefore notAfter
        ⟨.ok (some c), .issued, { w with journal }⟩

/-- What the answer of an engine means. -/
def concludeEnroll (a : Action) (server : String) (maxLength : Nat)
    (answer : Except Failure (Option Octets)) (w : World σ) : Outcome σ (Option Certificate) :=
  match answer with
  | .ok data => interpretResponse a server maxLength data w
  | .error (.client e) =>
    if e.kind = .retryAfter then
      match w.journal.enrollDeferred a.operation e.retryAfter with
      | .ok journal => ⟨.error (.client e), .deferred, { w with journal }⟩
      | .error fault => ⟨.error (.fault fault), .deferred, w⟩
    else faulted w a.operation (.client e) (.client e)
  | .error (.fault f) =>
    faulted w a.operation (.fault f)
      (.ofCause a.errorKind (.engineFailed f.message none))

/-- Asks for a certificate. -/
def Client.petition (E : Engine σ) (c : Client) (p : Petition) (key : KeyValue)
    (asked : ModeValue) (disablePop : Bool) (w : World σ) : Outcome σ (Option Certificate) :=
  let operation := p.action.operation
  let maxLength := w.settings.maxLength
  match c.store.selectMode asked with
  | .error (.client e) =>
    ⟨.error (.client e), .faulted,
      { w with journal := w.journal.configurationRejected operation e.message }⟩
  | .error (.fault f) => ⟨.error (.fault f), .idle, w⟩
  | .ok mode =>
    match p.check key with
    | .error failure => ⟨.error failure, .faulted, w⟩
    | .ok () =>
      match p.subject with
      | .error failure => ⟨.error failure, .modeSelected, w⟩
      | .ok subject =>
        match c.store.prepare p key mode disablePop maxLength with
        | .error failure => ⟨.error failure, .faulted, w⟩
        | .ok call =>
          let server := c.store.endpoint.text
          let journal :=
            w.journal.enrollRequested operation mode.text server subject disablePop
          let (answer, w) := World.call E { w with journal } call
          concludeEnroll p.action server maxLength answer w

end Enrollment
