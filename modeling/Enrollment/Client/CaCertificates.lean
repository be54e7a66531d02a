import Enrollment.Client.Basic

/-!
# Certificates of the authority

Asks the server for the certificates that its authority uses at present. This needs no
credentials; a login over SRP is used if there is one.
-/

namespace Enrollment

/-- The name of the operation. -/
def caOperation : String := "cacerts"

/-- The failure of an operation that needs an endpoint. -/
def Endpoint.incomplete (e : Endpoint) : Failure :=
  Store.unusable (.missingEndpoint (if e.host.any (· != "") then "port" else "name"))

/-- What the answer of an engine means. -/
def concludeFetch (server : String) (maxLength : Nat) (answer : Except Failure (Option Octets))
    (w : World σ) : Except Failure (List Certificate) × World σ :=
  let recorded (failure final : Failure) : Except Failure (List Certificate) × World σ :=
    match w.recordFailure failure caOperation with
    | .ok w => (.error final, w)
    | .error failure => (.error failure, w)
  match answer with
  | .error (.client e) => recorded (.client e) (.client e)
  | .error (.fault f) =>
    recorded (.fault f) (.ofCause .caCerts (.engineFailed f.message none))
  | .ok data =>
    let bytes := data.getD []
    if bytes.isEmpty then
      (.ok [], { w with journal := w.journal.noCertificate caOperation server })
    else if maxLength < bytes.length then
      (.error (.ofCause .bufferSize (.tooLong bytes.length maxLength)), w)
    else match (Reading.ofStream bytes).toExcept with
      | .error failure => (.error failure, w)
      | .ok certificates =>
        (.ok certificates,
          { w with journal := w.journal.caCertificatesReceived server certificates.length })

/-- Fetches the certificates of the authority. -/
def Store.fetch (E : Engine σ) (s : Store) (w : World σ) :
    Except Failure (List Certificate) × World σ :=
  let e := s.endpoint
  if !e.isComplete then
    (.error e.incomplete,
      { w with journal := w.journal.configurationRejected caOperation e.incomplete.message })
  else
    match Bundle.ofAnchors s.anchors with
    | .error failure => (.error failure, w)
    | .ok anchors =>
      let maxLength := w.settings.maxLength
      let (answer, w) := World.call E w (.caCertificates anchors e s.srp maxLength)
      concludeFetch e.text maxLength answer w

end Enrollment
