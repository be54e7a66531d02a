import Enrollment.Argument

/-!
# The credential store

What a session knows before it contacts a server: the endpoint, the trust anchors and the
credentials. Each setter checks what it is given and changes one part of the store, or fails and
changes nothing. `Store.selectMode` says whether an authentication mode can be used.
-/

namespace Enrollment

/-- How a client proves who it is. HTTP credentials may accompany the other two. -/
inductive AuthMode where
  | http
  | srp
  | tls
deriving DecidableEq, Repr, Inhabited

namespace AuthMode

/-- All modes. -/
def all : List AuthMode := [http, srp, tls]

/-- The word for a mode. -/
def text : AuthMode → String
  | http => "http"
  | srp => "srp"
  | tls => "tls"

/-- The mode with a word. -/
def ofText? (s : String) : Option AuthMode := all.find? fun m => m.text = s

/-- The setter that supplies what a mode needs. -/
def setter : AuthMode → String
  | http => "set_http_credentials"
  | srp => "set_srp_credentials"
  | tls => "set_tls_authentication_credentials"

end AuthMode

/-- What is passed for a mode. -/
inductive ModeValue where
  | mode (m : AuthMode)
  | plain (v : Value)

/-- The mode that was passed. -/
def ModeValue.mode? : ModeValue → Option AuthMode
  | .mode m => some m
  | .plain (.text s) => AuthMode.ofText? s
  | .plain _ => none

/-- What was passed for a mode, as a plain value. -/
def ModeValue.value : ModeValue → Value
  | .mode m => m.text
  | .plain v => v

/-- A server's host and port. -/
structure Endpoint where
  host : Option String := none
  port : Option Int := none
deriving DecidableEq, Repr, Inhabited

namespace Endpoint

/-- Whether both parts are there. -/
def isComplete (e : Endpoint) : Bool := e.host.any (· != "") && e.port.isSome

/-- Host and port with a colon between them. -/
def text (e : Endpoint) : String :=
  (e.host.getD "None") ++ ":" ++ ((e.port.map toString).getD "None")

end Endpoint

/-- A user name and a password. -/
structure Login where
  user : Value
  password : Value
deriving Repr, Inhabited

/-- What a login is used for. -/
inductive LoginKind where
  | http
  | srp
deriving DecidableEq, Repr

/-- The name of a kind of login. -/
def LoginKind.name : LoginKind → String
  | .http => "HttpCredential"
  | .srp => "SrpCredential"

/-- The name of what a kind of login is set under. -/
def LoginKind.field : LoginKind → String
  | .http => "http_credentials"
  | .srp => "srp_credentials"

/-- A login without its password. -/
def Login.shown (kind : LoginKind) (l : Login) : Except Fault String :=
  if l.user.isWritable then
    .ok (kind.name ++ "(username=" ++ l.user.wording ++ ", password='***')")
  else .error .longInteger

/-- A client certificate and its key. The certificate is whatever was given for one. -/
structure TlsCredential where
  certificate : CertificateValue
  key : PrivateKey

/-- The credential store. -/
structure Store where
  endpoint : Endpoint := {}
  anchors : List CertificateValue := []
  http : Option Login := none
  srp : Option Login := none
  tls : Option TlsCredential := none

namespace Store

/-- The failure of a setter. -/
def refused (field reason : String) : Failure :=
  .ofCause .invalidArgument (.missingValue field reason)

/-- Sets the host: a text that is not blank, without the blanks at its ends. -/
def setServerName (s : Store) (v : Value) : Except Failure Store :=
  let blank := refused "server_name" "Server name may not be empty"
  match v with
  | .text name =>
    let host := String.ofList (Text.trim name.toList)
    if host = "" then .error blank
    else .ok { s with endpoint := { s.endpoint with host := some host } }
  | _ => .error blank

/-- Sets the port: an integer from 1 to 65535. -/
def setServerPort (s : Store) (v : Value) : Except Failure Store :=
  match v with
  | .int port =>
    if 1 ≤ port ∧ port ≤ 65535 then
      .ok { s with endpoint := { s.endpoint with port := some port } }
    else .error (.ofCause .invalidArgument (.invalidPort v))
  | _ => .error (.ofCause .invalidArgument (.invalidPort v))

/-- Sets the trust anchors: certificates, or nothing. -/
def setTrustAnchors (s : Store) (v : CertificatesValue) : Except Failure Store := do
  let anchors ← v.items
  match anchors.find? fun c => !c.isCertificate with
  | some c =>
    throw (refused "trust_anchor"
      ("Trust anchor must be an X.509 certificate, got " ++ c.kindName))
  | none => return { s with anchors }

/-- A login of a user and a password, neither of them null. -/
def login (field : String) (user password : Value) : Except Failure Login :=
  if user.isNull || password.isNull then
    .error (refused field "User name and password may not be null")
  else .ok ⟨user, password⟩

/-- The store with a login of a kind. -/
def putLogin (s : Store) (kind : LoginKind) (l : Option Login) : Store :=
  match kind with
  | .http => { s with http := l }
  | .srp => { s with srp := l }

/-- Sets the login of a kind. -/
def setLogin (s : Store) (kind : LoginKind) (user password : Value) : Except Failure Store := do
  return s.putLogin kind (some (← login kind.field user password))

/-- Sets the login for HTTP. -/
def setHttp (s : Store) (user password : Value) : Except Failure Store :=
  s.setLogin .http user password

/-- Sets the login for SRP. -/
def setSrp (s : Store) (user password : Value) : Except Failure Store :=
  s.setLogin .srp user password

/-- Sets the client certificate and its key, which has to be one that signs. -/
def setTls (s : Store) (certificate : CertificateValue) (key : KeyValue) : Except Failure Store :=
  if certificate.isNull || key.isNull then
    .error (refused "tls_credentials" "Certificate and key may not be null")
  else match key with
    | .secret k =>
      if k.isSigning then .ok { s with tls := some ⟨certificate, k⟩ }
      else .error (refused "tls_credentials" "Key pair contains null private key")
    | _ => .error (refused "tls_credentials" "Key pair contains null private key")

/-- Whether the credential of a mode is there. -/
def has (s : Store) : AuthMode → Bool
  | .http => s.http.isSome
  | .srp => s.srp.isSome
  | .tls => s.tls.isSome

/-- The failure of a configuration. -/
def unusable (cause : Cause) : Failure := .ofCause .configuration cause

/-- The failure of a mode that does not exist: it is shown, which fails itself if it cannot be
written down. -/
def unknownMode (v : Value) : Failure :=
  if v.isWritable then unusable (.invalidAuthMode v.wording v.asText) else .fault .longInteger

/-- The mode that was asked for, if host, port and its credential are there. -/
def selectMode (s : Store) (asked : ModeValue) : Except Failure AuthMode :=
  match asked.mode? with
  | none => .error (unknownMode asked.value)
  | some mode =>
    if !s.endpoint.host.any (· != "") then .error (unusable (.missingEndpoint "name"))
    else if s.endpoint.port.isNone then .error (unusable (.missingEndpoint "port"))
    else if s.has mode then .ok mode
    else .error (unusable (.missingCredentials mode.text mode.setter))

end Store

end Enrollment
