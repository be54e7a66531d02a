import Enrollment.Audit.Journal
import Enrollment.Configuration.Scalar
import Enrollment.Store

/-!
# Configurations

What a configuration says about the server, the trust anchors, the credentials, the engine and
the audit trail. `Configuration.ofValue` checks plain data and finds all its issues;
`Configuration.toValue` writes a configuration as plain data again.
-/

namespace Enrollment

namespace Configuration

/-- The server. -/
structure Server where
  host : Option String := none
  port : Int := 443
deriving DecidableEq, Repr, Inhabited

/-- What the server is trusted by. -/
structure Trust where
  anchorsFile : Option Path := none
deriving DecidableEq, Repr, Inhabited

/-- A user name and a password. -/
structure Password where
  username : String
  password : String
deriving DecidableEq, Repr, Inhabited

/-- The files of a client certificate and its key. -/
structure TlsFiles where
  certFile : Path
  keyFile : Path
deriving DecidableEq, Repr, Inhabited

/-- The mode of authentication and the credentials. -/
structure Auth where
  mode : AuthMode := .http
  http : Option Password := none
  srp : Option Password := none
  tls : Option TlsFiles := none
deriving DecidableEq, Repr, Inhabited

/-- Whether the section of a mode is there. -/
def Auth.has (a : Auth) : AuthMode → Bool
  | .http => a.http.isSome
  | .srp => a.srp.isSome
  | .tls => a.tls.isSome

/-- The engine. -/
structure Engine where
  maxLength : Int := defaultMaxLength
  verbosity : Verbosity := .errors
  fips : Bool := false
  timeout : Binary64 := .ofInt 30
deriving DecidableEq, Repr, Inhabited

/-- The audit trail. -/
structure Audit where
  logFile : Option Path := some (.ofText "logs/est-client.log")
  level : Level := .info
deriving DecidableEq, Repr, Inhabited

/-- The levels that an audit trail can be cut at. -/
def auditLevels : List Level := [.debug, .info, .warning, .error]

/-! ## Reading -/

/-- Reads the section of the server. -/
def Server.ofValue (v : Value) : Checked Server :=
  (entries "ServerConfig" v).bind fun s =>
    ((entryOr s "host" none (optional text)).both
      (entryOr s "port" 443 (integerWithin 1 65535))).map fun (host, port) => ⟨host, port⟩

/-- Reads the section of the trust anchors. -/
def Trust.ofValue (v : Value) : Checked Trust :=
  (entries "TrustConfig" v).bind fun s =>
    (entryOr s "anchors_file" none (optional path)).map Trust.mk

/-- Reads a user name and a password. -/
def Password.ofValue (v : Value) : Checked Password :=
  (entries "PasswordCredentialConfig" v).bind fun s =>
    ((entry s "username" text).both (entry s "password" text)).map fun (u, p) => ⟨u, p⟩

/-- Reads the files of a client certificate. -/
def TlsFiles.ofValue (v : Value) : Checked TlsFiles :=
  (entries "TLSCredentialConfig" v).bind fun s =>
    ((entry s "cert_file" path).both (entry s "key_file" path)).map fun (c, k) => ⟨c, k⟩

/-- Reads the section of the credentials. The one that the mode needs has to be there, which is
looked at when all else is well. -/
def Auth.ofValue (v : Value) : Checked Auth :=
  (entries "AuthConfig" v).bind fun s =>
    let mode := entryOr s "mode" .http (choice (AuthMode.all.map fun m => (m.text, m)))
    let http := entryOr s "http" none (optional Password.ofValue)
    let srp := entryOr s "srp" none (optional Password.ofValue)
    let tls := entryOr s "tls" none (optional TlsFiles.ofValue)
    (mode.both (http.both (srp.both tls))).bind fun (mode, http, srp, tls) =>
      let a : Auth := ⟨mode, http, srp, tls⟩
      if a.has mode then .ok a else Checked.fail (.missingCredentials mode.text) v

/-- Reads the section of the engine. -/
def Engine.ofValue (v : Value) : Checked Engine :=
  (entries "EngineConfig" v).bind fun s =>
    let d : Engine := {}
    let maxLength := entryOr s "max_cert_length" d.maxLength (integerFrom 1)
    let verbosity :=
      entryOr s "log_level" d.verbosity (choice (Verbosity.all.map fun x => (x.text, x)))
    let fips := entryOr s "fips" d.fips boolean
    let timeout := entryOr s "timeout" d.timeout positiveNumber
    (maxLength.both (verbosity.both (fips.both timeout))).map fun (m, v, f, t) => ⟨m, v, f, t⟩

/-- Reads the section of the audit trail. -/
def Audit.ofValue (v : Value) : Checked Audit :=
  (entries "AuditConfig" v).bind fun s =>
    let d : Audit := {}
    let logFile := entryOr s "log_file" d.logFile (optional path)
    let level := entryOr s "log_level" d.level (choice (auditLevels.map fun l => (l.name, l)))
    (logFile.both level).map fun (f, l) => ⟨f, l⟩

end Configuration

/-- A configuration. -/
structure Configuration where
  server : Configuration.Server := {}
  trust : Configuration.Trust := {}
  auth : Option Configuration.Auth := none
  engine : Configuration.Engine := {}
  audit : Configuration.Audit := {}
deriving DecidableEq, Repr, Inhabited

namespace Configuration

/-- Checks plain data. -/
def ofValue (v : Value) : Checked Configuration :=
  (entries "ClientConfig" v).bind fun s =>
    let server := entryOr s "server" {} Server.ofValue
    let trust := entryOr s "trust" {} Trust.ofValue
    let auth := entryOr s "auth" none (optional Auth.ofValue)
    let engine := entryOr s "engine" {} Engine.ofValue
    let audit := entryOr s "audit" {} Audit.ofValue
    (server.both (trust.both (auth.both (engine.both audit)))).map fun (s, t, a, e, d) =>
      ⟨s, t, a, e, d⟩

/-! ## Writing -/

/-- What is left empty or written. -/
def optionalValue (write : α → Value) : Option α → Value
  | none => .null
  | some a => write a

/-- A path as plain data. -/
def pathValue (p : Path) : Value := p.text

/-- A user name and a password as plain data. -/
def Password.toValue (p : Password) : Value :=
  .table [("username", p.username), ("password", p.password)]

/-- The user name alone, for a reader. -/
def Password.shown : Option Password → String
  | none => "None"
  | some p => "PasswordCredentialConfig(username=" ++ Text.quote p.username ++ ")"

/-- The files of a client certificate as plain data. -/
def TlsFiles.toValue (t : TlsFiles) : Value :=
  .table [("cert_file", pathValue t.certFile), ("key_file", pathValue t.keyFile)]

/-- The credentials as plain data. -/
def Auth.toValue (a : Auth) : Value :=
  .table [("mode", a.mode.text), ("http", optionalValue Password.toValue a.http),
    ("srp", optionalValue Password.toValue a.srp), ("tls", optionalValue TlsFiles.toValue a.tls)]

/-- The configuration as plain data. -/
def toValue (c : Configuration) : Value :=
  .table [
    ("server", .table [("host", optionalValue Value.text c.server.host),
      ("port", .int c.server.port)]),
    ("trust", .table [("anchors_file", optionalValue pathValue c.trust.anchorsFile)]),
    ("auth", optionalValue Auth.toValue c.auth),
    ("engine", .table [("max_cert_length", .int c.engine.maxLength),
      ("log_level", c.engine.verbosity.text), ("fips", .bool c.engine.fips),
      ("timeout", .float c.engine.timeout)]),
    ("audit", .table [("log_file", optionalValue pathValue c.audit.logFile),
      ("log_level", c.audit.level.name)])]

/-! ## Setting a part -/

/-- Why a part of a configuration cannot be set. -/
inductive AssignFault where
  /-- A section does not change. -/
  | frozen (issue : Issue)
  /-- The names lead to no section. -/
  | lacking (fault : Fault)
deriving Repr

/-- The kind of the part that names lead to. -/
def partKind : List String → Value → String
  | _, .null => Value.null.kindName
  | [], _ => "ClientConfig"
  | ["server"], _ => "ServerConfig"
  | ["trust"], _ => "TrustConfig"
  | ["auth"], _ => "AuthConfig"
  | ["auth", "http"], _ | ["auth", "srp"], _ => "PasswordCredentialConfig"
  | ["auth", "tls"], _ => "TLSCredentialConfig"
  | ["engine"], _ => "EngineConfig"
  | ["audit"], _ => "AuditConfig"
  | ["trust", _], _ | ["auth", "tls", _], _ | ["audit", "log_file"], _ => "PosixPath"
  | _, v => v.kindName

/-- Sets the part `last` of the part that is left to go to from `v`, which is the part that the
names of `visited` lead to. -/
def assignWithin (last : String) (value : Value) (visited : List String) (v : Value) :
    List String → Except AssignFault Unit
  | [] =>
    match v with
    | .table _ => .error (.frozen ⟨[last], .frozen, value⟩)
    | _ => .error (.lacking (.lacking (partKind visited v) last))
  | name :: more =>
    let missing := .error (.lacking (.lacking (partKind visited v) name))
    match v with
    | .table entries =>
      match Value.entry? name entries with
      | some part => assignWithin last value (visited ++ [name]) part more
      | none => missing
    | _ => missing

/-- Sets the part `last` of the part that the names lead to. A section refuses whatever part is
set, so configurations do not change. -/
def assign (c : Configuration) (names : List String) (last : String) (value : Value) :
    Except AssignFault Unit :=
  assignWithin last value [] c.toValue names

end Configuration

end Enrollment
