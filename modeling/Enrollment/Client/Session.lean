import Enrollment.Client.CaCertificates
import Enrollment.Client.Enroll
import Enrollment.Client.Settings
import Enrollment.Configuration.Basic
import Enrollment.Material

/-!
# Sessions

Several clients that share an engine. A `Step` is anything that can be done with one of the
clients; `Session.step` does it. Operations run under a correlation id of their own, which is
cleared when they end, however they end.
-/

namespace Enrollment

/-- Something to do with a client. -/
inductive Step where
  | setServerName (v : Value)
  | setServerPort (v : Value)
  | setTrustAnchors (v : CertificatesValue)
  | setHttp (user password : Value)
  | setSrp (user password : Value)
  | setTls (certificate : CertificateValue) (key : KeyValue)
  | setMaxLength (v : Value)
  | setVerbosity (v : VerbosityValue)
  | enableFips
  | maxLength
  | modeArguments (mode : AuthMode)
  | enroll (request : RequestValue) (key : KeyValue) (mode : ModeValue) (disablePop : Bool)
  | reenroll (old : CertificateValue) (key : KeyValue) (mode : ModeValue) (disablePop : Bool)
  | fetch

/-- What a step gives. -/
inductive StepResult where
  | done
  | length (n : Nat)
  | arguments (a : ModeArguments)
  | certificate (c : Option Certificate)
  | certificates (cs : List Certificate)

/-- Clients and the world that they share. -/
structure Session (σ : Type) where
  clients : List Client
  world : World σ

/-- A client with another store. -/
def Client.withStore (c : Client) (s : Store) : Client := { c with store := s }

/-- Sets the store of a client, or leaves it as it is. -/
def Client.set (c : Client) (s : Except Failure Store) : Except Failure StepResult × Client :=
  match s with
  | .ok s => (.ok .done, c.withStore s)
  | .error failure => (.error failure, c)

/-- Asks for a certificate under a correlation id of its own. -/
def Client.request (E : Engine σ) (c : Client) (p : Petition) (key : KeyValue) (mode : ModeValue)
    (disablePop : Bool) (w : World σ) : Except Failure StepResult × Client × World σ :=
  let o := c.petition E p key mode disablePop { w with journal := w.journal.openOperation }
  (o.result.map .certificate, { c with progress := o.progress },
    { o.world with journal := o.world.journal.clearCorrelation })

/-- Does a step with a client. -/
def Client.step (E : Engine σ) (c : Client) (step : Step) (w : World σ) :
    Except Failure StepResult × Client × World σ :=
  let setter (s : Except Failure Store) : Except Failure StepResult × Client × World σ :=
    let (result, c) := c.set s
    (result, c, w)
  let setting (r : Except Failure Unit × World σ) :
      Except Failure StepResult × Client × World σ :=
    (r.1.map fun _ => .done, c, r.2)
  match step with
  | .setServerName v => setter (c.store.setServerName v)
  | .setServerPort v => setter (c.store.setServerPort v)
  | .setTrustAnchors v => setter (c.store.setTrustAnchors v)
  | .setHttp user password => setter (c.store.setHttp user password)
  | .setSrp user password => setter (c.store.setSrp user password)
  | .setTls certificate key => setter (c.store.setTls certificate key)
  | .setMaxLength v => setting (w.setMaxLength v)
  | .setVerbosity v => setting (w.setVerbosity v)
  | .enableFips => setting (w.enableFips E)
  | .maxLength => (.ok (.length w.settings.maxLength), c, w)
  | .modeArguments mode => ((c.store.modeArguments mode).map .arguments, c, w)
  | .enroll request key mode disablePop =>
    match request.toObject with
    | .error failure => (.error failure, c, w)
    | .ok request => c.request E (.new request) key mode disablePop w
  | .reenroll old key mode disablePop => c.request E (.renewal old) key mode disablePop w
  | .fetch =>
    let (result, w) := c.store.fetch E { w with journal := w.journal.openOperation }
    (result.map .certificates, c, { w with journal := w.journal.clearCorrelation })

/-- Does a step with the client of a number; without such a client nothing happens. -/
def Session.step (E : Engine σ) (s : Session σ) (n : Nat) (step : Step) :
    Except Failure StepResult × Session σ :=
  match s.clients[n]? with
  | none => (.ok .done, s)
  | some c =>
    let (result, c, world) := c.step E step s.world
    (result, { clients := s.clients.set n c, world })

/-- Does one step after the other. -/
def Session.run (E : Engine σ) (s : Session σ) : List (Nat × Step) → Session σ
  | [] => s
  | (n, step) :: more => Session.run E (s.step E n step).2 more

/-! ## Clients from a configuration -/

/-- The store of the server that a configuration names. -/
def Store.ofServer (c : Configuration.Server) : Except Failure Store := do
  let s ← match c.host with
    | none | some "" => .ok {}
    | some host => ({} : Store).setServerName host
  s.setServerPort (.int c.port)

/-- A store with the trust anchors of a file, if there is one. -/
def Store.withAnchors (t : FileTree) (s : Store) : Option Path → Except Failure Store
  | none => .ok s
  | some path => do
    s.setTrustAnchors (.list ((← loadCertificates t path).map .certificate))

/-- A store with a login of a kind, if there is one. -/
def Store.withLogin (s : Store) (kind : LoginKind) :
    Option Configuration.Password → Except Failure Store
  | none => .ok s
  | some p => s.setLogin kind p.username p.password

/-- A store with the client certificate and the key of two files, if there are any. -/
def Store.withTls (t : FileTree) (s : Store) :
    Option Configuration.TlsFiles → Except Failure Store
  | none => .ok s
  | some files => do
    match ← loadCertificates t files.certFile with
    | [] => throw (invalidFile files.certFile "no certificates found")
    | certificate :: _ =>
      let key ← loadPrivateKey t files.keyFile
      s.setTls (.certificate certificate) (.secret key)

/-- A store with the credentials that a configuration holds, if it holds any. -/
def Store.withAuth (t : FileTree) (s : Store) : Option Configuration.Auth → Except Failure Store
  | none => .ok s
  | some auth => do
    let s ← s.withLogin .http auth.http
    let s ← s.withLogin .srp auth.srp
    s.withTls t auth.tls

/-- The store that a configuration asks for, from its files. -/
def Store.ofConfiguration (t : FileTree) (c : Configuration) : Except Failure Store := do
  let s ← Store.ofServer c.server
  let s ← s.withAnchors t c.trust.anchorsFile
  s.withAuth t c.auth

/-- The client that a configuration asks for, with an engine that may be restricted first. -/
def Client.ofConfiguration (E : Engine σ) (t : FileTree) (c : Configuration) (w : World σ) :
    Except Failure Client × World σ :=
  let (restricted, w) := if c.engine.fips then w.enableFips E else (.ok (), w)
  match restricted with
  | .error failure => (.error failure, w)
  | .ok () => ((Store.ofConfiguration t c).map fun store => { store }, w)

/-- The settings that a configuration asks for. -/
def Settings.ofConfiguration (c : Configuration.Engine) : Except Failure Settings :=
  return { (← ({} : Settings).setMaxLength (.int c.maxLength)) with verbosity := c.verbosity }

end Enrollment
