import Enrollment.Engine.Https
import Enrollment.Proofs.Calls

/-!
# Passwords

No password makes a difference to what a client does. `masked` puts asterisks in the place of the
passwords of logins, wherever logins are kept, handed on or remembered. An engine is blind to
passwords if it answers a masked call as it answers the call itself (`Engine.Blind`), and both
engines are. A step with masked logins then comes to what the step itself comes to, up to masking
(`Client.step_masked`), and so do whole sessions. What is not masked is the same to the letter:
results, failures, the journal, settings and progress (`Session.masked_trace_eq`).
-/

namespace Enrollment

/-! ## Masks -/

/-- What is shown in the place of a password. Null is no password. -/
def Value.masked : Value → Value
  | .null => .null
  | _ => .text "***"

/-- A login with its password masked. -/
def Login.masked (l : Login) : Login := { l with password := l.password.masked }

/-- A store with the passwords of its logins masked. -/
def Store.masked (s : Store) : Store :=
  { s with http := s.http.map Login.masked, srp := s.srp.map Login.masked }

/-- A client with the passwords in its store masked. -/
def Client.masked (c : Client) : Client := { c with store := c.store.masked }

/-- The credentials of a call with their passwords masked. -/
def ModeArguments.masked : ModeArguments → ModeArguments
  | .http login => .http (login.map Login.masked)
  | .srp login second => .srp (login.map Login.masked) (second.map Login.masked)
  | .tls certificate key second => .tls certificate key (second.map Login.masked)

/-- A call with the passwords of its credentials masked. -/
def EngineCall.masked : EngineCall → EngineCall
  | .certificate action request arguments => .certificate action request arguments.masked
  | .caCertificates anchors endpoint srp maxLength =>
    .caCertificates anchors endpoint (srp.map Login.masked) maxLength

/-- A step with the password that it sets masked, if it sets one. -/
def Step.masked : Step → Step
  | .setHttp user password => .setHttp user password.masked
  | .setSrp user password => .setSrp user password.masked
  | step => step

/-- What a step gives, with the passwords of credentials masked. -/
def StepResult.masked : StepResult → StepResult
  | .arguments a => .arguments a.masked
  | result => result

/-- A request with the password of its login masked. -/
def WireRequest.masked (r : WireRequest) : WireRequest :=
  { r with submission := r.submission.map fun s => { s with login := s.login.map Login.masked } }

/-- A scripted engine that remembers masked calls. -/
def Scripted.State.masked (t : State) : State := { t with calls := t.calls.map EngineCall.masked }

/-- A transport that remembers masked requests. -/
def Https.Transport.masked (t : Transport) : Transport :=
  { t with requests := t.requests.map WireRequest.masked }

/-! ## Stores -/

namespace Store

section
variable {s : Store}

theorem login_masked {field : String} {user password : Value} :
    login field user password.masked = (login field user password).map Login.masked := by
  have hnull : password.masked.isNull = password.isNull := by cases password <;> rfl
  rw [login, login, hnull]
  split <;> rfl

theorem setServerName_masked {v : Value} :
    s.masked.setServerName v = (s.setServerName v).map masked := by
  cases v with
  | text name =>
    rw [setServerName, setServerName]
    simp only
    split <;> rfl
  | _ => rfl

theorem setServerPort_masked {v : Value} :
    s.masked.setServerPort v = (s.setServerPort v).map masked := by
  cases v with
  | int port =>
    rw [setServerPort, setServerPort]
    simp only
    split <;> rfl
  | _ => rfl

theorem setTrustAnchors_masked {v : CertificatesValue} :
    s.masked.setTrustAnchors v = (s.setTrustAnchors v).map masked := by
  rw [setTrustAnchors, setTrustAnchors]
  cases v.items with
  | error failure => rfl
  | ok anchors =>
    simp only [bind, Except.bind]
    split <;> rfl

theorem setLogin_masked (kind : LoginKind) (user password : Value) :
    s.masked.setLogin kind user password.masked = (s.setLogin kind user password).map masked := by
  rw [setLogin, setLogin, login_masked]
  cases kind <;> cases login _ user password <;> rfl

theorem setTls_masked {certificate : CertificateValue} {key : KeyValue} :
    s.masked.setTls certificate key = (s.setTls certificate key).map masked := by
  cases key with
  | secret k =>
    simp only [setTls]
    split
    · rfl
    · split <;> rfl
  | _ =>
    simp only [setTls]
    split <;> rfl

theorem has_masked (mode : AuthMode) : s.masked.has mode = s.has mode := by
  cases mode with
  | http => exact Option.isSome_map
  | srp => exact Option.isSome_map
  | tls => rfl

/-- Whether a mode can be used does not depend on a password. -/
theorem selectMode_masked {asked : ModeValue} : s.masked.selectMode asked = s.selectMode asked := by
  simp only [selectMode, has_masked]
  rfl

theorem modeArguments_masked (mode : AuthMode) :
    s.masked.modeArguments mode = (s.modeArguments mode).map ModeArguments.masked := by
  cases mode with
  | http => rfl
  | srp => rfl
  | tls =>
    rw [modeArguments, modeArguments, masked]
    cases s.tls with
    | none => rfl
    | some t =>
      simp only
      cases t.certificate.toDer <;> rfl

/-- Everything but the password of a call is the same. -/
theorem prepare_masked {p : Petition} {key : KeyValue} {mode : AuthMode} {disablePop : Bool}
    {maxLength : Nat} : s.masked.prepare p key mode disablePop maxLength =
      (s.prepare p key mode disablePop maxLength).map EngineCall.masked := by
  rw [prepare, prepare, modeArguments_masked]
  change (Bundle.ofAnchors s.anchors >>= _) = _
  cases Bundle.ofAnchors s.anchors with
  | error failure => rfl
  | ok anchors =>
    cases key.toPkcs8 with
    | error failure => rfl
    | ok privateKey =>
      cases p.payload with
      | error failure => rfl
      | ok payload => cases s.modeArguments mode <;> rfl

end

end Store

/-! ## Engines -/

/-- An engine is blind to passwords: masking them changes no answer, and no state but for what `f`
masks in it. -/
structure Engine.Blind (E : Engine σ) (f : σ → σ) : Prop where
  answer : ∀ restricted call t,
    E.answer restricted call.masked (f t) =
      ((E.answer restricted call t).1, f (E.answer restricted call t).2)
  restrict : ∀ t, E.restrict (f t) = E.restrict t

theorem Scripted.engine_blind (refusal : Option String) :
    (engine refusal).Blind State.masked where
  answer restricted call t := by
    have hcalls : t.calls.map EngineCall.masked ++ [call.masked] =
        (t.calls ++ [call]).map EngineCall.masked := by simp
    exact congrArg (Prod.mk _) (congrArg (State.mk _) hcalls)
  restrict _ := rfl

namespace Https

section
variable {kind : ErrorKind} {maxLength : Int} {notes : List EngineNote} {request : WireRequest}
  {t : Transport}

/-- What a reply means does not depend on the password that was sent. -/
theorem interpretReply_masked (reply : WireReply) :
    interpretReply kind maxLength request.masked reply =
      interpretReply kind maxLength request reply := by
  have hmethod : request.masked.method = request.method := by
    rw [WireRequest.method, WireRequest.method, WireRequest.masked, Option.isSome_map]
  cases reply with
  | failed text =>
    rw [interpretReply, interpretReply, hmethod]
    rfl
  | response r => rfl
  | thrown fault => rfl

theorem exchange_masked (request : WireRequest) :
    exchange kind maxLength notes request.masked t.masked =
    ((exchange kind maxLength notes request t).1,
      (exchange kind maxLength notes request t).2.masked) := by
  have hrequests : t.requests.map WireRequest.masked ++ [request.masked] =
      (t.requests ++ [request]).map WireRequest.masked := by simp
  simp only [exchange, interpretReply_masked]
  exact congrArg (Prod.mk _) (congrArg (Transport.mk _) hrequests)

theorem certificateOf_masked (arguments : ModeArguments) :
    certificateOf arguments.masked = certificateOf arguments := by
  cases arguments <;> rfl

theorem httpLogin_masked (arguments : ModeArguments) :
    arguments.masked.httpLogin = arguments.httpLogin.map Login.masked := by
  cases arguments <;> rfl

theorem enroll_masked {o : Options} {action : Action} {r : EngineRequest}
    (arguments : ModeArguments) : enroll o action r arguments.masked t.masked =
      ((enroll o action r arguments t).1, (enroll o action r arguments t).2.masked) := by
  rw [enroll, enroll, certificateOf_masked, httpLogin_masked]
  cases body action r with
  | error failure => rfl
  | ok b =>
    cases certificateOf arguments with
    | error failure => rfl
    | ok certificate => exact exchange_masked (submit o action r b arguments.httpLogin certificate)

/-- A fetch sends no login. -/
theorem fetch_masked {o : Options} {anchors : Bundle} {e : Endpoint} :
    fetch o anchors e maxLength t.masked =
      ((fetch o anchors e maxLength t).1, (fetch o anchors e maxLength t).2.masked) :=
  exchange_masked (question o anchors e)

end

theorem engine_blind (o : Options) : (engine o).Blind Transport.masked where
  answer restricted call t := by
    cases call with
    | certificate action request arguments =>
      cases arguments with
      | srp srp http => rfl
      | http http => exact enroll_masked (.http http)
      | tls certificate key http => exact enroll_masked (.tls certificate key http)
    | caCertificates anchors e srp maxLength =>
      cases srp with
      | some login => rfl
      | none => exact fetch_masked
  restrict _ := rfl

end Https

section
variable {E : Engine σ} {f : σ → σ} {w : World σ} {c : Client}

theorem World.call_masked (hE : E.Blind f) (call : EngineCall) :
    World.call E (w.mapEngine f) call.masked =
      ((World.call E w call).1, (World.call E w call).2.mapEngine f) := by
  rw [World.call, World.call]
  simp only [mapEngine, hE.answer]

theorem World.changed_mapEngine {settings : Settings} {setting : String} {v : Value} :
    (w.mapEngine f).changed settings setting v =
      ((w.changed settings setting v).1, (w.changed settings setting v).2.mapEngine f) := by
  have hjournal : (w.mapEngine f).journal = w.journal := rfl
  rw [changed, changed, hjournal]
  cases w.journal.settingsChanged setting v <;> rfl

theorem World.enableFips_masked (hE : E.Blind f) :
    (w.mapEngine f).enableFips E = ((w.enableFips E).1, (w.enableFips E).2.mapEngine f) := by
  have hrestrict : E.restrict (w.mapEngine f).engine = E.restrict w.engine := hE.restrict w.engine
  rw [enableFips, enableFips, hrestrict]
  cases E.restrict w.engine with
  | ok => exact changed_mapEngine
  | error failure =>
    simp only [recordFailure_mapEngine]
    split
    · cases w.recordFailure failure "enable_fips" <;> rfl
    · rfl

theorem World.setMaxLength_mapEngine {v : Value} :
    (w.mapEngine f).setMaxLength v = ((w.setMaxLength v).1, (w.setMaxLength v).2.mapEngine f) := by
  have hsettings : (w.mapEngine f).settings = w.settings := rfl
  rw [setMaxLength, setMaxLength, hsettings]
  cases w.settings.setMaxLength v with
  | ok settings => exact changed_mapEngine
  | error failure => rfl

theorem World.setVerbosity_mapEngine {v : VerbosityValue} :
    (w.mapEngine f).setVerbosity v = ((w.setVerbosity v).1, (w.setVerbosity v).2.mapEngine f) := by
  cases v with
  | verbosity x =>
    rw [setVerbosity, setVerbosity]
    exact changed_mapEngine
  | plain v =>
    rw [setVerbosity, setVerbosity]
    simp only
    cases Verbosity.ofValue? v with
    | some x => exact changed_mapEngine
    | none => rfl

/-! ## Steps -/

theorem Client.set_masked (s : Except Failure Store) : c.masked.set (s.map Store.masked) =
    ((c.set s).1.map StepResult.masked, (c.set s).2.masked) := by
  cases s <;> rfl

/-- A petition with masked logins comes to the same. -/
theorem Client.petition_masked (hE : E.Blind f) {p : Petition} {key : KeyValue}
    {asked : ModeValue} {disablePop : Bool} :
    c.masked.petition E p key asked disablePop (w.mapEngine f) =
      (c.petition E p key asked disablePop w).mapEngine f := by
  have hmode : c.masked.store.selectMode asked = c.store.selectMode asked :=
    Store.selectMode_masked
  cases hselect : c.store.selectMode asked with
  | error failure =>
    rw [petition, petition, hmode, hselect]
    cases failure <;> rfl
  | ok mode =>
    cases hcheck : p.check key with
    | error failure =>
      simp only [petition, hmode, hselect, hcheck]
      rfl
    | ok _ =>
      cases hsubject : p.subject with
      | error failure =>
        simp only [petition, hmode, hselect, hcheck, hsubject]
        rfl
      | ok subject =>
        have hprepare : c.masked.store.prepare p key mode disablePop w.settings.maxLength =
            (c.store.prepare p key mode disablePop w.settings.maxLength).map EngineCall.masked :=
          Store.prepare_masked
        have hsettings : (w.mapEngine f).settings = w.settings := rfl
        cases hcall : c.store.prepare p key mode disablePop w.settings.maxLength with
        | error failure =>
          rw [hcall] at hprepare
          simp only [petition, hmode, hselect, hcheck, hsubject, hsettings, hcall, hprepare]
          rfl
        | ok call =>
          rw [hcall] at hprepare
          have hmasked : c.masked.petition E p key asked disablePop (w.mapEngine f) = _ :=
            petition_eq_conclude (hmode.trans hselect) hcheck hsubject hprepare
          have hannounced : (w.mapEngine f).announced c.masked.store p mode subject disablePop =
            (w.announced c.store p mode subject disablePop).mapEngine f := rfl
          rw [hmasked, petition_eq_conclude hselect hcheck hsubject hcall, hannounced,
            World.call_masked hE, concludeEnroll_mapEngine]
          rfl

theorem Client.request_masked (hE : E.Blind f) {p : Petition} {key : KeyValue} {mode : ModeValue}
    {disablePop : Bool} : c.masked.request E p key mode disablePop (w.mapEngine f) =
      ((c.request E p key mode disablePop w).1.map StepResult.masked,
        (c.request E p key mode disablePop w).2.1.masked,
        (c.request E p key mode disablePop w).2.2.mapEngine f) := by
  have hopen : { w.mapEngine f with journal := (w.mapEngine f).journal.openOperation } =
      World.mapEngine f { w with journal := w.journal.openOperation } := rfl
  have hresult (r : Except Failure (Option Certificate)) :
      (r.map StepResult.certificate).map StepResult.masked = r.map StepResult.certificate := by
    cases r <;> rfl
  simp only [request, hopen, petition_masked hE, hresult]
  rfl

theorem Store.fetch_masked (hE : E.Blind f) {s : Store} : s.masked.fetch E (w.mapEngine f) =
    ((s.fetch E w).1, (s.fetch E w).2.mapEngine f) := by
  have hendpoint : s.masked.endpoint = s.endpoint := rfl
  have hanchors : s.masked.anchors = s.anchors := rfl
  have hsettings : (w.mapEngine f).settings = w.settings := rfl
  simp only [fetch, hendpoint, hanchors, hsettings]
  cases s.endpoint.isComplete with
  | false => rfl
  | true =>
    cases Bundle.ofAnchors s.anchors with
    | error failure => rfl
    | ok anchors =>
      have hcall := World.call_masked hE (w := w)
        (.caCertificates anchors s.endpoint s.srp w.settings.maxLength)
      simp only [Bool.not_true, Bool.false_eq_true, ↓reduceIte]
      exact (congrArg (fun r => concludeFetch _ _ r.1 r.2) hcall).trans concludeFetch_mapEngine

/-- **A step with masked logins** comes to what the step comes to: the same result, up to the
passwords of credentials, the same journal and settings, and the client and the engine left as they
would be, up to the passwords that they keep. -/
theorem Client.step_masked (hE : E.Blind f) (step : Step) :
    c.masked.step E step.masked (w.mapEngine f) =
      ((c.step E step w).1.map StepResult.masked, (c.step E step w).2.1.masked,
        (c.step E step w).2.2.mapEngine f) := by
  have hsetter {r r' : Except Failure Store} (h : r' = r.map Store.masked) :
      ((c.masked.set r').1, (c.masked.set r').2, w.mapEngine f) =
        ((c.set r).1.map StepResult.masked, (c.set r).2.masked, w.mapEngine f) := by
    rw [h, set_masked]
  have hsetting {r r' : Except Failure Unit × World σ} (h : r' = (r.1, r.2.mapEngine f)) :
      (r'.1.map fun _ => StepResult.done, c.masked, r'.2) =
        ((r.1.map fun _ => StepResult.done).map StepResult.masked, c.masked,
          r.2.mapEngine f) := by
    rw [h]
    cases r.1 <;> rfl
  cases step with
  | setServerName v => exact hsetter Store.setServerName_masked
  | setServerPort v => exact hsetter Store.setServerPort_masked
  | setTrustAnchors v => exact hsetter Store.setTrustAnchors_masked
  | setHttp user password => exact hsetter (Store.setLogin_masked .http user password)
  | setSrp user password => exact hsetter (Store.setLogin_masked .srp user password)
  | setTls certificate key => exact hsetter Store.setTls_masked
  | setMaxLength v => exact hsetting World.setMaxLength_mapEngine
  | setVerbosity v => exact hsetting World.setVerbosity_mapEngine
  | enableFips => exact hsetting (World.enableFips_masked hE)
  | maxLength => rfl
  | modeArguments mode =>
    have harguments : c.masked.store.modeArguments mode =
      (c.store.modeArguments mode).map ModeArguments.masked := Store.modeArguments_masked mode
    simp only [step, Step.masked, harguments]
    cases c.store.modeArguments mode <;> rfl
  | enroll request key mode disablePop =>
    simp only [step, Step.masked]
    cases request.toObject with
    | error failure => rfl
    | ok request => exact request_masked hE
  | reenroll old key mode disablePop => exact request_masked hE
  | fetch =>
    have hfetch := Store.fetch_masked hE (s := c.store)
      (w := { w with journal := w.journal.openOperation })
    have hresult (r : Except Failure (List Certificate)) :
        (r.map StepResult.certificates).map StepResult.masked = r.map StepResult.certificates := by
      cases r <;> rfl
    simp only [step, Step.masked, hresult]
    exact congrArg (fun r => (r.1.map StepResult.certificates, c.masked,
      { r.2 with journal := r.2.journal.clearCorrelation })) hfetch

end

/-! ## Sessions -/

/-- A session with the passwords in its stores masked, and in the state of its engine what `f`
masks. -/
def Session.masked (f : σ → σ) (s : Session σ) : Session σ where
  clients := s.clients.map Client.masked
  world := s.world.mapEngine f

/-- What a run of a session comes to: after every step its result, and the session as the step left
it. -/
def Session.trace (E : Engine σ) (s : Session σ) :
    List (Nat × Step) → List (Except Failure StepResult × Session σ)
  | [] => []
  | (n, step) :: more => s.step E n step :: (s.step E n step).2.trace E more

/-- The steps of a run with the passwords that they set masked. -/
def maskedSteps (steps : List (Nat × Step)) : List (Nat × Step) :=
  steps.map fun (n, step) => (n, step.masked)

/-- What a step of a session comes to, with its passwords masked. -/
def maskedOutcome (f : σ → σ) (r : Except Failure StepResult × Session σ) :
    Except Failure StepResult × Session σ :=
  (r.1.map StepResult.masked, r.2.masked f)

section
variable {E : Engine σ} {f : σ → σ} {s s' : Session σ} {steps steps' : List (Nat × Step)}

theorem Session.step_masked (hE : E.Blind f) (n : Nat) (step : Step) :
    (s.masked f).step E n step.masked = maskedOutcome f (s.step E n step) := by
  have hclient : (s.masked f).clients[n]? = s.clients[n]?.map Client.masked := List.getElem?_map
  rw [Session.step, Session.step, hclient]
  cases s.clients[n]? with
  | none => rfl
  | some c =>
    have hclients (c' : Client) : (s.clients.map Client.masked).set n c'.masked =
        (s.clients.set n c').map Client.masked := by simp
    simp only [Option.map_some, Client.step_masked hE, maskedOutcome, masked, hclients]

/-- A run with masked passwords comes to what the run comes to, up to masking. -/
theorem Session.trace_masked (hE : E.Blind f) :
    (s.masked f).trace E (maskedSteps steps) = (s.trace E steps).map (maskedOutcome f) := by
  induction steps generalizing s with
  | nil => rfl
  | cons step more ih =>
    obtain ⟨n, step⟩ := step
    have hnext : ((s.masked f).step E n step.masked).2 = (s.step E n step).2.masked f := by
      rw [step_masked hE]
      rfl
    rw [maskedSteps, List.map_cons, ← maskedSteps, trace, trace, List.map_cons, hnext,
      step_masked hE, ih]

theorem Session.masked_trace_eq_of_blind (hE : E.Blind f) (hs : s'.masked f = s.masked f)
    (hsteps : maskedSteps steps' = maskedSteps steps) :
    (s'.trace E steps').map (maskedOutcome f) = (s.trace E steps).map (maskedOutcome f) := by
  rw [← trace_masked hE, ← trace_masked hE, hs, hsteps]

end

/-- **No password makes a difference**, with a scripted engine and over HTTPS: if two runs of
sessions differ in passwords only, that are kept at the start or set on the way, then after every
step the result, the journal, the settings, the progress of all clients and the calls of the engine
are the same, up to the passwords of logins in stores, in calls and requests, and in the credentials
that a step gives. -/
theorem Session.masked_trace_eq :
    (∀ (refusal : Option String) (s s' : Session Scripted.State) (steps steps' : List (Nat × Step)),
      s'.masked Scripted.State.masked = s.masked Scripted.State.masked →
      maskedSteps steps' = maskedSteps steps →
      (s'.trace (Scripted.engine refusal) steps').map (maskedOutcome Scripted.State.masked) =
        (s.trace (Scripted.engine refusal) steps).map (maskedOutcome Scripted.State.masked)) ∧
    ∀ (o : Https.Options) (s s' : Session Https.Transport) (steps steps' : List (Nat × Step)),
      s'.masked Https.Transport.masked = s.masked Https.Transport.masked →
      maskedSteps steps' = maskedSteps steps →
      (s'.trace (Https.engine o) steps').map (maskedOutcome Https.Transport.masked) =
        (s.trace (Https.engine o) steps).map (maskedOutcome Https.Transport.masked) :=
  ⟨fun refusal _ _ _ _ => masked_trace_eq_of_blind (Scripted.engine_blind refusal),
    fun o _ _ _ _ => masked_trace_eq_of_blind (Https.engine_blind o)⟩

/-- A run that logs in with a password and fetches the certificates of the authority. -/
def sampleSteps (password : String) : List (Nat × Step) :=
  [(0, .setSrp "ada" password), (0, .modeArguments .srp), (0, .fetch)]

theorem Session.masked_trace_eq_fetch :
    maskedSteps (sampleSteps "other") = maskedSteps (sampleSteps "secret") ∧
    ((Session.mk [sampleClient] { engine := ⟨[], []⟩ }).trace (Scripted.engine none)
        (sampleSteps "other")).map (maskedOutcome Scripted.State.masked) =
      ((Session.mk [sampleClient] { engine := ⟨[], []⟩ }).trace (Scripted.engine none)
        (sampleSteps "secret")).map (maskedOutcome Scripted.State.masked) ∧
    ((Session.mk [sampleClient] { engine := ⟨[], []⟩ }).trace (Https.engine {})
        (sampleSteps "other")).map (maskedOutcome Https.Transport.masked) =
      ((Session.mk [sampleClient] { engine := ⟨[], []⟩ }).trace (Https.engine {})
        (sampleSteps "secret")).map (maskedOutcome Https.Transport.masked) :=
  ⟨rfl, masked_trace_eq.1 none _ _ _ _ rfl rfl, masked_trace_eq.2 {} _ _ _ _ rfl rfl⟩

end Enrollment
