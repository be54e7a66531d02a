import Enrollment.Proofs.Petition

/-!
# Calls of the engine

What a petition asks of an engine. `Engine.recorded` is an engine that also keeps a record of the
calls it gets, and otherwise answers as before; so the record of a petition shows every call that
is made of the engine itself. A petition that is `Ready` makes one call, with what the store and
the caller gave for it and nothing else, and any other petition fails without a call
(`Client.petition_calls`).
-/

namespace Enrollment

/-! ## Other states of an engine -/

/-- A world whose engine is in the state that `f` makes of its own. -/
def World.mapEngine (f : σ → τ) (w : World σ) : World τ where
  settings := w.settings
  engine := f w.engine
  journal := w.journal

/-- An outcome in such a world. -/
def Outcome.mapEngine (f : σ → τ) (o : Outcome σ α) : Outcome τ α where
  result := o.result
  progress := o.progress
  world := o.world.mapEngine f

section
variable {f : σ → τ} {w : World σ}

theorem World.recordFailure_mapEngine (failure : Failure) (context : String) :
    (w.mapEngine f).recordFailure failure context =
      (w.recordFailure failure context).map (·.mapEngine f) := by
  rw [recordFailure, recordFailure, mapEngine]
  cases w.journal.failed failure context <;> rfl

theorem faulted_mapEngine {context : String} {failure final : Failure} :
    (faulted (w.mapEngine f) context failure final : Outcome _ α) =
      (faulted w context failure final).mapEngine f := by
  rw [faulted, faulted, World.recordFailure_mapEngine]
  cases w.recordFailure failure context <;> rfl

theorem interpretResponse_mapEngine {a : Action} {server : String} {maxLength : Nat}
    {data : Option Octets} :
    interpretResponse a server maxLength data (w.mapEngine f) =
      (interpretResponse a server maxLength data w).mapEngine f := by
  rw [interpretResponse, interpretResponse]
  simp only [faulted_mapEngine]
  split
  · rfl
  · split
    · rfl
    · split
      · rfl
      · rfl
      · split <;> rfl

/-- What an answer means does not depend on the state of the engine. -/
theorem concludeEnroll_mapEngine {a : Action} {server : String} {maxLength : Nat}
    {answer : Except Failure (Option Octets)} :
    concludeEnroll a server maxLength answer (w.mapEngine f) =
      (concludeEnroll a server maxLength answer w).mapEngine f := by
  cases answer with
  | ok data => exact interpretResponse_mapEngine
  | error failure =>
    cases failure with
    | fault fault =>
      rw [concludeEnroll, concludeEnroll]
      exact faulted_mapEngine
    | client e =>
      rw [concludeEnroll, concludeEnroll]
      have hjournal : (w.mapEngine f).journal = w.journal := rfl
      split
      · rw [hjournal]
        cases w.journal.enrollDeferred a.operation e.retryAfter <;> rfl
      · exact faulted_mapEngine

/-- Nor does what an answer with certificates of the authority means. -/
theorem concludeFetch_mapEngine {server : String} {maxLength : Nat}
    {answer : Except Failure (Option Octets)} :
    concludeFetch server maxLength answer (w.mapEngine f) =
      ((concludeFetch server maxLength answer w).1,
        (concludeFetch server maxLength answer w).2.mapEngine f) := by
  cases answer with
  | error failure =>
    cases failure with
    | client e =>
      simp only [concludeFetch, World.recordFailure_mapEngine]
      cases w.recordFailure (.client e) caOperation <;> rfl
    | fault fault =>
      simp only [concludeFetch, World.recordFailure_mapEngine]
      cases w.recordFailure (.fault fault) caOperation <;> rfl
  | ok data =>
    simp only [concludeFetch]
    by_cases hempty : (data.getD []).isEmpty
    · simp only [if_pos hempty]
      rfl
    · by_cases hlong : maxLength < (data.getD []).length
      · simp only [if_neg hempty, if_pos hlong]
      · simp only [if_neg hempty, if_neg hlong]
        cases (Reading.ofStream (data.getD [])).toExcept <;> rfl

end

/-! ## A record of calls -/

/-- An engine that keeps a record of the calls it gets, oldest first. -/
def Engine.recorded (E : Engine σ) : Engine (σ × List EngineCall) where
  answer restricted call t :=
    let (answer, engine) := E.answer restricted call t.1
    (answer, engine, t.2 ++ [call])
  restrict t := E.restrict t.1

/-- A world whose engine has a record. -/
def World.record (w : World σ) (calls : List EngineCall) : World (σ × List EngineCall) where
  settings := w.settings
  engine := (w.engine, calls)
  journal := w.journal

/-- An outcome in a world whose engine has a record. -/
def Outcome.record (o : Outcome σ α) (calls : List EngineCall) :
    Outcome (σ × List EngineCall) α where
  result := o.result
  progress := o.progress
  world := o.world.record calls

section
variable {w : World σ} {calls : List EngineCall}

/-- A call is answered as without the record, and the record has it at its end. -/
theorem World.call_recorded (E : Engine σ) (w : World σ) (call : EngineCall) :
    World.call E.recorded (w.record calls) call =
      ((World.call E w call).1, (World.call E w call).2.record (calls ++ [call])) := rfl

theorem World.announced_record {s : Store} {p : Petition} {mode : AuthMode} {subject : String}
    {disablePop : Bool} : (w.record calls).announced s p mode subject disablePop =
      (w.announced s p mode subject disablePop).record calls := rfl

/-- What an answer means does not depend on the record. -/
theorem concludeEnroll_record {a : Action} {server : String} {maxLength : Nat}
    {answer : Except Failure (Option Octets)} :
    concludeEnroll a server maxLength answer (w.record calls) =
      (concludeEnroll a server maxLength answer w).record calls :=
  concludeEnroll_mapEngine (f := fun engine => (engine, calls))

end

/-! ## What a call needs -/

/-- Whether a petition and a key belong together: the public key of a signing request is that of
the key, octet for octet, and a renewal is one of a certificate. -/
def Petition.Fits (key : KeyValue) : Petition → Prop
  | .new request => ∃ requested own, request.publicKey = .ok requested ∧
      key.publicKey = .ok own ∧ requested.encode = own.encode
  | .renewal old => old.isCertificate

/-- Whether the engine can be called for a petition in a mode: host, port and the credential of
the mode are stored, petition and key belong together, and all that goes into the call can be
written in its encoding. -/
structure Petition.Ready (p : Petition) (s : Store) (key : KeyValue) (mode : AuthMode) : Prop where
  host : ∃ host, s.endpoint.host = some host ∧ host ≠ ""
  port : ∃ port, s.endpoint.port = some port
  credential : s.has mode
  fits : p.Fits key
  anchors : ∀ c ∈ s.anchors, ∃ der, c.toDer = .ok der
  key : ∃ der, key.toPkcs8 = .ok der
  payload : ∃ der, p.payload = .ok der
  pair : mode = .tls → ∀ t ∈ s.tls, ∃ der, t.certificate.toDer = .ok der

/-- The arguments of a mode: its own credential and, where that is another one, the login for HTTP
if there is one. -/
inductive Store.Credentials (s : Store) : AuthMode → ModeArguments → Prop
  | http {login} (h : s.http = some login) : Credentials s .http (.http (some login))
  | srp {login} (h : s.srp = some login) : Credentials s .srp (.srp (some login) s.http)
  | tls {t der} (h : s.tls = some t) (hder : t.certificate.toDer = .ok der) :
    Credentials s .tls (.tls der t.key.toPkcs8 s.http)

/-- The call for a petition: the bundle of the stored anchors, the key in PKCS #8, the stored
endpoint, the flag, the octets of the petition, the longest response and the credentials. -/
inductive Petition.Makes (p : Petition) (s : Store) (key : KeyValue) (mode : AuthMode)
    (disablePop : Bool) (maxLength : Nat) : EngineCall → Prop
  | intro {anchors privateKey payload arguments}
    (hanchors : Bundle.ofAnchors s.anchors = .ok anchors)
    (hkey : key.toPkcs8 = .ok privateKey) (hpayload : p.payload = .ok payload)
    (harguments : s.Credentials mode arguments) :
    Makes p s key mode disablePop maxLength (.certificate p.action
      ⟨anchors, privateKey, s.endpoint, disablePop, payload, maxLength⟩ arguments)

/-- The method of an engine for an action in a mode. -/
def Action.method : Action → AuthMode → String
  | .enroll, .http => "http_enroll"
  | .enroll, .srp => "srp_enroll"
  | .enroll, .tls => "tls_enroll"
  | .reenroll, .http => "http_reenroll"
  | .reenroll, .srp => "srp_reenroll"
  | .reenroll, .tls => "tls_reenroll"

section
variable {s : Store} {p : Petition} {key : KeyValue} {mode : AuthMode} {asked : ModeValue}
  {disablePop : Bool} {maxLength : Nat} {call : EngineCall} {arguments : ModeArguments}

/-- **When a mode is selected**: it was asked for, and host, port and its credential are stored. -/
theorem Store.selectMode_eq_ok_iff : s.selectMode asked = .ok mode ↔ asked.mode? = some mode ∧
    (∃ host, s.endpoint.host = some host ∧ host ≠ "") ∧ (∃ port, s.endpoint.port = some port) ∧
      s.has mode := by
  rw [selectMode]
  cases asked.mode? with
  | none =>
    refine iff_of_false ?_ ?_
    · rintro ⟨⟩
    · rintro ⟨⟨⟩, -⟩
  | some found =>
    have hhost : s.endpoint.host.any (· != "") = true ↔
        ∃ host, s.endpoint.host = some host ∧ host ≠ "" := by
      simp [Option.any_eq_true]
    rw [← hhost]
    simp only
    split
    · next h =>
      refine iff_of_false ?_ ?_
      · rintro ⟨⟩
      · rintro ⟨-, hany, -⟩
        simp [hany] at h
    · next hany =>
      split
      · next h =>
        refine iff_of_false ?_ ?_
        · rintro ⟨⟩
        · rintro ⟨-, -, ⟨_, hport⟩, -⟩
          simp [hport] at h
      · next hport =>
        split
        · next hhas =>
          constructor
          · rintro ⟨⟩
            exact ⟨rfl, by simpa using hany, Option.ne_none_iff_exists'.1 (by simpa using hport),
              hhas⟩
          · rintro ⟨⟨⟩, -⟩
            rfl
        · next hhas =>
          refine iff_of_false ?_ ?_
          · rintro ⟨⟩
          · rintro ⟨⟨⟩, -, -, h⟩
            exact hhas h

/-- The check of a petition passes if petition and key belong together. -/
theorem Petition.check_eq_ok_iff : p.check key = .ok () ↔ p.Fits key := by
  cases p with
  | renewal old =>
    rw [check, Fits]
    cases old.isCertificate
    · refine iff_of_false ?_ Bool.false_ne_true
      rintro ⟨⟩
    · exact iff_of_true rfl rfl
  | new request =>
    rw [check, Fits, RequestObject.matchesKey]
    cases request.publicKey with
    | error failure =>
      refine iff_of_false ?_ ?_
      · rintro ⟨⟩
      · rintro ⟨_, _, ⟨⟩, -⟩
    | ok requested =>
      cases key.publicKey with
      | error failure =>
        refine iff_of_false ?_ ?_
        · rintro ⟨⟩
        · rintro ⟨_, _, -, ⟨⟩, -⟩
      | ok own =>
        cases hsame : requested.encode == own.encode with
        | true =>
          refine iff_of_true ?_ ⟨_, _, rfl, rfl, beq_iff_eq.1 hsame⟩
          simp only [bind, Except.bind, pure, Except.pure, hsame]
        | false =>
          refine iff_of_false ?_ ?_
          · simp only [bind, Except.bind, pure, Except.pure, hsame]
            rintro ⟨⟩
          · rintro ⟨_, _, ⟨⟩, ⟨⟩, h⟩
            exact beq_eq_false_iff_ne.1 hsame h

/-- The arguments of a mode whose credential is stored are its credentials. -/
theorem Store.credentials_of_modeArguments (hhas : s.has mode)
    (h : s.modeArguments mode = .ok arguments) : s.Credentials mode arguments := by
  cases mode with
  | http =>
    obtain ⟨login, hlogin⟩ := Option.isSome_iff_exists.1 hhas
    cases h
    rw [hlogin]
    exact .http hlogin
  | srp =>
    obtain ⟨login, hlogin⟩ := Option.isSome_iff_exists.1 hhas
    cases h
    rw [hlogin]
    exact .srp hlogin
  | tls =>
    rw [modeArguments] at h
    split at h
    · cases h
    · next t htls =>
      obtain ⟨der, hder, h⟩ := bind_eq_ok_iff.1 h
      cases h
      exact .tls htls hder

/-- The arguments of a mode can be had if its credential is stored and, in the mode TLS, its
certificate can be written. -/
theorem Store.exists_modeArguments (hhas : s.has mode)
    (hpair : mode = .tls → ∀ t ∈ s.tls, ∃ der, t.certificate.toDer = .ok der) :
    ∃ arguments, s.modeArguments mode = .ok arguments := by
  cases mode with
  | http | srp => exact ⟨_, rfl⟩
  | tls =>
    obtain ⟨t, htls⟩ := Option.isSome_iff_exists.1 hhas
    obtain ⟨der, hder⟩ := hpair rfl t htls
    exact ⟨_, by rw [modeArguments, htls]; exact bind_eq_ok_iff.2 ⟨der, hder, rfl⟩⟩

/-- A bundle can be made exactly of anchors that can be written. -/
theorem Bundle.exists_ofAnchors_iff {anchors : List CertificateValue} :
    (∃ b, Bundle.ofAnchors anchors = .ok b) ↔ ∀ c ∈ anchors, ∃ der, c.toDer = .ok der := by
  have htexts : (∃ texts, anchors.mapM CertificateValue.toPem = .ok texts) ↔
      ∀ c ∈ anchors, ∃ der, c.toDer = .ok der := by
    induction anchors with
    | nil => exact iff_of_true ⟨[], rfl⟩ nofun
    | cons c anchors ih =>
      rw [List.mapM_cons, List.forall_mem_cons, ← ih]
      constructor
      · rintro ⟨texts, h⟩
        obtain ⟨text, htext, h⟩ := bind_eq_ok_iff.1 h
        obtain ⟨more, hmore, -⟩ := bind_eq_ok_iff.1 h
        obtain ⟨der, hder, -⟩ := map_eq_ok_iff.1 htext
        exact ⟨⟨der, hder⟩, more, hmore⟩
      · rintro ⟨⟨der, hder⟩, more, hmore⟩
        have htext : c.toPem = .ok (Pem.encode certificateLabel der) :=
          map_eq_ok_iff.2 ⟨der, hder, rfl⟩
        exact ⟨_, bind_eq_ok_iff.2 ⟨_, htext, bind_eq_ok_iff.2 ⟨more, hmore, rfl⟩⟩⟩
  rw [← htexts]
  constructor
  · rintro ⟨b, h⟩
    obtain ⟨data, hdata, -⟩ := bind_eq_ok_iff.1 h
    obtain ⟨texts, htexts, -⟩ := bind_eq_ok_iff.1 hdata
    exact ⟨texts, htexts⟩
  · rintro ⟨texts, htexts⟩
    exact ⟨_, bind_eq_ok_iff.2 ⟨_, bind_eq_ok_iff.2 ⟨texts, htexts, rfl⟩, rfl⟩⟩

/-- A petition that passed every check before a call is ready, and the call is the one it makes. -/
theorem Petition.ready_of_prepare (hmode : s.selectMode asked = .ok mode)
    (hcheck : p.check key = .ok ())
    (hcall : s.prepare p key mode disablePop maxLength = .ok call) :
    p.Ready s key mode ∧ p.Makes s key mode disablePop maxLength call := by
  obtain ⟨-, hhost, hport, hhas⟩ := Store.selectMode_eq_ok_iff.1 hmode
  obtain ⟨anchors, privateKey, payload, arguments, hanchors, hkey, hpayload, harguments, rfl⟩ :=
    Store.prepare_eq_ok hcall
  have hcredentials := Store.credentials_of_modeArguments hhas harguments
  refine ⟨⟨hhost, hport, hhas, check_eq_ok_iff.1 hcheck,
    Bundle.exists_ofAnchors_iff.1 ⟨_, hanchors⟩, ⟨_, hkey⟩, ⟨_, hpayload⟩, ?_⟩,
    .intro hanchors hkey hpayload hcredentials⟩
  rintro rfl t ht
  cases hcredentials with
  | tls htls hder =>
    cases htls.symm.trans ht
    exact ⟨_, hder⟩

/-- Everything can be prepared for a petition that is ready. -/
theorem Petition.Ready.exists_prepare (h : p.Ready s key mode) (disablePop : Bool)
    (maxLength : Nat) : ∃ call, s.prepare p key mode disablePop maxLength = .ok call := by
  obtain ⟨anchors, hanchors⟩ := Bundle.exists_ofAnchors_iff.2 h.anchors
  obtain ⟨privateKey, hkey⟩ := h.key
  obtain ⟨payload, hpayload⟩ := h.payload
  obtain ⟨arguments, harguments⟩ := Store.exists_modeArguments h.credential h.pair
  exact ⟨_, bind_eq_ok_iff.2 ⟨_, hanchors, bind_eq_ok_iff.2 ⟨_, hkey,
    bind_eq_ok_iff.2 ⟨_, hpayload, bind_eq_ok_iff.2 ⟨_, harguments, rfl⟩⟩⟩⟩⟩

/-- The call for a petition is a call of the method of its action and mode. -/
theorem Petition.Makes.method_eq (h : p.Makes s key mode disablePop maxLength call) :
    call.method = p.action.method mode := by
  obtain ⟨-, -, -, harguments⟩ := h
  cases p <;> cases harguments <;> rfl

end

/-! ## The calls of a petition -/

section
variable (E : Engine σ) (c : Client) (p : Petition) (key : KeyValue) (asked : ModeValue)
  (disablePop : Bool) (w : World σ) (calls : List EngineCall)

variable {E c p key asked disablePop w} in
/-- A petition that passes every check before the call is what the answer to the call means. -/
theorem Client.petition_eq_conclude {mode : AuthMode} {subject : String} {call : EngineCall}
    (hmode : c.store.selectMode asked = .ok mode) (hcheck : p.check key = .ok ())
    (hsubject : p.subject = .ok subject)
    (hcall : c.store.prepare p key mode disablePop w.settings.maxLength = .ok call) :
    c.petition E p key asked disablePop w =
      concludeEnroll p.action c.store.endpoint.text w.settings.maxLength
        ((w.announced c.store p mode subject disablePop).call E call).1
        ((w.announced c.store p mode subject disablePop).call E call).2 := by
  rw [petition]
  simp only [hmode, hcheck, hsubject, hcall]
  rfl

/-- A petition fails before the call, and the record stays as it is; or every check before the call
passes, and the record has this call more. -/
theorem Client.petition_record_cases :
    (c.petition E.recorded p key asked disablePop (w.record calls) =
        (c.petition E p key asked disablePop w).record calls ∧
      (∃ failure, (c.petition E p key asked disablePop w).result = .error failure) ∧
      ∀ mode subject call, c.store.selectMode asked = .ok mode → p.check key = .ok () →
        p.subject = .ok subject →
        c.store.prepare p key mode disablePop w.settings.maxLength ≠ .ok call) ∨
    ∃ mode subject call, c.store.selectMode asked = .ok mode ∧ p.check key = .ok () ∧
      p.subject = .ok subject ∧
      c.store.prepare p key mode disablePop w.settings.maxLength = .ok call ∧
      c.petition E.recorded p key asked disablePop (w.record calls) =
        (c.petition E p key asked disablePop w).record (calls ++ [call]) := by
  have hsettings : (w.record calls).settings = w.settings := rfl
  cases hmode : c.store.selectMode asked with
  | error failure =>
    refine .inl ⟨?_, ⟨failure, ?_⟩, ?_⟩
    · simp only [petition, hmode]
      cases failure <;> rfl
    · simp only [petition, hmode]
      cases failure <;> rfl
    · rintro _ _ _ ⟨⟩
  | ok mode =>
    cases hcheck : p.check key with
    | error failure =>
      refine .inl ⟨?_, ⟨failure, ?_⟩, ?_⟩
      · simp only [petition, hmode, hcheck]
        rfl
      · simp only [petition, hmode, hcheck]
      · rintro _ _ _ - ⟨⟩
    | ok _ =>
      cases hsubject : p.subject with
      | error failure =>
        refine .inl ⟨?_, ⟨failure, ?_⟩, ?_⟩
        · simp only [petition, hmode, hcheck, hsubject]
          rfl
        · simp only [petition, hmode, hcheck, hsubject]
        · rintro _ _ _ - - ⟨⟩
      | ok subject =>
        cases hcall : c.store.prepare p key mode disablePop w.settings.maxLength with
        | error failure =>
          refine .inl ⟨?_, ⟨failure, ?_⟩, ?_⟩
          · simp only [petition, hmode, hcheck, hsubject, hsettings, hcall]
            rfl
          · simp only [petition, hmode, hcheck, hsubject, hcall]
          · rintro _ _ _ ⟨⟩ - - h
            cases hcall.symm.trans h
        | ok call =>
          refine .inr ⟨mode, subject, call, rfl, rfl, rfl, hcall, ?_⟩
          have hrecorded : c.petition E.recorded p key asked disablePop (w.record calls) = _ :=
            petition_eq_conclude hmode hcheck hsubject hcall
          rw [hrecorded, petition_eq_conclude hmode hcheck hsubject hcall, World.announced_record,
            World.call_recorded, concludeEnroll_record, hsettings]

/-- **The calls of a petition**, whatever the engine: at most one, made of what the store and the
caller gave and of nothing else, in a mode in which the petition is ready. Exactly if there is no
such mode, or the subject has no text, there is no call, and the petition fails. -/
theorem Client.petition_calls :
    ∃ made : List EngineCall,
      c.petition E.recorded p key asked disablePop (w.record calls) =
        (c.petition E p key asked disablePop w).record (calls ++ made) ∧
      made.length ≤ 1 ∧
      (∀ call ∈ made, ∃ mode, asked.mode? = some mode ∧ p.Ready c.store key mode ∧
        p.Makes c.store key mode disablePop w.settings.maxLength call ∧
        call.method = p.action.method mode) ∧
      (made = [] ↔ ¬∃ mode subject, asked.mode? = some mode ∧ p.Ready c.store key mode ∧
        p.subject = .ok subject) ∧
      (made = [] → ∃ failure, (c.petition E p key asked disablePop w).result = .error failure) := by
  rcases c.petition_record_cases E p key asked disablePop w calls with ⟨hrecord, hfails, hnone⟩ |
    ⟨mode, subject, call, hmode, hcheck, hsubject, hcall, hrecord⟩
  · refine ⟨[], by rwa [List.append_nil], Nat.zero_le _, List.forall_mem_nil _, iff_of_true rfl ?_,
      fun _ => hfails⟩
    rintro ⟨mode, subject, hasked, hready, hsubject⟩
    have hmode := Store.selectMode_eq_ok_iff.2
      ⟨hasked, hready.host, hready.port, hready.credential⟩
    obtain ⟨call, hcall⟩ := hready.exists_prepare disablePop w.settings.maxLength
    exact hnone mode subject call hmode (Petition.check_eq_ok_iff.2 hready.fits) hsubject hcall
  · have hasked := (Store.selectMode_eq_ok_iff.1 hmode).1
    obtain ⟨hready, hmakes⟩ := Petition.ready_of_prepare hmode hcheck hcall
    refine ⟨[call], hrecord, Nat.le_refl _, ?_, iff_of_false nofun ?_, nofun⟩
    · intro made hmade
      cases List.mem_singleton.1 hmade
      exact ⟨mode, hasked, hready, hmakes, hmakes.method_eq⟩
    · exact not_not.2 ⟨mode, subject, hasked, hready, hsubject⟩

end

/-! ## The calls of a step -/

/-- The call that a step of a client makes of the engine, if it makes one: for a certificate once
everything is checked and prepared, and for the certificates of the authority once there is an
endpoint and a bundle. -/
inductive Client.Calls (c : Client) (maxLength : Nat) : Step → EngineCall → Prop
  | enroll {request r key asked disablePop mode subject call} (hread : request.toObject = .ok r)
    (hmode : c.store.selectMode asked = .ok mode) (hcheck : (Petition.new r).check key = .ok ())
    (hsubject : (Petition.new r).subject = .ok subject)
    (hcall : c.store.prepare (.new r) key mode disablePop maxLength = .ok call) :
    Calls c maxLength (.enroll request key asked disablePop) call
  | reenroll {old key asked disablePop mode subject call}
    (hmode : c.store.selectMode asked = .ok mode)
    (hcheck : (Petition.renewal old).check key = .ok ())
    (hsubject : (Petition.renewal old).subject = .ok subject)
    (hcall : c.store.prepare (.renewal old) key mode disablePop maxLength = .ok call) :
    Calls c maxLength (.reenroll old key asked disablePop) call
  | fetch {anchors} (hcomplete : c.store.endpoint.isComplete)
    (hanchors : Bundle.ofAnchors c.store.anchors = .ok anchors) :
    Calls c maxLength .fetch (.caCertificates anchors c.store.endpoint c.store.srp maxLength)

/-- The certificates of the authority are asked for once there are an endpoint and a bundle. -/
theorem Client.calls_fetch_iff {c : Client} {maxLength : Nat} {call : EngineCall} :
    c.Calls maxLength .fetch call ↔ c.store.endpoint.isComplete ∧
      ∃ anchors, Bundle.ofAnchors c.store.anchors = .ok anchors ∧
        call = .caCertificates anchors c.store.endpoint c.store.srp maxLength := by
  constructor
  · intro h
    cases h with
    | fetch hcomplete hanchors => exact ⟨hcomplete, _, hanchors, rfl⟩
  · rintro ⟨hcomplete, anchors, hanchors, rfl⟩
    exact .fetch hcomplete hanchors

/-- A client that knows its server and nothing else. -/
def sampleClient : Client := { store := { endpoint := ⟨some "est", some 443⟩ } }

end Enrollment
