import Enrollment.Proofs.Calls
import Enrollment.Proofs.Certificates
import Enrollment.Proofs.Https
import Enrollment.Proofs.PrivateKey

/-!
# What a client sends

Every operation of a client of the HTTPS engine sends at most one request, and the request says
nothing but what the store and the caller gave for it (`Client.requests_step`): the anchors are
those of the store, a question carries no credentials, and a submission carries the login for HTTP
and, in the mode TLS alone, the client certificate and its key.
-/

namespace Enrollment

open Https

/-! ## Anchors -/

/-- A request is verified with the anchors of a store: not at all if there are none, and otherwise
with a text that reads as these anchors in their order. -/
structure AnchoredBy (s : Store) (q : WireRequest) : Prop where
  unverified : q.anchors = none ↔ s.anchors = []
  reads : ∀ text ∈ q.anchors, ∃ cs : List Certificate,
    s.anchors = cs.map .certificate ∧ Reading.ofStream text = ⟨cs, none⟩

theorem anchoredBy_of_ofAnchors {s : Store} {q : WireRequest} {b : Bundle}
    (h : Bundle.ofAnchors s.anchors = .ok b) (hq : q.anchors = anchorsText b) : AnchoredBy s q := by
  obtain ⟨cs, hcs, rfl⟩ := Bundle.eq_of_ofAnchors h
  rw [anchorsText] at hq
  cases cs with
  | nil =>
    refine ⟨iff_of_true hq (by rw [hcs]; rfl), ?_⟩
    intro text htext
    rw [hq] at htext
    cases htext
  | cons c more =>
    have hcount : ¬((c :: more).length : Int) = 0 := by
      rw [List.length_cons]
      omega
    rw [if_neg hcount] at hq
    refine ⟨iff_of_false (by rw [hq]; nofun) (by rw [hcs]; nofun), ?_⟩
    intro text htext
    rw [hq] at htext
    cases htext
    exact ⟨c :: more, hcs, Bundle.ofStream_pem _ _⟩

/-! ## Credentials -/

/-- The texts of a client certificate and a key that are read from their octets are the texts of
the certificate and the key that were written. -/
theorem Https.eq_of_clientAuth {c : Certificate} {key : PrivateKey} {texts : Octets × Octets}
    (h : clientAuth c.der key.toPkcs8 = .ok texts) : texts = (c.toPem, key.toPem) := by
  rw [clientAuth, Certificate.ofDer_der] at h
  cases hkey : PrivateKey.ofDer key.toPkcs8 with
  | error fault =>
    rw [hkey] at h
    cases fault <;> cases h
  | ok key' =>
    rw [hkey] at h
    cases h
    rw [PrivateKey.toPem, PrivateKey.toPkcs8_of_ofDer hkey, ← PrivateKey.toPem]

/-- The arguments of the mode TLS are the octets of the stored credential. -/
theorem Store.modeArguments_tls {s : Store} {arguments : ModeArguments}
    (h : s.modeArguments .tls = .ok arguments) :
    ∃ t c, s.tls = some t ∧ t.certificate = .certificate c ∧
      arguments = .tls c.der t.key.toPkcs8 s.http := by
  rw [modeArguments] at h
  cases htls : s.tls with
  | none => rw [htls] at h; cases h
  | some t =>
    rw [htls] at h
    obtain ⟨octets, hoctets, h⟩ := bind_eq_ok_iff.1 h
    cases hcertificate : t.certificate with
    | certificate c =>
      rw [hcertificate] at hoctets
      cases hoctets
      exact ⟨t, c, rfl, hcertificate, (Except.ok.inj h).symm⟩
    | unencodable | plain => rw [hcertificate] at hoctets; cases hoctets

/-- A request that submits something in a mode: with the anchors of the store, with its login for
HTTP, and with its client certificate and key exactly in the mode TLS. -/
structure SubmittedBy (s : Store) (mode : AuthMode) (q : WireRequest) (x : Submission) : Prop where
  submission : q.submission = some x
  method : q.method = "POST"
  anchored : AnchoredBy s q
  login : x.login = s.http
  certificate : x.certificate.isSome ↔ mode = .tls
  texts : ∀ texts ∈ x.certificate, ∃ t c, s.tls = some t ∧ t.certificate = .certificate c ∧
    texts = (c.toPem, t.key.toPem)

/-- What is sent for a prepared call is submitted by the store. -/
theorem submittedBy_of_sent {o : Options} {s : Store} {mode : AuthMode} {a : Action}
    {r : EngineRequest} {arguments : ModeArguments} {q : WireRequest}
    (hanchors : Bundle.ofAnchors s.anchors = .ok r.anchors)
    (harguments : s.modeArguments mode = .ok arguments)
    (hsent : Sent o (.certificate a r arguments) q) :
    mode ≠ .srp ∧ ∃ x, SubmittedBy s mode q x ∧ body a r = .ok x.body := by
  have hanchored : AnchoredBy s q := anchoredBy_of_ofAnchors hanchors (by cases hsent; rfl)
  cases hsent with
  | submission hmode hbody hcertificate =>
    cases mode with
    | srp => cases harguments; exact absurd rfl hmode
    | http =>
      cases harguments
      cases hcertificate
      exact ⟨nofun, _, ⟨rfl, rfl, hanchored, rfl, ⟨nofun, nofun⟩, nofun⟩, hbody⟩
    | tls =>
      obtain ⟨t, c, htls, hc, rfl⟩ := Store.modeArguments_tls harguments
      obtain ⟨texts, htexts, rfl⟩ := map_eq_ok_iff.1 hcertificate
      refine ⟨nofun, _, ⟨rfl, rfl, hanchored, rfl, ⟨fun _ => rfl, fun _ => rfl⟩, ?_⟩, hbody⟩
      rintro _ ⟨⟩
      exact ⟨t, c, htls, hc, eq_of_clientAuth htexts⟩

/-! ## One request for each operation -/

/-- The requests that a step may send from a store. -/
inductive Justified (s : Store) : Step → WireRequest → Prop
  /-- A question with the anchors of the store and no credentials. -/
  | fetch {q} (hsrp : s.srp = none) (hmethod : q.method = "GET") (hbare : q.submission = none)
    (hanchored : AnchoredBy s q) : Justified s .fetch q
  /-- A submission of the caller's signing request, in base64. -/
  | enroll {request key asked disablePop mode q x r text} (hmode : asked.mode? = some mode)
    (hsrp : mode ≠ .srp) (hread : request.toObject = .ok (.request r))
    (hsubmitted : SubmittedBy s mode q x) (htext : x.body.text? = some text)
    (hdecode : Base64.readLenient text = .ok r.der) :
    Justified s (.enroll request key asked disablePop) q
  /-- A submission of a renewal. -/
  | reenroll {old key asked disablePop mode q x} (hmode : asked.mode? = some mode)
    (hsrp : mode ≠ .srp) (hsubmitted : SubmittedBy s mode q x) :
    Justified s (.reenroll old key asked disablePop) q

section
variable {o : Options} {s : Store} {w : World Transport}

/-- A petition sends nothing, or one request that its store submits. -/
theorem Petition.Course.requests {p : Petition} {key : KeyValue} {asked : ModeValue}
    {disablePop : Bool} {out : Outcome Transport (Option Certificate)}
    (h : p.Course (engine o) s key asked disablePop w out) :
    out.world.engine.requests = w.engine.requests ∨
    ∃ q mode x r, out.world.engine.requests = w.engine.requests ++ [q] ∧
      asked.mode? = some mode ∧ mode ≠ .srp ∧ SubmittedBy s mode q x ∧
      p.payload = .ok r.payload ∧ body p.action r = .ok x.body := by
  cases h with
  | unselected | unshown | mismatched | nameless | unprepared => exact .inl rfl
  | @called mode subject call _ hmode _ _ hcall hend =>
    obtain ⟨anchors, privateKey, payload, arguments, hanchors, -, hpayload, harguments, rfl⟩ :=
      Store.prepare_eq_ok hcall
    rw [hend.engine_eq]
    change (answer o w.settings.fips _ w.engine).2.requests = _ ∨
      ∃ q mode x r, (answer o w.settings.fips _ w.engine).2.requests = _ ∧ _
    rcases answer_cases o w.settings.fips _ w.engine with
      ⟨notes, failure, -, hanswer⟩ | ⟨notes, q, hsent, hanswer⟩
    · rw [hanswer]
      exact .inl rfl
    · rw [hanswer]
      obtain ⟨hsrp, x, hsubmitted, hbody⟩ := submittedBy_of_sent hanchors harguments hsent
      have hasked := (Store.selectMode_eq_ok_iff.1 hmode).1
      exact .inr ⟨q, mode, x, _, rfl, hasked, hsrp, hsubmitted, hpayload, hbody⟩

/-- Recording a failure leaves the engine alone. -/
theorem World.engine_of_recordFailure {w w' : World σ} {failure : Failure} {context : String}
    (h : w.recordFailure failure context = .ok w') : w'.engine = w.engine := by
  rw [recordFailure] at h
  split at h
  · cases h; rfl
  · cases h

theorem World.engine_changed (w : World σ) (settings : Settings) (setting : String) (v : Value) :
    (w.changed settings setting v).2.engine = w.engine := by
  rw [changed]
  split <;> rfl

theorem World.engine_setMaxLength (w : World σ) (v : Value) :
    (w.setMaxLength v).2.engine = w.engine := by
  rw [setMaxLength]
  split
  · exact w.engine_changed _ _ _
  · rfl

theorem World.engine_setVerbosity (w : World σ) (v : VerbosityValue) :
    (w.setVerbosity v).2.engine = w.engine := by
  cases v with
  | verbosity x => exact w.engine_changed _ _ _
  | plain v =>
    rw [setVerbosity]
    simp only
    split
    · exact w.engine_changed _ _ _
    · rfl

theorem World.engine_enableFips (E : Engine σ) (w : World σ) :
    (w.enableFips E).2.engine = w.engine := by
  rw [enableFips]
  split
  · exact w.engine_changed _ _ _
  · split
    · split
      · next hrecord => exact World.engine_of_recordFailure hrecord
      · rfl
    · rfl

theorem engine_concludeFetch {server : String} {maxLength : Nat}
    {answer : Except Failure (Option Octets)} {w : World σ} :
    (concludeFetch server maxLength answer w).2.engine = w.engine := by
  cases answer with
  | error failure =>
    cases failure with
    | client | fault =>
      simp only [concludeFetch]
      split
      · next hrecord => exact World.engine_of_recordFailure hrecord
      · rfl
  | ok data =>
    simp only [concludeFetch]
    split
    · rfl
    · split
      · rfl
      · split <;> rfl

/-- A question for the certificates of the authority is sent without credentials, or not at all. -/
theorem Store.requests_fetch (o : Options) (s : Store) (w : World Transport) :
    (s.fetch (engine o) w).2.engine.requests = w.engine.requests ∨
    ∃ q, (s.fetch (engine o) w).2.engine.requests = w.engine.requests ++ [q] ∧
      Justified s .fetch q := by
  rw [fetch]
  simp only
  split
  · exact .inl rfl
  · split
    · exact .inl rfl
    · next anchors hanchors =>
      rw [engine_concludeFetch]
      change (answer o w.settings.fips _ w.engine).2.requests = _ ∨
        ∃ q, (answer o w.settings.fips _ w.engine).2.requests = _ ∧ _
      rcases answer_cases o w.settings.fips _ w.engine with
        ⟨notes, failure, -, hanswer⟩ | ⟨notes, q, hsent, hanswer⟩
      · rw [hanswer]
        exact .inl rfl
      · rw [hanswer]
        refine .inr ⟨q, rfl, ?_⟩
        cases hsrp : s.srp with
        | some login => rw [hsrp] at hsent; cases hsent
        | none =>
          rw [hsrp] at hsent
          cases hsent
          exact .fetch hsrp rfl rfl (anchoredBy_of_ofAnchors hanchors rfl)

/-- **What a step sends**: nothing, or one request that the store of the client justifies. -/
theorem Client.requests_step (o : Options) (c : Client) (w : World Transport) (step : Step) :
    ∃ sent, (c.step (engine o) step w).2.2.engine.requests = w.engine.requests ++ sent ∧
      sent.length ≤ 1 ∧ ∀ q ∈ sent, Justified c.store step q := by
  cases step with
  | enroll request key asked disablePop =>
    cases hread : request.toObject with
    | error failure =>
      refine ⟨[], ?_, Nat.zero_le _, nofun⟩
      rw [step_enroll_unread hread, List.append_nil]
    | ok object =>
      rw [step_enroll_read hread]
      rcases (c.course_petition (engine o) (.new object) key asked disablePop _).requests with
        hrequests | ⟨q, mode, x, r, hrequests, hmode, hsrp, hsubmitted, hpayload, hbody⟩
      · exact ⟨[], hrequests.trans (List.append_nil _).symm, Nat.zero_le _, nofun⟩
      · refine ⟨[q], hrequests, Nat.le_refl _, ?_⟩
        cases object with
        | unencodable => cases hpayload
        | request r' =>
          have hx : x.body = .request r'.der := by
            rw [Except.ok.inj hpayload]
            exact (Except.ok.inj hbody).symm
          have htext : x.body.text? = some (Base64.encode r'.der) := by rw [hx]; rfl
          have hjustified : Justified c.store (.enroll request key asked disablePop) q :=
            .enroll hmode hsrp hread hsubmitted htext (Base64.readFrom_encode false _ _)
          simpa using hjustified
  | reenroll old key asked disablePop =>
    rcases (c.course_petition (engine o) (.renewal old) key asked disablePop _).requests with
      hrequests | ⟨q, mode, x, r, hrequests, hmode, hsrp, hsubmitted, -, -⟩
    · exact ⟨[], hrequests.trans (List.append_nil _).symm, Nat.zero_le _, nofun⟩
    · exact ⟨[q], hrequests, Nat.le_refl _, by simpa using .reenroll hmode hsrp hsubmitted⟩
  | fetch =>
    rcases c.store.requests_fetch o { w with journal := w.journal.openOperation } with
      hrequests | ⟨q, hrequests, hjustified⟩
    · exact ⟨[], hrequests.trans (List.append_nil _).symm, Nat.zero_le _, nofun⟩
    · exact ⟨[q], hrequests, Nat.le_refl _, by simpa using hjustified⟩
  | enableFips =>
    exact ⟨[], by simp [step, World.engine_enableFips], Nat.zero_le _, nofun⟩
  | setMaxLength v =>
    exact ⟨[], by simp [step, World.engine_setMaxLength], Nat.zero_le _, nofun⟩
  | setVerbosity v =>
    exact ⟨[], by simp [step, World.engine_setVerbosity], Nat.zero_le _, nofun⟩
  | _ => exact ⟨[], (List.append_nil _).symm, Nat.zero_le _, nofun⟩

end

end Enrollment
