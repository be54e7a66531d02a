import Enrollment.Proofs.Delivery
import Enrollment.Proofs.Padding
import Enrollment.Proofs.Relay
import Enrollment.Proofs.Reporting

/-!
# The longest response

A server that answers the same whatever the longest response may be decides the operation up to one
length: every shorter limit is refused with that length, and under every other limit the operation
ends in the same way (`Threshold`). The limit is read more than once, by the client and before it by
an engine over HTTPS; the two readings agree because the texts that such an engine hands over are
measured alike on both sides (`EngineCall.conclude_capped`). So a caller who is told a length can
ask again with it, and is not refused for the length again (`Client.thresholds_step`).
-/

namespace Enrollment

/-! ## Limits -/

/-- What comes of a response of a length under a limit, where `final` comes of it if it fits. -/
def capped (length : Nat) (final : Except Failure α) (limit : Nat) : Except Failure α :=
  if limit < length then .error (.ofCause .bufferSize (.tooLong length limit)) else final

/-- Whether a result is the refusal of a response for its length. -/
def IsTooLong : Except Failure α → Prop
  | .ok _ => False
  | .error failure => failure.isTooLong

/-- The ends of an operation, each under the limit that it came under, turn on one length: shorter
limits refuse it, and all others let the same end through, which is no refusal for the length. -/
structure Threshold (comes : Nat → Except Failure α → Prop) (length : Nat)
    (final : Except Failure α) : Prop where
  below : ∀ limit result, comes limit result → limit < length →
    result = .error (.ofCause .bufferSize (.tooLong length limit))
  above : ∀ limit result, comes limit result → length ≤ limit → result = final
  fits : ¬IsTooLong final

/-- What a caller can rely on who asks again under another limit. -/
structure Repeatable (comes : Nat → Except Failure α → Prop) : Prop where
  threshold : ∃ length final, Threshold comes length final
  /-- With the length that was reported, or more, the response is not too long. -/
  raised : ∀ limit length told again result,
    comes limit (.error (.ofCause .bufferSize (.tooLong length told))) → comes again result →
    length ≤ again → ¬IsTooLong result
  /-- A smaller limit refuses the response or changes nothing. -/
  lowered : ∀ limit result again result', comes limit result → comes again result' →
    again ≤ limit → result' = result ∨
      ∃ length : Nat, again < length ∧
        result' = .error (.ofCause .bufferSize (.tooLong length again))

section
variable {comes : Nat → Except Failure α → Prop} {length : Nat} {final : Except Failure α}

theorem not_isTooLong_iff :
    ¬IsTooLong final ↔ ∀ failure, final = .error failure → failure.isTooLong = false := by
  cases final with
  | ok a => exact iff_of_true id nofun
  | error failure => simp [IsTooLong]

theorem map_capped {f : α → β} {limit : Nat} :
    (capped length final limit).map f = capped length (final.map f) limit := by
  unfold capped
  split <;> rfl

/-- Ends that are those of one response under each limit turn on its length. -/
theorem Threshold.of_capped (hfits : ¬IsTooLong final)
    (h : ∀ limit result, comes limit result → result = capped length final limit) :
    Threshold comes length final where
  below limit result hcomes hshort := by
    rw [h limit result hcomes, capped, if_pos hshort]
  above limit result hcomes hlong := by
    rw [h limit result hcomes, capped, if_neg (Nat.not_lt.2 hlong)]
  fits := hfits

/-- All of it follows from the threshold. -/
theorem Threshold.repeatable (h : Threshold comes length final) : Repeatable comes where
  threshold := ⟨length, final, h⟩
  raised := by
    intro limit reported told again result hrefused hcomes hagain
    have hshort : limit < length := by
      by_contra hlong
      have hfinal := h.above limit _ hrefused (Nat.not_lt.1 hlong)
      exact h.fits (hfinal ▸ rfl)
    have hreported : (reported : Int) = length := by
      have hsame := h.below limit _ hrefused hshort
      simp only [Failure.ofCause, Except.error.injEq, Failure.client.injEq, ClientError.mk.injEq,
        Cause.tooLong.injEq, true_and] at hsame
      exact hsame.1
    have hlong : length ≤ again := by omega
    rw [h.above again result hcomes hlong]
    exact h.fits
  lowered := by
    intro limit result again result' hcomes hcomes' hagain
    rcases Nat.lt_or_ge again length with hshort | hlong
    · exact .inr ⟨length, hshort, h.below again result' hcomes' hshort⟩
    · refine .inl ?_
      rw [h.above again result' hcomes' hlong, h.above limit result hcomes (by omega)]

/-- Under a limit that lets a response through, it comes to the same as under every larger limit. -/
theorem Repeatable.eq_of_le {limit again : Nat} {result result' : Except Failure α}
    (h : Repeatable comes) (hcomes : comes limit result) (hcomes' : comes again result')
    (hagain : again ≤ limit) (hfits : ¬IsTooLong result') : result = result' := by
  rcases h.lowered limit result again result' hcomes hcomes' hagain with hsame | ⟨n, -, hlong⟩
  · exact hsame.symm
  · exact absurd (hlong ▸ rfl) hfits

end

/-! ## Responses to a call -/

/-- The certificate in a response that is not empty: the first one, which has to be one that can be
told about. -/
def issuedIn (bytes : Octets) : Except Failure (Option Certificate) :=
  if bytes.isEmpty then .ok none
  else do
    let c ← firstCertificate bytes
    let _ ← certificateFacts c
    return some c

theorem issuedIn_not_tooLong {bytes : Octets} {failure : Failure}
    (h : issuedIn bytes = .error failure) : failure.isTooLong = false := by
  rw [issuedIn] at h
  split at h
  · cases h
  rcases bind_eq_error_iff.1 h with hfirst | ⟨c, -, h⟩
  · exact firstCertificate_not_tooLong hfirst
  rcases bind_eq_error_iff.1 h with hfacts | ⟨facts, -, h⟩
  · rcases certificateFacts_eq c with ⟨-, facts, hok⟩ | ⟨-, f, herror⟩
    · cases hok.symm.trans hfacts
    · cases herror.symm.trans hfacts
      rfl
  · cases h

namespace EngineCall

/-- The call with another longest response. -/
def limited (limit : Nat) : EngineCall → EngineCall
  | certificate action request arguments =>
    .certificate action { request with maxLength := limit } arguments
  | caCertificates anchors endpoint srp _ => .caCertificates anchors endpoint srp limit

/-- The octets of a response that are measured and read. -/
def taken (data : Option Octets) : EngineCall → Octets
  | certificate _ _ _ => responseOctets data
  | caCertificates _ _ _ _ => data.getD []

/-- What is read from octets. -/
def read (bytes : Octets) : EngineCall → Except Failure StepResult
  | certificate _ _ _ => (issuedIn bytes).map .certificate
  | caCertificates _ _ _ _ => (Reading.ofStream bytes).toExcept.map .certificates

/-- What an answer to the call comes to under a limit. -/
def conclude (call : EngineCall) (limit : Nat) :
    Except Failure (Option Octets) → Except Failure StepResult
  | .ok data => capped (call.taken data).length (call.read (call.taken data)) limit
  | .error failure => .error (failure.relayed call.errorKind)

variable {call : EngineCall}

/-- A text that ends in no NUL is taken as it is. -/
theorem taken_of_dropTrailingNul {bytes : Octets} (h : bytes.dropTrailingNul = bytes) :
    call.taken (some bytes) = bytes := by
  cases call with
  | certificate => exact h
  | caCertificates => rfl

/-- Nothing is refused for its length when it is read. -/
theorem not_isTooLong_read {bytes : Octets} : ¬IsTooLong (call.read bytes) := by
  refine not_isTooLong_iff.2 fun failure hread => ?_
  cases call with
  | certificate => exact issuedIn_not_tooLong (map_eq_error_iff.1 hread)
  | caCertificates => exact Reading.not_tooLong_of_toExcept (map_eq_error_iff.1 hread)

theorem not_isTooLong_relayed {failure : Failure} (h : failure.isTooLong = false) :
    (failure.relayed call.errorKind).isTooLong = false := by
  cases failure with
  | client e => exact h
  | fault f =>
    cases call with
    | certificate action => cases action <;> rfl
    | caCertificates => rfl

end EngineCall

/-! ## Steps that ask -/

/-- Whether a step asks the server for something. -/
def Step.asks : Step → Bool
  | .enroll .. | .reenroll .. | .fetch => true
  | _ => false

section
variable {c : Client} {p : Petition} {key : KeyValue} {mode : AuthMode} {asked : ModeValue}
  {disablePop : Bool} {failure : Failure}

/-- The longest response goes into the call and into nothing else of it. -/
theorem Store.prepare_limited {s : Store} {limit : Nat} : s.prepare p key mode disablePop limit =
    (s.prepare p key mode disablePop 0).map (EngineCall.limited limit) := by
  unfold prepare
  cases Bundle.ofAnchors s.anchors with
  | error failure => rfl
  | ok anchors =>
    cases key.toPkcs8 with
    | error failure => rfl
    | ok privateKey =>
      cases p.payload with
      | error failure => rfl
      | ok payload => cases s.modeArguments mode <;> rfl

theorem Failure.not_tooLong_of_isLocal (h : failure.isLocal) : failure.isTooLong = false := by
  cases failure with
  | fault f => rfl
  | client e =>
    obtain ⟨kind, cause⟩ := e
    cases kind <;> simp_all [isLocal, isUnmet, isTooLong]

/-- A petition fails before the call, and whatever the engine and the limit with the same failure of
the client's own; or it makes the same call under each limit. -/
theorem Client.petition_asks (s : Store) (p : Petition) (key : KeyValue) (asked : ModeValue)
    (disablePop : Bool) :
    (∃ failure, failure.isLocal ∧ ∀ {σ : Type} (E : Engine σ) (c : Client) (w : World σ),
      c.store = s → (c.petition E p key asked disablePop w).result = .error failure) ∨
    ∃ (mode : AuthMode) (subject : String) (call : EngineCall),
      s.selectMode asked = .ok mode ∧ p.check key = .ok () ∧ p.subject = .ok subject ∧
      ∀ limit, s.prepare p key mode disablePop limit = .ok (call.limited limit) := by
  cases hmode : s.selectMode asked with
  | error failure =>
    refine .inl ⟨failure, Store.isLocal_of_selectMode hmode, ?_⟩
    intro σ E c w hstore
    cases failure <;> simp only [petition, hstore, hmode]
  | ok mode =>
  cases hcheck : p.check key with
  | error failure =>
    refine .inl ⟨failure, Failure.isLocal_of_isUnmet (Petition.isUnmet_of_check hcheck), ?_⟩
    intro σ E c w hstore
    simp only [petition, hstore, hmode, hcheck]
  | ok _ =>
  cases hsubject : p.subject with
  | error failure =>
    refine .inl ⟨failure, Petition.isLocal_of_subject hsubject, ?_⟩
    intro σ E c w hstore
    simp only [petition, hstore, hmode, hcheck, hsubject]
  | ok subject =>
  cases hcall : s.prepare p key mode disablePop 0 with
  | error failure =>
    refine .inl ⟨failure, Failure.isLocal_of_isUnmet (Store.isUnmet_of_prepare hcall), ?_⟩
    intro σ E c w hstore
    have hfails : s.prepare p key mode disablePop w.settings.maxLength = .error failure := by
      rw [Store.prepare_limited, hcall]
      rfl
    simp only [petition, hstore, hmode, hcheck, hsubject, hfails]
  | ok call =>
    refine .inr ⟨mode, subject, call, rfl, rfl, rfl, fun limit => ?_⟩
    rw [Store.prepare_limited, hcall]
    rfl

/-- A step that asks fails before it calls the engine, and whatever the engine and the limit with
the same failure of the client's own; or it makes the same call under each limit. -/
theorem Client.step_asks (s : Store) {step : Step} (hstep : step.asks) :
    (∃ failure, failure.isLocal ∧ ∀ {σ : Type} (E : Engine σ) (c : Client) (w : World σ),
      c.store = s → (c.step E step w).1 = .error failure) ∨
    ∃ call : EngineCall, ∀ (c : Client) (limit : Nat), c.store = s →
      c.Calls limit step (call.limited limit) := by
  cases step with
  | enroll request key asked disablePop =>
    cases hread : request.toObject with
    | error failure =>
      refine .inl ⟨failure, RequestValue.isLocal_of_toObject hread, fun E c w _ => ?_⟩
      rw [step_enroll_unread hread]
    | ok r =>
      rcases petition_asks s (.new r) key asked disablePop with ⟨failure, hlocal, hfails⟩ |
        ⟨mode, subject, call, hmode, hcheck, hsubject, hcall⟩
      · refine .inl ⟨failure, hlocal, fun E c w hstore => ?_⟩
        rw [step_enroll_read hread]
        exact map_eq_error_iff.2 (hfails E c _ hstore)
      · refine .inr ⟨call, fun c limit hstore => ?_⟩
        subst hstore
        exact .enroll hread hmode hcheck hsubject (hcall limit)
  | reenroll old key asked disablePop =>
    rcases petition_asks s (.renewal old) key asked disablePop with ⟨failure, hlocal, hfails⟩ |
      ⟨mode, subject, call, hmode, hcheck, hsubject, hcall⟩
    · exact .inl ⟨failure, hlocal, fun E c w hstore => map_eq_error_iff.2 (hfails E c _ hstore)⟩
    · refine .inr ⟨call, fun c limit hstore => ?_⟩
      subst hstore
      exact .reenroll hmode hcheck hsubject (hcall limit)
  | fetch =>
    cases hcomplete : s.endpoint.isComplete with
    | false =>
      refine .inl ⟨s.endpoint.incomplete, rfl, fun E c w hstore => ?_⟩
      rw [step_fetch, Store.fetch]
      simp only [hstore, hcomplete, Bool.not_false, ↓reduceIte, Except.map]
    | true =>
      cases hanchors : Bundle.ofAnchors s.anchors with
      | error failure =>
        refine .inl ⟨failure, Failure.isLocal_of_isUnmet (Bundle.isUnmet_of_ofAnchors hanchors),
          fun E c w hstore => ?_⟩
        rw [step_fetch, Store.fetch]
        simp only [hstore, hcomplete, hanchors, Bool.not_true, Bool.false_eq_true, ↓reduceIte,
          Except.map]
      | ok anchors =>
        refine .inr ⟨.caCertificates anchors s.endpoint s.srp 0, fun c limit hstore => ?_⟩
        subst hstore
        exact .fetch hcomplete hanchors
  | _ => cases hstep

end

/-! ## Answers -/

section
variable {E : Engine σ} {c : Client} {w : World σ} {step : Step} {call : EngineCall}
  {server : String} {maxLength : Nat} {data : Option Octets}

theorem interpretResponse_capped {a : Action} :
    (interpretResponse a server maxLength data w).result =
      capped (responseOctets data).length (issuedIn (responseOctets data)) maxLength := by
  rw [interpretResponse, capped, issuedIn]
  simp only
  split
  · next hempty =>
    have hnil := List.isEmpty_iff.1 hempty
    rw [hnil, List.length_nil, if_neg (Nat.not_lt_zero _)]
  · split
    · obtain ⟨journal, hrecord⟩ := w.recordFailure_eq_ok a.operation
        (rfl : (Failure.ofCause .bufferSize
          (.tooLong (responseOctets data).length maxLength)).isStated = false)
      rw [faulted, hrecord]
    · rcases firstCertificate_eq (dropTrailingNul_responseOctets data) with
        ⟨failure, hfirst, hrefusal, -⟩ | ⟨hfirst, -⟩ | ⟨c, hfirst, -⟩
      · rw [hfirst]
        cases failure with
        | client e =>
          obtain ⟨journal, hrecord⟩ :=
            w.recordFailure_eq_ok a.operation (Failure.not_isStated_of_isRefusal hrefusal)
          simp only [faulted, hrecord]
          rfl
        | fault f => rfl
      · rw [hfirst]
        rfl
      · rw [hfirst]
        show _ = certificateFacts c >>= fun _ => pure (some c)
        simp only
        cases certificateFacts c <;> rfl

theorem concludeFetch_capped :
    (concludeFetch server maxLength (.ok data) w).1 =
      capped (data.getD []).length (Reading.ofStream (data.getD [])).toExcept maxLength := by
  simp only [concludeFetch, capped]
  split
  · next hempty =>
    have hnil := List.isEmpty_iff.1 hempty
    rw [hnil, List.length_nil, if_neg (Nat.not_lt_zero _)]
    rfl
  · split
    · rfl
    · split
      · next hread => exact hread.symm
      · next hread => exact hread.symm

theorem Client.petition_capped {p : Petition} {key : KeyValue} {asked : ModeValue}
    {disablePop : Bool} {mode : AuthMode} {subject : String}
    (hmode : c.store.selectMode asked = .ok mode) (hcheck : p.check key = .ok ())
    (hsubject : p.subject = .ok subject)
    (hcall : c.store.prepare p key mode disablePop w.settings.maxLength = .ok call)
    (hanswer : (E.answer w.settings.fips call w.engine).1.result = .ok data) :
    (c.petition E p key asked disablePop w).result.map .certificate =
      call.conclude w.settings.maxLength (.ok data) := by
  obtain ⟨_, _, _, _, -, -, -, -, rfl⟩ := Store.prepare_eq_ok hcall
  rw [petition_eq_conclude hmode hcheck hsubject hcall, World.call]
  simp only [World.announced, hanswer]
  rw [concludeEnroll, interpretResponse_capped, map_capped]
  rfl

/-- **What a step comes to** is what the answer to its call comes to, unless the answer is a failure
that cannot be told of. -/
theorem Client.step_eq_conclude {answer : Except Failure (Option Octets)}
    (hcall : c.Calls w.settings.maxLength step call)
    (hanswer : (E.answer w.settings.fips call w.engine).1.result = answer)
    (hplain : ∀ failure, answer = .error failure → failure.isPlain) :
    (c.step E step w).1 = call.conclude w.settings.maxLength answer := by
  cases answer with
  | error failure =>
    exact (relayed_step_iff hcall hanswer).2 (Failure.not_unrecordable (hplain failure rfl))
  | ok data =>
    cases hcall with
    | enroll hread hmode hcheck hsubject hcall =>
      rw [step_enroll_read hread]
      exact petition_capped hmode hcheck hsubject hcall hanswer
    | reenroll hmode hcheck hsubject hcall =>
      exact petition_capped hmode hcheck hsubject hcall hanswer
    | fetch hcomplete hanchors =>
      rw [step_fetch, Store.fetch]
      simp only [hcomplete, hanchors, Bool.not_true, Bool.false_eq_true, ↓reduceIte, World.call,
        hanswer]
      rw [concludeFetch_capped, map_capped]
      rfl

end

/-! ## Replies -/

namespace Https

section
variable {o : Options} {restricted : Bool} {kind : ErrorKind} {reply : WireReply}

/-- A reply is an answer whatever the longest response, or holds a text that may be too long. -/
theorem interpretReply_capped (hkind : kind ≠ .bufferSize) (reply : WireReply) :
    (∃ failure : Failure, failure.isTooLong = false ∧ ∀ (limit : Nat) request,
      (interpretReply kind limit request reply).result = .error failure) ∨
    ∃ pem : Octets, pem.dropTrailingNul = pem ∧ ∀ (limit : Nat) request,
      (interpretReply kind limit request reply).result =
        capped pem.length (.ok (some pem)) limit := by
  have hfailed (reason : String) (status : Option Int) :
      (failed kind reason status).isTooLong = false := by
    simp [failed, Failure.ofCause, Failure.isTooLong, hkind]
  cases reply with
  | failed text => exact .inl ⟨_, hfailed text none, fun _ _ => rfl⟩
  | thrown fault => exact .inl ⟨.fault fault, rfl, fun _ _ => rfl⟩
  | response r =>
    simp only [interpretReply, interpret]
    split
    · split
      · exact .inl ⟨_, rfl, fun _ _ => rfl⟩
      · exact .inl ⟨_, rfl, fun _ _ => rfl⟩
    · split
      · exact .inr ⟨[], rfl, fun _ _ => rfl⟩
      · split
        · cases reason r with
          | ok text => exact .inl ⟨_, hfailed text _, fun _ _ => rfl⟩
          | error fault => exact .inl ⟨.fault fault, rfl, fun _ _ => rfl⟩
        · simp only [interpretCollection]
          split
          · exact .inl ⟨_, hfailed _ _, fun _ _ => rfl⟩
          · split
            · next hcollection =>
              obtain ⟨_, fault, -, -, -, rfl⟩ := collection_eq_error_iff.1 hcollection
              exact .inl ⟨_, rfl, fun _ _ => rfl⟩
            · exact .inl ⟨_, hfailed _ _, fun _ _ => rfl⟩
            · next certificates _ =>
              refine .inr ⟨certificates.flatMap Certificate.toPem,
                dropTrailingNul_flatMap_toPem certificates, fun limit _ => ?_⟩
              simp only [capped, Int.ofNat_lt]
              split <;> rfl

/-- A call is refused before anything is sent, whatever the longest response and the replies; or its
answer is what the next reply means. -/
theorem answer_limited_cases (o : Options) (restricted : Bool) (call : EngineCall) :
    (∃ failure : Failure, failure.isTooLong = false ∧ ∀ (limit : Nat) t,
      (answer o restricted (call.limited limit) t).1.result = .error failure) ∨
    ∀ (limit : Nat) (t : Transport), ∃ request,
      (answer o restricted (call.limited limit) t).1.result =
        (interpretReply call.errorKind limit request t.reply).result := by
  cases call with
  | caCertificates anchors e srp maxLength =>
    cases srp with
    | none => exact .inr fun _ _ => ⟨_, rfl⟩
    | some login => exact .inl ⟨_, rfl, fun _ _ => rfl⟩
  | certificate action r arguments =>
    have henroll :
        (∃ failure : Failure, failure.isTooLong = false ∧ ∀ (limit : Nat) t,
          (enroll o action { r with maxLength := limit } arguments t).1.result = .error failure) ∨
        ∀ (limit : Nat) (t : Transport), ∃ request,
          (enroll o action { r with maxLength := limit } arguments t).1.result =
            (interpretReply action.errorKind limit request t.reply).result := by
      have hbody_limited (limit : Nat) :
          body action { r with maxLength := limit } = body action r := by cases action <;> rfl
      simp only [enroll, hbody_limited]
      cases hbody : body action r with
      | error failure =>
        obtain ⟨f, rfl⟩ := exists_fault_of_body hbody
        exact .inl ⟨_, rfl, fun _ _ => rfl⟩
      | ok b =>
        cases hcertificate : certificateOf arguments with
        | error failure =>
          obtain ⟨f, rfl⟩ := exists_fault_of_certificateOf hcertificate
          exact .inl ⟨_, rfl, fun _ _ => rfl⟩
        | ok certificate => exact .inr fun _ _ => ⟨_, rfl⟩
    cases arguments with
    | http login => exact henroll
    | srp srp login => exact .inl ⟨_, by cases action <;> rfl, fun _ _ => rfl⟩
    | tls certificate key login => exact henroll

/-- The answer to a call does not depend on the longest response, or is a text that may be too
long. -/
theorem answer_capped (o : Options) (restricted : Bool) (call : EngineCall) (reply : WireReply) :
    (∃ failure : Failure, failure.isTooLong = false ∧ ∀ (limit : Nat) (t : Transport),
      t.reply = reply →
      (answer o restricted (call.limited limit) t).1.result = .error failure) ∨
    ∃ pem : Octets, pem.dropTrailingNul = pem ∧ ∀ (limit : Nat) (t : Transport), t.reply = reply →
      (answer o restricted (call.limited limit) t).1.result =
        capped pem.length (.ok (some pem)) limit := by
  have hkind : call.errorKind ≠ .bufferSize := by
    cases call with
    | certificate action => cases action <;> nofun
    | caCertificates => nofun
  rcases answer_limited_cases o restricted call with ⟨failure, hfits, hfails⟩ | hreplies
  · exact .inl ⟨failure, hfits, fun limit t _ => hfails limit t⟩
  rcases interpretReply_capped hkind reply with ⟨failure, hfits, hmeans⟩ | ⟨pem, hpem, hmeans⟩
  · refine .inl ⟨failure, hfits, fun limit t hreply => ?_⟩
    obtain ⟨request, hanswer⟩ := hreplies limit t
    rw [hanswer, hreply, hmeans]
  · refine .inr ⟨pem, hpem, fun limit t hreply => ?_⟩
    obtain ⟨request, hanswer⟩ := hreplies limit t
    rw [hanswer, hreply, hmeans]

end

end Https

/-! ## The theorem -/

/-- What a step of a client with this store comes to under a limit, if its call is answered with
this response, whatever the engine. -/
inductive Store.Answered (s : Store) (step : Step) (data : Option Octets) :
    Nat → Except Failure StepResult → Prop
  | intro {σ : Type} {E : Engine σ} {c : Client} {w : World σ} (hstore : c.store = s)
      (hanswer : ∀ call, c.Calls w.settings.maxLength step call →
        (E.answer w.settings.fips call w.engine).1.result = .ok data) :
    Answered s step data w.settings.maxLength (c.step E step w).1

/-- What a step of a client with this store comes to under a limit over HTTPS, if this is the next
reply. -/
inductive Store.Replied (s : Store) (step : Step) (o : Https.Options) (restricted : Bool)
    (reply : WireReply) : Nat → Except Failure StepResult → Prop
  | intro {c : Client} {w : World Https.Transport} (hstore : c.store = s)
      (hrestricted : w.settings.fips = restricted) (hreply : w.engine.reply = reply) :
    Replied s step o restricted reply w.settings.maxLength (c.step (Https.engine o) step w).1

section
variable {call : EngineCall} {limit : Nat}

theorem EngineCall.conclude_limited :
    (call.limited limit).conclude limit = call.conclude limit := by
  cases call <;> rfl

/-- A text that an engine measures is measured alike by the client. -/
theorem EngineCall.conclude_capped {pem : Octets} (h : pem.dropTrailingNul = pem) :
    call.conclude limit (capped pem.length (.ok (some pem)) limit) =
      capped pem.length (call.read pem) limit := by
  unfold capped
  split
  · rfl
  · next hfits => rw [conclude, capped, taken_of_dropTrailingNul h, if_neg hfits]

/-- A failure of the client's own turns on no length. -/
theorem Threshold.of_error {comes : Nat → Except Failure α → Prop} {failure : Failure}
    (hfits : failure.isTooLong = false)
    (h : ∀ limit result, comes limit result → result = .error failure) :
    Threshold comes 0 (.error failure) := by
  refine .of_capped (not_isTooLong_iff.2 ?_) h
  intro f hf
  cases hf
  exact hfits

/-- Over HTTPS every answer can be relayed. -/
theorem Client.step_eq_of_answer {o : Https.Options} {c : Client} {w : World Https.Transport}
    {step : Step} {answer : Except Failure (Option Octets)}
    (hcall : c.Calls w.settings.maxLength step (call.limited w.settings.maxLength))
    (hanswer : (Https.answer o w.settings.fips (call.limited w.settings.maxLength)
      w.engine).1.result = answer) :
    (c.step (Https.engine o) step w).1 = call.conclude w.settings.maxLength answer := by
  rw [step_eq_conclude hcall hanswer fun _ h => Https.isPlain_of_answer (hanswer.trans h),
    EngineCall.conclude_limited]

/-- A reply with certificates that are too long is refused with their length. -/
theorem Client.step_of_long {o : Https.Options} {c : Client} {w : World Https.Transport}
    {step : Step} {r : Response} {cs : List Certificate} (h : r.Holds cs)
    (hreply : w.engine.reply = .response r)
    (hlong : w.settings.maxLength < (cs.flatMap Certificate.toPem).length)
    (hcall : c.Calls w.settings.maxLength step (call.limited w.settings.maxLength))
    (hsends : Https.Sends o w.settings.fips (call.limited w.settings.maxLength) w.engine) :
    (c.step (Https.engine o) step w).1 = .error (.ofCause .bufferSize
      (.tooLong (cs.flatMap Certificate.toPem).length w.settings.maxLength)) := by
  have hlength : (call.limited w.settings.maxLength).maxLength = w.settings.maxLength := by
    cases call <;> rfl
  have hanswer := Https.answer_of_long h hreply (hlength ▸ Int.ofNat_lt.2 hlong) hsends
  rw [step_eq_of_answer hcall hanswer, hlength]
  rfl

/-- The threshold of a response is its own length. -/
theorem Store.threshold_answered {s : Store} {step : Step} {data : Option Octets}
    (hcalls : ∀ (c : Client) (limit : Nat), c.store = s → c.Calls limit step (call.limited limit)) :
    Threshold (s.Answered step data) (call.taken data).length (call.read (call.taken data)) := by
  refine .of_capped call.not_isTooLong_read fun limit result hcomes => ?_
  cases hcomes with
  | @intro σ E c w hstore hanswer =>
    have hcall := hcalls c w.settings.maxLength hstore
    rw [Client.step_eq_conclude hcall (hanswer _ hcall) nofun, EngineCall.conclude_limited]
    rfl

/-- The threshold of a reply is the length of the text that it holds, if it holds one. -/
theorem Store.exists_threshold_replied {s : Store} {step : Step} {o : Https.Options}
    {restricted : Bool} {reply : WireReply}
    (hcalls : ∀ (c : Client) (limit : Nat), c.store = s → c.Calls limit step (call.limited limit)) :
    ∃ length final, Threshold (s.Replied step o restricted reply) length final := by
  rcases Https.answer_capped o restricted call reply with ⟨failure, hfits, hmeans⟩ |
    ⟨pem, hpem, hmeans⟩
  · refine ⟨0, .error (failure.relayed call.errorKind),
      .of_error (EngineCall.not_isTooLong_relayed hfits) fun limit result hcomes => ?_⟩
    obtain ⟨hstore, rfl, hreply⟩ := hcomes
    exact Client.step_eq_of_answer (hcalls _ _ hstore) (hmeans _ _ hreply)
  · refine ⟨pem.length, call.read pem, .of_capped call.not_isTooLong_read
      fun limit result hcomes => ?_⟩
    obtain ⟨hstore, rfl, hreply⟩ := hcomes
    rw [Client.step_eq_of_answer (hcalls _ _ hstore) (hmeans _ _ hreply),
      EngineCall.conclude_capped hpem]

/-- **One length decides.** Whatever a server answers, a step that asks it is refused under every
limit below one length, with that length, and comes to one and the same under all others. -/
theorem Client.thresholds_step (s : Store) {step : Step} (hstep : step.asks) :
    (∀ data, Repeatable (s.Answered step data)) ∧
    ∀ o restricted reply, Repeatable (s.Replied step o restricted reply) := by
  rcases step_asks s hstep with ⟨failure, hlocal, hfails⟩ | ⟨call, hcalls⟩
  · -- a failure before the call has a threshold of its own, which no limit is below
    have hfits := Failure.not_tooLong_of_isLocal hlocal
    refine ⟨fun data => ?_, fun o restricted reply => ?_⟩
    · refine (Threshold.of_error hfits fun limit result hcomes => ?_).repeatable
      obtain ⟨hstore, -⟩ := hcomes
      exact hfails _ _ _ hstore
    · refine (Threshold.of_error hfits fun limit result hcomes => ?_).repeatable
      obtain ⟨hstore, -, -⟩ := hcomes
      exact hfails _ _ _ hstore
  · refine ⟨fun data => (Store.threshold_answered hcalls).repeatable,
      fun o restricted reply => ?_⟩
    obtain ⟨length, final, hthreshold⟩ := Store.exists_threshold_replied hcalls
    exact hthreshold.repeatable

end

/-- The length of the PEM texts of two certificates. -/
def sampleLength : Nat := (Https.sampleCertificates.flatMap Certificate.toPem).length

/-- A world with a server that delivers the two, under a limit. -/
def deliveringUnder (limit : Nat) : World Https.Transport :=
  { Https.delivering with settings := { maxLength := limit } }

theorem Client.calls_deliveringUnder {limit : Nat} :
    sampleClient.Calls (deliveringUnder limit).settings.maxLength .fetch
      ((EngineCall.caCertificates ⟨emptyBundle, 0⟩ ⟨some "est", some 443⟩ none 0).limited
        (deliveringUnder limit).settings.maxLength) :=
  .fetch rfl rfl

/-- Two octets that are no certificate are refused for their length under the limit one, and under
every other limit for what they are. Over HTTPS two certificates, whose text the engine measures
before the client does, are refused under the limit one and come through under that of their
length. -/
theorem Client.thresholds_fetch : Step.fetch.asks ∧
    Repeatable (sampleClient.store.Answered .fetch (some [97, 98])) ∧
    (sampleClient.step (Scripted.engine none) .fetch (answeringWorld 1 (.ok (some [97, 98])))).1 =
      .error (.ofCause .bufferSize (.tooLong 2 1)) ∧
    (∀ limit, 2 ≤ limit → (sampleClient.step (Scripted.engine none) .fetch
      (answeringWorld limit (.ok (some [97, 98])))).1 = .error (noCertificate 2)) ∧
    Repeatable (sampleClient.store.Replied .fetch {} false (.response Https.sampleDelivery)) ∧
    (sampleClient.step (Https.engine {}) .fetch (deliveringUnder 1)).1 =
      .error (.ofCause .bufferSize (.tooLong sampleLength 1)) ∧
    ∀ limit, sampleLength ≤ limit →
      (sampleClient.step (Https.engine {}) .fetch (deliveringUnder limit)).1 =
        .ok (.certificates Https.sampleCertificates) := by
  obtain ⟨hanswered, hreplied⟩ := thresholds_step sampleClient.store (rfl : Step.fetch.asks)
  have hcomes (limit : Nat) : sampleClient.store.Answered .fetch (some [97, 98]) limit
      (sampleClient.step (Scripted.engine none) .fetch
        (answeringWorld limit (.ok (some [97, 98])))).1 :=
    @Store.Answered.intro _ _ _ _ (Scripted.engine none) sampleClient
      (answeringWorld limit (.ok (some [97, 98]))) rfl fun _ _ => rfl
  have hcomesReplied (limit : Nat) : sampleClient.store.Replied .fetch {} false
      (.response Https.sampleDelivery) limit
      (sampleClient.step (Https.engine {}) .fetch (deliveringUnder limit)).1 :=
    @Store.Replied.intro _ _ _ _ _ sampleClient (deliveringUnder limit) rfl rfl rfl
  refine ⟨rfl, hanswered _, rfl, fun limit hlimit => ?_, hreplied {} false _, ?_,
    fun limit hlimit => ?_⟩
  · exact (hanswered _).eq_of_le (hcomes limit) (hcomes 2) hlimit nofun
  · exact step_of_long Https.delivers_sampleDelivery.holds rfl (by decide +kernel)
      calls_deliveringUnder (by rw [Https.Sends]; decide +kernel)
  · have hsent : Https.HasSent (deliveringUnder sampleLength)
        (sampleClient.step (Https.engine {}) .fetch (deliveringUnder sampleLength)) := by
      rw [Https.HasSent]
      decide +kernel
    have hfetched := Https.step_fetch_of_holds (w := deliveringUnder sampleLength)
      Https.delivers_sampleDelivery.holds rfl (Nat.le_refl _) hsent
    rw [← hfetched]
    refine (hreplied {} false _).eq_of_le (hcomesReplied limit) (hcomesReplied sampleLength)
      hlimit ?_
    rw [hfetched]
    exact not_false

end Enrollment
