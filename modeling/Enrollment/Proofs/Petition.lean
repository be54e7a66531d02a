import Enrollment.Client.Session
import Enrollment.Proofs.Except
import Mathlib.Data.List.DropRight

/-!
# The course of a petition

All that asking for a certificate can come to. `Petition.Course` lists the ends of a petition in
the order of its steps, and `Concluded` the ends of a call by the answer of the engine. Every fact
about petitions is read off these two (`Client.course_petition`, `concluded_concludeEnroll`).
-/

namespace Enrollment

open X509

/-! ## Failures of the client's own -/

/-- Whether a failure says that the server put the request off. -/
def Failure.isDeferral : Failure → Bool
  | .client e => e.kind = .retryAfter
  | .fault _ => false

/-- Whether the words of a cause come from an engine. -/
def Cause.isStated : Cause → Bool
  | .stated .. => true
  | _ => false

/-- Whether a failure is an error of enrolment that the client itself found: no deferral, and in
its own words. -/
def Failure.isRefusal : Failure → Bool
  | .client e => e.kind ≠ .retryAfter && !e.cause.isStated
  | .fault _ => false

/-- Whether a failure says, in the client's own words, that something is not configured or cannot be
written down. -/
def Failure.isUnmet : Failure → Bool
  | .client e => (e.kind = .configuration || e.kind = .encoding) && !e.cause.isStated
  | .fault _ => false

/-- Whether a failure is one that a client finds before it calls anyone: something is unmet, or a
value is not what it should be. -/
def Failure.isLocal : Failure → Bool
  | .client e => (Failure.client e).isUnmet
  | .fault _ => true

section
variable {failure : Failure}

theorem Failure.isRefusal_of_isUnmet (h : failure.isUnmet) : failure.isRefusal := by
  obtain ⟨kind, cause⟩ | f := failure
  · cases kind <;> simp_all [isUnmet, isRefusal]
  · cases h

theorem Failure.isLocal_of_isUnmet (h : failure.isUnmet) : failure.isLocal := by
  cases failure with
  | client e => exact h
  | fault f => rfl

theorem Failure.isDeferral_of_isRefusal (h : failure.isRefusal) : failure.isDeferral = false := by
  cases failure with
  | client e => simp [isRefusal] at h; simp [isDeferral, h.1]
  | fault f => rfl

theorem Failure.not_isDeferral_of_isLocal (h : failure.isLocal) : failure.isDeferral = false := by
  cases failure with
  | client e => exact isDeferral_of_isRefusal (isRefusal_of_isUnmet h)
  | fault f => rfl

/-- Whether a mode does not exist and cannot be written down either, so that the complaint about it
fails. -/
def ModeValue.IsUnshown (asked : ModeValue) : Prop :=
  asked.mode? = none ∧ asked.value.isWritable = false

/-- A mode is not selected because something is not configured, or because it cannot be shown. -/
theorem Store.isUnmet_or_of_selectMode {s : Store} {asked : ModeValue}
    (h : s.selectMode asked = .error failure) :
    failure.isUnmet ∨ failure = .fault .longInteger ∧ asked.IsUnshown := by
  rw [selectMode] at h
  split at h
  · next hmode =>
    cases h
    rw [unknownMode]
    split
    · exact .inl rfl
    · next hwritable => exact .inr ⟨rfl, hmode, Bool.eq_false_iff.2 hwritable⟩
  · split at h
    · cases h; exact .inl rfl
    · split at h
      · cases h; exact .inl rfl
      · split at h
        · cases h
        · cases h; exact .inl rfl

theorem Store.isUnmet_of_selectMode {s : Store} {asked : ModeValue} {e : ClientError}
    (h : s.selectMode asked = .error (.client e)) : (Failure.client e).isUnmet :=
  (isUnmet_or_of_selectMode h).resolve_right nofun

/-- The selection of a mode ends in a fault exactly if the mode cannot be shown. -/
theorem Store.selectMode_eq_fault_iff {s : Store} {asked : ModeValue} {f : Fault} :
    s.selectMode asked = .error (.fault f) ↔ f = .longInteger ∧ asked.IsUnshown := by
  constructor
  · intro h
    rcases isUnmet_or_of_selectMode h with hunmet | ⟨hfault, hunshown⟩
    · cases hunmet
    · cases hfault
      exact ⟨rfl, hunshown⟩
  · rintro ⟨rfl, hmode, hwritable⟩
    simp only [selectMode, hmode, unknownMode, hwritable, Bool.false_eq_true, if_false]

theorem CertificateValue.isUnmet_of_toDer {c : CertificateValue} (h : c.toDer = .error failure) :
    failure.isUnmet := by
  cases c with
  | certificate c => cases h
  | unencodable text => cases h; rfl
  | plain v => cases h; rfl

theorem KeyValue.isUnmet_of_toPkcs8 {key : KeyValue} (h : key.toPkcs8 = .error failure) :
    failure.isUnmet := by
  cases key with
  | secret k => cases h
  | public_ k => cases h; rfl
  | unencodable text half => cases h; rfl
  | plain v => cases h; rfl

theorem RequestObject.isUnmet_of_toDer {r : RequestObject} (h : r.toDer = .error failure) :
    failure.isUnmet := by
  cases r with
  | request r => cases h
  | unencodable text half => cases h; rfl

theorem Petition.isUnmet_of_check {p : Petition} {key : KeyValue}
    (h : p.check key = .error failure) : failure.isUnmet := by
  cases p with
  | new request =>
    rw [check] at h
    split at h
    · cases h
    · cases h; rfl
    · cases h; rfl
  | renewal old =>
    rw [check] at h
    split at h
    · cases h
    · cases h; rfl

theorem Petition.isUnmet_of_payload {p : Petition} (h : p.payload = .error failure) :
    failure.isUnmet := by
  cases p with
  | new request => exact request.isUnmet_of_toDer h
  | renewal old => exact old.isUnmet_of_toDer h

theorem Bundle.isUnmet_of_ofAnchors {anchors : List CertificateValue}
    (h : Bundle.ofAnchors anchors = .error failure) : failure.isUnmet := by
  rcases bind_eq_error_iff.1 h with h | ⟨_, -, h⟩
  · rcases bind_eq_error_iff.1 h with h | ⟨_, -, h⟩
    · obtain ⟨c, -, h⟩ := exists_mem_of_mapM_eq_error h
      exact c.isUnmet_of_toDer (map_eq_error_iff.1 h)
    · cases h
  · cases h

theorem Store.isUnmet_of_modeArguments {s : Store} {mode : AuthMode}
    (h : s.modeArguments mode = .error failure) : failure.isUnmet := by
  cases mode with
  | http | srp => cases h
  | tls =>
    rw [modeArguments] at h
    split at h
    · cases h; rfl
    · rcases bind_eq_error_iff.1 h with h | ⟨_, _, h⟩
      · exact CertificateValue.isUnmet_of_toDer h
      · cases h

theorem Store.isUnmet_of_prepare {s : Store} {p : Petition} {key : KeyValue} {mode : AuthMode}
    {disablePop : Bool} {maxLength : Nat}
    (h : s.prepare p key mode disablePop maxLength = .error failure) : failure.isUnmet := by
  rcases bind_eq_error_iff.1 h with h | ⟨anchors, -, h⟩
  · exact Bundle.isUnmet_of_ofAnchors h
  rcases bind_eq_error_iff.1 h with h | ⟨privateKey, -, h⟩
  · exact key.isUnmet_of_toPkcs8 h
  rcases bind_eq_error_iff.1 h with h | ⟨payload, -, h⟩
  · exact p.isUnmet_of_payload h
  rcases bind_eq_error_iff.1 h with h | ⟨arguments, -, h⟩
  · exact Store.isUnmet_of_modeArguments h
  · cases h

/-- Why a mode is not selected the client finds by itself. -/
theorem Store.isLocal_of_selectMode {s : Store} {asked : ModeValue}
    (h : s.selectMode asked = .error failure) : failure.isLocal := by
  rcases isUnmet_or_of_selectMode h with hunmet | ⟨rfl, -⟩
  · exact Failure.isLocal_of_isUnmet hunmet
  · rfl

theorem SigningRequest.isLocal_of_ofOctets {bytes : Octets}
    (h : ofOctets bytes = .error failure) : failure.isLocal := by
  obtain ⟨fault, -, rfl⟩ := mapError_eq_error_iff.1 h
  cases fault <;> rfl

theorem SigningRequest.isLocal_of_ofText {text : String}
    (h : ofText text = .error failure) : failure.isLocal := by
  rw [ofText] at h
  split at h
  · exact isLocal_of_ofOctets h
  · split at h
    · exact isLocal_of_ofOctets h
    · cases h; rfl

/-- A request that cannot be read is refused by the client itself. -/
theorem RequestValue.isLocal_of_toObject {request : RequestValue}
    (h : request.toObject = .error failure) : failure.isLocal := by
  cases request with
  | request | unencodable => cases h
  | plain v =>
    have hread := map_eq_error_iff.1 h
    cases v with
    | octets bytes => exact SigningRequest.isLocal_of_ofOctets hread
    | text text => exact SigningRequest.isLocal_of_ofText hread
    | _ => cases hread; rfl

/-- The subject of a petition has a text, or its lack is a fault. -/
theorem Petition.isLocal_of_subject {p : Petition} (h : p.subject = .error failure) :
    failure.isLocal := by
  have hname {x : Except X509.NameFault String}
      (h : x.mapError X509.NameFault.toFailure = .error failure) : failure.isLocal := by
    obtain ⟨fault, -, rfl⟩ := mapError_eq_error_iff.1 h
    cases fault <;> rfl
  cases p with
  | new request =>
    cases request with
    | request r => exact hname h
    | unencodable text half => cases h
  | renewal old =>
    cases old with
    | certificate c => exact hname h
    | unencodable text => cases h
    | plain v => cases h; rfl

theorem Store.isRefusal_of_selectMode {s : Store} {asked : ModeValue} {e : ClientError}
    (h : s.selectMode asked = .error (.client e)) : (Failure.client e).isRefusal :=
  Failure.isRefusal_of_isUnmet (isUnmet_of_selectMode h)

theorem Petition.isRefusal_of_check {p : Petition} {key : KeyValue}
    (h : p.check key = .error failure) : failure.isRefusal :=
  Failure.isRefusal_of_isUnmet (isUnmet_of_check h)

theorem Bundle.isRefusal_of_ofAnchors {anchors : List CertificateValue}
    (h : Bundle.ofAnchors anchors = .error failure) : failure.isRefusal :=
  Failure.isRefusal_of_isUnmet (isUnmet_of_ofAnchors h)

theorem Store.isRefusal_of_prepare {s : Store} {p : Petition} {key : KeyValue} {mode : AuthMode}
    {disablePop : Bool} {maxLength : Nat}
    (h : s.prepare p key mode disablePop maxLength = .error failure) : failure.isRefusal :=
  Failure.isRefusal_of_isUnmet (isUnmet_of_prepare h)

end

/-- What a call for a certificate is made with. -/
theorem Store.prepare_eq_ok {s : Store} {p : Petition} {key : KeyValue} {mode : AuthMode}
    {disablePop : Bool} {maxLength : Nat} {call : EngineCall}
    (h : s.prepare p key mode disablePop maxLength = .ok call) :
    ∃ anchors privateKey payload arguments, Bundle.ofAnchors s.anchors = .ok anchors ∧
      key.toPkcs8 = .ok privateKey ∧ p.payload = .ok payload ∧
      s.modeArguments mode = .ok arguments ∧
      call = .certificate p.action
        ⟨anchors, privateKey, s.endpoint, disablePop, payload, maxLength⟩ arguments := by
  obtain ⟨anchors, hanchors, h⟩ := bind_eq_ok_iff.1 h
  obtain ⟨privateKey, hkey, h⟩ := bind_eq_ok_iff.1 h
  obtain ⟨payload, hpayload, h⟩ := bind_eq_ok_iff.1 h
  obtain ⟨arguments, harguments, h⟩ := bind_eq_ok_iff.1 h
  exact ⟨anchors, privateKey, payload, arguments, hanchors, hkey, hpayload, harguments,
    (Except.ok.inj h).symm⟩

/-! ## Failures in the journal -/

/-- Whether a failure can be told of by whoever gets it: it is not in words of the engine's own, and
if it names a delay, that can be written down. -/
def Failure.isPlain : Failure → Bool
  | .client e => !e.cause.isStated && e.retryAfter.isWritable
  | .fault _ => true

/-- Whether a failure comes in the words of an engine. -/
def Failure.isStated : Failure → Bool
  | .client e => e.cause.isStated
  | .fault _ => false

theorem Failure.not_isStated_of_isRefusal {failure : Failure} (h : failure.isRefusal) :
    failure.isStated = false := by
  cases failure with
  | client e => simp [isRefusal] at h; exact h.2
  | fault f => rfl

theorem Failure.not_isStated_of_isPlain {failure : Failure} (h : failure.isPlain) :
    failure.isStated = false := by
  cases failure with
  | client e => simp [isPlain] at h; exact h.1
  | fault f => rfl

theorem Failure.isWritable_of_isPlain {e : ClientError} (h : (Failure.client e).isPlain) :
    e.retryAfter.isWritable := by
  simp [isPlain] at h
  exact h.2

/-- Only the words of an engine can use a reserved name. -/
theorem Failure.reserved?_auditFields {failure : Failure} (h : failure.isStated = false) :
    Journal.reserved? failure.auditFields = none := by
  cases failure with
  | fault f => rfl
  | client e =>
    obtain ⟨kind, cause⟩ := e
    cases cause with
    | stated => cases h
    | engineFailed reason status => cases status <;> rfl
    | _ => rfl

/-- A failure that is not in the words of an engine can be recorded. -/
theorem World.recordFailure_eq_ok {failure : Failure} (w : World σ) (context : String)
    (h : failure.isStated = false) :
    ∃ journal, w.recordFailure failure context = .ok { w with journal } := by
  rw [recordFailure, Journal.failed]
  simp only [Failure.reserved?_auditFields h]
  exact ⟨_, rfl⟩

/-! ## Responses -/

/-- Whether the first block of a run is a certificate of a version that does not exist. -/
def LeadsUnknown (bytes : Octets) : Prop :=
  ∃ block rest, nextBlock bytes = some (some (block, rest)) ∧
    Certificate.ofPem block = .error .unknownVersion

/-- Whether a certificate can be told about: its subject has a text, and its dates have years. -/
def Certificate.IsTellable (c : Certificate) : Prop :=
  (∃ text, c.subject = .ok text) ∧ c.content.notBefore.date.year ≠ 0 ∧
    c.content.notAfter.date.year ≠ 0

/-- A response that is long enough and short enough to be read, and whose first certificate is of
no known version or cannot be told about. -/
def Unreadable (maxLength : Nat) (data : Option Octets) : Prop :=
  (responseOctets data).length ≤ maxLength ∧ (LeadsUnknown (responseOctets data) ∨
    ∃ c, firstCertificate (responseOctets data) = .ok c ∧ ¬c.IsTellable)

section
variable {bytes : Octets} {failure : Failure} {c : Certificate}

theorem dropTrailingNul_responseOctets (data : Option Octets) :
    (responseOctets data).dropTrailingNul = responseOctets data :=
  List.rdropWhile_idempotent (· == 0) (data.getD [])

theorem LeadsUnknown.ne_nil (h : LeadsUnknown bytes) : bytes ≠ [] := by
  rintro rfl
  obtain ⟨_, _, hblock, -⟩ := h
  cases hblock

/-- **The first certificate of a run is read from its first block.** -/
theorem firstCertificate_eq (h : bytes.dropTrailingNul = bytes) :
    (∃ failure, firstCertificate bytes = .error failure ∧ failure.isRefusal ∧
      ¬LeadsUnknown bytes) ∨
    (firstCertificate bytes = .error (.fault (.cryptographic .unknownVersion)) ∧
      LeadsUnknown bytes) ∨
    ∃ c, firstCertificate bytes = .ok c ∧ ¬LeadsUnknown bytes := by
  rw [firstCertificate, Reading.ofStream, upTo]
  simp only [h]
  cases hblock : nextBlock bytes with
  | none =>
    have hunknown : ¬LeadsUnknown bytes := by
      rintro ⟨_, _, hsome, -⟩
      rw [hblock] at hsome
      cases hsome
    refine .inl ?_
    cases bytes.isBlank
    · exact ⟨_, rfl, rfl, hunknown⟩
    · exact ⟨_, rfl, rfl, hunknown⟩
  | some first =>
    have hleads : ∀ block rest, first = some (block, rest) → (LeadsUnknown bytes ↔
        Certificate.ofPem block = .error .unknownVersion) := by
      rintro block rest rfl
      exact ⟨fun ⟨_, _, hsome, h⟩ => by rw [hblock] at hsome; cases hsome; exact h,
        fun h => ⟨block, rest, hblock, h⟩⟩
    simp only [readBlocks, hblock]
    cases first with
    | none =>
      refine .inl ⟨_, rfl, rfl, ?_⟩
      rintro ⟨_, _, hsome, -⟩
      rw [hblock] at hsome
      cases hsome
    | some first =>
      obtain ⟨block, rest⟩ := first
      rw [hleads block rest rfl]
      simp only
      cases Certificate.ofPem block with
      | error fault =>
        cases fault with
        | malformed => exact .inl ⟨_, rfl, rfl, nofun⟩
        | unknownVersion => exact .inr (.inl ⟨rfl, rfl⟩)
      | ok c => exact .inr (.inr ⟨c, rfl, nofun⟩)

/-- The record of a certificate can be made if it can be told about. -/
theorem certificateFacts_eq (c : Certificate) :
    (c.IsTellable ∧ ∃ facts, certificateFacts c = .ok facts) ∨
    (¬c.IsTellable ∧ ∃ f, certificateFacts c = .error (.fault f)) := by
  rw [certificateFacts]
  cases hsubject : c.subject with
  | error failure =>
    refine .inr ⟨fun ⟨⟨text, htext⟩, _⟩ => (nomatch hsubject.symm.trans htext), ?_⟩
    obtain ⟨fault, -, rfl⟩ := mapError_eq_error_iff.1 hsubject
    cases fault <;> exact ⟨_, rfl⟩
  | ok text =>
    by_cases hyear : c.content.notBefore.date.year = 0 ∨ c.content.notAfter.date.year = 0
    · refine .inr ⟨fun ⟨_, hbefore, hafter⟩ => hyear.elim hbefore hafter, ?_⟩
      have hcond : (c.content.notBefore.date.year = 0 ||
          c.content.notAfter.date.year = 0) = true := by simpa using hyear
      simp only [hcond]
      exact ⟨_, rfl⟩
    · have hcond : (c.content.notBefore.date.year = 0 ||
          c.content.notAfter.date.year = 0) = false := by simpa using hyear
      obtain ⟨hbefore, hafter⟩ := not_or.1 hyear
      refine .inl ⟨⟨⟨text, hsubject⟩, hbefore, hafter⟩, ?_⟩
      simp only [hcond]
      exact ⟨_, rfl⟩

end

/-! ## The ends of a call -/

/-- What a call for a certificate comes to, by the answer of the engine. Of the world only the
journal changes. -/
inductive Concluded (a : Action) (maxLength : Nat) (w : World σ) :
    Except Failure (Option Octets) → Outcome σ (Option Certificate) → Prop
  | empty {data journal} (h : ¬Unreadable maxLength data) :
    Concluded a maxLength w (.ok data) ⟨.ok none, .issued, { w with journal }⟩
  | refused {data failure journal} (h : ¬Unreadable maxLength data) (hfailure : failure.isRefusal) :
    Concluded a maxLength w (.ok data) ⟨.error failure, .faulted, { w with journal }⟩
  | unreadable {data f} (h : Unreadable maxLength data) :
    Concluded a maxLength w (.ok data) ⟨.error (.fault f), .awaiting, w⟩
  | issued {data c journal} (h : ¬Unreadable maxLength data) :
    Concluded a maxLength w (.ok data) ⟨.ok (some c), .issued, { w with journal }⟩
  | deferred {e journal} (h : e.kind = .retryAfter) (hwritable : e.retryAfter.isWritable) :
    Concluded a maxLength w (.error (.client e)) ⟨.error (.client e), .deferred, { w with journal }⟩
  | unshown {e} (h : e.kind = .retryAfter) (hwritable : e.retryAfter.isWritable = false) :
    Concluded a maxLength w (.error (.client e)) ⟨.error (.fault .longInteger), .deferred, w⟩
  | failed {e journal} (h : e.kind ≠ .retryAfter) :
    Concluded a maxLength w (.error (.client e)) ⟨.error (.client e), .faulted, { w with journal }⟩
  | unrecorded {e f} (h : e.kind ≠ .retryAfter) (hstated : e.cause.isStated) :
    Concluded a maxLength w (.error (.client e)) ⟨.error (.fault f), .faulted, w⟩
  | thrown {f journal} : Concluded a maxLength w (.error (.fault f))
      ⟨.error (.ofCause a.errorKind (.engineFailed f.message none)), .faulted, { w with journal }⟩

section
variable {a : Action} {server : String} {maxLength : Nat} {w : World σ}

/-- A refusal of the client's own ends a call. -/
theorem concluded_faulted {data : Option Octets} {failure : Failure} {context : String}
    (h : ¬Unreadable maxLength data) (hfailure : failure.isRefusal) :
    Concluded a maxLength w (.ok data) (faulted w context failure failure) := by
  obtain ⟨journal, hrecord⟩ :=
    w.recordFailure_eq_ok context (Failure.not_isStated_of_isRefusal hfailure)
  rw [faulted, hrecord]
  exact .refused h hfailure

theorem concluded_interpretResponse (data : Option Octets) :
    Concluded a maxLength w (.ok data) (interpretResponse a server maxLength data w) := by
  rw [interpretResponse]
  simp only
  split
  · next hempty =>
    have hnil := List.isEmpty_iff.1 hempty
    refine .empty ?_
    rintro ⟨-, hunknown | ⟨c, hfirst, -⟩⟩
    · exact hunknown.ne_nil hnil
    · rw [hnil] at hfirst
      cases hfirst
  · split
    · next hlong => exact concluded_faulted (fun h => Nat.not_lt.2 h.1 hlong) rfl
    · next hlong =>
      have hfits := Nat.not_lt.1 hlong
      rcases firstCertificate_eq (dropTrailingNul_responseOctets data) with
        ⟨failure, hfirst, hrefusal, hleads⟩ | ⟨hfirst, hleads⟩ | ⟨c, hfirst, hleads⟩
      · have hread : ¬Unreadable maxLength data := by
          rintro ⟨-, hunknown | ⟨c, hok, -⟩⟩
          · exact hleads hunknown
          · rw [hfirst] at hok
            cases hok
        rw [hfirst]
        cases failure with
        | client e => exact concluded_faulted hread hrefusal
        | fault f => cases hrefusal
      · rw [hfirst]
        exact .unreadable ⟨hfits, .inl hleads⟩
      · rw [hfirst]
        simp only
        rcases certificateFacts_eq c with ⟨htellable, facts, hfacts⟩ | ⟨htellable, f, hfacts⟩
        · rw [hfacts]
          refine .issued ?_
          rintro ⟨-, hunknown | ⟨d, hok, huntellable⟩⟩
          · exact hleads hunknown
          · rw [hfirst] at hok
            cases hok
            exact huntellable htellable
        · rw [hfacts]
          exact .unreadable ⟨hfits, .inr ⟨c, hfirst, htellable⟩⟩

/-- **The ends of a call.** Nothing but the journal changes on the way. -/
theorem concluded_concludeEnroll (answer : Except Failure (Option Octets)) :
    Concluded a maxLength w answer (concludeEnroll a server maxLength answer w) := by
  cases answer with
  | ok data => exact concluded_interpretResponse data
  | error failure =>
    cases failure with
    | fault f =>
      obtain ⟨journal, hrecord⟩ :=
        w.recordFailure_eq_ok a.operation (rfl : (Failure.fault f).isStated = false)
      rw [concludeEnroll, faulted, hrecord]
      exact .thrown
    | client e =>
      rw [concludeEnroll]
      split
      · next hkind =>
        rw [Journal.enrollDeferred]
        cases hwritable : e.retryAfter.isWritable with
        | true => exact .deferred hkind hwritable
        | false => exact .unshown hkind hwritable
      · next hkind =>
        cases hstated : e.cause.isStated with
        | false =>
          obtain ⟨journal, hrecord⟩ :=
            w.recordFailure_eq_ok a.operation
              (show (Failure.client e).isStated = false from hstated)
          rw [faulted, hrecord]
          exact .failed hkind
        | true =>
          rw [faulted, World.recordFailure]
          cases w.journal.failed (.client e) a.operation with
          | ok journal => exact .failed hkind
          | error fault => exact .unrecorded hkind hstated

/-- The engine is left as the call left it. -/
theorem Concluded.engine_eq {answer : Except Failure (Option Octets)}
    {o : Outcome σ (Option Certificate)} (h : Concluded a maxLength w answer o) :
    o.world.engine = w.engine := by
  cases h <;> rfl

/-! ## The ends of a petition -/

/-- A call of the engine for a petition, once everything is prepared: the world it is made in. -/
def World.announced (w : World σ) (s : Store) (p : Petition) (mode : AuthMode) (subject : String)
    (disablePop : Bool) : World σ :=
  let server := s.endpoint.text
  { w with
    journal := w.journal.enrollRequested p.action.operation mode.text server subject disablePop }

/-- What a petition comes to, in the order of its steps. -/
inductive Petition.Course (E : Engine σ) (s : Store) (p : Petition) (key : KeyValue)
    (asked : ModeValue) (disablePop : Bool) (w : World σ) :
    Outcome σ (Option Certificate) → Prop
  | unselected {e journal} (hmode : s.selectMode asked = .error (.client e)) :
    Course E s p key asked disablePop w ⟨.error (.client e), .faulted, { w with journal }⟩
  | unshown {f} (hmode : s.selectMode asked = .error (.fault f)) :
    Course E s p key asked disablePop w ⟨.error (.fault f), .idle, w⟩
  | mismatched {mode failure} (hmode : s.selectMode asked = .ok mode)
      (hcheck : p.check key = .error failure) :
    Course E s p key asked disablePop w ⟨.error failure, .faulted, w⟩
  | nameless {mode failure} (hmode : s.selectMode asked = .ok mode) (hcheck : p.check key = .ok ())
      (hsubject : p.subject = .error failure) :
    Course E s p key asked disablePop w ⟨.error failure, .modeSelected, w⟩
  | unprepared {mode subject failure} (hmode : s.selectMode asked = .ok mode)
      (hcheck : p.check key = .ok ()) (hsubject : p.subject = .ok subject)
      (hcall : s.prepare p key mode disablePop w.settings.maxLength = .error failure) :
    Course E s p key asked disablePop w ⟨.error failure, .faulted, w⟩
  | called {mode subject call o} (hmode : s.selectMode asked = .ok mode)
      (hcheck : p.check key = .ok ()) (hsubject : p.subject = .ok subject)
      (hcall : s.prepare p key mode disablePop w.settings.maxLength = .ok call)
      (hend : Concluded p.action w.settings.maxLength
        ((w.announced s p mode subject disablePop).call E call).2
        ((w.announced s p mode subject disablePop).call E call).1 o) :
    Course E s p key asked disablePop w o

/-- **A petition ends in one of these ways.** -/
theorem Client.course_petition (E : Engine σ) (c : Client) (p : Petition) (key : KeyValue)
    (asked : ModeValue) (disablePop : Bool) (w : World σ) :
    p.Course E c.store key asked disablePop w (c.petition E p key asked disablePop w) := by
  rw [petition]
  simp only
  split
  · next e hmode => exact .unselected hmode
  · next f hmode => exact .unshown hmode
  · next mode hmode =>
    split
    · next failure hcheck => exact .mismatched hmode hcheck
    · next hcheck =>
      split
      · next failure hsubject => exact .nameless hmode hcheck hsubject
      · next subject hsubject =>
        split
        · next failure hcall => exact .unprepared hmode hcheck hsubject hcall
        · next call hcall =>
          exact .called hmode hcheck hsubject hcall (concluded_concludeEnroll _)

/-- Without a signing request that can be read nothing is asked for. -/
theorem Client.step_enroll_unread {E : Engine σ} {c : Client} {request : RequestValue}
    {key : KeyValue} {mode : ModeValue} {disablePop : Bool} {failure : Failure}
    (h : request.toObject = .error failure) :
    c.step E (.enroll request key mode disablePop) w = (.error failure, c, w) := by
  simp only [step, h]

/-- An enrolment is a petition for what was read. -/
theorem Client.step_enroll_read {E : Engine σ} {c : Client} {request : RequestValue}
    {key : KeyValue} {mode : ModeValue} {disablePop : Bool} {object : RequestObject}
    (h : request.toObject = .ok object) :
    c.step E (.enroll request key mode disablePop) w =
      c.request E (.new object) key mode disablePop w := by
  simp only [step, h]

/-- Fetching gives the certificates that the store of the client comes to. -/
theorem Client.step_fetch (E : Engine σ) (c : Client) (w : World σ) :
    (c.step E .fetch w).1 = (c.store.fetch E
      { w with journal := w.journal.openOperation }).1.map .certificates := rfl

end

end Enrollment
