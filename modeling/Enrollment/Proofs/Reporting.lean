import Enrollment.Audit.Destination
import Enrollment.Engine.Scripted
import Enrollment.Proofs.Records

/-!
# Failures in the audit trail

Once the engine was called, an operation that fails with an error of enrolment should leave exactly
one record of an error in the audit trail, unless the server put it off. It does so but in two
situations, which `Unreported` lists: a response with certificates of the authority that is too
long or cannot be read is not recorded at all, though one with a certificate for the client is;
and an error of the engine may say itself that it does not belong to the trail
(`Client.reported_step_iff`).
-/

namespace Enrollment

/-- Whether a record is one of the audit trail that tells of an error of an operation. -/
def Record.isErrorOf (operation : String) (r : Record) : Bool :=
  r.isAudited && r.isOf "error" && r.fieldText "context" = operation

/-- Whether there is exactly one record of an error of an operation among records. -/
def ReportedOnce (operation : String) (rs : List Record) : Prop :=
  ∃ r, rs.filter (·.isErrorOf operation) = [r]

/-- Whether the details of a failure say that it does not belong to the audit trail. -/
def Failure.Muted (failure : Failure) : Prop :=
  ∃ value, failure.auditFields.get? "audit" = some value ∧ value.isTruthy = false

/-- The answers to a call whose failure is not reported once. -/
inductive Unreported (call : EngineCall) : Except Failure (Option Octets) → Prop
  /-- The certificates of the authority came, but cannot be taken. -/
  | response {data} (hkind : call.errorKind = .caCerts) : Unreported call (.ok data)
  /-- The engine failed, with an error that does not belong to the trail. -/
  | muted {failure} (h : failure.Muted) : Unreported call (.error failure)

/-! ## Records of errors -/

section
variable {r : Record} {id context operation : String} {failure : Failure}

/-- The record of a failure belongs to the audit trail unless the failure says otherwise. -/
theorem Record.Tells.isErrorOf_iff
    (hr : r.Tells id "error" (("context", .text context) :: failure.auditFields))
    (hfree : Journal.reserved? failure.auditFields = none) :
    r.isErrorOf context = true ↔ ¬failure.Muted := by
  have hfree := Journal.reserved?_eq_none_iff.1 hfree
  have hnodup : ((("context", Value.text context) :: failure.auditFields).map Prod.fst).Nodup :=
    List.nodup_cons.2 ⟨hfree "context" (by decide), failure.nodup_names_auditFields⟩
  have hevent : r.isOf "error" = true :=
    (hr.isOf_eq (by simpa using hfree "event" (by decide))).trans (by decide)
  have hvalue : r.fields.get? "context" = some (.text context) :=
    hr.get?_of_mem hnodup (by simp [Details.get?])
  have hcontext : r.fieldText "context" = context := by
    rw [fieldText, hvalue]
    rfl
  have haudit : r.fields.get? "audit" =
      (failure.auditFields.get? "audit").or (some (.bool true)) := by
    rw [hr, Details.get?_merge hnodup]
    rfl
  rw [isErrorOf, hevent, hcontext, isAudited, haudit, Failure.Muted]
  cases failure.auditFields.get? "audit" with
  | none => simp [Value.isTruthy]
  | some value => simp

/-- A failure in the client's own words belongs to the audit trail. -/
theorem Failure.not_muted (h : failure.isStated = false) : ¬failure.Muted := by
  rintro ⟨value, hvalue, -⟩
  have hmem : "audit" ∈ failure.auditFields.map Prod.fst := by
    by_contra hnone
    rw [Details.get?_eq_none_iff.2 hnone] at hvalue
    cases hvalue
  exact absurd (mem_ownFields h "audit" hmem) (by decide)

theorem reportedOnce_append {first rs : List Record} (h : ∀ r ∈ first, r.isOf "error" = false) :
    ReportedOnce operation (first ++ rs) ↔ ReportedOnce operation rs := by
  have hnil : first.filter (·.isErrorOf operation) = [] :=
    List.filter_eq_nil_iff.2 fun r hr => by simp [Record.isErrorOf, h r hr]
  rw [ReportedOnce, List.filter_append, hnil]
  rfl

theorem not_reportedOnce_nil : ¬ReportedOnce operation [] := by
  rintro ⟨r, ⟨⟩⟩

theorem reportedOnce_singleton : ReportedOnce operation [r] ↔ r.isErrorOf operation = true := by
  constructor
  · rintro ⟨r', hfilter⟩
    by_contra hr
    rw [List.filter_cons_of_neg hr] at hfilter
    cases hfilter
  · intro hr
    exact ⟨r, List.filter_cons_of_pos hr⟩

end

/-! ## After the answer -/

section
variable {id : String} {a : Action} {call : EngineCall} {e : ClientError} {rs : List Record}
  {answer : Except Failure (Option Octets)}

/-- The record of an error that an engine answers with is in the trail unless it is muted. -/
theorem Reported.reportedOnce_iff {failure : Failure} {operation : String}
    (hoperation : call.errorKind.operation = operation)
    (h : Reported id operation failure (failure.relayed call.errorKind) (.client e) rs) :
    ReportedOnce call.errorKind.operation rs ↔ ¬Unreported call (.error failure) := by
  subst hoperation
  have hmuted : Unreported call (.error failure) ↔ failure.Muted := by
    refine ⟨fun hunreported => ?_, .muted⟩
    cases hunreported with
    | muted hmuted => exact hmuted
  generalize hfinal : failure.relayed call.errorKind = final at h
  cases h with
  | recorded hfree hr => rw [reportedOnce_singleton, hr.isErrorOf_iff hfree, hmuted]

theorem Closing.reportedOnce_iff (hcall : call.errorKind = a.errorKind)
    (h : Closing id a answer (.error (.client e)) rs) (hkind : e.kind ≠ .retryAfter) :
    ReportedOnce call.errorKind.operation rs ↔ ¬Unreported call answer := by
  cases h with
  | refused hfailure hr =>
    have hstated := Failure.not_isStated_of_isRefusal hfailure
    rw [hcall, reportedOnce_singleton]
    refine iff_of_true ?_ ?_
    · exact (hr.isErrorOf_iff (Failure.reserved?_auditFields hstated)).2
        (Failure.not_muted hstated)
    · intro hunreported
      cases hunreported with
      | response hfetch =>
        rw [hcall] at hfetch
        cases a <;> cases hfetch
  | deferred hdeferral => exact absurd hdeferral hkind
  | raised _ hreported =>
    rw [← hcall] at hreported
    exact hreported.reportedOnce_iff (by rw [hcall]; rfl)

theorem FetchClosing.reportedOnce_iff (hcall : call.errorKind = .caCerts)
    (h : FetchClosing id answer (.error (.client e)) rs) :
    ReportedOnce call.errorKind.operation rs ↔ ¬Unreported call answer := by
  cases h with
  | unreported => exact iff_of_false not_reportedOnce_nil (not_not.2 (.response hcall))
  | raised hreported =>
    rw [← hcall] at hreported
    exact hreported.reportedOnce_iff (by rw [hcall]; rfl)

end

/-! ## A step -/

/-- Whether a step leaves exactly one record of an error of an operation in the audit trail. -/
def Client.ReportsOnce (E : Engine σ) (c : Client) (w : World σ) (step : Step)
    (operation : String) : Prop :=
  ∃ rs, (c.step E step w).2.2.journal.records = w.journal.records ++ rs ∧
    ReportedOnce operation rs

section
variable {E : Engine σ} {c : Client} {w : World σ} {step : Step} {call : EngineCall}
  {e : ClientError}

theorem Client.reportsOnce_iff {operation : String} {rs : List Record}
    (h : (c.step E step w).2.2.journal.records = w.journal.records ++ rs) :
    c.ReportsOnce E w step operation ↔ ReportedOnce operation rs := by
  constructor
  · rintro ⟨rs', h', hreported⟩
    rw [List.append_cancel_left (h.symm.trans h')]
    exact hreported
  · exact fun hreported => ⟨rs, h, hreported⟩

theorem Client.request_reportsOnce_iff {p : Petition} {key : KeyValue} {asked : ModeValue}
    {disablePop : Bool} {mode : AuthMode} {subject : String}
    (hstep : c.step E step w = c.request E p key asked disablePop w)
    (hmode : c.store.selectMode asked = .ok mode) (hcheck : p.check key = .ok ())
    (hsubject : p.subject = .ok subject)
    (hcall : c.store.prepare p key mode disablePop w.settings.maxLength = .ok call)
    (hresult : (c.step E step w).1 = .error (.client e)) (hkind : e.kind ≠ .retryAfter) :
    c.ReportsOnce E w step call.errorKind.operation ↔
      ¬Unreported call (E.answer w.settings.fips call w.engine).1.result := by
  obtain ⟨calls, result, engine, rs, htrail, hfinal, hworld⟩ :=
    c.trail_request E p key asked disablePop w
  rw [← hstep] at hfinal hworld
  rw [reportsOnce_iff (congrArg (fun w => w.journal.records) hworld)]
  obtain rfl := map_eq_error_iff.1 (hfinal.symm.trans hresult)
  have hkinds : call.errorKind = p.action.errorKind := by
    obtain ⟨_, _, _, _, -, -, -, -, rfl⟩ := Store.prepare_eq_ok hcall
    rfl
  cases htrail with
  | refused hmode' => cases hmode.symm.trans hmode'
  | unsent hmode' _ hnone =>
    cases hmode.symm.trans hmode'
    exact absurd hcall (hnone subject call hcheck hsubject)
  | @called _ _ call' requested _ closing hmode' _ _ hcall' hr hclosing =>
    cases hmode.symm.trans hmode'
    cases hcall.symm.trans hcall'
    rw [← List.cons_append, reportedOnce_append]
    · exact hclosing.reportedOnce_iff hkinds hkind
    · exact List.forall_mem_cons.2 ⟨(hr.isOf_eq (by simp)).trans (by decide),
        Journal.not_isOf_noteRecords (by decide)⟩

theorem Client.fetch_reportsOnce_iff {anchors : Bundle} (hcomplete : c.store.endpoint.isComplete)
    (hanchors : Bundle.ofAnchors c.store.anchors = .ok anchors)
    (hcall : call = .caCertificates anchors c.store.endpoint c.store.srp w.settings.maxLength)
    (hresult : (c.step E .fetch w).1 = .error (.client e)) :
    c.ReportsOnce E w .fetch call.errorKind.operation ↔
      ¬Unreported call (E.answer w.settings.fips call w.engine).1.result := by
  obtain ⟨calls, result, engine, rs, htrail, hfinal, hworld⟩ := c.fetchTrail_step E w
  rw [reportsOnce_iff (congrArg (fun w => w.journal.records) hworld)]
  obtain rfl := map_eq_error_iff.1 (hfinal.symm.trans hresult)
  cases htrail with
  | refused hincomplete =>
    rw [hcomplete] at hincomplete
    cases hincomplete
  | unsent hanchors' => cases hanchors.symm.trans hanchors'
  | called _ hanchors' hcall' hclosing =>
    cases hanchors.symm.trans hanchors'
    subst hcall hcall'
    rw [reportedOnce_append (Journal.not_isOf_noteRecords (by decide))]
    exact hclosing.reportedOnce_iff rfl

/-- **When a failure after a call is reported**: of every call that a step makes and that ends in
an error of enrolment other than a deferral, exactly if it is not one of the answers that go
unreported. -/
theorem Client.reported_step_iff (hcall : c.Calls w.settings.maxLength step call)
    (hresult : (c.step E step w).1 = .error (.client e)) (hkind : e.kind ≠ .retryAfter) :
    c.ReportsOnce E w step call.errorKind.operation ↔
      ¬Unreported call (E.answer w.settings.fips call w.engine).1.result := by
  cases hcall with
  | enroll hread hmode hcheck hsubject hcall =>
    exact request_reportsOnce_iff (step_enroll_read hread) hmode hcheck hsubject hcall hresult hkind
  | reenroll hmode hcheck hsubject hcall =>
    exact request_reportsOnce_iff rfl hmode hcheck hsubject hcall hresult hkind
  | fetch hcomplete hanchors => exact fetch_reportsOnce_iff hcomplete hanchors rfl hresult

end

/-- A world whose engine answers once, and responses to which have a longest length. -/
def answeringWorld (maxLength : Nat) (answer : Except Failure (Option Octets)) :
    World Scripted.State :=
  { settings := { maxLength }, engine := ⟨[answer], []⟩ }

/-- An error of the engine, because the server is not available. -/
def unavailable : ClientError := ⟨.caCerts, .engineFailed "HTTP 503" (some 503)⟩

/-- An error of the engine is reported. -/
theorem Client.reportsOnce_unavailable :
    sampleClient.Calls 1 .fetch
      (.caCertificates ⟨emptyBundle, 0⟩ ⟨some "est", some 443⟩ none 1) ∧
    (sampleClient.step (Scripted.engine none) .fetch
      (answeringWorld 1 (.error (.client unavailable)))).1 = .error (.client unavailable) ∧
    unavailable.kind ≠ .retryAfter ∧
    sampleClient.ReportsOnce (Scripted.engine none)
      (answeringWorld 1 (.error (.client unavailable))) .fetch "cacerts" := by
  have hcall : sampleClient.Calls 1 .fetch
      (.caCertificates ⟨emptyBundle, 0⟩ ⟨some "est", some 443⟩ none 1) := .fetch rfl rfl
  have hresult : (sampleClient.step (Scripted.engine none) .fetch
      (answeringWorld 1 (.error (.client unavailable)))).1 = .error (.client unavailable) := rfl
  refine ⟨hcall, hresult, by decide,
    (reported_step_iff (w := answeringWorld 1 (.error (.client unavailable))) hcall hresult
      (by decide)).2 ?_⟩
  intro hunreported
  cases hunreported with
  | muted hmuted => exact Failure.not_muted rfl hmuted

/-- A response with certificates of the authority that is too long is not reported. -/
theorem Client.not_reportsOnce_overlong :
    sampleClient.Calls 1 .fetch
      (.caCertificates ⟨emptyBundle, 0⟩ ⟨some "est", some 443⟩ none 1) ∧
    (sampleClient.step (Scripted.engine none) .fetch
      (answeringWorld 1 (.ok (some [97, 98])))).1 =
        .error (.ofCause .bufferSize (.tooLong 2 1)) ∧
    ¬sampleClient.ReportsOnce (Scripted.engine none)
      (answeringWorld 1 (.ok (some [97, 98]))) .fetch "cacerts" := by
  refine ⟨.fetch rfl rfl, rfl, ?_⟩
  have hrecords : (sampleClient.step (Scripted.engine none) .fetch
      (answeringWorld 1 (.ok (some [97, 98])))).2.2.journal.records =
        (answeringWorld 1 (.ok (some [97, 98]))).journal.records ++ [] := rfl
  rw [reportsOnce_iff hrecords]
  exact not_reportedOnce_nil

end Enrollment
