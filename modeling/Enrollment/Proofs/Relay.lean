import Enrollment.Engine.Scripted
import Enrollment.Proofs.Calls

/-!
# Failures on their way to the caller

What becomes of a failure that an engine's call ends in. It should reach the caller as
`Failure.relayed` says: an error of enrolment as it is, and anything else as an error of the
operation with its text as the reason. But it is recorded first, and an error whose details use a
reserved name makes the recording fail; so does a deferral of an enrolment or a renewal by a delay
that cannot be written down. Then, and only then, the caller gets the failure of the recording
instead (`Client.relayed_step_iff`).
-/

namespace Enrollment

/-! ## Reserved names -/

namespace Details

theorem mem_names_put {name other : String} {value : Value} {d : Details} :
    other ∈ (put name value d).map Prod.fst ↔ other = name ∨ other ∈ d.map Prod.fst := by
  induction d with
  | nil => simp [put]
  | cons entry d ih =>
    obtain ⟨n, v⟩ := entry
    by_cases h : n = name
    · simp [put, h]
    · simp only [put, if_neg h, List.map_cons, List.mem_cons, ih]
      exact or_left_comm

theorem mem_names_merge {name : String} {earlier later : Details} :
    name ∈ (merge earlier later).map Prod.fst ↔
      name ∈ earlier.map Prod.fst ∨ name ∈ later.map Prod.fst := by
  rw [merge]
  induction later generalizing earlier with
  | nil => simp
  | cons entry later ih =>
    rw [List.foldl_cons, ih, mem_names_put, List.map_cons, List.mem_cons]
    exact or_assoc.trans or_left_comm

end Details

theorem Journal.reserved?_eq_none_iff {fields : Details} :
    reserved? fields = none ↔ ∀ name ∈ reservedFields, name ∉ fields.map Prod.fst := by
  rw [reserved?, reservedFields, List.forall_mem_cons]
  cases hgiven : (fields.map Prod.fst).find? givenFields.contains with
  | some name =>
    have hname : name ∈ givenFields := by simpa using List.find?_some hgiven
    refine iff_of_false ?_ ?_
    · rintro ⟨⟩
    · rintro ⟨-, hfree⟩
      exact hfree name hname (List.mem_of_find?_eq_some hgiven)
  | none =>
    have hfree : ∀ name ∈ givenFields, name ∉ fields.map Prod.fst := by
      intro name hname hmem
      have hnot := List.find?_eq_none.1 hgiven name hmem
      simp [hname] at hnot
    simp only [List.contains_iff_mem, ite_eq_right_iff, reduceCtorEq, imp_false]
    exact (and_iff_left hfree).symm

/-- Two of the fields of an error are there whatever its details, and neither has a reserved
name. -/
theorem ClientError.reserved?_auditFields_eq_none_iff {e : ClientError} :
    Journal.reserved? e.auditFields = none ↔
      ∀ name ∈ Journal.reservedFields, name ∉ e.details.map Prod.fst := by
  rw [Journal.reserved?_eq_none_iff]
  refine forall₂_congr fun name hname => not_congr ?_
  rw [auditFields, Details.mem_names_merge]
  refine or_iff_right ?_
  intro hfixed
  have hdisjoint : ∀ n ∈ Journal.reservedFields, n ∉ ["exception_type", "message"] := by decide
  exact hdisjoint name hname hfixed

/-- Recording a failure goes well exactly if none of its fields has a reserved name. -/
theorem World.recordFailure_cases (w : World σ) (failure : Failure) (context : String) :
    (Journal.reserved? failure.auditFields = none ∧
      ∃ journal, w.recordFailure failure context = .ok { w with journal }) ∨
    (Journal.reserved? failure.auditFields ≠ none ∧
      ∃ fault, w.recordFailure failure context = .error (.fault fault)) := by
  rw [recordFailure, Journal.failed]
  cases hreserved : Journal.reserved? failure.auditFields with
  | none => exact .inl ⟨rfl, _, rfl⟩
  | some fault => exact .inr ⟨Option.some_ne_none fault, fault.underway, rfl⟩

/-! ## What is relayed -/

/-- What a caller should get for a failure of an engine: an error of enrolment as it is, and
anything else as an error of the operation, with its text as the reason. -/
def Failure.relayed (kind : ErrorKind) : Failure → Failure
  | .client e => .client e
  | .fault f => .ofCause kind (.engineFailed f.message none)

/-- The failures of a call that cannot be recorded: an error with a reserved name among its details,
or a deferral by a delay that cannot be written down. The details of a deferral are recorded only if
it is one of the certificates of the authority, and otherwise its delay is. -/
inductive Failure.Unrecordable (call : EngineCall) : Failure → Prop
  | reserved {e name value} (hkind : e.kind = .retryAfter → call.errorKind = .caCerts)
    (hname : name ∈ Journal.reservedFields) (hdetail : (name, value) ∈ e.details) :
    Unrecordable call (.client e)
  | unwritable {e} (hkind : e.kind = .retryAfter) (hcall : call.errorKind ≠ .caCerts)
    (hdelay : e.retryAfter.isWritable = false) : Unrecordable call (.client e)

section
variable {call : EngineCall} {e : ClientError}

theorem Failure.unrecordable_iff (hkind : e.kind = .retryAfter → call.errorKind = .caCerts) :
    (Failure.client e).Unrecordable call ↔ Journal.reserved? e.auditFields ≠ none := by
  rw [Ne, ClientError.reserved?_auditFields_eq_none_iff]
  push Not
  constructor
  · rintro (⟨-, hname, hdetail⟩ | ⟨hdeferral, hcall, -⟩)
    · exact ⟨_, hname, List.mem_map_of_mem hdetail⟩
    · exact absurd (hkind hdeferral) hcall
  · rintro ⟨name, hname, hmem⟩
    obtain ⟨⟨_, value⟩, hdetail, rfl⟩ := List.mem_map.1 hmem
    exact .reserved hkind hname hdetail

/-- A deferral of an enrolment or a renewal is not recorded if its delay cannot be written down. -/
theorem Failure.unrecordable_iff_of_deferral (hkind : e.kind = .retryAfter)
    (hcall : call.errorKind ≠ .caCerts) :
    (Failure.client e).Unrecordable call ↔ e.retryAfter.isWritable = false := by
  refine ⟨?_, .unwritable hkind hcall⟩
  rintro (⟨hown, -, -⟩ | ⟨-, -, hdelay⟩)
  · exact absurd (hown hkind) hcall
  · exact hdelay

/-- A plain failure can be recorded. -/
theorem Failure.not_unrecordable {failure : Failure} (h : failure.isPlain) :
    ¬failure.Unrecordable call := by
  intro hunrecordable
  cases hunrecordable with
  | reserved hkind hname hdetail =>
    exact (unrecordable_iff hkind).1 (.reserved hkind hname hdetail)
      (reserved?_auditFields (not_isStated_of_isPlain h))
  | unwritable _ _ hdelay => cases (isWritable_of_isPlain h).symm.trans hdelay

end

/-! ## Relaying -/

section
variable {w : World σ} {call : EngineCall} {failure : Failure} {server : String} {maxLength : Nat}

/-- The outcome of a failure is the failure that is to come out, unless recording fails. -/
theorem faulted_result_iff {context : String} {e : ClientError} :
    (faulted w context failure (.client e) : Outcome σ α).result = .error (.client e) ↔
      Journal.reserved? failure.auditFields = none := by
  rw [faulted]
  rcases w.recordFailure_cases failure context with ⟨hnone, journal, hrecord⟩ |
    ⟨hsome, fault, hrecord⟩
  · rw [hrecord]
    exact iff_of_true rfl hnone
  · rw [hrecord]
    refine iff_of_false ?_ hsome
    rintro ⟨⟩

theorem concludeEnroll_relayed_iff {a : Action} (hkind : call.errorKind = a.errorKind) :
    (concludeEnroll a server maxLength (.error failure) w).result =
        .error (failure.relayed call.errorKind) ↔ ¬failure.Unrecordable call := by
  cases failure with
  | fault f =>
    rw [concludeEnroll, Failure.relayed, hkind, Failure.ofCause, faulted_result_iff]
    refine iff_of_true (Failure.reserved?_auditFields rfl) ?_
    rintro ⟨⟩
  | client e =>
    have hown : call.errorKind ≠ .caCerts := by rw [hkind]; cases a <;> decide
    rw [concludeEnroll, Failure.relayed]
    split
    · next hdeferral =>
      rw [Failure.unrecordable_iff_of_deferral hdeferral hown, Journal.enrollDeferred]
      cases e.retryAfter.isWritable with
      | true => exact iff_of_true rfl (by rintro ⟨⟩)
      | false => exact iff_of_false (by rintro ⟨⟩) (not_not.2 rfl)
    · next hdeferral =>
      rw [faulted_result_iff, Failure.unrecordable_iff (absurd · hdeferral), not_not]
      rfl

theorem concludeFetch_relayed_iff (hkind : call.errorKind = .caCerts) :
    (concludeFetch server maxLength (.error failure) w).1 =
        .error (failure.relayed call.errorKind) ↔ ¬failure.Unrecordable call := by
  cases failure with
  | fault f =>
    obtain ⟨journal, hrecord⟩ :=
      w.recordFailure_eq_ok caOperation (rfl : (Failure.fault f).isStated = false)
    simp only [concludeFetch, hrecord, hkind]
    refine iff_of_true rfl ?_
    rintro ⟨⟩
  | client e =>
    rw [Failure.unrecordable_iff fun _ => hkind, not_not]
    simp only [concludeFetch]
    rcases w.recordFailure_cases (.client e) caOperation with ⟨hnone, journal, hrecord⟩ |
      ⟨hsome, fault, hrecord⟩
    · simp only [hrecord]
      exact iff_of_true rfl hnone
    · simp only [hrecord]
      refine iff_of_false ?_ hsome
      rintro ⟨⟩

end

section
variable {E : Engine σ} {c : Client} {w : World σ} {step : Step} {call : EngineCall}
  {failure : Failure}

theorem Client.petition_relayed_iff {p : Petition} {key : KeyValue} {asked : ModeValue}
    {disablePop : Bool} {mode : AuthMode} {subject : String}
    (hmode : c.store.selectMode asked = .ok mode) (hcheck : p.check key = .ok ())
    (hsubject : p.subject = .ok subject)
    (hcall : c.store.prepare p key mode disablePop w.settings.maxLength = .ok call)
    (hraised : (E.answer w.settings.fips call w.engine).1.result = .error failure) :
    (c.petition E p key asked disablePop w).result =
        .error (failure.relayed call.errorKind) ↔ ¬failure.Unrecordable call := by
  obtain ⟨_, _, _, _, -, -, -, -, rfl⟩ := Store.prepare_eq_ok hcall
  rw [petition_eq_conclude hmode hcheck hsubject hcall, World.call]
  simp only [World.announced, hraised]
  exact concludeEnroll_relayed_iff rfl

theorem Store.fetch_relayed_iff {s : Store} {anchors : Bundle} (hcomplete : s.endpoint.isComplete)
    (hanchors : Bundle.ofAnchors s.anchors = .ok anchors)
    (hcall : call = .caCertificates anchors s.endpoint s.srp w.settings.maxLength)
    (hraised : (E.answer w.settings.fips call w.engine).1.result = .error failure) :
    (s.fetch E w).1 = .error (failure.relayed call.errorKind) ↔ ¬failure.Unrecordable call := by
  subst hcall
  rw [fetch]
  simp only [hcomplete, hanchors, Bool.not_true, Bool.false_eq_true, ↓reduceIte, World.call,
    hraised]
  exact concludeFetch_relayed_iff rfl

/-- **When a failure of the engine reaches the caller**: of every call that a step makes, exactly
if the failure can be recorded. -/
theorem Client.relayed_step_iff (hcall : c.Calls w.settings.maxLength step call)
    (hraised : (E.answer w.settings.fips call w.engine).1.result = .error failure) :
    (c.step E step w).1 = .error (failure.relayed call.errorKind) ↔
      ¬failure.Unrecordable call := by
  cases hcall with
  | enroll hread hmode hcheck hsubject hcall =>
    rw [step_enroll_read hread]
    exact map_eq_error_iff.trans (petition_relayed_iff hmode hcheck hsubject hcall hraised)
  | reenroll hmode hcheck hsubject hcall =>
    exact map_eq_error_iff.trans (petition_relayed_iff hmode hcheck hsubject hcall hraised)
  | fetch hcomplete hanchors =>
    exact map_eq_error_iff.trans (Store.fetch_relayed_iff hcomplete hanchors rfl hraised)

end

/-- A deferral in the words of an engine, with a detail. -/
def sampleDeferral (name : String) : Failure :=
  .client ⟨.retryAfter, .stated "later" (.int 60) [(name, "manual")]⟩

/-- A world whose engine puts every call off that way. -/
def sampleWorld (name : String) : World Scripted.State :=
  { engine := ⟨[.error (sampleDeferral name)], []⟩ }

/-- A deferral of the certificates of the authority reaches the caller with its detail. -/
theorem Client.relayed_queue :
    sampleClient.Calls defaultMaxLength .fetch
      (.caCertificates ⟨emptyBundle, 0⟩ ⟨some "est", some 443⟩ none defaultMaxLength) ∧
    (sampleClient.step (Scripted.engine none) .fetch (sampleWorld "queue")).1 =
      .error (sampleDeferral "queue") := by
  have hcall : sampleClient.Calls defaultMaxLength .fetch
      (.caCertificates ⟨emptyBundle, 0⟩ ⟨some "est", some 443⟩ none defaultMaxLength) :=
    .fetch rfl rfl
  have hraised : ((Scripted.engine none).answer false
      (.caCertificates ⟨emptyBundle, 0⟩ ⟨some "est", some 443⟩ none defaultMaxLength)
      (sampleWorld "queue").engine).1.result = .error (sampleDeferral "queue") := rfl
  refine ⟨hcall, (relayed_step_iff (w := sampleWorld "queue") hcall hraised).2 ?_⟩
  rintro (⟨-, hname, hdetail⟩ | ⟨-, hcall, -⟩)
  · have hfree : ∀ name ∈ ["retry_after", "queue"], name ∉ Journal.reservedFields := by decide
    exact hfree _ (List.mem_map_of_mem (f := Prod.fst) hdetail) hname
  · exact hcall rfl

/-- A deferral whose detail has the name of a field of the record does not reach the caller; all
that does is this name. -/
theorem Client.not_relayed_event :
    (sampleClient.step (Scripted.engine none) .fetch (sampleWorld "event")).1 =
      .error (.fault (.bareKey "event")) ∧
    (sampleClient.step (Scripted.engine none) .fetch (sampleWorld "event")).1 ≠
      .error ((sampleDeferral "event").relayed .caCerts) := by
  have hresult : (sampleClient.step (Scripted.engine none) .fetch (sampleWorld "event")).1 =
      .error (.fault (.bareKey "event")) := rfl
  refine ⟨hresult, ?_⟩
  rw [hresult]
  rintro ⟨⟩

end Enrollment
