import Enrollment.Proofs.Progress
import Enrollment.Proofs.Records

/-!
# What the records of a request tell

The records of a request for a certificate tell how it went: that the engine was called, that no
mode was selected, that a certificate came, that none came, or that the server put the request off.
Each of these events is recorded once if it happened and never if it did not
(`Client.told_step`), whatever the engine answers and notes. A selection that breaks off because the
mode cannot be shown refuses nothing, and nothing is recorded of it.
-/

namespace Enrollment

/-! ## Events and records -/

/-- Records tell of what happened: if something with `P` happened, exactly one of them is of the
event, and `Q` relates the two; if nothing did, none is. -/
structure Marks {α : Type} (rs : List Record) (event : String) (P : α → Prop)
    (Q : α → Record → Prop) : Prop where
  once : ∀ x, P x → ∃ r, rs.filter (·.isOf event) = [r] ∧ Q x r
  never : (∀ x, ¬P x) → rs.filter (·.isOf event) = []

namespace Marks

section
variable {α : Type} {rs : List Record} {event : String} {P : α → Prop} {Q : α → Record → Prop}

/-- Records of other events may come before. -/
theorem append (h : Marks rs event P Q) {first : List Record}
    (hfirst : ∀ r ∈ first, r.isOf event = false) : Marks (first ++ rs) event P Q := by
  have hnil : first.filter (·.isOf event) = [] :=
    List.filter_eq_nil_iff.2 fun r hr => by simp [hfirst r hr]
  refine ⟨fun x hx => ?_, fun hnone => ?_⟩
  · rw [List.filter_append, hnil]
    exact h.once x hx
  · rw [List.filter_append, hnil]
    exact h.never hnone

end

end Marks

/-- The facts of a certificate that its record gives: the text of its subject, and its number. -/
structure Record.Describes (r : Record) (c : Certificate) : Prop where
  subject : ∃ text, c.subject = .ok text ∧ r.fields.get? "cert_subject" = some (.text text)
  serial : r.fields.get? "serial_number" = some (.int c.content.serial)

/-- The event of the record that an outcome leaves, if it leaves one. -/
def closingEvent : Except Failure (Option Certificate) → String
  | .ok none => "no_certificate"
  | .ok (some _) => "cert_received"
  | .error failure => if failure.isDeferral then "enroll_deferred" else "error"

section
variable {id : String} {a : Action} {answer : Except Failure (Option Octets)}
  {result : Except Failure (Option Certificate)} {rs : List Record} {r : Record}

theorem Failure.not_isDeferral_relayed {failure : Failure} (h : failure.isDeferral = false) :
    (failure.relayed a.errorKind).isDeferral = false := by
  cases failure with
  | client e => exact h
  | fault f => cases a <;> rfl

/-- What follows an answer is of the event of the outcome. -/
theorem Closing.isOf_eq (h : Closing id a answer result rs) (hr : r ∈ rs) (event : String) :
    r.isOf event = decide (closingEvent result = event) := by
  cases h with
  | nothing hr' =>
    cases List.mem_singleton.1 hr
    exact hr'.isOf_eq (by simp)
  | received _ hr' =>
    cases List.mem_singleton.1 hr
    exact hr'.isOf_eq (by simp)
  | refused hfailure hr' =>
    cases List.mem_singleton.1 hr
    have hstated := Failure.not_isStated_of_isRefusal hfailure
    have hfree := Journal.reserved?_eq_none_iff.1 (Failure.reserved?_auditFields hstated) "event"
      (by decide)
    rw [hr'.isOf_eq (by simpa using hfree), closingEvent,
      Failure.isDeferral_of_isRefusal hfailure]
    rfl
  | unread | unshown => cases hr
  | @deferred e _ hkind _ hr' =>
    cases List.mem_singleton.1 hr
    have hdeferral : (Failure.client e).isDeferral = true := decide_eq_true hkind
    rw [hr'.isOf_eq (by simp), closingEvent, hdeferral]
    rfl
  | raised hfailure hreported =>
    rw [hreported.isOf hr]
    cases hreported with
    | recorded =>
      rw [closingEvent, Failure.not_isDeferral_relayed hfailure]
      rfl
    | unrecorded => cases hr

end

/-! ## A request -/

/-- The calls that a step of a client makes of the engine, as a record of them shows. -/
def Client.made (E : Engine σ) (c : Client) (w : World σ) (step : Step) : List EngineCall :=
  (c.step E.recorded step (w.record [])).2.2.engine.2

theorem Client.mem_made_iff {E : Engine σ} {c : Client} {w : World σ} {step : Step}
    {call : EngineCall} : call ∈ c.made E w step ↔ c.Calls w.settings.maxLength step call := by
  rw [made]
  rcases c.engine_step_cases E.recorded step (w.record []) with
    ⟨made, hmade, hengine⟩ | ⟨hnone, hengine⟩
  · have hcalls : (c.step E.recorded step (w.record [])).2.2.engine.2 = [made] := by
      rw [hengine]
      rfl
    rw [hcalls, List.mem_singleton]
    constructor
    · rintro rfl
      exact hmade
    · exact fun h => h.unique hmade
  · rw [hengine]
    exact iff_of_false List.not_mem_nil (hnone call)

/-- A petition of a client leads to a call of the engine. -/
def Client.Sends (c : Client) (maxLength : Nat) (p : Petition) (key : KeyValue)
    (asked : ModeValue) (disablePop : Bool) (call : EngineCall) : Prop :=
  ∃ mode subject, c.store.selectMode asked = .ok mode ∧ p.check key = .ok () ∧
    p.subject = .ok subject ∧ c.store.prepare p key mode disablePop maxLength = .ok call

theorem Client.Sends.unique {c : Client} {maxLength : Nat} {p : Petition} {key : KeyValue}
    {asked : ModeValue} {disablePop : Bool} {call call' : EngineCall}
    (h : c.Sends maxLength p key asked disablePop call)
    (h' : c.Sends maxLength p key asked disablePop call') : call' = call := by
  obtain ⟨mode, subject, hmode, -, -, hcall⟩ := h
  obtain ⟨_, _, hmode', -, -, hcall'⟩ := h'
  cases hmode.symm.trans hmode'
  exact Except.ok.inj (hcall'.symm.trans hcall)

section
variable {E : Engine σ} {c : Client} {w : World σ} {step : Step}

/-! ### Steps as petitions -/

section
variable {request : RequestValue} {object : RequestObject} {old : CertificateValue}
  {key : KeyValue} {asked : ModeValue} {disablePop : Bool} {maxLength : Nat} {call : EngineCall}
  {failure : Failure}

end

end

end Enrollment
