import Enrollment.Engine.Https
import Enrollment.Proofs.Numeral
import Enrollment.Proofs.Petition

/-!
# Calls and requests

What a call of the HTTPS engine comes to: it is refused before anything is sent, or it sends one
request and its answer is what the reply means (`answer_cases`). The failures of the engine are
never in words of its own, and the delays in them were read, so all of them can be recorded
(`isPlain_of_answer`).
-/

namespace Enrollment.Https

/-- The request that a call sends, if it comes to that. -/
inductive Sent (o : Options) : EngineCall → WireRequest → Prop
  | submission {action r arguments b certificate} (hmode : arguments.mode ≠ .srp)
    (hbody : body action r = .ok b) (hcertificate : certificateOf arguments = .ok certificate) :
    Sent o (.certificate action r arguments) (submit o action r b arguments.httpLogin certificate)
  | question {anchors e maxLength} :
    Sent o (.caCertificates anchors e none maxLength) (question o anchors e)

/-- What comes of the next request. -/
def Transport.reply (t : Transport) : WireReply :=
  (Scripted.next (.response { status := 204 }) t.script).1

/-- Whether a call sends a request. -/
def Sends (o : Options) (restricted : Bool) (call : EngineCall) (t : Transport) : Prop :=
  t.requests.length < (answer o restricted call t).2.requests.length

/-- Whether a step in a world sends a request, by what comes of it. -/
def HasSent (w : World Transport) (out : Except Failure StepResult × Client × World Transport) :
    Prop :=
  w.engine.requests.length < out.2.2.engine.requests.length

section
variable {o : Options} {restricted : Bool} {call : EngineCall} {t : Transport} {kind : ErrorKind}
  {maxLength : Int} {notes : List EngineNote} {request : WireRequest} {failure : Failure}

@[simp] theorem result_exchange : (exchange kind maxLength notes request t).1.result =
    (interpretReply kind maxLength request t.reply).result := rfl

/-! ## Before anything is sent -/

theorem exists_fault_of_body {action : Action} {r : EngineRequest}
    (h : body action r = .error failure) : ∃ f, failure = .fault f := by
  cases action with
  | enroll => cases h
  | reenroll =>
    rw [body] at h
    split at h
    · cases h
    · cases h
      exact ⟨_, rfl⟩

theorem exists_fault_of_clientAuth {certificate key : Octets}
    (h : clientAuth certificate key = .error failure) : ∃ f, failure = .fault f := by
  rw [clientAuth] at h
  simp only at h
  split at h
  · cases h
    exact ⟨_, rfl⟩
  · cases h
    exact ⟨_, rfl⟩
  · cases h

theorem exists_fault_of_certificateOf {arguments : ModeArguments}
    (h : certificateOf arguments = .error failure) : ∃ f, failure = .fault f := by
  cases arguments with
  | http | srp => cases h
  | tls certificate key login => exact exists_fault_of_clientAuth (map_eq_error_iff.1 h)

/-- **What a call comes to.** -/
theorem answer_cases (o : Options) (restricted : Bool) (call : EngineCall) (t : Transport) :
    (∃ notes failure, failure.isPlain ∧
      answer o restricted call t = (⟨notes, .error failure⟩, t)) ∨
    ∃ notes request, Sent o call request ∧
      answer o restricted call t = exchange call.errorKind call.maxLength notes request t := by
  cases call with
  | caCertificates anchors e srp maxLength =>
    cases srp with
    | none => exact .inr ⟨_, _, .question, rfl⟩
    | some login => exact .inl ⟨_, _, rfl, rfl⟩
  | certificate action r arguments =>
    have henroll (h : arguments.mode ≠ .srp) :
        (∃ notes failure, failure.isPlain ∧
          enroll o action r arguments t = (⟨notes, .error failure⟩, t)) ∨
        ∃ notes request, Sent o (.certificate action r arguments) request ∧
          enroll o action r arguments t =
            exchange action.errorKind r.maxLength notes request t := by
      rw [enroll]
      cases hbody : body action r with
      | error failure =>
        obtain ⟨f, rfl⟩ := exists_fault_of_body hbody
        exact .inl ⟨_, _, rfl, rfl⟩
      | ok b =>
        cases hcertificate : certificateOf arguments with
        | error failure =>
          obtain ⟨f, rfl⟩ := exists_fault_of_certificateOf hcertificate
          exact .inl ⟨_, _, rfl, rfl⟩
        | ok certificate => exact .inr ⟨_, _, .submission h hbody hcertificate, rfl⟩
    cases arguments with
    | http login => exact henroll nofun
    | srp srp login => exact .inl ⟨_, _, rfl, rfl⟩
    | tls certificate key login => exact henroll nofun

/-! ## After the reply -/

/-- The answer to a call that sends a request is what the reply means. -/
theorem result_answer_of_sends {r : Response} (hreply : t.reply = .response r)
    (hsends : Sends o restricted call t) :
    (answer o restricted call t).1.result =
      (interpret call.errorKind call.maxLength r).result := by
  rcases answer_cases o restricted call t with ⟨_, _, -, hanswer⟩ | ⟨_, _, -, hanswer⟩
  · rw [Sends, hanswer] at hsends
    exact absurd hsends (Nat.lt_irrefl _)
  · rw [hanswer, result_exchange, hreply, interpretReply]

theorem isPlain_of_collection {bytes : Octets} (h : collection bytes = .error failure) :
    failure.isPlain := by
  rw [collection] at h
  split at h
  · cases h
  · split at h
    · cases h
    · cases h
    · cases h; rfl

theorem isPlain_of_interpretCollection {r : Response}
    (h : (interpretCollection kind maxLength r).result = .error failure) : failure.isPlain := by
  rw [interpretCollection] at h
  simp only at h
  split at h
  · cases h; rfl
  · split at h
    · next hcollection =>
      cases h
      exact isPlain_of_collection hcollection
    · cases h; rfl
    · split at h
      · cases h; rfl
      · cases h

/-- A delay that was read can be written down. -/
theorem isWritable_of_retryAfter {header : Option String} {delay : Option Int}
    (h : retryAfter header = .ok delay) : (secondsValue delay).isWritable := by
  cases header with
  | none => cases h; rfl
  | some text =>
    rw [retryAfter] at h
    split at h
    · cases h; rfl
    · obtain ⟨n, hn, rfl⟩ := map_eq_ok_iff.1 h
      exact Radix.isShort_of_read (mapError_eq_ok_iff.1 hn)

theorem isPlain_of_interpret {r : Response}
    (h : (interpret kind maxLength r).result = .error failure) : failure.isPlain := by
  rw [interpret] at h
  split at h
  · split at h
    · next hdelay =>
      cases h
      exact isWritable_of_retryAfter hdelay
    · cases h; rfl
  · split at h
    · cases h
    · split at h
      · cases hreason : reason r <;> simp only [hreason] at h <;> cases h <;> rfl
      · exact isPlain_of_interpretCollection h

/-- **The failures of the engine are plain.** -/
theorem isPlain_of_answer (h : (answer o restricted call t).1.result = .error failure) :
    failure.isPlain := by
  rcases answer_cases o restricted call t with ⟨_, _, hfailure, hanswer⟩ | ⟨_, _, _, hanswer⟩
  · rw [hanswer] at h
    cases h
    exact hfailure
  · rw [hanswer, result_exchange] at h
    cases hreply : t.reply with
    | response r =>
      rw [hreply] at h
      exact isPlain_of_interpret h
    | failed text | thrown fault =>
      rw [hreply] at h
      cases h
      rfl

end

end Enrollment.Https
