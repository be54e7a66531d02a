import Enrollment.Proofs.Repetition

/-!
# The records of an operation

What an operation of a client writes into the journal, record by record, together with what it
comes to. `Closing` lists the records that follow the answer to a call for a certificate, by that
answer, and `Petition.Trail` all records of a petition: one of a refusal, if the mode can be shown;
or none, if the engine is not called; or one that announces the call, the notes of the engine, and
those that follow.
`Store.FetchTrail` does so for the certificates of the authority. Facts about the records of an
operation are read off these (`Client.trail_petition`, `Store.fetchTrail_fetch`).
-/

namespace Enrollment

/-! ## Fields -/

namespace Details

section
variable {name : String} {value : Value} {d earlier later : Details}

theorem get?_put_self : (put name value d).get? name = some value := by
  induction d with
  | nil => simp [put, get?]
  | cons entry d ih =>
    obtain ⟨n, v⟩ := entry
    rw [get?] at ih
    by_cases hn : n = name
    · simp [put, get?, hn]
    · have hbeq : (name == n) = false := beq_false_of_ne (Ne.symm hn)
      simp [put, get?, List.lookup_cons, hn, hbeq, ih]

theorem get?_eq_none_iff : d.get? name = none ↔ name ∉ d.map Prod.fst := by
  rw [get?]
  induction d with
  | nil => simp
  | cons entry d ih =>
    obtain ⟨n, v⟩ := entry
    by_cases hn : name = n
    · simp [hn]
    · simp [List.lookup_cons, beq_false_of_ne hn, hn, ih]

/-- Later values go before earlier ones. -/
theorem get?_merge (h : (later.map Prod.fst).Nodup) :
    (merge earlier later).get? name = (later.get? name).or (earlier.get? name) := by
  rw [merge]
  induction later generalizing earlier with
  | nil => rfl
  | cons entry later ih =>
    obtain ⟨n, v⟩ := entry
    obtain ⟨hfirst, hmore⟩ := List.nodup_cons.1 h
    rw [List.foldl_cons, ih hmore]
    by_cases hn : name = n
    · subst hn
      rw [get?_eq_none_iff.2 hfirst, get?_put_self]
      simp [get?]
    · rw [get?_put_of_ne hn]
      simp [get?, List.lookup_cons, beq_false_of_ne hn]

theorem nodup_names_put (h : (d.map Prod.fst).Nodup) :
    ((put name value d).map Prod.fst).Nodup := by
  induction d with
  | nil => simp [put]
  | cons entry d ih =>
    obtain ⟨n, v⟩ := entry
    obtain ⟨hfirst, hmore⟩ := List.nodup_cons.1 h
    by_cases hn : n = name
    · simpa [put, hn] using h
    · simp only [put, if_neg hn, List.map_cons]
      refine List.nodup_cons.2 ⟨?_, ih hmore⟩
      rw [mem_names_put, not_or]
      exact ⟨hn, hfirst⟩

/-- Merging gives no name twice. -/
theorem nodup_names_merge (h : (earlier.map Prod.fst).Nodup) :
    ((merge earlier later).map Prod.fst).Nodup := by
  rw [merge]
  induction later generalizing earlier with
  | nil => exact h
  | cons entry later ih => exact ih (nodup_names_put h)

end

end Details

/-- The fields of a failure have names of their own. -/
theorem Failure.nodup_names_auditFields (failure : Failure) :
    (failure.auditFields.map Prod.fst).Nodup := by
  cases failure with
  | client e =>
    refine Details.nodup_names_merge ?_
    exact (by decide : ["exception_type", "message"].Nodup)
  | fault f => exact (by decide : ["exception_type", "message"].Nodup)

/-- The names of the fields of a failure that is in the client's own words. -/
def Failure.ownFields : List String :=
  ["exception_type", "message", "auth_mode", "setter", "field", "reason", "port", "object",
    "block_index", "response_length", "length", "max_length", "retry_after", "operation",
    "http_status"]

theorem Failure.mem_ownFields {failure : Failure} (h : failure.isStated = false) :
    ∀ name ∈ failure.auditFields.map Prod.fst, name ∈ ownFields := by
  have hall : (failure.auditFields.map Prod.fst).all ownFields.contains = true := by
    cases failure with
    | fault f => rfl
    | client e =>
      obtain ⟨kind, cause⟩ := e
      cases cause with
      | stated => cases h
      | engineFailed reason status => cases status <;> rfl
      | _ => rfl
  intro name hname
  simpa using List.all_eq_true.1 hall name hname

/-! ## Records -/

/-- Whether a record is one of an event. -/
def Record.isOf (event : String) (r : Record) : Bool :=
  match r.fields.get? "event" with
  | some (.text e) => e = event
  | _ => false

/-- A record of an event that is written under a correlation id, with fields of its own. -/
def Record.Tells (r : Record) (id event : String) (fields : Details) : Prop :=
  r.fields = Details.merge
    [("audit", .bool true), ("correlation_id", .text id), ("event", .text event)] fields

/-- The journal with further records. -/
def Journal.addAll (j : Journal) (rs : List Record) : Journal :=
  { j with records := j.records ++ rs }

/-- The world with further records. -/
def World.logged (w : World σ) (rs : List Record) : World σ :=
  { w with journal := w.journal.addAll rs }

/-- The records of an engine's notes, as far as the verbosity lets them through. -/
def Journal.noteRecords (j : Journal) (v : Verbosity) (notes : List EngineNote) : List Record :=
  (notes.filter fun n => v.admits n.level.name).map fun n =>
    ⟨n.level, n.message, j.frame "engine"⟩

section
variable {r : Record} {id event other name : String} {fields : Details} {j : Journal}
  {rs rs' : List Record}

/-- What a journal writes under a correlation id. -/
theorem Record.tells_write (level : Level) (id event message : String) (fields : Details) :
    Record.Tells ⟨level, message, Details.merge
      [("audit", .bool true), ("correlation_id", .text id), ("event", .text event)] fields⟩
      id event fields := rfl

/-- A field that the event does not give is that of every record. -/
theorem Record.Tells.get?_of_notMem (h : r.Tells id event fields)
    (hname : name ∉ fields.map Prod.fst) : r.fields.get? name =
      Details.get? name
        [("audit", .bool true), ("correlation_id", .text id), ("event", .text event)] := by
  rw [h]
  exact Details.get?_merge_of_notMem hname

/-- A field that the event gives is that of the record. -/
theorem Record.Tells.get?_of_mem {value : Value} (h : r.Tells id event fields)
    (hnodup : (fields.map Prod.fst).Nodup) (hvalue : fields.get? name = some value) :
    r.fields.get? name = some value := by
  rw [h, Details.get?_merge hnodup, hvalue, Option.some_or]

/-- A record is of its event, and of no other. -/
theorem Record.Tells.isOf_eq (h : r.Tells id event fields)
    (hfree : "event" ∉ fields.map Prod.fst) : r.isOf other = decide (event = other) := by
  rw [isOf, h.get?_of_notMem hfree]
  rfl

theorem Record.Tells.correlation (h : r.Tells id event fields)
    (hfree : "correlation_id" ∉ fields.map Prod.fst) :
    r.fields.get? "correlation_id" = some (.text id) :=
  h.get?_of_notMem hfree

@[simp] theorem Journal.addAll_nil : j.addAll [] = j := by
  rw [addAll, List.append_nil]

@[simp] theorem Journal.addAll_addAll : (j.addAll rs).addAll rs' = j.addAll (rs ++ rs') := by
  simp only [addAll, List.append_assoc]

@[simp] theorem World.logged_nil {w : World σ} : w.logged [] = w := by
  rw [logged, Journal.addAll_nil]

/-- Notes become records one after the other. -/
theorem Journal.addNotes_eq (j : Journal) (v : Verbosity) (notes : List EngineNote) :
    j.addNotes v notes = j.addAll (j.noteRecords v notes) := by
  rw [addNotes, noteRecords]
  induction notes.filter (fun n => v.admits n.level.name) generalizing j with
  | nil => exact addAll_nil.symm
  | cons note notes ih =>
    rw [List.foldl_cons, ih, List.map_cons]
    exact addAll_addAll

theorem Journal.tells_of_mem_noteRecords {v : Verbosity} {notes : List EngineNote}
    (h : r ∈ j.noteRecords v notes) : r.Tells j.shownCorrelation "engine" [] := by
  obtain ⟨note, -, rfl⟩ := List.mem_map.1 h
  rfl

theorem Journal.not_isOf_noteRecords (h : "engine" ≠ event) {v : Verbosity}
    {notes : List EngineNote} : ∀ r ∈ j.noteRecords v notes, r.isOf event = false := by
  intro r hr
  exact ((tells_of_mem_noteRecords hr).isOf_eq (by simp)).trans (decide_eq_false h)

/-- Of a world, a call changes the state of the engine, and it adds the notes of the engine. -/
theorem World.call_eq (E : Engine σ) (w : World σ) (call : EngineCall) :
    (World.call E w call).2 = { w.logged (w.journal.noteRecords w.settings.verbosity
        (E.answer w.settings.fips call w.engine).1.notes) with
      engine := (E.answer w.settings.fips call w.engine).2 } := by
  rw [World.call]
  simp only [Journal.addNotes_eq]
  rfl

theorem World.shownCorrelation_call (E : Engine σ) (w : World σ) (call : EngineCall) :
    (World.call E w call).2.journal.shownCorrelation = w.journal.shownCorrelation := by
  rw [World.call_eq]
  rfl

/-- A call is announced by one record. -/
theorem World.exists_announced (w : World σ) (s : Store) (p : Petition) (mode : AuthMode)
    (subject : String) (disablePop : Bool) :
    ∃ r, r.Tells w.journal.shownCorrelation "enroll_requested"
        [("operation", .text p.action.operation), ("auth_mode", .text mode.text),
          ("server", .text s.endpoint.text), ("subject", .text subject),
          ("disable_pop", .bool disablePop)] ∧
      w.announced s p mode subject disablePop = w.logged [r] :=
  ⟨_, Record.tells_write .., rfl⟩

end

/-! ## Failures -/

/-- What recording a failure comes to: one record of it, and then the failure `final` comes out;
or no record, if a name is reserved, and then the fault of the recording comes out. -/
inductive Reported (id context : String) (failure final : Failure) : Failure → List Record → Prop
  | recorded {r} (hfree : Journal.reserved? failure.auditFields = none)
    (hr : r.Tells id "error" (("context", .text context) :: failure.auditFields)) :
    Reported id context failure final final [r]
  | unrecorded {fault} (hreserved : Journal.reserved? failure.auditFields = some fault) :
    Reported id context failure final (.fault fault.underway) []

section
variable {w : World σ} {context : String} {failure final : Failure}

theorem World.recordFailure_eq (w : World σ) (context : String) (failure final : Failure) :
    (∃ r, Reported w.journal.shownCorrelation context failure final final [r] ∧
      w.recordFailure failure context = .ok (w.logged [r])) ∨
    ∃ fault : Fault,
      Reported w.journal.shownCorrelation context failure final (.fault fault.underway) [] ∧
      w.recordFailure failure context = .error (.fault fault.underway) := by
  rw [recordFailure, Journal.failed]
  cases hreserved : Journal.reserved? failure.auditFields with
  | none => exact .inl ⟨_, .recorded hreserved (Record.tells_write ..), rfl⟩
  | some fault => exact .inr ⟨fault, .unrecorded hreserved, rfl⟩

theorem reported_faulted (w : World σ) (context : String) (failure final : Failure) :
    ∃ out rs, Reported w.journal.shownCorrelation context failure final out rs ∧
      (faulted w context failure final : Outcome σ (Option Certificate)) =
        ⟨.error out, .faulted, w.logged rs⟩ := by
  rw [faulted]
  rcases w.recordFailure_eq context failure final with ⟨r, h, hrecord⟩ | ⟨fault, h, hrecord⟩
  · exact ⟨_, _, h, by rw [hrecord]⟩
  · exact ⟨_, _, h, by rw [hrecord, World.logged_nil]⟩

/-- A failure in the client's own words is recorded. -/
theorem Reported.eq_of_not_isStated {id : String} {out : Failure} {rs : List Record}
    (h : Reported id context failure final out rs) (hstated : failure.isStated = false) :
    out = final ∧ ∃ r, rs = [r] ∧
      r.Tells id "error" (("context", .text context) :: failure.auditFields) := by
  cases h with
  | recorded hfree hr => exact ⟨rfl, _, rfl, hr⟩
  | unrecorded hreserved => cases (Failure.reserved?_auditFields hstated).symm.trans hreserved

/-- A record of a failure is one of an error. -/
theorem Reported.isOf {id event : String} {out : Failure} {rs : List Record} {r : Record}
    (h : Reported id context failure final out rs) (hr : r ∈ rs) :
    r.isOf event = decide ("error" = event) := by
  cases h with
  | recorded hfree hr' =>
    cases List.mem_singleton.1 hr
    have hevent := Journal.reserved?_eq_none_iff.1 hfree "event" (by decide)
    exact hr'.isOf_eq (by simpa using hevent)
  | unrecorded => cases hr

end

/-! ## Petitions -/

/-- The records that follow the answer to a call for a certificate, and what the call comes to. -/
inductive Closing (id : String) (a : Action) :
    Except Failure (Option Octets) → Except Failure (Option Certificate) → List Record → Prop
  | nothing {data server r}
    (hr : r.Tells id "no_certificate"
      [("operation", .text a.operation), ("server", .text server)]) :
    Closing id a (.ok data) (.ok none) [r]
  | received {data c subject notBefore notAfter r} (hsubject : c.subject = .ok subject)
    (hr : r.Tells id "cert_received" [("operation", .text a.operation),
      ("cert_subject", .text subject), ("serial_number", .int c.content.serial),
      ("not_before", .text notBefore), ("not_after", .text notAfter)]) :
    Closing id a (.ok data) (.ok (some c)) [r]
  | refused {data failure r} (hfailure : failure.isRefusal)
    (hr : r.Tells id "error" (("context", .text a.operation) :: failure.auditFields)) :
    Closing id a (.ok data) (.error failure) [r]
  | unread {data f} : Closing id a (.ok data) (.error (.fault f)) []
  | deferred {e r} (hkind : e.kind = .retryAfter) (hwritable : e.retryAfter.isWritable)
    (hr : r.Tells id "enroll_deferred"
      [("operation", .text a.operation), ("retry_after", e.retryAfter)]) :
    Closing id a (.error (.client e)) (.error (.client e)) [r]
  /-- A delay that cannot be written down is not recorded. -/
  | unshown {e} (hkind : e.kind = .retryAfter) (hwritable : e.retryAfter.isWritable = false) :
    Closing id a (.error (.client e)) (.error (.fault .longInteger)) []
  | raised {failure out rs} (hfailure : failure.isDeferral = false)
    (h : Reported id a.operation failure (failure.relayed a.errorKind) out rs) :
    Closing id a (.error failure) (.error out) rs

section
variable {a : Action} {server : String} {maxLength : Nat} {w : World σ}

theorem closing_faulted {data : Option Octets} {failure : Failure} (h : failure.isRefusal) :
    ∃ rs, Closing w.journal.shownCorrelation a (.ok data)
        (faulted w a.operation failure failure).result rs ∧
      (faulted w a.operation failure failure : Outcome σ (Option Certificate)).world =
        w.logged rs := by
  obtain ⟨out, rs, hreported, hfaulted⟩ :=
    reported_faulted w a.operation failure failure
  obtain ⟨rfl, r, rfl, hr⟩ :=
    hreported.eq_of_not_isStated (Failure.not_isStated_of_isRefusal h)
  rw [hfaulted]
  exact ⟨[r], .refused h hr, rfl⟩

theorem certificateFacts_eq_ok {c : Certificate} {subject : String} {notBefore notAfter : Moment}
    (h : certificateFacts c = .ok (subject, notBefore, notAfter)) : c.subject = .ok subject := by
  obtain ⟨text, htext, h⟩ := bind_eq_ok_iff.1 h
  split at h
  · cases h
  · cases h
    exact htext

theorem closing_interpretResponse (data : Option Octets) :
    ∃ rs, Closing w.journal.shownCorrelation a (.ok data)
        (interpretResponse a server maxLength data w).result rs ∧
      (interpretResponse a server maxLength data w).world = w.logged rs := by
  rw [interpretResponse]
  simp only
  split
  · exact ⟨[_], .nothing (Record.tells_write ..), rfl⟩
  · split
    · exact closing_faulted rfl
    · rcases firstCertificate_eq (dropTrailingNul_responseOctets data) with
        ⟨failure, hfirst, hrefusal, -⟩ | ⟨hfirst, -⟩ | ⟨c, hfirst, -⟩
      · rw [hfirst]
        cases failure with
        | client e => exact closing_faulted hrefusal
        | fault f => cases hrefusal
      · rw [hfirst]
        exact ⟨[], .unread, World.logged_nil.symm⟩
      · rw [hfirst]
        simp only
        rcases certificateFacts_eq c with ⟨-, ⟨subject, notBefore, notAfter⟩, hfacts⟩ |
          ⟨-, f, hfacts⟩
        · rw [hfacts]
          exact ⟨[_], .received (certificateFacts_eq_ok hfacts) (Record.tells_write ..), rfl⟩
        · rw [hfacts]
          exact ⟨[], .unread, World.logged_nil.symm⟩

/-- **What follows the answer to a call**: of the world only the records. -/
theorem closing_concludeEnroll (a : Action) (server : String) (maxLength : Nat) (w : World σ)
    (answer : Except Failure (Option Octets)) :
    ∃ rs, Closing w.journal.shownCorrelation a answer
        (concludeEnroll a server maxLength answer w).result rs ∧
      (concludeEnroll a server maxLength answer w).world = w.logged rs := by
  have hraised {failure : Failure} (h : failure.isDeferral = false) :
      ∃ rs, Closing w.journal.shownCorrelation a (.error failure)
          (faulted w a.operation failure (failure.relayed a.errorKind)).result rs ∧
        (faulted w a.operation failure (failure.relayed a.errorKind) :
          Outcome σ (Option Certificate)).world = w.logged rs := by
    obtain ⟨out, rs, hreported, hfaulted⟩ := reported_faulted w
      a.operation failure (failure.relayed a.errorKind)
    rw [hfaulted]
    exact ⟨rs, .raised h hreported, rfl⟩
  cases answer with
  | ok data => exact closing_interpretResponse data
  | error failure =>
    cases failure with
    | fault f => exact hraised rfl
    | client e =>
      rw [concludeEnroll]
      split
      · next hkind =>
        rw [Journal.enrollDeferred]
        cases hwritable : e.retryAfter.isWritable with
        | true => exact ⟨[_], .deferred hkind hwritable (Record.tells_write ..), rfl⟩
        | false => exact ⟨[], .unshown hkind hwritable, World.logged_nil.symm⟩
      · next hkind => exact hraised (decide_eq_false hkind)

end

/-- The records of a petition with the calls that it makes, what it comes to, and the state that it
leaves the engine in. A call is announced first; the notes of the engine and what follows from the
answer come after that. -/
inductive Petition.Trail (E : Engine σ) (s : Store) (p : Petition) (key : KeyValue)
    (asked : ModeValue) (disablePop : Bool) (w : World σ) :
    List EngineCall → Except Failure (Option Certificate) → σ → List Record → Prop
  | refused {e r} (hmode : s.selectMode asked = .error (.client e))
    (hr : r.Tells w.journal.shownCorrelation "config_rejected"
      [("operation", .text p.action.operation), ("reason", .text e.message)]) :
    Trail E s p key asked disablePop w [] (.error (.client e)) w.engine [r]
  /-- A mode that cannot be shown is refused without a record. -/
  | unshown {f} (hmode : s.selectMode asked = .error (.fault f)) :
    Trail E s p key asked disablePop w [] (.error (.fault f)) w.engine []
  | unsent {mode failure} (hmode : s.selectMode asked = .ok mode)
    (hfailure : failure.isDeferral = false)
    (hnone : ∀ subject call, p.check key = .ok () → p.subject = .ok subject →
      s.prepare p key mode disablePop w.settings.maxLength ≠ .ok call) :
    Trail E s p key asked disablePop w [] (.error failure) w.engine []
  | called {mode subject call requested result closing} (hmode : s.selectMode asked = .ok mode)
    (hcheck : p.check key = .ok ()) (hsubject : p.subject = .ok subject)
    (hcall : s.prepare p key mode disablePop w.settings.maxLength = .ok call)
    (hr : requested.Tells w.journal.shownCorrelation "enroll_requested"
      [("operation", .text p.action.operation), ("auth_mode", .text mode.text),
        ("server", .text s.endpoint.text), ("subject", .text subject),
        ("disable_pop", .bool disablePop)])
    (hclosing : Closing w.journal.shownCorrelation p.action
      (E.answer w.settings.fips call w.engine).1.result result closing) :
    Trail E s p key asked disablePop w [call] result (E.answer w.settings.fips call w.engine).2
      (requested :: (w.journal.noteRecords w.settings.verbosity
        (E.answer w.settings.fips call w.engine).1.notes ++ closing))

/-- **The records of a petition.** -/
theorem Client.trail_petition (E : Engine σ) (c : Client) (p : Petition) (key : KeyValue)
    (asked : ModeValue) (disablePop : Bool) (w : World σ) :
    ∃ calls engine rs, p.Trail E c.store key asked disablePop w calls
        (c.petition E p key asked disablePop w).result engine rs ∧
      (c.petition E p key asked disablePop w).world = { w.logged rs with engine } := by
  have hunsent {mode : AuthMode} {failure : Failure} (hmode : c.store.selectMode asked = .ok mode)
      (hfailure : failure.isDeferral = false)
      (hnone : ∀ subject call, p.check key = .ok () → p.subject = .ok subject →
        c.store.prepare p key mode disablePop w.settings.maxLength ≠ .ok call) :
      ∃ calls engine rs, p.Trail E c.store key asked disablePop w calls (.error failure) engine rs ∧
        w = { w.logged rs with engine } :=
    ⟨[], w.engine, [], .unsent hmode hfailure hnone, by rw [World.logged_nil]⟩
  cases hmode : c.store.selectMode asked with
  | error failure =>
    cases failure with
    | client e =>
      simp only [petition, hmode]
      exact ⟨[], w.engine, [_], .refused hmode (Record.tells_write ..), rfl⟩
    | fault f =>
      simp only [petition, hmode]
      exact ⟨[], w.engine, [], .unshown hmode, by rw [World.logged_nil]⟩
  | ok mode =>
    cases hcheck : p.check key with
    | error failure =>
      simp only [petition, hmode, hcheck]
      refine hunsent hmode (Failure.isDeferral_of_isRefusal (Petition.isRefusal_of_check hcheck)) ?_
      intro _ _ hcheck'
      cases hcheck.symm.trans hcheck'
    | ok _ =>
      cases hsubject : p.subject with
      | error failure =>
        simp only [petition, hmode, hcheck, hsubject]
        refine hunsent hmode
          (Failure.not_isDeferral_of_isLocal (Petition.isLocal_of_subject hsubject)) ?_
        intro _ _ _ hsubject'
        cases hsubject.symm.trans hsubject'
      | ok subject =>
        cases hcall : c.store.prepare p key mode disablePop w.settings.maxLength with
        | error failure =>
          simp only [petition, hmode, hcheck, hsubject, hcall]
          refine hunsent hmode
            (Failure.isDeferral_of_isRefusal (Store.isRefusal_of_prepare hcall)) ?_
          intro _ _ _ _ hcall'
          cases hcall.symm.trans hcall'
        | ok call =>
          obtain ⟨requested, hrequested, hannounced⟩ :=
            w.exists_announced c.store p mode subject disablePop
          rw [petition_eq_conclude hmode hcheck hsubject hcall, hannounced]
          obtain ⟨closing, hclosing, hworld⟩ := closing_concludeEnroll p.action
            c.store.endpoint.text w.settings.maxLength
            (World.call E (w.logged [requested]) call).2
            (World.call E (w.logged [requested]) call).1
          rw [World.shownCorrelation_call] at hclosing
          refine ⟨[call], _, _, .called hmode hcheck hsubject hcall hrequested hclosing, ?_⟩
          rw [hworld, World.call_eq]
          simp only [World.logged, Journal.addAll, List.append_assoc, List.cons_append,
            List.nil_append]
          rfl

/-! ## Certificates of the authority -/

/-- The records that follow the answer to a call for the certificates of the authority, and what
the call comes to. -/
inductive FetchClosing (id : String) :
    Except Failure (Option Octets) → Except Failure (List Certificate) → List Record → Prop
  | nothing {data server r}
    (hr : r.Tells id "no_certificate"
      [("operation", .text caOperation), ("server", .text server)]) :
    FetchClosing id (.ok data) (.ok []) [r]
  | received {data cs server r}
    (hr : r.Tells id "cacerts_received" [("server", .text server), ("count", .int cs.length)]) :
    FetchClosing id (.ok data) (.ok cs) [r]
  /-- What is wrong with a response is not recorded. -/
  | unreported {data failure} : FetchClosing id (.ok data) (.error failure) []
  | raised {failure out rs}
    (h : Reported id caOperation failure (failure.relayed .caCerts) out rs) :
    FetchClosing id (.error failure) (.error out) rs

theorem fetchClosing_concludeFetch (server : String) (maxLength : Nat) (w : World σ)
    (answer : Except Failure (Option Octets)) :
    ∃ rs, FetchClosing w.journal.shownCorrelation answer
        (concludeFetch server maxLength answer w).1 rs ∧
      (concludeFetch server maxLength answer w).2 = w.logged rs := by
  cases answer with
  | error failure =>
    have hreported : ∃ out rs, Reported w.journal.shownCorrelation caOperation failure
        (failure.relayed .caCerts) out rs ∧
        concludeFetch server maxLength (.error failure) w = (.error out, w.logged rs) := by
      rcases w.recordFailure_eq caOperation failure (failure.relayed .caCerts) with
        ⟨r, h, hrecord⟩ | ⟨fault, h, hrecord⟩
      · refine ⟨_, _, h, ?_⟩
        cases failure <;> simp only [concludeFetch, hrecord, Failure.relayed]
      · refine ⟨_, _, h, ?_⟩
        cases failure <;> simp only [concludeFetch, hrecord, World.logged_nil]
    obtain ⟨out, rs, h, hconclude⟩ := hreported
    rw [hconclude]
    exact ⟨rs, .raised h, rfl⟩
  | ok data =>
    simp only [concludeFetch]
    split
    · exact ⟨[_], .nothing (Record.tells_write ..), rfl⟩
    · split
      · exact ⟨[], .unreported, World.logged_nil.symm⟩
      · split
        · exact ⟨[], .unreported, World.logged_nil.symm⟩
        · exact ⟨[_], .received (Record.tells_write ..), rfl⟩

/-- The records of a fetch, with the calls that it makes, what it comes to, and the state that it
leaves the engine in. -/
inductive Store.FetchTrail (E : Engine σ) (s : Store) (w : World σ) :
    List EngineCall → Except Failure (List Certificate) → σ → List Record → Prop
  | refused {failure r} (hincomplete : s.endpoint.isComplete = false)
    (hr : r.Tells w.journal.shownCorrelation "config_rejected"
      [("operation", .text caOperation), ("reason", .text failure.message)]) :
    FetchTrail E s w [] (.error failure) w.engine [r]
  | unsent {failure} (hanchors : Bundle.ofAnchors s.anchors = .error failure) :
    FetchTrail E s w [] (.error failure) w.engine []
  | called {anchors call result closing} (hcomplete : s.endpoint.isComplete)
    (hanchors : Bundle.ofAnchors s.anchors = .ok anchors)
    (hcall : call = .caCertificates anchors s.endpoint s.srp w.settings.maxLength)
    (hclosing : FetchClosing w.journal.shownCorrelation
      (E.answer w.settings.fips call w.engine).1.result result closing) :
    FetchTrail E s w [call] result (E.answer w.settings.fips call w.engine).2
      (w.journal.noteRecords w.settings.verbosity
        (E.answer w.settings.fips call w.engine).1.notes ++ closing)

/-- **The records of a fetch.** -/
theorem Store.fetchTrail_fetch (E : Engine σ) (s : Store) (w : World σ) :
    ∃ calls engine rs, s.FetchTrail E w calls (s.fetch E w).1 engine rs ∧
      (s.fetch E w).2 = { w.logged rs with engine } := by
  cases hcomplete : s.endpoint.isComplete with
  | false =>
    simp only [fetch, hcomplete, Bool.not_false, if_true]
    exact ⟨[], w.engine, [_], .refused hcomplete (Record.tells_write ..), rfl⟩
  | true =>
    cases hanchors : Bundle.ofAnchors s.anchors with
    | error failure =>
      simp only [fetch, hcomplete, hanchors, Bool.not_true, Bool.false_eq_true, ↓reduceIte]
      exact ⟨[], w.engine, [], .unsent hanchors, by rw [World.logged_nil]⟩
    | ok anchors =>
      simp only [fetch, hcomplete, hanchors, Bool.not_true, Bool.false_eq_true, ↓reduceIte]
      obtain ⟨closing, hclosing, hworld⟩ := fetchClosing_concludeFetch s.endpoint.text
        w.settings.maxLength
        (World.call E w (.caCertificates anchors s.endpoint s.srp w.settings.maxLength)).2
        (World.call E w (.caCertificates anchors s.endpoint s.srp w.settings.maxLength)).1
      rw [World.shownCorrelation_call] at hclosing
      refine ⟨[_], _, _, .called hcomplete hanchors rfl hclosing, ?_⟩
      rw [hworld, World.call_eq]
      simp only [World.logged, Journal.addAll, List.append_assoc]

/-! ## Operations -/

/-- The world at the start of an operation. -/
def World.opened (w : World σ) : World σ := { w with journal := w.journal.openOperation }

/-- The world at the end of an operation: it has the records of the operation and the state that
the engine was left in, one more id was drawn, and none is at hand. -/
def World.ended (w : World σ) (engine : σ) (rs : List Record) : World σ :=
  { w with
    engine
    journal := { drawn := w.journal.drawn + 1, records := w.journal.records ++ rs } }

/-- A request for a certificate is a petition under a correlation id of its own. -/
theorem Client.trail_request (E : Engine σ) (c : Client) (p : Petition) (key : KeyValue)
    (asked : ModeValue) (disablePop : Bool) (w : World σ) :
    ∃ calls result engine rs,
      p.Trail E c.store key asked disablePop w.opened calls result engine rs ∧
      (c.request E p key asked disablePop w).1 = result.map .certificate ∧
      (c.request E p key asked disablePop w).2.2 = w.ended engine rs := by
  obtain ⟨calls, engine, rs, htrail, hworld⟩ :=
    c.trail_petition E p key asked disablePop w.opened
  refine ⟨calls, _, engine, rs, htrail, rfl, ?_⟩
  exact congrArg (fun w => { w with journal := w.journal.clearCorrelation }) hworld

theorem Client.fetchTrail_step (E : Engine σ) (c : Client) (w : World σ) :
    ∃ calls result engine rs, c.store.FetchTrail E w.opened calls result engine rs ∧
      (c.step E .fetch w).1 = result.map .certificates ∧
      (c.step E .fetch w).2.2 = w.ended engine rs := by
  obtain ⟨calls, engine, rs, htrail, hworld⟩ := c.store.fetchTrail_fetch E w.opened
  refine ⟨calls, _, engine, rs, htrail, rfl, ?_⟩
  exact congrArg (fun w => { w with journal := w.journal.clearCorrelation }) hworld

end Enrollment
