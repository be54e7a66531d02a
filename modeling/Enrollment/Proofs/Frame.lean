import Enrollment.Client.Session
import Enrollment.Proofs.Relay

/-!
# What operations leave alone

An operation of a client writes into the journal, and its engine may change its own state. But it
changes no setting, and none of its records tells of a change of settings (`World.Keeps`), however
it ends: no record takes the place of its event (`Journal.continues_write`), for only the details of
an error come from outside, and an error whose details name an event is not recorded at all.
-/

namespace Enrollment

/-! ## Fields -/

namespace Details

section
variable {name other : String} {value : Value} {d earlier later : Details}

theorem get?_put_of_ne (h : other ≠ name) : (put name value d).get? other = d.get? other := by
  have hbeq : (other == name) = false := beq_false_of_ne h
  induction d with
  | nil => simp [put, get?, List.lookup_cons, hbeq]
  | cons entry d ih =>
    obtain ⟨n, v⟩ := entry
    rw [get?, get?] at ih
    by_cases hn : n = name
    · subst hn
      simp [put, get?, List.lookup_cons, hbeq]
    · simp [put, get?, List.lookup_cons, hn, ih]

/-- A value stays if nothing of its name is set. -/
theorem get?_merge_of_notMem (h : name ∉ later.map Prod.fst) :
    (merge earlier later).get? name = earlier.get? name := by
  rw [merge]
  induction later generalizing earlier with
  | nil => rfl
  | cons entry later ih =>
    rw [List.map_cons, List.mem_cons, not_or] at h
    rw [List.foldl_cons, ih h.2, get?_put_of_ne h.1]

end

end Details

/-! ## Records -/

/-- Whether a record tells of a change of settings. -/
def Record.IsSettingsChange (r : Record) : Prop :=
  r.fields.get? "event" = some (.text "engine_settings")

/-- A journal that another one becomes by further records, none of which tells of a change of
settings. -/
def Journal.Continues (j j' : Journal) : Prop :=
  ∃ more, j'.records = j.records ++ more ∧ ∀ r ∈ more, ¬r.IsSettingsChange

namespace Journal

section
variable {j j' j'' : Journal} {level : Level} {event message : String} {fields : Details}

theorem Continues.of_records_eq (h : j'.records = j.records) : j.Continues j' :=
  ⟨[], h.trans (List.append_nil _).symm, nofun⟩

theorem Continues.trans (h : j.Continues j') (h' : j'.Continues j'') : j.Continues j'' := by
  obtain ⟨first, hfirst, hnone⟩ := h
  obtain ⟨second, hsecond, hnone'⟩ := h'
  refine ⟨first ++ second, by rw [hsecond, hfirst, List.append_assoc], ?_⟩
  intro r hr
  exact (List.mem_append.1 hr).elim (hnone r) (hnone' r)

/-- The event of a record is the one that it is written for, unless a field takes its place. -/
theorem get?_event_write (h : "event" ∉ fields.map Prod.fst) :
    (Details.merge (j.frame event) fields).get? "event" = some (.text event) :=
  Details.get?_merge_of_notMem h

theorem continues_write (hevent : event ≠ "engine_settings")
    (hfields : "event" ∉ fields.map Prod.fst) :
    j.Continues (j.write level event message fields) := by
  refine ⟨[_], rfl, ?_⟩
  intro r hr
  cases List.mem_singleton.1 hr
  rw [Record.IsSettingsChange, get?_event_write hfields]
  simpa using hevent

theorem continues_enrollRequested {operation mode server subject : String} {disablePop : Bool} :
    j.Continues (j.enrollRequested operation mode server subject disablePop) :=
  continues_write (by decide) (by simp)

theorem continues_certificateReceived {operation subject : String} {serial : Value}
    {notBefore notAfter : Moment} :
    j.Continues (j.certificateReceived operation subject serial notBefore notAfter) :=
  continues_write (by decide) (by simp)

theorem continues_noCertificate {operation server : String} :
    j.Continues (j.noCertificate operation server) :=
  continues_write (by decide) (by simp)

theorem continues_of_enrollDeferred {operation : String} {retryAfter : Value}
    (h : j.enrollDeferred operation retryAfter = .ok j') : j.Continues j' := by
  rw [enrollDeferred] at h
  split at h
  · cases h
    exact continues_write (by decide) (by simp)
  · cases h

theorem continues_caCertificatesReceived {server : String} {count : Nat} :
    j.Continues (j.caCertificatesReceived server count) :=
  continues_write (by decide) (by simp)

theorem continues_configurationRejected {operation reason : String} :
    j.Continues (j.configurationRejected operation reason) :=
  continues_write (by decide) (by simp)

/-- A failure that names an event among its details is not recorded. -/
theorem continues_of_failed {failure : Failure} {context : String}
    (h : j.failed failure context = .ok j') : j.Continues j' := by
  rw [failed] at h
  split at h
  · cases h
  · next hnone =>
    cases h
    have hfree := reserved?_eq_none_iff.1 hnone "event" (by decide)
    exact continues_write (by decide) (by simpa using hfree)

theorem continues_addNotes {v : Verbosity} {notes : List EngineNote} :
    j.Continues (j.addNotes v notes) := by
  rw [addNotes]
  induction notes.filter (fun n => v.admits n.level.name) generalizing j with
  | nil => exact .of_records_eq rfl
  | cons note notes ih => exact (continues_write (by decide) (by simp)).trans ih

end

end Journal

/-! ## Operations -/

/-- A world in which settings stay, and no record tells of a change. -/
structure World.Keeps (w w' : World σ) : Prop where
  settings : w'.settings = w.settings
  journal : w.journal.Continues w'.journal

namespace World

section
variable {w w' w'' : World σ}

theorem Keeps.refl (w : World σ) : w.Keeps w := ⟨rfl, .of_records_eq rfl⟩

theorem Keeps.trans (h : w.Keeps w') (h' : w'.Keeps w'') : w.Keeps w'' :=
  ⟨h'.settings.trans h.settings, h.journal.trans h'.journal⟩

theorem Keeps.of_journal {journal : Journal} (h : w.journal.Continues journal) :
    w.Keeps { w with journal } := ⟨rfl, h⟩

theorem keeps_call (E : Engine σ) (w : World σ) (call : EngineCall) :
    w.Keeps (World.call E w call).2 := ⟨rfl, Journal.continues_addNotes⟩

theorem keeps_of_recordFailure {failure : Failure} {context : String}
    (h : w.recordFailure failure context = .ok w') : w.Keeps w' := by
  rw [recordFailure] at h
  split at h
  · next hfailed => cases h; exact .of_journal (Journal.continues_of_failed hfailed)
  · cases h

end

end World

section
variable {E : Engine σ} {c : Client} {w : World σ}

theorem keeps_faulted {context : String} {failure final : Failure} :
    w.Keeps (faulted w context failure final : Outcome σ α).world := by
  rw [faulted]
  split
  · next hrecord => exact World.keeps_of_recordFailure hrecord
  · exact .refl w

theorem keeps_interpretResponse {a : Action} {server : String} {maxLength : Nat}
    {data : Option Octets} : w.Keeps (interpretResponse a server maxLength data w).world := by
  rw [interpretResponse]
  simp only
  split
  · exact .of_journal Journal.continues_noCertificate
  · split
    · exact keeps_faulted
    · split
      · exact keeps_faulted
      · exact .refl w
      · split
        · exact .refl w
        · exact .of_journal Journal.continues_certificateReceived

theorem keeps_concludeEnroll {a : Action} {server : String} {maxLength : Nat}
    {answer : Except Failure (Option Octets)} :
    w.Keeps (concludeEnroll a server maxLength answer w).world := by
  cases answer with
  | ok data => exact keeps_interpretResponse
  | error failure =>
    cases failure with
    | fault f => exact keeps_faulted
    | client e =>
      rw [concludeEnroll]
      split
      · split
        · next hdeferred => exact .of_journal (Journal.continues_of_enrollDeferred hdeferred)
        · exact .refl w
      · exact keeps_faulted

theorem Client.keeps_petition {p : Petition} {key : KeyValue} {asked : ModeValue}
    {disablePop : Bool} : w.Keeps (c.petition E p key asked disablePop w).world := by
  rw [petition]
  simp only
  split
  · exact .of_journal Journal.continues_configurationRejected
  · exact .refl w
  · split
    · exact .refl w
    · split
      · exact .refl w
      · split
        · exact .refl w
        · exact ((World.Keeps.of_journal Journal.continues_enrollRequested).trans
            (World.keeps_call E _ _)).trans keeps_concludeEnroll

theorem Client.keeps_request {p : Petition} {key : KeyValue} {mode : ModeValue}
    {disablePop : Bool} : w.Keeps (c.request E p key mode disablePop w).2.2 := by
  have hopen : w.Keeps { w with journal := w.journal.openOperation } :=
    .of_journal (.of_records_eq rfl)
  exact (hopen.trans keeps_petition).trans (.of_journal (.of_records_eq rfl))

theorem keeps_concludeFetch {server : String} {maxLength : Nat}
    {answer : Except Failure (Option Octets)} :
    w.Keeps (concludeFetch server maxLength answer w).2 := by
  cases answer with
  | error failure =>
    cases failure with
    | client | fault =>
      simp only [concludeFetch]
      split
      · next hrecord => exact World.keeps_of_recordFailure hrecord
      · exact .refl w
  | ok data =>
    simp only [concludeFetch]
    split
    · exact .of_journal Journal.continues_noCertificate
    · split
      · exact .refl w
      · split
        · exact .refl w
        · exact .of_journal Journal.continues_caCertificatesReceived

theorem Store.keeps_fetch {s : Store} : w.Keeps (s.fetch E w).2 := by
  rw [fetch]
  simp only
  split
  · exact .of_journal Journal.continues_configurationRejected
  · split
    · exact .refl w
    · exact (World.keeps_call E w _).trans keeps_concludeFetch

/-- Whether a step is about the settings that all clients share. -/
def Step.isSetting : Step → Bool
  | .setMaxLength _ | .setVerbosity _ | .enableFips => true
  | _ => false

/-- **Every step that is not about settings** keeps them, however it ends. -/
theorem Client.keeps_step {step : Step} (hstep : step.isSetting = false) :
    w.Keeps (c.step E step w).2.2 := by
  cases step with
  | enroll request key asked disablePop =>
    cases hread : request.toObject with
    | error failure => rw [step_enroll_unread hread]; exact .refl w
    | ok object => rw [step_enroll_read hread]; exact keeps_request
  | reenroll old key asked disablePop => exact keeps_request
  | fetch =>
    have hopen : w.Keeps { w with journal := w.journal.openOperation } :=
      .of_journal (.of_records_eq rfl)
    exact (hopen.trans Store.keeps_fetch).trans (.of_journal (.of_records_eq rfl))
  | setMaxLength | setVerbosity | enableFips => cases hstep
  | _ => exact .refl w

theorem Session.keeps_step {s : Session σ} {n : Nat} {step : Step}
    (hstep : step.isSetting = false) :
    s.world.Keeps (s.step E n step).2.world := by
  rw [Session.step]
  split
  · exact .refl s.world
  · exact Client.keeps_step hstep

end

end Enrollment
