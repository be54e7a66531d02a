import Enrollment.Proofs.Passwords
import Enrollment.Proofs.Records
import Enrollment.Proofs.Template
import Mathlib.Data.List.Forall2

/-!
# The verbosity of an engine

How much an engine writes changes nothing but the audit trail, and there nothing but which notes of
the engine are in it. `World.heard` is a world as it would be at another verbosity: the records that
this verbosity does not keep are missing. Every part of a step comes to the same in it, up to those
records (`Client.step_heard`), if the world itself lets all notes through; so any two runs are what
is heard of one and the same run (`Session.trace_heard`), and differ as `World.AlikeAt` says.

The notes of the engine over HTTPS are filled in from templates, with texts of the server among the
values. Filling them in never fails (`Https.Leaves.note_eq_ok`).
-/

namespace Enrollment

/-! ## What a verbosity keeps -/

namespace Verbosity

/-- A verbosity lets through no level that another one does not. -/
def IsWithin (v v' : Verbosity) : Prop := ∀ level, v.admits level → v'.admits level

/-- Whether a record is in a trail at a verbosity: all are but the engine's of other levels. -/
def keeps (v : Verbosity) (r : Record) : Bool := !r.isOf "engine" || v.admits r.level.name

section
variable {v v' : Verbosity} {r : Record}

theorem isWithin_full (v : Verbosity) : v.IsWithin full := by
  intro level hlevel
  have hlevels : ∀ level ∈ v.levels, level ∈ full.levels := by cases v <;> decide
  rw [admits, List.contains_iff_mem] at hlevel ⊢
  exact hlevels level hlevel

/-- Of two verbosities, one lets through all that the other one does. -/
theorem isWithin_total (v v' : Verbosity) : v.IsWithin v' ∨ v'.IsWithin v := by
  have hlevels : (∀ level ∈ v.levels, level ∈ v'.levels) ∨
      ∀ level ∈ v'.levels, level ∈ v.levels := by
    cases v <;> cases v' <;> decide
  simpa only [IsWithin, admits, List.contains_iff_mem] using hlevels

theorem keeps_of_not_isOf (h : r.isOf "engine" = false) : v.keeps r = true := by
  rw [keeps, h]
  rfl

theorem IsWithin.keeps (h : v.IsWithin v') (hr : v.keeps r = true) : v'.keeps r = true := by
  rw [Verbosity.keeps, Bool.or_eq_true] at hr ⊢
  exact hr.imp_right (h _)

/-- What is kept at a verbosity is kept of what a greater one keeps. -/
theorem IsWithin.filter_keeps (h : v.IsWithin v') (rs : List Record) :
    (rs.filter v'.keeps).filter v.keeps = rs.filter v.keeps := by
  rw [List.filter_filter]
  refine List.filter_congr fun r _ => ?_
  cases hr : v.keeps r with
  | true => rw [h.keeps hr, Bool.and_self]
  | false => exact Bool.false_and _

/-- Every verbosity keeps the records that are not the engine's. -/
theorem filter_others (v : Verbosity) (rs : List Record) :
    (rs.filter v.keeps).filter (fun r => !r.isOf "engine") =
      rs.filter fun r => !r.isOf "engine" := by
  rw [List.filter_filter]
  refine List.filter_congr fun r _ => ?_
  cases hr : r.isOf "engine" with
  | true => rfl
  | false => rw [keeps_of_not_isOf hr]; rfl

end

end Verbosity

/-! ## Journals -/

/-- A journal as it is at a verbosity, if other records were there before. -/
def Journal.heard (before : List Record) (v : Verbosity) (j : Journal) : Journal :=
  { j with records := before ++ j.records.filter v.keeps }

namespace Journal

section
variable {before : List Record} {v : Verbosity} {j : Journal} {level : Level}
  {event message : String} {fields : Details}

theorem heard_addAll (rs : List Record) :
    (j.addAll rs).heard before v = (j.heard before v).addAll (rs.filter v.keeps) := by
  rw [addAll, heard, heard, addAll]
  simp only [List.filter_append, List.append_assoc]

/-- Every verbosity keeps the records of other events. -/
theorem heard_write (hevent : event ≠ "engine") (hfields : "event" ∉ fields.map Prod.fst) :
    (j.write level event message fields).heard before v =
      (j.heard before v).write level event message fields := by
  have htells : Record.Tells ⟨level, message, Details.merge (j.frame event) fields⟩
      j.shownCorrelation event fields := Record.tells_write ..
  have hkept : v.keeps ⟨level, message, Details.merge (j.frame event) fields⟩ = true :=
    Verbosity.keeps_of_not_isOf ((htells.isOf_eq hfields).trans (decide_eq_false hevent))
  have hfilter : (j.write level event message fields).heard before v = _ :=
    heard_addAll [⟨level, message, Details.merge (j.frame event) fields⟩]
  rwa [List.filter_cons_of_pos hkept, List.filter_nil] at hfilter

/-- Whether a failure can be recorded is not a matter of verbosity. -/
theorem heard_failed (failure : Failure) (context : String) :
    (j.heard before v).failed failure context =
      (j.failed failure context).map (heard before v) := by
  rw [failed, failed]
  cases hreserved : reserved? failure.auditFields with
  | some fault => rfl
  | none =>
    have hfree := reserved?_eq_none_iff.1 hreserved "event" (by decide)
    exact congrArg Except.ok (heard_write (by decide) (by simpa using hfree)).symm

/-- Whether a delay can be written down is not a matter of verbosity. -/
theorem heard_enrollDeferred (operation : String) (delay : Value) :
    (j.heard before v).enrollDeferred operation delay =
      (j.enrollDeferred operation delay).map (heard before v) := by
  rw [enrollDeferred, enrollDeferred]
  split
  · exact congrArg Except.ok (heard_write (by decide) (by simp)).symm
  · rfl

/-- Nor is whether the value of a setting can be. -/
theorem heard_settingsChanged (setting : String) (value : Value) :
    (j.heard before v).settingsChanged setting value =
      (j.settingsChanged setting value).map (heard before v) := by
  rw [settingsChanged, settingsChanged]
  split
  · exact congrArg Except.ok (heard_write (by decide) (by simp)).symm
  · rfl

/-- **Of all notes, a verbosity keeps those that are written at it.** -/
theorem heard_addNotes (notes : List EngineNote) :
    (j.addNotes .full notes).heard before v = (j.heard before v).addNotes v notes := by
  have hkeeps (n : EngineNote) :
      v.keeps ⟨n.level, n.message, j.frame "engine"⟩ = v.admits n.level.name := by
    have htells : Record.Tells ⟨n.level, n.message, j.frame "engine"⟩ j.shownCorrelation
        "engine" [] := rfl
    rw [Verbosity.keeps, htells.isOf_eq (by simp)]
    rfl
  have hnotes : (j.noteRecords .full notes).filter v.keeps = j.noteRecords v notes := by
    rw [noteRecords, noteRecords, List.filter_map, List.filter_filter]
    refine congrArg _ (List.filter_congr fun n _ => ?_)
    rw [Function.comp_apply, hkeeps]
    cases hadmits : v.admits n.level.name with
    | true => exact v.isWithin_full _ hadmits
    | false => rfl
  rw [addNotes_eq, heard_addAll, hnotes, addNotes_eq]
  rfl

end

end Journal

/-! ## Worlds -/

/-- A world as it is at a verbosity, if other records were there before. -/
def World.heard (before : List Record) (v : Verbosity) (w : World σ) : World σ where
  settings := { w.settings with verbosity := v }
  engine := w.engine
  journal := w.journal.heard before v

/-- What comes of an operation at a verbosity. -/
def Outcome.heard (before : List Record) (v : Verbosity) (o : Outcome σ α) : Outcome σ α where
  result := o.result
  progress := o.progress
  world := o.world.heard before v

section
variable {before : List Record} {v : Verbosity} {E : Engine σ} {w : World σ} {c : Client}

/-- The journal is all that a new record changes. -/
theorem World.heard_write {journal : Journal} {level : Level} {event message : String}
    {fields : Details} (hevent : event ≠ "engine") (hfields : "event" ∉ fields.map Prod.fst) :
    World.heard before v { w with journal := journal.write level event message fields } =
      { w.heard before v with
        journal := (journal.heard before v).write level event message fields } := by
  rw [World.heard, Journal.heard_write hevent hfields]
  rfl

theorem World.recordFailure_heard (failure : Failure) (context : String) :
    (w.heard before v).recordFailure failure context =
      (w.recordFailure failure context).map (heard before v) := by
  have hfailed : (w.heard before v).journal.failed failure context = _ :=
    Journal.heard_failed failure context
  rw [recordFailure, recordFailure, hfailed]
  cases w.journal.failed failure context <;> rfl

theorem faulted_heard {context : String} {failure final : Failure} :
    (faulted (w.heard before v) context failure final : Outcome _ α) =
      (faulted w context failure final).heard before v := by
  rw [faulted, faulted, World.recordFailure_heard]
  cases w.recordFailure failure context <;> rfl

theorem interpretResponse_heard {a : Action} {server : String} {maxLength : Nat}
    {data : Option Octets} :
    interpretResponse a server maxLength data (w.heard before v) =
      (interpretResponse a server maxLength data w).heard before v := by
  rw [interpretResponse, interpretResponse]
  simp only [faulted_heard]
  split
  · exact congrArg (Outcome.mk _ _) (World.heard_write (by decide) (by simp)).symm
  · split
    · rfl
    · split
      · rfl
      · rfl
      · split
        · rfl
        · exact congrArg (Outcome.mk _ _) (World.heard_write (by decide) (by simp)).symm

/-- What an answer means is the same at every verbosity. -/
theorem concludeEnroll_heard {a : Action} {server : String} {maxLength : Nat}
    {answer : Except Failure (Option Octets)} :
    concludeEnroll a server maxLength answer (w.heard before v) =
      (concludeEnroll a server maxLength answer w).heard before v := by
  cases answer with
  | ok data => exact interpretResponse_heard
  | error failure =>
    cases failure with
    | fault fault =>
      rw [concludeEnroll, concludeEnroll]
      exact faulted_heard
    | client e =>
      rw [concludeEnroll, concludeEnroll]
      split
      · have hdeferred : (w.heard before v).journal.enrollDeferred a.operation e.retryAfter = _ :=
          Journal.heard_enrollDeferred a.operation e.retryAfter
        rw [hdeferred]
        cases w.journal.enrollDeferred a.operation e.retryAfter <;> rfl
      · exact faulted_heard

theorem concludeFetch_heard {server : String} {maxLength : Nat}
    {answer : Except Failure (Option Octets)} :
    concludeFetch server maxLength answer (w.heard before v) =
      ((concludeFetch server maxLength answer w).1,
        (concludeFetch server maxLength answer w).2.heard before v) := by
  cases answer with
  | error failure =>
    cases failure with
    | client e =>
      simp only [concludeFetch, World.recordFailure_heard]
      cases w.recordFailure (.client e) caOperation <;> rfl
    | fault fault =>
      simp only [concludeFetch, World.recordFailure_heard]
      cases w.recordFailure (.fault fault) caOperation <;> rfl
  | ok data =>
    simp only [concludeFetch]
    by_cases hempty : (data.getD []).isEmpty
    · simp only [if_pos hempty]
      exact congrArg (Prod.mk _) (World.heard_write (by decide) (by simp)).symm
    · by_cases hlong : maxLength < (data.getD []).length
      · simp only [if_neg hempty, if_pos hlong]
      · simp only [if_neg hempty, if_neg hlong]
        cases (Reading.ofStream (data.getD [])).toExcept with
        | error failure => rfl
        | ok cs => exact congrArg (Prod.mk _) (World.heard_write (by decide) (by simp)).symm

/-- **A call is made, and answered, the same at every verbosity.** -/
theorem World.call_heard (hfull : w.settings.verbosity = .full) (call : EngineCall) :
    World.call E (w.heard before v) call =
      ((World.call E w call).1, (World.call E w call).2.heard before v) := by
  rw [World.call, World.call, hfull]
  simp only [heard, Journal.heard_addNotes]

/-! ## Steps -/

theorem Client.petition_heard (hfull : w.settings.verbosity = .full) {p : Petition}
    {key : KeyValue} {asked : ModeValue} {disablePop : Bool} :
    c.petition E p key asked disablePop (w.heard before v) =
      (c.petition E p key asked disablePop w).heard before v := by
  have hlength : (w.heard before v).settings.maxLength = w.settings.maxLength := rfl
  rw [petition, petition, hlength]
  cases c.store.selectMode asked with
  | error failure =>
    cases failure with
    | client e => exact congrArg (Outcome.mk _ _) (World.heard_write (by decide) (by simp)).symm
    | fault f => rfl
  | ok mode =>
    simp only
    cases p.check key with
    | error failure => rfl
    | ok _ =>
      cases p.subject with
      | error failure => rfl
      | ok subject =>
        simp only
        cases c.store.prepare p key mode disablePop w.settings.maxLength with
        | error failure => rfl
        | ok call =>
          have hannounced : (w.heard before v).announced c.store p mode subject disablePop =
              (w.announced c.store p mode subject disablePop).heard before v :=
            (World.heard_write (by decide) (by simp)).symm
          have hcall : World.call E
              ((w.announced c.store p mode subject disablePop).heard before v) call = _ :=
            World.call_heard (w := w.announced c.store p mode subject disablePop) hfull call
          rw [← hannounced] at hcall
          exact (congrArg (fun r => concludeEnroll _ _ _ r.1 r.2) hcall).trans concludeEnroll_heard

theorem Client.request_heard (hfull : w.settings.verbosity = .full) {p : Petition}
    {key : KeyValue} {mode : ModeValue} {disablePop : Bool} :
    c.request E p key mode disablePop (w.heard before v) =
      ((c.request E p key mode disablePop w).1, (c.request E p key mode disablePop w).2.1,
        (c.request E p key mode disablePop w).2.2.heard before v) := by
  have hopen : { w.heard before v with journal := (w.heard before v).journal.openOperation } =
      World.heard before v { w with journal := w.journal.openOperation } := rfl
  have hpetition : c.petition E p key mode disablePop
      (World.heard before v { w with journal := w.journal.openOperation }) = _ :=
    petition_heard (w := { w with journal := w.journal.openOperation }) hfull
  simp only [request, hopen, hpetition]
  rfl

theorem Store.fetch_heard (hfull : w.settings.verbosity = .full) {s : Store} :
    s.fetch E (w.heard before v) = ((s.fetch E w).1, (s.fetch E w).2.heard before v) := by
  have hsettings : (w.heard before v).settings.maxLength = w.settings.maxLength := rfl
  simp only [fetch, hsettings]
  cases s.endpoint.isComplete with
  | false => exact congrArg (Prod.mk _) (World.heard_write (by decide) (by simp)).symm
  | true =>
    cases Bundle.ofAnchors s.anchors with
    | error failure => rfl
    | ok anchors =>
      have hcall : World.call E (w.heard before v)
          (.caCertificates anchors s.endpoint s.srp w.settings.maxLength) = _ :=
        World.call_heard hfull _
      simp only [Bool.not_true, Bool.false_eq_true, ↓reduceIte]
      exact (congrArg (fun r => concludeFetch _ _ r.1 r.2) hcall).trans concludeFetch_heard

theorem World.changed_heard (settings : Settings) {setting : String} {value : Value} :
    (w.heard before v).changed { settings with verbosity := v } setting value =
      ((w.changed settings setting value).1,
        (w.changed settings setting value).2.heard before v) := by
  have hjournal : (w.heard before v).journal.settingsChanged setting value = _ :=
    Journal.heard_settingsChanged setting value
  rw [changed, changed, hjournal]
  cases w.journal.settingsChanged setting value <;> rfl

theorem World.setMaxLength_heard {x : Value} : (w.heard before v).setMaxLength x =
    ((w.setMaxLength x).1, (w.setMaxLength x).2.heard before v) := by
  rw [setMaxLength, setMaxLength, Settings.setMaxLength, Settings.setMaxLength]
  cases Settings.lengthOfValue x with
  | error failure => rfl
  | ok n => exact changed_heard { w.settings with maxLength := n }

theorem World.enableFips_heard : (w.heard before v).enableFips E =
    ((w.enableFips E).1, (w.enableFips E).2.heard before v) := by
  have hengine : (w.heard before v).engine = w.engine := rfl
  rw [enableFips, enableFips, hengine]
  cases E.restrict w.engine with
  | ok => exact changed_heard w.settings.markFips
  | error failure =>
    simp only [recordFailure_heard]
    cases failure.isOfEngine with
    | true => cases w.recordFailure failure "enable_fips" <;> rfl
    | false => rfl

end

/-- Whether a step sets the verbosity. -/
def Step.setsVerbosity : Step → Bool
  | .setVerbosity _ => true
  | _ => false

section
variable {before : List Record} {v : Verbosity} {E : Engine σ} {w : World σ} {c : Client}
  {step : Step}

/-- A change of the settings is made, recorded or not. -/
theorem World.settings_changed (settings : Settings) (setting : String) (value : Value) :
    (w.changed settings setting value).2.settings = settings := by
  rw [changed]
  split <;> rfl

/-- Only setting it changes the verbosity. -/
theorem Client.verbosity_step (hstep : step.setsVerbosity = false) :
    (c.step E step w).2.2.settings.verbosity = w.settings.verbosity := by
  cases hsetting : step.isSetting with
  | false => rw [(keeps_step hsetting).settings]
  | true =>
    cases step with
    | setVerbosity x => cases hstep
    | setMaxLength x =>
      simp only [Client.step, World.setMaxLength, Settings.setMaxLength]
      cases Settings.lengthOfValue x with
      | error failure => rfl
      | ok n =>
        change (w.changed { w.settings with maxLength := n } _ _).2.settings.verbosity = _
        rw [World.settings_changed]
    | enableFips =>
      simp only [Client.step, World.enableFips]
      cases E.restrict w.engine with
      | ok =>
        simp only [World.settings_changed]
        rfl
      | error failure =>
        simp only
        cases failure.isOfEngine with
        | false => rfl
        | true =>
          rcases w.recordFailure_eq "enable_fips" failure failure with ⟨r, -, h⟩ | ⟨fault, -, h⟩ <;>
            rw [h] <;> rfl
    | _ => cases hsetting

/-- **A step comes to the same at every verbosity**, if it does not set it: the result, the client
and the engine are the same, and of the records it writes those are kept that the verbosity
keeps. -/
theorem Client.step_heard (hfull : w.settings.verbosity = .full)
    (hstep : step.setsVerbosity = false) : c.step E step (w.heard before v) =
      ((c.step E step w).1, (c.step E step w).2.1, (c.step E step w).2.2.heard before v) := by
  have hsetting {r r' : Except Failure Unit × World σ} (h : r' = (r.1, r.2.heard before v)) :
      (r'.1.map fun _ => StepResult.done, c, r'.2) =
        (r.1.map fun _ => StepResult.done, c, r.2.heard before v) := by
    rw [h]
  cases step with
  | setVerbosity x => cases hstep
  | setMaxLength x => exact hsetting World.setMaxLength_heard
  | enableFips => exact hsetting World.enableFips_heard
  | enroll request key mode disablePop =>
    simp only [step]
    cases request.toObject with
    | error failure => rfl
    | ok request => exact request_heard hfull
  | reenroll old key mode disablePop => exact request_heard hfull
  | fetch =>
    have hfetch : c.store.fetch E
        (World.heard before v { w with journal := w.journal.openOperation }) = _ :=
      Store.fetch_heard (w := { w with journal := w.journal.openOperation }) hfull
    exact congrArg (fun r => (r.1.map StepResult.certificates, c,
      { r.2 with journal := r.2.journal.clearCorrelation })) hfetch
  | _ => rfl

end

/-- A client is made of a configuration the same at every verbosity. -/
theorem Client.ofConfiguration_heard {before : List Record} {v : Verbosity} {E : Engine σ}
    {w : World σ} (t : FileTree) (c : Configuration) :
    ofConfiguration E t c (w.heard before v) =
      ((ofConfiguration E t c w).1, (ofConfiguration E t c w).2.heard before v) := by
  rw [ofConfiguration, ofConfiguration]
  by_cases hfips : c.engine.fips = true
  · simp only [if_pos hfips, World.enableFips_heard]
    cases (w.enableFips E).1 <;> rfl
  · simp only [if_neg hfips]

/-! ## Sessions -/

/-- A session as it is at a verbosity, if other records were there before. -/
def Session.heard (before : List Record) (v : Verbosity) (s : Session σ) : Session σ :=
  { s with world := s.world.heard before v }

section
variable {before : List Record} {v : Verbosity} {E : Engine σ} {s : Session σ}
  {steps : List (Nat × Step)}

theorem Session.step_heard (hfull : s.world.settings.verbosity = .full) (n : Nat) {step : Step}
    (hstep : step.setsVerbosity = false) : (s.heard before v).step E n step =
      ((s.step E n step).1, (s.step E n step).2.heard before v) := by
  have hclient : (s.heard before v).clients[n]? = s.clients[n]? := rfl
  rw [Session.step, Session.step, hclient]
  cases s.clients[n]? with
  | none => rfl
  | some c =>
    have hc : c.step E step (s.world.heard before v) = _ := Client.step_heard hfull hstep
    exact congrArg (fun r => (r.1, Session.mk (s.clients.set n r.2.1) r.2.2)) hc

theorem Session.verbosity_step (n : Nat) {step : Step} (hstep : step.setsVerbosity = false) :
    (s.step E n step).2.world.settings.verbosity = s.world.settings.verbosity := by
  rw [Session.step]
  cases s.clients[n]? with
  | none => rfl
  | some c => exact Client.verbosity_step hstep

/-- **A run at a verbosity is what is heard of a run that leaves no note out.** -/
theorem Session.trace_heard (hfull : s.world.settings.verbosity = .full)
    (hsteps : ∀ x ∈ steps, x.2.setsVerbosity = false) :
    (s.heard before v).trace E steps =
      (s.trace E steps).map fun r => (r.1, r.2.heard before v) := by
  induction steps generalizing s with
  | nil => rfl
  | cons x more ih =>
    obtain ⟨n, step⟩ := x
    obtain ⟨hstep, hmore⟩ := List.forall_mem_cons.1 hsteps
    have hnext : (s.step E n step).2.world.settings.verbosity = .full :=
      (verbosity_step n hstep).trans hfull
    rw [trace, trace, List.map_cons, step_heard hfull n hstep, ih hnext hmore]

end

/-! ## Two verbosities -/

/-- A world at another verbosity, with all records that it has. -/
def World.speaking (v : Verbosity) (w : World σ) : World σ :=
  { w with settings := { w.settings with verbosity := v } }

/-- A session at another verbosity, with all records that it has. -/
def Session.speaking (v : Verbosity) (s : Session σ) : Session σ :=
  { s with world := s.world.speaking v }

/-- Two worlds that came of the same at two verbosities, with the records `before` at the start:
everything but the verbosity and the notes of the engine is the same, and if the first verbosity is
within the second one, the first trail is the second one without the notes that it does not let
through. -/
structure World.AlikeAt (before : List Record) (v v' : Verbosity) (w w' : World σ) : Prop where
  engine : w.engine = w'.engine
  settings : { w.settings with verbosity := v' } = w'.settings
  verbosity : w.settings.verbosity = v
  correlation : w.journal.correlation = w'.journal.correlation
  drawn : w.journal.drawn = w'.journal.drawn
  others : w.journal.records.filter (fun r => !r.isOf "engine") =
    w'.journal.records.filter fun r => !r.isOf "engine"
  heard : v.IsWithin v' → ∃ written, w'.journal.records = before ++ written ∧
    w.journal.records = before ++ written.filter v.keeps

section
variable {E : Engine σ} {v v' : Verbosity}

/-- What is heard of a world at two verbosities is alike. -/
theorem World.alikeAt_heard (before : List Record) (v v' : Verbosity) (w : World σ) :
    (w.heard before v).AlikeAt before v v' (w.heard before v') where
  engine := rfl
  settings := rfl
  verbosity := rfl
  correlation := rfl
  drawn := rfl
  others := by
    simp only [heard, Journal.heard, List.filter_append, Verbosity.filter_others]
  heard hwithin := ⟨w.journal.records.filter v'.keeps, rfl,
    congrArg (before ++ ·) (hwithin.filter_keeps w.journal.records).symm⟩

/-- Before anything is written, a world at a verbosity is what is heard of one that leaves no note
out. -/
theorem World.speaking_eq_heard (v : Verbosity) (w : World σ) : w.speaking v = heard
    w.journal.records v { w.speaking .full with journal := { w.journal with records := [] } } := by
  have hrecords : w.journal.records ++ ([] : List Record).filter v.keeps = w.journal.records :=
    List.append_nil _
  rw [heard, Journal.heard, hrecords]
  rfl

/-- **Two runs at two verbosities** come to the same after every step, whatever the engine is. -/
theorem Session.alikeAt_trace (v v' : Verbosity) (s : Session σ) {steps : List (Nat × Step)}
    (hsteps : ∀ x ∈ steps, x.2.setsVerbosity = false) :
    List.Forall₂ (fun r r' => r.1 = r'.1 ∧ r.2.clients = r'.2.clients ∧
        r.2.world.AlikeAt s.world.journal.records v v' r'.2.world)
      ((s.speaking v).trace E steps) ((s.speaking v').trace E steps) := by
  have hheard (v : Verbosity) : s.speaking v = heard s.world.journal.records v
      { s with world := { s.world.speaking .full with
        journal := { s.world.journal with records := [] } } } :=
    congrArg (Session.mk s.clients) (s.world.speaking_eq_heard v)
  rw [hheard v, hheard v', trace_heard rfl hsteps, trace_heard rfl hsteps,
    List.forall₂_map_left_iff, List.forall₂_map_right_iff, List.forall₂_same]
  exact fun r _ => ⟨rfl, rfl, World.alikeAt_heard _ v v' r.2.world⟩

theorem Client.alikeAt_ofConfiguration (v v' : Verbosity) (t : FileTree) (c : Configuration)
    (w : World σ) : (ofConfiguration E t c (w.speaking v)).1 =
        (ofConfiguration E t c (w.speaking v')).1 ∧
      (ofConfiguration E t c (w.speaking v)).2.AlikeAt w.journal.records v v'
        (ofConfiguration E t c (w.speaking v')).2 := by
  rw [w.speaking_eq_heard v, w.speaking_eq_heard v', ofConfiguration_heard, ofConfiguration_heard]
  exact ⟨rfl, World.alikeAt_heard _ v v' _⟩

end

/-! ## The notes of the engine over HTTPS -/

/-- Something that can be written down has the text of an integer: the integer itself, if it is
short. -/
theorem Value.exists_asText (n : Int) : ∃ v : Value, v.isWritable ∧ v.asText = toString n := by
  by_cases hshort : Value.isShort n
  · exact ⟨.int n, hshort, rfl⟩
  · exact ⟨.text (toString n), rfl, rfl⟩

namespace Https

/-- A line that the engine writes, as a template with values, and the note that it leaves. The
values come from the configuration, the server and the transport, and can be written down. -/
inductive Leaves : Note → EngineNote → Prop
  | asking (url : String) : Leaves ⟨"INFO", "GET {}", [.text url]⟩ ⟨.info, "GET " ++ url⟩
  | unverified : Leaves
    ⟨"WARNING", "No trust anchors configured, server identity is not verified", []⟩
    ⟨.warning, "No trust anchors configured, server identity is not verified"⟩
  | unanswered (url text : String) : Leaves
    ⟨"ERROR", "GET {} failed: {}", [.text url, .text text]⟩
    ⟨.error, "GET " ++ url ++ " failed: " ++ text⟩
  | refused (reason : String) : Leaves ⟨"ERROR", "{}", [.text reason]⟩ ⟨.error, reason⟩
  | unlinked : Leaves ⟨"WARNING", unlinkedNote.message, []⟩ unlinkedNote
  | submitting (url : String) {length : Value} (h : length.isWritable) : Leaves
    ⟨"INFO", "POST {} ({} byte CSR)", [.text url, length]⟩
    ⟨.info, "POST " ++ url ++ " (" ++ length.asText ++ " byte CSR)"⟩
  | unsubmitted (url text : String) : Leaves
    ⟨"ERROR", "POST {} failed: {}", [.text url, .text text]⟩
    ⟨.error, "POST " ++ url ++ " failed: " ++ text⟩
  | rejected (operation : String) {status : Value} (h : status.isWritable) : Leaves
    ⟨"ERROR", "/{} returned HTTP {}", [.text operation, status]⟩
    ⟨.error, "/" ++ operation ++ " returned HTTP " ++ status.asText⟩
  | received (operation : String) {count : Value} (h : count.isWritable) : Leaves
    ⟨"DEBUG", "/{} returned {} certificate(s)", [.text operation, count]⟩
    ⟨.debug, "/" ++ operation ++ " returned " ++ count.asText ++ " certificate(s)"⟩

section
variable {line : Note} {note : EngineNote}

/-- **The templates of the engine can always be filled in**, whatever the values are. -/
theorem Leaves.message_eq_ok (h : Leaves line note) : line.message = .ok note.message := by
  -- all templates are plain; what is left is where the parts meet
  have hfilled (pieces : List (List Char × Value)) (last : List Char)
      {level template text : String} {values : List Value}
      (hvalues : pieces.map Prod.snd = values)
      (htemplate : String.ofList (Template.plain pieces last) = template)
      (hplain : pieces ≠ [] ∧ (∀ p ∈ pieces, Template.IsBraceless p.1 ∧ p.2.isWritable) ∧
        Template.IsBraceless last)
      (htext : Template.plainText pieces last = text.toList) :
      Note.message ⟨level, template, values⟩ = .ok text := by
    obtain ⟨hsome, hpieces, hlast⟩ := hplain
    rw [Note.message, if_neg (by simpa [← hvalues] using hsome), ← hvalues, ← htemplate,
      Template.fill_plain hpieces hlast, htext, String.ofList_toList]
  cases h with
  | unverified | unlinked => rfl
  | asking url =>
    exact hfilled [("GET ".toList, .text url)] [] rfl (by rfl)
      (by simp [Template.IsBraceless, Value.isWritable])
      (by simp [Template.plainText, Value.asText])
  | unanswered url text =>
    exact hfilled [("GET ".toList, .text url), (" failed: ".toList, .text text)] [] rfl (by rfl)
      (by simp [Template.IsBraceless, Value.isWritable])
      (by simp [Template.plainText, Value.asText])
  | refused reason =>
    exact hfilled [([], .text reason)] [] rfl (by rfl)
      (by simp [Template.IsBraceless, Value.isWritable])
      (by simp [Template.plainText, Value.asText])
  | submitting url h =>
    exact hfilled [("POST ".toList, .text url), (" (".toList, _)] " byte CSR)".toList rfl (by rfl)
      (by simp [Template.IsBraceless, Value.isWritable, h])
      (by simp [Template.plainText, Value.asText])
  | unsubmitted url text =>
    exact hfilled [("POST ".toList, .text url), (" failed: ".toList, .text text)] [] rfl (by rfl)
      (by simp [Template.IsBraceless, Value.isWritable])
      (by simp [Template.plainText, Value.asText])
  | rejected operation h =>
    exact hfilled [("/".toList, .text operation), (" returned HTTP ".toList, _)] [] rfl (by rfl)
      (by simp [Template.IsBraceless, Value.isWritable, h])
      (by simp [Template.plainText, Value.asText])
  | received operation h =>
    exact hfilled [("/".toList, .text operation), (" returned ".toList, _)]
      " certificate(s)".toList rfl (by rfl)
      (by simp [Template.IsBraceless, Value.isWritable, h])
      (by simp [Template.plainText, Value.asText])

/-- **Writing a line never fails**, at no verbosity, and writes the note that is left. -/
theorem Leaves.note_eq_ok (h : Leaves line note) (j : Journal) (s : Settings) :
    j.note s line = .ok (j.addNotes s.verbosity [note]) := by
  have hlevel : line.level = note.level.name ∧ Level.ofName? line.level = some note.level := by
    cases h <;> exact ⟨rfl, rfl⟩
  rw [Journal.note, Journal.addNotes, List.filter_cons, List.filter_nil, ← hlevel.1]
  cases s.verbosity.admits line.level with
  | true =>
    simp only [hlevel.2, h.message_eq_ok]
    rfl
  | false => rfl

/-- Whether all notes are left by lines of the engine. -/
def AllLeft (notes : List EngineNote) : Prop := ∀ note ∈ notes, ∃ line, Leaves line note

theorem AllLeft.append {notes more : List EngineNote} (h : AllLeft notes) (hmore : AllLeft more) :
    AllLeft (notes ++ more) :=
  List.forall_mem_append.2 ⟨h, hmore⟩

theorem allLeft_nil : AllLeft [] := List.forall_mem_nil _

theorem Leaves.allLeft (h : Leaves line note) : AllLeft [note] :=
  List.forall_mem_singleton.2 ⟨line, h⟩

theorem allLeft_interpretReply (kind : ErrorKind) (maxLength : Int) (request : WireRequest)
    (reply : WireReply) : AllLeft (interpretReply kind maxLength request reply).notes := by
  cases reply with
  | thrown fault => exact allLeft_nil
  | failed text =>
    rw [interpretReply, WireRequest.method]
    split
    · exact (Leaves.unsubmitted request.url text).allLeft
    · exact (Leaves.unanswered request.url text).allLeft
  | response r =>
    rw [interpretReply, interpret]
    split
    · split <;> exact allLeft_nil
    · split
      · exact allLeft_nil
      · split
        · obtain ⟨status, hstatus, htext⟩ := Value.exists_asText r.status
          rw [← htext]
          exact (Leaves.rejected kind.operation hstatus).allLeft
        · rw [interpretCollection]
          simp only
          split
          · exact allLeft_nil
          · split
            · exact allLeft_nil
            · exact allLeft_nil
            · next cs _ =>
              split
              · exact allLeft_nil
              · obtain ⟨count, hcount, htext⟩ := Value.exists_asText cs.length
                have hleft := (Leaves.received kind.operation hcount).allLeft
                rw [htext] at hleft
                exact hleft

theorem allLeft_exchange {kind : ErrorKind} {maxLength : Int} {notes : List EngineNote}
    {request : WireRequest} {t : Transport} (h : AllLeft notes) :
    AllLeft (exchange kind maxLength notes request t).1.notes :=
  h.append (allLeft_interpretReply _ _ _ _)

/-- **All that the engine writes is filled in from its templates.** -/
theorem allLeft_answer (o : Options) (restricted : Bool) (call : EngineCall) (t : Transport) :
    AllLeft (answer o restricted call t).1.notes := by
  have henroll (action : Action) (r : EngineRequest) (arguments : ModeArguments) :
      AllLeft (enroll o action r arguments t).1.notes := by
    rw [enroll]
    cases body action r with
    | error failure => exact allLeft_nil
    | ok b =>
      have hunlinked : AllLeft (if r.disablePop then [] else [unlinkedNote]) := by
        split
        · exact allLeft_nil
        · exact Leaves.unlinked.allLeft
      obtain ⟨length, hlength, htext⟩ : ∃ length : Value, length.isWritable ∧
          length.asText = lengthText b := by
        cases b with
        | request der => exact Value.exists_asText der.length
        | renewal renewal => exact ⟨.text "N", rfl, rfl⟩
      have hnotes := hunlinked.append
        (Leaves.submitting (url o.segment r.endpoint action.operation) hlength).allLeft
      rw [htext] at hnotes
      simp only
      cases certificateOf arguments with
      | error failure => exact hnotes
      | ok certificate => exact allLeft_exchange hnotes
  cases call with
  | certificate action r arguments =>
    cases arguments with
    | srp login second => exact (Leaves.refused _).allLeft
    | http login => exact henroll action r (.http login)
    | tls certificate key login => exact henroll action r (.tls certificate key login)
  | caCertificates anchors e srp maxLength =>
    cases srp with
    | some login => exact (Leaves.refused _).allLeft
    | none =>
      have hunverified : AllLeft (if (question o anchors e).anchors.isSome then []
          else [⟨.warning, "No trust anchors configured, server identity is not verified"⟩]) := by
        split
        · exact allLeft_nil
        · exact Leaves.unverified.allLeft
      exact allLeft_exchange ((Leaves.asking _).allLeft.append hunverified)

end

end Https

/-! ## The theorem -/

/-- **The verbosity of the engine is seen in the audit trail only.** Two runs over HTTPS of the same
steps, none of which sets the verbosity, with the same replies and at two verbosities, have the same
results after every step, the same clients, with their stores and progress, the same requests sent
and the same records that are not the engine's. The trail of the run at the smaller verbosity is
that of the other one without the notes that it does not let through. Making a client of a
configuration comes to the same as well. And none of the lines that the engine writes fails to be
written, whatever it is filled in with. -/
theorem Session.verbosity_observed (o : Https.Options) (v v' : Verbosity)
    (s : Session Https.Transport) {steps : List (Nat × Step)}
    (hsteps : ∀ x ∈ steps, x.2.setsVerbosity = false) :
    List.Forall₂ (fun r r' => r.1 = r'.1 ∧ r.2.clients = r'.2.clients ∧
        r.2.world.AlikeAt s.world.journal.records v v' r'.2.world)
      ((s.speaking v).trace (Https.engine o) steps) ((s.speaking v').trace (Https.engine o) steps) ∧
    (∀ (t : FileTree) (c : Configuration),
      (Client.ofConfiguration (Https.engine o) t c (s.world.speaking v)).1 =
          (Client.ofConfiguration (Https.engine o) t c (s.world.speaking v')).1 ∧
        (Client.ofConfiguration (Https.engine o) t c (s.world.speaking v)).2.AlikeAt
          s.world.journal.records v v'
          (Client.ofConfiguration (Https.engine o) t c (s.world.speaking v')).2) ∧
    (∀ restricted call t, ∀ note ∈ ((Https.engine o).answer restricted call t).1.notes,
      ∃ line, Https.Leaves line note ∧ ∀ (j : Journal) (settings : Settings),
        j.note settings line = .ok (j.addNotes settings.verbosity [note])) ∧
    (v.IsWithin v' ∨ v'.IsWithin v) := by
  refine ⟨alikeAt_trace v v' s hsteps, fun t c => Client.alikeAt_ofConfiguration v v' t c s.world,
    fun restricted call t note hnote => ?_, v.isWithin_total v'⟩
  obtain ⟨line, hline⟩ := Https.allLeft_answer o restricted call t note hnote
  exact ⟨line, hline, hline.note_eq_ok⟩

/-- A session whose server answers that it is out of order. -/
def sampleOutage : Session Https.Transport :=
  ⟨[sampleClient], { engine := { script := [.response { status := 503 }] } }⟩

/-- A client that asks for the certificates of the authority in vain has four records in its trail,
or two without the notes that are no errors. -/
theorem Session.verbosity_observed_outage :
    (∀ x ∈ [(0, Step.fetch)], x.2.setsVerbosity = false) ∧
    List.Forall₂ (fun r r' => r.1 = r'.1 ∧ r.2.clients = r'.2.clients ∧
        r.2.world.AlikeAt [] .errors .full r'.2.world)
      ((sampleOutage.speaking .errors).trace (Https.engine {}) [(0, .fetch)])
      ((sampleOutage.speaking .full).trace (Https.engine {}) [(0, .fetch)]) ∧
    ((sampleOutage.speaking .errors).run (Https.engine {})
      [(0, .fetch)]).world.journal.records.length = 2 ∧
    ((sampleOutage.speaking .full).run (Https.engine {})
      [(0, .fetch)]).world.journal.records.length = 4 := by
  have hsteps : ∀ x ∈ [(0, Step.fetch)], x.2.setsVerbosity = false := by simp [Step.setsVerbosity]
  exact ⟨hsteps, (verbosity_observed {} .errors .full sampleOutage hsteps).1, by rfl, by rfl⟩

end Enrollment
