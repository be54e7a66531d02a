import Enrollment.Proofs.Operation
import Enrollment.Proofs.Records

/-!
# Correlation ids

The operations of a session tell their records apart by correlation ids. An operation draws an id
that no other operation has, all that is recorded until it ends carries that id, however it ends,
and no id is at hand after it; what is recorded outside of operations carries a hyphen
(`Session.correlated_run`). The records of an error carry its details too, but none of the client's
own errors has a detail that would take the place of the id (`Failure.mem_ownFields`), so the
engine of the session is one that fails in the client's words.
-/

namespace Enrollment

/-! ## Ids -/

/-- The value of a hexadecimal digit. -/
def hexDigitValue (c : Char) : Nat := if c.toNat < 97 then c.toNat - 48 else c.toNat - 87

/-- The number that hexadecimal digits spell. -/
def hexValue (digits : List Char) : Nat := digits.foldl (fun n c => 16 * n + hexDigitValue c) 0

theorem hexDigitValue_digitChar {d : Nat} (h : d < 16) : hexDigitValue d.digitChar = d := by
  have hall : ∀ d : Fin 16, hexDigitValue d.val.digitChar = d := by decide
  exact hall ⟨d, h⟩

theorem hexValue_append_singleton (digits : List Char) (c : Char) :
    hexValue (digits ++ [c]) = 16 * hexValue digits + hexDigitValue c := by
  simp only [hexValue, List.foldl_append, List.foldl_cons, List.foldl_nil]

/-- The digits of a number spell it. -/
theorem hexValue_toDigits (n : Nat) : hexValue (Nat.toDigits 16 n) = n := by
  induction n using Nat.strongRecOn with
  | ind n ih =>
    by_cases hn : n < 16
    · rw [Nat.toDigits_of_lt_base hn]
      simp [hexValue, hexDigitValue_digitChar hn]
    · rw [Nat.toDigits_of_base_le (by omega) (by omega), hexValue_append_singleton,
        ih (n / 16) (by omega), hexDigitValue_digitChar (Nat.mod_lt n (by omega))]
      omega

/-- Zeros in front do not change what digits spell. -/
theorem hexValue_zeros_append (k : Nat) (digits : List Char) :
    hexValue (List.replicate k '0' ++ digits) = hexValue digits := by
  induction k with
  | zero => rfl
  | succ k ih => exact ih

namespace Journal

theorem twelveDigits_injective {m n : Nat} (h : twelveDigits m = twelveDigits n) : m = n := by
  have hdigits := congrArg hexValue (String.ofList_inj.1 h)
  rwa [hexValue_zeros_append, hexValue_zeros_append, hexValue_toDigits, hexValue_toDigits]
    at hdigits

/-- What every id begins with. -/
def idFront : String := "00000000-0000-0000-0000-"

theorem correlationId_eq (n : Nat) : correlationId n = idFront ++ twelveDigits n := rfl

/-- No two numbers have the same id. -/
theorem correlationId_injective {m n : Nat} (h : correlationId m = correlationId n) : m = n := by
  rw [correlationId_eq, correlationId_eq] at h
  exact twelveDigits_injective ((String.append_right_inj idFront).1 h)

/-- An id is neither empty nor a hyphen. -/
theorem correlationId_ne {n : Nat} {id : String} (h : id.length ≤ 1) : correlationId n ≠ id := by
  have hfront : idFront.length = 24 := rfl
  rintro rfl
  rw [correlationId_eq, String.length_append, hfront] at h
  omega

end Journal

/-! ## Records that carry an id -/

/-- Whether a record carries a correlation id. -/
def Record.Carries (r : Record) (id : String) : Prop :=
  r.fields.get? "correlation_id" = some (.text id)

section
variable {id context : String} {failure final out : Failure} {rs : List Record}

/-- The details of a failure in the client's words leave the id alone. -/
theorem Failure.correlation_notMem (h : failure.isStated = false) :
    "correlation_id" ∉ (("context", Value.text context) :: failure.auditFields).map Prod.fst := by
  rw [List.map_cons, List.mem_cons, not_or]
  have hother : "correlation_id" ≠ "context" := by decide
  exact ⟨hother, fun hmem => absurd (mem_ownFields h _ hmem) (by decide)⟩

theorem Reported.carries (h : Reported id context failure final out rs)
    (hstated : failure.isStated = false) : ∀ r ∈ rs, r.Carries id := by
  obtain ⟨-, r, rfl, hr⟩ := h.eq_of_not_isStated hstated
  exact List.forall_mem_singleton.2 (hr.correlation (Failure.correlation_notMem hstated))

theorem Journal.carries_noteRecords {j : Journal} {v : Verbosity} {notes : List EngineNote} :
    ∀ r ∈ j.noteRecords v notes, r.Carries j.shownCorrelation :=
  fun _ hr => (tells_of_mem_noteRecords hr).correlation (by simp)

theorem Closing.carries {a : Action} {answer : Except Failure (Option Octets)}
    {result : Except Failure (Option Certificate)} (h : Closing id a answer result rs)
    (hplain : ∀ failure, answer = .error failure → failure.isStated = false) :
    ∀ r ∈ rs, r.Carries id := by
  cases h with
  | nothing hr | received _ hr | deferred _ _ hr =>
    exact List.forall_mem_singleton.2 (hr.correlation (by simp))
  | refused hfailure hr =>
    have hstated := Failure.not_isStated_of_isRefusal hfailure
    exact List.forall_mem_singleton.2 (hr.correlation (Failure.correlation_notMem hstated))
  | unread | unshown => nofun
  | raised _ hreported => exact hreported.carries (hplain _ rfl)

theorem FetchClosing.carries {answer : Except Failure (Option Octets)}
    {result : Except Failure (List Certificate)} (h : FetchClosing id answer result rs)
    (hplain : ∀ failure, answer = .error failure → failure.isStated = false) :
    ∀ r ∈ rs, r.Carries id := by
  cases h with
  | nothing hr | received hr => exact List.forall_mem_singleton.2 (hr.correlation (by simp))
  | unreported => nofun
  | raised hreported => exact hreported.carries (hplain _ rfl)

end

/-! ## Engines -/

/-- An engine whose failures are in the client's words, as long as its state is one of `S`, which
it never leaves. -/
structure Engine.PlainOn (E : Engine σ) (S : σ → Prop) : Prop where
  state : ∀ restricted call t, S t → S (E.answer restricted call t).2
  answer : ∀ restricted call t, S t → ∀ failure,
    (E.answer restricted call t).1.result = .error failure → failure.isStated = false
  restrict : ∀ t, S t → ∀ failure, E.restrict t = .error failure → failure.isStated = false

/-- The HTTPS engine does not state errors of its own. -/
theorem Https.engine_plainOn (o : Https.Options) : (Https.engine o).PlainOn fun _ => True where
  state _ _ _ _ := trivial
  answer _ _ _ _ _ h := Failure.not_isStated_of_isPlain (Https.isPlain_of_answer h)
  restrict _ _ _ h := Failure.not_isStated_of_isRefusal (CommandLine.isRefusal_of_restrict h)

section
variable {E : Engine σ} {S : σ → Prop} {w : World σ} {calls : List EngineCall} {engine : σ}
  {rs : List Record}

theorem Petition.Trail.carries {s : Store} {p : Petition} {key : KeyValue} {asked : ModeValue}
    {disablePop : Bool} {result : Except Failure (Option Certificate)}
    (h : p.Trail E s key asked disablePop w calls result engine rs) (hplain : E.PlainOn S)
    (hengine : S w.engine) : S engine ∧ ∀ r ∈ rs, r.Carries w.journal.shownCorrelation := by
  cases h with
  | refused _ hr => exact ⟨hengine, List.forall_mem_singleton.2 (hr.correlation (by simp))⟩
  | unshown | unsent => exact ⟨hengine, nofun⟩
  | called _ _ _ _ hr hclosing =>
    refine ⟨hplain.state _ _ _ hengine, List.forall_mem_cons.2 ⟨hr.correlation (by simp), ?_⟩⟩
    exact List.forall_mem_append.2
      ⟨Journal.carries_noteRecords, hclosing.carries (hplain.answer _ _ _ hengine)⟩

theorem Store.FetchTrail.carries {s : Store} {result : Except Failure (List Certificate)}
    (h : s.FetchTrail E w calls result engine rs) (hplain : E.PlainOn S) (hengine : S w.engine) :
    S engine ∧ ∀ r ∈ rs, r.Carries w.journal.shownCorrelation := by
  cases h with
  | refused _ hr => exact ⟨hengine, List.forall_mem_singleton.2 (hr.correlation (by simp))⟩
  | unsent => exact ⟨hengine, nofun⟩
  | called _ _ _ hclosing =>
    exact ⟨hplain.state _ _ _ hengine, List.forall_mem_append.2
      ⟨Journal.carries_noteRecords, hclosing.carries (hplain.answer _ _ _ hengine)⟩⟩

end

/-! ## Steps -/

/-- Whether a step is an operation: the certificates of the authority are fetched, or a certificate
is asked for, with a request that can be read. -/
def Step.isOperation : Step → Bool
  | .enroll request _ _ _ => request.toObject.isOk
  | .reenroll .. | .fetch => true
  | _ => false

/-- The id that is at hand during a step, if it is an operation. -/
def World.operationId (w : World σ) (step : Step) : Option String :=
  if step.isOperation then some w.opened.journal.correlation else none

/-- What the records `rs` that a world has got have to do with the id that was at hand. -/
structure World.Correlates (S : σ → Prop) (w : World σ) (id : Option String) (w' : World σ)
    (rs : List Record) : Prop where
  engine : S w'.engine
  cleared : w'.journal.correlation = ""
  drawn : w'.journal.drawn = w.journal.drawn + id.toList.length
  fresh : ∀ i ∈ id, i = Journal.correlationId (w.journal.drawn + 1)
  records : w'.journal.records = w.journal.records ++ rs
  carries : ∀ r ∈ rs, r.Carries (id.getD "-")

section
variable {E : Engine σ} {S : σ → Prop} {c : Client} {w : World σ} {step : Step} {engine : σ}
  {rs : List Record}

theorem World.shownCorrelation_opened :
    w.opened.journal.shownCorrelation = w.opened.journal.correlation :=
  if_neg (Journal.correlationId_ne (by decide))

/-- At the end of an operation no id is at hand. -/
theorem World.correlates_ended (h : step.isOperation = true) (hengine : S engine)
    (hrs : ∀ r ∈ rs, r.Carries w.opened.journal.shownCorrelation) :
    w.Correlates S (w.operationId step) (w.ended engine rs) rs := by
  rw [operationId, if_pos h]
  rw [shownCorrelation_opened] at hrs
  refine ⟨hengine, rfl, rfl, ?_, rfl, hrs⟩
  rintro _ ⟨⟩
  rfl

/-- Outside of operations, records carry a hyphen. -/
theorem World.correlates_logged {w' : World σ} (h : step.isOperation = false)
    (hengine : S w'.engine) (hclear : w.journal.correlation = "")
    (hjournal : w'.journal = w.journal.addAll rs)
    (hrs : ∀ r ∈ rs, r.Carries w.journal.shownCorrelation) :
    w.Correlates S (w.operationId step) w' rs := by
  have hshown : w.journal.shownCorrelation = "-" := if_pos hclear
  rw [operationId, if_neg (by simp [h])]
  rw [hshown] at hrs
  exact ⟨hengine, by rw [hjournal]; exact hclear, by rw [hjournal]; rfl, nofun,
    by rw [hjournal]; rfl, hrs⟩

/-- A change of settings is recorded under the id that is at hand, if it is recorded. -/
theorem World.exists_changed (settings : Settings) (setting : String) (value : Value) :
    ∃ rs, (∀ r ∈ rs, Record.Carries r w.journal.shownCorrelation) ∧
      (w.changed settings setting value).2 =
        { w with settings, journal := w.journal.addAll rs } := by
  rw [changed, Journal.settingsChanged]
  cases value.isWritable with
  | true =>
    exact ⟨[_], List.forall_mem_singleton.2 ((Record.tells_write ..).correlation (by simp)), rfl⟩
  | false => exact ⟨[], List.forall_mem_nil _, by rw [Journal.addAll_nil]; rfl⟩

/-- **A step and its id**, however it ends. -/
theorem Client.correlates_step (hplain : E.PlainOn S) (hengine : S w.engine)
    (hclear : w.journal.correlation = "") :
    ∃ rs, w.Correlates S (w.operationId step) (c.step E step w).2.2 rs := by
  have hidle {w' : World σ} (h : step.isOperation = false) (hw' : w' = w) :
      ∃ rs, w.Correlates S (w.operationId step) w' rs := by
    subst hw'
    exact ⟨[], World.correlates_logged h hengine hclear Journal.addAll_nil.symm nofun⟩
  have hchanged {settings : Settings} {setting : String} {value : Value}
      (h : step.isOperation = false) :
      ∃ rs, w.Correlates S (w.operationId step) (w.changed settings setting value).2 rs := by
    obtain ⟨rs, hrs, hworld⟩ := w.exists_changed settings setting value
    rw [hworld]
    exact ⟨rs, World.correlates_logged h hengine hclear rfl hrs⟩
  have hrequest {p : Petition} {key : KeyValue} {asked : ModeValue} {disablePop : Bool}
      (h : step.isOperation = true) :
      ∃ rs, w.Correlates S (w.operationId step) (c.request E p key asked disablePop w).2.2 rs := by
    obtain ⟨_, _, engine, rs, htrail, -, hworld⟩ := c.trail_request E p key asked disablePop w
    obtain ⟨hafter, hrs⟩ := htrail.carries hplain hengine
    rw [hworld]
    exact ⟨rs, World.correlates_ended h hafter hrs⟩
  cases step with
  | enroll request key asked disablePop =>
    cases hread : request.toObject with
    | error failure =>
      refine hidle ?_ (by rw [step_enroll_unread hread])
      rw [Step.isOperation, hread]
      rfl
    | ok object =>
      rw [step_enroll_read hread]
      refine hrequest ?_
      rw [Step.isOperation, hread]
      rfl
  | reenroll old key asked disablePop => exact hrequest rfl
  | fetch =>
    obtain ⟨_, _, engine, rs, htrail, -, hworld⟩ := c.fetchTrail_step E w
    obtain ⟨hafter, hrs⟩ := htrail.carries hplain hengine
    rw [hworld]
    exact ⟨rs, World.correlates_ended rfl hafter hrs⟩
  | setMaxLength v =>
    simp only [Client.step, World.setMaxLength]
    cases w.settings.setMaxLength v with
    | ok settings => exact hchanged rfl
    | error failure => exact hidle rfl rfl
  | setVerbosity v =>
    cases v with
    | verbosity x => exact hchanged rfl
    | plain v =>
      simp only [Client.step, World.setVerbosity]
      cases Verbosity.ofValue? v with
      | some x => exact hchanged rfl
      | none => exact hidle rfl rfl
  | enableFips =>
    simp only [Client.step, World.enableFips]
    cases hrestrict : E.restrict w.engine with
    | ok _ => exact hchanged rfl
    | error failure =>
      simp only
      split
      · have hstated := hplain.restrict _ hengine _ hrestrict
        rcases w.recordFailure_eq "enable_fips" failure failure with
          ⟨r, hreported, hrecord⟩ | ⟨fault, hreported, hrecord⟩
        · simp only [hrecord]
          exact ⟨[r], World.correlates_logged rfl hengine hclear rfl (hreported.carries hstated)⟩
        · obtain ⟨-, r, hnil, -⟩ := hreported.eq_of_not_isStated hstated
          cases hnil
      · exact hidle rfl rfl
  | _ => exact hidle rfl rfl

end

/-! ## Sessions -/

/-- What is recorded during a step, and the id of the operation, if the step is one. -/
structure Episode where
  id : Option String
  records : List Record

namespace Session

/-- The id of a step: without a client there is no operation. -/
def operationId (s : Session σ) (n : Nat) (step : Step) : Option String :=
  s.clients[n]?.bind fun _ => s.world.operationId step

/-- The episode of a step: its records are those that were not there before. -/
def episode (E : Engine σ) (s : Session σ) (n : Nat) (step : Step) : Episode where
  id := s.operationId n step
  records := (s.step E n step).2.world.journal.records.drop s.world.journal.records.length

/-- The episodes of a run. -/
def episodes (E : Engine σ) (s : Session σ) : List (Nat × Step) → List Episode
  | [] => []
  | (n, step) :: more => s.episode E n step :: (s.step E n step).2.episodes E more

/-- The ids of the operations of a run. -/
def operationIds (E : Engine σ) (s : Session σ) (steps : List (Nat × Step)) : List String :=
  (s.episodes E steps).filterMap Episode.id

/-- What holds of the correlation ids of a run. -/
structure Correlated (E : Engine σ) (s : Session σ) (steps : List (Nat × Step)) : Prop where
  /-- No id is at hand at its end. -/
  cleared : (s.run E steps).world.journal.correlation = ""
  /-- Its records are those of its episodes. -/
  records : (s.run E steps).world.journal.records =
    s.world.journal.records ++ (s.episodes E steps).flatMap Episode.records
  /-- All records of an episode carry its id, or a hyphen if it is no operation. -/
  carries : ∀ episode ∈ s.episodes E steps, ∀ r ∈ episode.records,
    r.Carries (episode.id.getD "-")
  /-- No two operations share an id. -/
  distinct : (s.operationIds E steps).Nodup
  /-- The id of an operation is not taken for none. -/
  proper : ∀ id ∈ s.operationIds E steps, id ≠ "" ∧ id ≠ "-"

section
variable {E : Engine σ} {S : σ → Prop} {s : Session σ}

/-- A step of a session and its id. -/
theorem correlates_step (hplain : E.PlainOn S) (hengine : S s.world.engine)
    (hclear : s.world.journal.correlation = "") (n : Nat) (step : Step) :
    s.world.Correlates S (s.operationId n step) (s.step E n step).2.world
      (s.episode E n step).records := by
  have hepisode {rs : List Record}
      (h : (s.step E n step).2.world.journal.records = s.world.journal.records ++ rs) :
      (s.episode E n step).records = rs := by
    rw [episode, h, List.drop_left]
  cases hclient : s.clients[n]? with
  | none =>
    have hstep : (s.step E n step).2 = s := by simp only [Session.step, hclient]
    have hnothing : (s.episode E n step).records = [] :=
      hepisode (by rw [hstep, List.append_nil])
    rw [hnothing, operationId, hclient, hstep]
    exact ⟨hengine, hclear, rfl, fun _ hid => absurd hid (Option.not_mem_none _),
      (List.append_nil _).symm, fun _ hr => absurd hr List.not_mem_nil⟩
  | some c =>
    have hstep : (s.step E n step).2.world = (c.step E step s.world).2.2 := by
      simp only [Session.step, hclient]
    obtain ⟨rs, h⟩ : ∃ rs, s.world.Correlates S (s.world.operationId step)
        (c.step E step s.world).2.2 rs := c.correlates_step hplain hengine hclear
    rw [hepisode (by rw [hstep, h.records]), operationId, hclient, hstep]
    exact h

/-- The ids that a run draws come after those that were drawn before it. -/
theorem correlated_and_fresh (hplain : E.PlainOn S) (steps : List (Nat × Step))
    (hengine : S s.world.engine) (hclear : s.world.journal.correlation = "") :
    s.Correlated E steps ∧ ∀ id ∈ s.operationIds E steps,
      ∃ k, s.world.journal.drawn < k ∧ id = Journal.correlationId k := by
  induction steps generalizing s with
  | nil => exact ⟨⟨hclear, (List.append_nil _).symm, nofun, .nil, nofun⟩, nofun⟩
  | cons entry more ih =>
    obtain ⟨n, step⟩ := entry
    have hstep := correlates_step hplain hengine hclear n step
    obtain ⟨hmore, hfresh⟩ := ih hstep.engine hstep.cleared
    have hrecords : (s.run E ((n, step) :: more)).world.journal.records =
        s.world.journal.records ++
          (s.episodes E ((n, step) :: more)).flatMap Episode.records := by
      rw [run, hmore.records, hstep.records, episodes, List.flatMap_cons, List.append_assoc]
    have hcarries : ∀ episode ∈ s.episodes E ((n, step) :: more), ∀ r ∈ episode.records,
        r.Carries (episode.id.getD "-") :=
      List.forall_mem_cons.2 ⟨hstep.carries, hmore.carries⟩
    have hproper {k : Nat} : Journal.correlationId k ≠ "" ∧ Journal.correlationId k ≠ "-" :=
      ⟨Journal.correlationId_ne (by decide), Journal.correlationId_ne (by decide)⟩
    cases hid : s.operationId n step with
    | none =>
      have hids : s.operationIds E ((n, step) :: more) =
          (s.step E n step).2.operationIds E more := List.filterMap_cons_none hid
      have hdrawn : (s.step E n step).2.world.journal.drawn = s.world.journal.drawn := by
        rw [hstep.drawn, hid]
        rfl
      rw [hdrawn, ← hids] at hfresh
      exact ⟨⟨hmore.cleared, hrecords, hcarries, hids ▸ hmore.distinct, hids ▸ hmore.proper⟩,
        hfresh⟩
    | some id =>
      have hids : s.operationIds E ((n, step) :: more) =
          id :: (s.step E n step).2.operationIds E more := List.filterMap_cons_some hid
      have hdrawn : (s.step E n step).2.world.journal.drawn = s.world.journal.drawn + 1 := by
        rw [hstep.drawn, hid]
        rfl
      have hfirst : id = Journal.correlationId (s.world.journal.drawn + 1) := hstep.fresh id hid
      rw [hdrawn] at hfresh
      have hnew : id ∉ (s.step E n step).2.operationIds E more := by
        intro hmem
        obtain ⟨k, hk, hsame⟩ := hfresh id hmem
        have hnumber := Journal.correlationId_injective (hfirst.symm.trans hsame)
        omega
      refine ⟨⟨hmore.cleared, hrecords, hcarries, ?_, ?_⟩, ?_⟩
      · rw [hids]
        exact List.nodup_cons.2 ⟨hnew, hmore.distinct⟩
      · rw [hids]
        refine List.forall_mem_cons.2 ⟨?_, hmore.proper⟩
        rw [hfirst]
        exact hproper
      · rw [hids]
        refine List.forall_mem_cons.2 ⟨⟨_, Nat.lt_succ_self _, hfirst⟩, ?_⟩
        intro later hlater
        obtain ⟨k, hk, hsame⟩ := hfresh later hlater
        exact ⟨k, by omega, hsame⟩

/-- **The correlation ids of a session**, whatever its clients do and however it ends, if its
engine fails in the client's words. -/
theorem correlated_run (hplain : E.PlainOn S) (hengine : S s.world.engine)
    (hclear : s.world.journal.correlation = "") (steps : List (Nat × Step)) :
    s.Correlated E steps :=
  (correlated_and_fresh hplain steps hengine hclear).1

end

/-- Three operations of two clients, in the midst of other steps. -/
theorem correlated_run_waiting :
    (Https.engine {}).PlainOn (fun _ => True) ∧ waitingClients.world.journal.correlation = "" ∧
    waitingClients.operationIds (Https.engine {}) ((0, Https.sampleStep) :: sampleMeanwhile) =
      ["00000000-0000-0000-0000-000000000001", "00000000-0000-0000-0000-000000000002",
        "00000000-0000-0000-0000-000000000003"] ∧
    waitingClients.Correlated (Https.engine {}) ((0, Https.sampleStep) :: sampleMeanwhile) :=
  ⟨Https.engine_plainOn {}, rfl, by decide +kernel,
    correlated_run (Https.engine_plainOn {}) trivial rfl _⟩

end Session

end Enrollment
