import Enrollment.CommandLine.Run
import Enrollment.Proofs.Faults

/-!
# Operations of the command line

When an operation over HTTPS ends in a fault. `CommandLine.Fails` lists the ways: the store of the
configuration cannot be made, a file of the command cannot be loaded, the signing request is of a
version that does not exist, or the client loses track of its petition. An operation that is put off
names a delay that can be written down (`CommandLine.namesDelay_operate`).
-/

namespace Enrollment

/-! ## Steps -/

/-- The steps of commands that end in a fault. -/
inductive Client.Fails (E : Engine σ) (c : Client) (w : World σ) : Step → Prop
  | unread {bytes key mode disablePop}
    (h : SigningRequest.ofOctets bytes = .error (.fault (.cryptographic .unknownVersion))) :
    Fails E c w (.enroll (.plain (.octets bytes)) key mode disablePop)
  | enroll {bytes r key mode disablePop} (hread : SigningRequest.ofOctets bytes = .ok r)
    (h : (Petition.new (.request r)).Untracked E c.store key mode disablePop w.settings w.engine) :
    Fails E c w (.enroll (.plain (.octets bytes)) key mode disablePop)
  | reenroll {old key mode disablePop}
    (h : (Petition.renewal (.certificate old)).Untracked E c.store key mode disablePop
      w.settings w.engine) :
    Fails E c w (.reenroll (.certificate old) key mode disablePop)

section
variable {E : Engine σ} {c : Client} {w : World σ} {key : KeyValue} {mode : ModeValue}
  {disablePop : Bool}

end

/-- Whether something that was put off names a delay that can be written down. -/
def NamesDelay (x : Except Failure α) : Prop :=
  ∀ e, x = .error (.client e) → e.kind = .retryAfter → e.retryAfter.isWritable

/-- Whether something is not put off, whatever it comes to. -/
def IsPrompt (x : Except Failure α) : Prop :=
  ∀ failure, x = .error failure → failure.isDeferral = false

section
variable {α β : Type} {x : Except Failure α} {t : FileTree} {path : Path} {s : Store}

theorem IsPrompt.namesDelay (h : IsPrompt x) : NamesDelay x := by
  intro e he hkind
  exact absurd (decide_eq_true hkind) (Bool.eq_false_iff.1 (h _ he))

theorem NamesDelay.map (h : NamesDelay x) (f : α → β) : NamesDelay (x.map f) :=
  fun e he => h e (map_eq_error_iff.1 he)

theorem IsPrompt.ok (a : α) : IsPrompt (.ok a) := nofun

theorem IsPrompt.map (h : IsPrompt x) (f : α → β) : IsPrompt (x.map f) :=
  fun failure hfailure => h failure (map_eq_error_iff.1 hfailure)

theorem IsPrompt.bind {f : α → Except Failure β} (hx : IsPrompt x) (hf : ∀ a, IsPrompt (f a)) :
    IsPrompt (x >>= f) := by
  intro failure h
  rcases bind_eq_error_iff.1 h with h | ⟨a, -, h⟩
  · exact hx failure h
  · exact hf a failure h

theorem IsPrompt.error {failure : Failure} (h : failure.isDeferral = false) :
    IsPrompt (.error failure : Except Failure α) := by
  rintro _ ⟨⟩
  exact h

theorem isPrompt_loadCertificates : IsPrompt (loadCertificates t path) := by
  rw [loadCertificates]
  split
  · exact .error rfl
  · exact .error rfl
  · split
    · exact .error rfl
    · exact .ok _
    · exact .error rfl
    · next failure hclient _ =>
      cases failure with
      | client e => exact absurd rfl (hclient e)
      | fault f => exact .error rfl

theorem isPrompt_loadPrivateKey : IsPrompt (loadPrivateKey t path) := by
  rw [loadPrivateKey]
  split
  · exact .error rfl
  · split
    · exact .error rfl
    · next fault _ _ =>
      cases fault with
      | unsupported => exact .error rfl
      | _ => exact .error rfl
    · exact .error rfl
    · exact .ok _

theorem Store.isPrompt_setServerName {v : Value} : IsPrompt (s.setServerName v) := by
  cases v with
  | text name =>
    rw [setServerName]
    split
    · exact .error rfl
    · exact .ok _
  | _ => exact .error rfl

theorem Store.isPrompt_setServerPort {v : Value} : IsPrompt (s.setServerPort v) := by
  cases v with
  | int port =>
    rw [setServerPort]
    split
    · exact .ok _
    · exact .error rfl
  | _ => exact .error rfl

theorem Store.isPrompt_setTls {certificate : CertificateValue} {key : PrivateKey} :
    IsPrompt (s.setTls certificate (.secret key)) := by
  rw [setTls]
  split
  · exact .error rfl
  · split
    · exact .ok _
    · exact .error rfl

theorem Store.isPrompt_ofServer {c : Configuration.Server} : IsPrompt (ofServer c) := by
  rw [ofServer]
  split
  · exact .bind (.ok _) fun _ => isPrompt_setServerPort
  · exact .bind (.ok _) fun _ => isPrompt_setServerPort
  · exact .bind isPrompt_setServerName fun _ => isPrompt_setServerPort

theorem Store.isPrompt_withAnchors {file : Option Path} : IsPrompt (s.withAnchors t file) := by
  cases file with
  | none => exact .ok s
  | some path =>
    refine .bind isPrompt_loadCertificates fun cs => .bind (.ok _) fun anchors => ?_
    split
    · exact .error rfl
    · exact .ok _

theorem Store.isPrompt_withTls {files : Option Configuration.TlsFiles} :
    IsPrompt (s.withTls t files) := by
  cases files with
  | none => exact .ok s
  | some files =>
    refine .bind isPrompt_loadCertificates fun cs => ?_
    cases cs with
    | nil => exact .error rfl
    | cons certificate more =>
      exact .bind isPrompt_loadPrivateKey fun key => isPrompt_setTls

theorem Store.isPrompt_withAuth {auth : Option Configuration.Auth} :
    IsPrompt (s.withAuth t auth) := by
  have hlogin (s : Store) (kind : LoginKind) (login : Option Configuration.Password) :
      IsPrompt (s.withLogin kind login) := by
    obtain ⟨s', hs'⟩ := s.exists_withLogin kind login
    rw [hs']
    exact .ok s'
  cases auth with
  | none => exact .ok s
  | some auth => exact .bind (hlogin _ _ _) fun _ => .bind (hlogin _ _ _) fun _ => isPrompt_withTls

/-- A configuration puts nothing off. -/
theorem Store.isPrompt_ofConfiguration {c : Configuration} : IsPrompt (ofConfiguration t c) :=
  .bind isPrompt_ofServer fun _ => .bind isPrompt_withAnchors fun _ => isPrompt_withAuth

end

section
variable {E : Engine σ} {c : Client} {w : World σ} {key : KeyValue} {mode : ModeValue}
  {disablePop : Bool}

/-- A deferral comes out of the conclusion of a call once the trail shows its delay. -/
theorem Concluded.namesDelay {a : Action} {maxLength : Nat}
    {answer : Except Failure (Option Octets)} {o : Outcome σ (Option Certificate)}
    (h : Concluded a maxLength w answer o) : NamesDelay o.result := by
  cases h with
  | empty | issued => exact (IsPrompt.ok _).namesDelay
  | refused _ hfailure =>
    exact (IsPrompt.error (Failure.isDeferral_of_isRefusal hfailure)).namesDelay
  | unreadable | unshown | unrecorded => exact (IsPrompt.error rfl).namesDelay
  | thrown => exact (IsPrompt.error (by cases a <;> rfl)).namesDelay
  | failed hkind =>
    rintro _ ⟨⟩ h
    exact absurd h hkind
  | deferred _ hwritable =>
    rintro _ ⟨⟩ -
    exact hwritable

theorem Petition.Course.namesDelay {s : Store} {p : Petition}
    {o : Outcome σ (Option Certificate)} (h : p.Course E s key mode disablePop w o) :
    NamesDelay o.result := by
  have hrefused {failure : Failure} (h : failure.isRefusal) :
      NamesDelay (.error failure : Except Failure (Option Certificate)) :=
    (IsPrompt.error (Failure.isDeferral_of_isRefusal h)).namesDelay
  cases h with
  | unselected hmode => exact hrefused (Store.isRefusal_of_selectMode hmode)
  | unshown => exact (IsPrompt.error rfl).namesDelay
  | mismatched _ hcheck => exact hrefused (Petition.isRefusal_of_check hcheck)
  | nameless _ _ hsubject =>
    exact (IsPrompt.error (Failure.not_isDeferral_of_isLocal
      (Petition.isLocal_of_subject hsubject))).namesDelay
  | unprepared _ _ _ hcall => exact hrefused (Store.isRefusal_of_prepare hcall)
  | called _ _ _ _ hend => exact hend.namesDelay

theorem Client.namesDelay_request {p : Petition} :
    NamesDelay (c.request E p key mode disablePop w).1 :=
  (c.course_petition E p key mode disablePop _).namesDelay.map _

/-- A plain engine names its delays, and what it wrote itself can be read. -/
theorem namesDelay_concludeFetch {server : String} {maxLength : Nat}
    {answer : Except Failure (Option Octets)}
    (hplain : ∀ failure, answer = .error failure → failure.isPlain)
    (hdata : ∀ data, answer = .ok data → ∃ cs : List Certificate,
      data = some (cs.flatMap Certificate.toPem)) :
    NamesDelay (concludeFetch server maxLength answer w).1 := by
  cases answer with
  | error failure =>
    obtain ⟨journal, hrecord⟩ := w.recordFailure_eq_ok caOperation
      (Failure.not_isStated_of_isPlain (hplain failure rfl))
    cases failure with
    | client e =>
      simp only [concludeFetch, hrecord]
      rintro _ ⟨⟩ -
      exact Failure.isWritable_of_isPlain (hplain _ rfl)
    | fault f =>
      simp only [concludeFetch, hrecord]
      exact (IsPrompt.error rfl).namesDelay
  | ok data =>
    obtain ⟨cs, rfl⟩ := hdata data rfl
    rw [concludeFetch]
    simp only [Option.getD_some, ofStream_flatMap_toPem]
    split
    · exact (IsPrompt.ok _).namesDelay
    · split
      · exact (IsPrompt.error rfl).namesDelay
      · exact (IsPrompt.ok cs).namesDelay

theorem Client.namesDelay_fetch {o : Https.Options} {w : World Https.Transport} :
    NamesDelay (c.step (Https.engine o) .fetch w).1 := by
  refine NamesDelay.map (x := (c.store.fetch (Https.engine o) _).1) ?_ _
  rw [Store.fetch]
  simp only
  split
  · exact (IsPrompt.error rfl).namesDelay
  · split
    · next failure hanchors =>
      exact (IsPrompt.error (Failure.isDeferral_of_isRefusal
        (Bundle.isRefusal_of_ofAnchors hanchors))).namesDelay
    · exact namesDelay_concludeFetch (fun _ => Https.engine_isPlain o _ _ _ _)
        fun _ => Https.answer_eq_ok

theorem Client.namesDelay_enroll {request : RequestValue} :
    NamesDelay (c.step E (.enroll request key mode disablePop) w).1 := by
  cases hread : request.toObject with
  | error failure =>
    rw [step_enroll_unread hread]
    exact (IsPrompt.error (Failure.not_isDeferral_of_isLocal
      (RequestValue.isLocal_of_toObject hread))).namesDelay
  | ok object =>
    rw [step_enroll_read hread]
    exact namesDelay_request

end

namespace CommandLine

/-! ## Files of commands -/

/-- The file of the key that a command goes by. -/
def Operation.key? : Operation → Option Path
  | .fetch => none
  | .enroll _ key _ _ | .renew _ key _ _ => some key

/-- The commands one of whose files makes its reader fail with a fault: a key on a curve that is not
known, a request in a file whose path has a NUL, or a certificate in a file that cannot be
loaded. -/
inductive Operation.Unloadable (t : FileTree) : Operation → Prop
  | key {operation key} (hkey : operation.key? = some key) (h : ForeignKey t key) :
    Unloadable t operation
  | enroll {request key mode disablePop k} (hkey : loadPrivateKey t key = .ok k)
    (h : request.hasNul) : Unloadable t (.enroll request key mode disablePop)
  | renew {certificate key mode disablePop k} (hkey : loadPrivateKey t key = .ok k)
    (h : Enrollment.Unloadable t certificate) :
    Unloadable t (.renew certificate key mode disablePop)

section
variable {s : Setting} {c : Configuration} {operation : Operation} {step : Step}

/-- The files of a command put nothing off. -/
theorem isPrompt_stepOf : IsPrompt (stepOf s c operation) := by
  cases operation with
  | fetch => exact .ok _
  | enroll request key mode disablePop =>
    refine .bind isPrompt_loadPrivateKey fun k => ?_
    split
    · exact .ok _
    · exact .error rfl
    · exact .error rfl
  | renew certificate key mode disablePop =>
    refine .bind isPrompt_loadPrivateKey fun k => .bind isPrompt_loadCertificates fun cs => ?_
    cases cs with
    | nil => exact .error rfl
    | cons old more => exact .ok _

/-- The step of a command fetches, enrols with the octets of a file, or renews a certificate. -/
theorem stepOf_eq_ok (h : stepOf s c operation = .ok step) : step = .fetch ∨
    (∃ bytes key mode disablePop,
      step = .enroll (.plain (.octets bytes)) key mode disablePop) ∨
    ∃ old key mode disablePop, step = .reenroll (.certificate old) key mode disablePop := by
  cases operation with
  | fetch => exact .inl (Except.ok.inj h).symm
  | enroll request key mode disablePop =>
    obtain ⟨k, -, h⟩ := bind_eq_ok_iff.1 h
    cases hread : readFile s.files request with
    | ok bytes =>
      rw [hread] at h
      exact .inr (.inl ⟨bytes, _, _, _, (Except.ok.inj h).symm⟩)
    | error fault =>
      rw [hread] at h
      cases fault <;> cases h
  | renew certificate key mode disablePop =>
    obtain ⟨k, -, h⟩ := bind_eq_ok_iff.1 h
    obtain ⟨certificates, -, h⟩ := bind_eq_ok_iff.1 h
    cases certificates with
    | nil => cases h
    | cons old more => exact .inr (.inr ⟨old, _, _, _, (Except.ok.inj h).symm⟩)

end

/-! ## Operations -/

/-- The operations over HTTPS that end in a fault. -/
inductive Fails (o : Https.Options) (s : Setting) (c : Configuration) (a : Arguments)
    (w : World Https.Transport) : Prop
  | store (hfips : c.engine.fips → Https.restrict o = .ok ()) (h : Store.Unmakeable s.files c)
  | files {made w'} (hclient : client (Https.engine o) s c a w = (.ok made, w'))
    (h : a.operation.Unloadable s.files)
  | step {made w' step} (hclient : client (Https.engine o) s c a w = (.ok made, w'))
    (hstep : stepOf s c a.operation = .ok step) (h : made.Fails (Https.engine o) w' step)

section
variable {o : Https.Options} {s : Setting} {c : Configuration} {a : Arguments}
  {w w' : World Https.Transport} {made : Client}

theorem isRefusal_of_restrict {failure : Failure} (h : Https.restrict o = .error failure) :
    failure.isRefusal := by
  rw [Https.restrict] at h
  split at h
  · cases h; rfl
  · split at h
    · cases h
    · cases h; rfl

/-- That the host does not restrict its cryptography can be recorded. -/
theorem enableFips_eq : (w.enableFips (Https.engine o)).1 = Https.restrict o := by
  rw [World.enableFips, Https.engine]
  simp only
  cases hrestrict : Https.restrict o with
  | ok => rfl
  | error failure =>
    obtain ⟨journal, hrecord⟩ := w.recordFailure_eq_ok "enable_fips"
      (Failure.not_isStated_of_isRefusal (isRefusal_of_restrict hrestrict))
    simp only [hrecord]
    split <;> rfl

/-- Making a client puts nothing off. -/
theorem isPrompt_client : IsPrompt (client (Https.engine o) s c a w).1 := by
  have hmade : IsPrompt (Client.ofConfiguration (Https.engine o) s.files c w).1 := by
    have hstore := (Store.isPrompt_ofConfiguration (t := s.files) (c := c)).map
      fun store => ({ store } : Client)
    rw [Client.ofConfiguration]
    cases hfips : c.engine.fips with
    | false => exact hstore
    | true =>
      simp only [↓reduceIte, enableFips_eq]
      cases hrestrict : Https.restrict o with
      | ok => exact hstore
      | error failure =>
        exact .error (Failure.isDeferral_of_isRefusal (isRefusal_of_restrict hrestrict))
  refine hmade.bind fun made => ?_
  cases a.port with
  | none =>
    have hset (store : Store) : IsPrompt (.ok (made.withStore store)) := .ok _
    simp only
    split
    · exact hset made.store
    · exact hset made.store
    · exact Store.isPrompt_setServerName.bind hset
  | some port =>
    have hset (store : Store) := (store.isPrompt_setServerPort (v := .int port)).bind
      fun store => IsPrompt.ok (made.withStore store)
    simp only
    split
    · exact hset made.store
    · exact hset made.store
    · exact Store.isPrompt_setServerName.bind hset

/-- **An operation that is put off names a delay that can be written down.** -/
theorem namesDelay_operate : NamesDelay (operate (Https.engine o) s c a w).1 := by
  rw [operate]
  split
  · next failure w' hclient =>
    have hprompt : IsPrompt (client (Https.engine o) s c a w).1 := isPrompt_client
    rw [hclient] at hprompt
    exact (IsPrompt.error (hprompt failure rfl)).namesDelay
  · split
    · next failure hstep =>
      exact (IsPrompt.error (isPrompt_stepOf failure hstep)).namesDelay
    · next step hstep =>
      refine NamesDelay.map ?_ _
      rcases stepOf_eq_ok hstep with rfl | ⟨_, _, _, _, rfl⟩ | ⟨_, _, _, _, rfl⟩
      · exact Client.namesDelay_fetch
      · exact Client.namesDelay_enroll
      · exact Client.namesDelay_request

end

end CommandLine

end Enrollment
