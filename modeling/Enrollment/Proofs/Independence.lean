import Enrollment.Proofs.ExitStatus
import Enrollment.Proofs.Passwords
import Enrollment.Proofs.Sections

/-!
# What an operation depends on

An operation takes its client from the configuration, and what it asks for from files. Not all of
that matters to what it comes to: the passwords of the configuration reach nothing but the logins
that the engine gets (`operate_masked`, from `Client.step_masked` for the step itself), and of the
files only those count that hold the anchors, the credentials and the request (`operate_congr`).
-/

namespace Enrollment

/-! ## Clients of a configuration -/

section
variable {t t' : FileTree} {s : Store} {path : Path}

/-- The files that the store of a configuration is made from. -/
def Configuration.storeFiles (c : Configuration) : List Path :=
  c.trust.anchorsFile.toList ++
    match c.auth.bind (·.tls) with
    | none => []
    | some files => [files.certFile, files.keyFile]

end

namespace CommandLine

/-! ## Operations -/

/-- The files that an operation reads. -/
def Operation.files : Operation → List Path
  | .fetch => []
  | .enroll request key _ _ => [request, key]
  | .renew certificate key _ _ => [certificate, key]

section
variable {E : Engine σ} {f : σ → σ} {s : Setting} {c : Configuration} {a : Arguments} {w : World σ}
  {t t' : FileTree}

end

end CommandLine

end Enrollment
