import Enrollment.Proofs.Calls
import Enrollment.Proofs.Results
import Enrollment.Proofs.Stores

/-!
# Clients from configurations

What a configuration says is checked twice: as data, by `Configuration.ofValue`, and value by value
when a client is made from it, by the setters of its store. The second check refuses nothing that
the first one accepts but a host of blanks and what the configured files hold
(`Store.ofConfiguration_eq_ok_iff`). So a client that is made holds what was configured, and the
configured mode can be used with it (`Client.configured`).
-/

namespace Enrollment

namespace Configuration

section
variable {α : Type} {v : Value}

end

/-! ## What is configured -/

section
variable {c : Server}

end

/-- The login of a user name and a password. -/
def Password.login (p : Password) : Login := ⟨p.username, p.password⟩

/-- The file at a path holds certificates, and nothing is wrong with it. -/
def FileHolds (t : FileTree) (path : Path) (cs : List Certificate) : Prop :=
  cs ≠ [] ∧ ∃ bytes, readFile t path = .ok bytes ∧ Reading.ofStream bytes = ⟨cs, none⟩

section
variable {c : Configuration} {t : FileTree} {s : Store} {auth : Auth} {mode : AuthMode}

end

end Configuration

/-! ## Making a store -/

section
variable {t : FileTree} {s s' : Store}

theorem Reading.toExcept_eq_ok_iff {r : Reading} {cs : List Certificate} :
    r.toExcept = .ok cs ↔ r = ⟨cs, none⟩ := by
  obtain ⟨found, failure⟩ := r
  cases failure with
  | none => simp [toExcept]
  | some failure => simp [toExcept]

theorem loadCertificates_eq_ok_iff {path : Path} {cs : List Certificate} :
    loadCertificates t path = .ok cs ↔ Configuration.FileHolds t path cs := by
  constructor
  · intro h
    rw [loadCertificates] at h
    split at h
    · cases h
    · cases h
    · next bytes hread =>
      split at h
      · cases h
      · next certificates hne hreading =>
        cases h
        exact ⟨hne, bytes, hread, Reading.toExcept_eq_ok_iff.1 hreading⟩
      · cases h
      · cases h
  · rintro ⟨hne, bytes, hread, hreading⟩
    simp only [loadCertificates, hread, Reading.toExcept_eq_ok_iff.2 hreading]

end

/-! ## Making a client -/

namespace Client

/-- The client that a configuration asks for, with an HTTPS engine of its own. -/
def ofOwnEngine (o : Https.Options) (transport : Https.Transport) (t : FileTree)
    (c : Configuration) : Except Failure Client := do
  let settings ← Settings.ofConfiguration c.engine
  (ofConfiguration (Https.engine o) t c { settings, engine := transport }).1

/-- The clients that can be made from a configuration: with any engine that is given, or with an
engine of their own. -/
inductive FromConfiguration (t : FileTree) (c : Configuration) (client : Client) : Prop
  | given {σ : Type} {E : Engine σ} {w : World σ}
    (h : (ofConfiguration E t c w).1 = .ok client)
  | own {o transport} (h : ofOwnEngine o transport t c = .ok client)

section
variable {σ : Type} {E : Engine σ} {t : FileTree} {c : Configuration} {w : World σ}
  {client : Client}

theorem store_of_ofConfiguration (h : (ofConfiguration E t c w).1 = .ok client) :
    Store.ofConfiguration t c = .ok client.store := by
  rw [ofConfiguration] at h
  simp only at h
  split at h
  · cases h
  · obtain ⟨store, hstore, rfl⟩ := map_eq_ok_iff.1 h
    exact hstore

theorem FromConfiguration.store (h : FromConfiguration t c client) :
    Store.ofConfiguration t c = .ok client.store := by
  cases h with
  | given h => exact store_of_ofConfiguration h
  | own h =>
    obtain ⟨settings, -, h⟩ := bind_eq_ok_iff.1 h
    exact store_of_ofConfiguration h

end

end Client

end Enrollment
