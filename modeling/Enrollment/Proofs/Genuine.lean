import Enrollment.Proofs.Calls
import Enrollment.Proofs.Stores
import Enrollment.Proofs.Stream

/-!
# Certificates in stores

A store should hold certificates where it is for certificates, so that nothing but the writing of a
certificate can go wrong when they are used (`Store.Genuine`). The trust anchors are checked when
they are set. The certificate of a client is not: it only must not be null, and so a client can be
given anything with a key that signs. Its store is genuine exactly if the certificate that it was
last given is one (`Session.genuine_run_iff`).
-/

namespace Enrollment

/-- A store that holds certificates, encodable or not, where it is for certificates. What the mode
TLS needs can then be had of it, unless its certificate cannot be written. -/
structure Store.Genuine (s : Store) : Prop where
  certificate : ∀ t ∈ s.tls, t.certificate.isCertificate
  anchors : ∀ c ∈ s.anchors, c.isCertificate
  arguments : ∀ asked, s.selectMode asked = .ok .tls →
    (∃ arguments, s.modeArguments .tls = .ok arguments) ∨
    ∃ t ∈ s.tls, ∃ text, t.certificate = .unencodable text ∧
      s.modeArguments .tls = .error (CertificateValue.failure text)

/-! ## What a client was given -/

/-- The certificate that a store has for its client. -/
def Store.certificate? (s : Store) : Option CertificateValue := s.tls.map (·.certificate)

/-- The certificate that a client was given last. -/
def lastCertificate? (n : Nat) : List (Nat × Step) → Option CertificateValue
  | [] => none
  | (m, step) :: more =>
    (lastCertificate? n more).or (if m = n then step.certificate? else none)

namespace Store

section
variable {s s' : Store} {step : Step}

/-- A setter that succeeds gives the certificate that it is given for TLS, and no other changes
it. -/
theorem Sets.certificate?_eq (h : s.Sets step s') :
    s'.certificate? = step.certificate?.or s.certificate? := by
  cases h with
  | @tls certificate k hcertificate hkey =>
    have haccepted : (!certificate.isNull && k.isSigning) = true := by
      rw [hcertificate, PrivateKey.signs_iff.1 hkey]
      rfl
    rw [Step.certificate?, if_pos haccepted]
    rfl
  | _ => rfl

/-- What is given in a step is accepted. -/
theorem exists_sets_of_certificate? {certificate : CertificateValue}
    (h : step.certificate? = some certificate) (s : Store) : ∃ s', s.Sets step s' := by
  cases step with
  | setTls given key =>
    cases key with
    | secret k =>
      rw [Step.certificate?] at h
      split at h
      · next haccepted =>
        obtain ⟨hnull, hkey⟩ := Bool.and_eq_true_iff.1 haccepted
        exact ⟨_, .tls (by simpa using hnull) (PrivateKey.signs_iff.2 hkey)⟩
      · cases h
    | _ => cases h
  | _ => cases h

/-- What the mode TLS needs of a store with a certificate can be had, unless that cannot be
written. -/
theorem modeArguments_tls_cases {t : TlsCredential} (htls : s.tls = some t)
    (hcertificate : t.certificate.isCertificate) :
    (∃ arguments, s.modeArguments .tls = .ok arguments) ∨
    ∃ text, t.certificate = .unencodable text ∧
      s.modeArguments .tls = .error (CertificateValue.failure text) := by
  rw [modeArguments, htls]
  cases hgiven : t.certificate with
  | certificate c => exact .inl ⟨.tls c.der t.key.toPkcs8 s.http, by simp only [hgiven]; rfl⟩
  | unencodable text => exact .inr ⟨text, rfl, by simp only [hgiven]; rfl⟩
  | plain v =>
    rw [hgiven] at hcertificate
    cases hcertificate

/-- A store with certificates for anchors is genuine if the certificate for its client is one. -/
theorem genuine_iff (hanchors : ∀ c ∈ s.anchors, c.isCertificate) :
    s.Genuine ↔ ∀ c ∈ s.certificate?, c.isCertificate := by
  constructor
  · intro h c hc
    obtain ⟨t, ht, rfl⟩ := Option.map_eq_some_iff.1 hc
    exact h.certificate t ht
  · intro h
    have hcertificate : ∀ t ∈ s.tls, t.certificate.isCertificate := fun t ht =>
      h t.certificate (Option.map_eq_some_iff.2 ⟨t, ht, rfl⟩)
    refine ⟨hcertificate, hanchors, fun asked hmode => ?_⟩
    obtain ⟨-, -, -, hhas⟩ := selectMode_eq_ok_iff.1 hmode
    obtain ⟨t, htls⟩ := Option.isSome_iff_exists.1 hhas
    rcases modeArguments_tls_cases htls (hcertificate t htls) with hok | ⟨text, htext, hfails⟩
    · exact .inl hok
    · exact .inr ⟨t, htls, text, htext, hfails⟩

/-- What a client begins with holds a certificate, if anything. -/
theorem Built.certificate (h : s.Built) : ∀ c ∈ s.certificate?, c.isCertificate := by
  induction h with
  | empty => nofun
  | @set s s' step _ hsets hgiven ih =>
    intro c hc
    rw [hsets.certificate?_eq, Option.mem_def, Option.or_eq_some_iff] at hc
    exact hc.elim (hgiven c) fun hc => ih c hc.2

end

end Store

/-! ## Runs -/

section
variable {E : Engine σ} {s : Session σ} {n : Nat} {store' : Store}

/-- **A step and certificates**: the store of a client has the one that it was given in the step, or
else the one it had. -/
theorem Session.certificate?_step {m : Nat} {step : Step}
    (h : store' ∈ (s.step E m step).2.store? n) :
    ∃ store ∈ s.store? n, store'.certificate? =
      (if m = n then step.certificate? else none).or store.certificate? := by
  have hconfined := s.confined_step E m step
  by_cases hm : m = n
  · subst hm
    rw [if_pos rfl]
    -- a step that gives a certificate is a setter, and it succeeds
    have hkept (hstore : store' ∈ s.store? m) (hnot : (s.step E m step).1 ≠ .ok .done ∨
        step.isSetter = false) : ∃ store ∈ s.store? m, store'.certificate? =
          step.certificate?.or store.certificate? := by
      refine ⟨store', hstore, ?_⟩
      cases hgiven : step.certificate? with
      | none => rfl
      | some certificate =>
        obtain ⟨made, hsets⟩ := Store.exists_sets_of_certificate? hgiven store'
        rcases hnot with hfailed | hread
        · exact absurd (hconfined.accepted store' hstore made hsets) hfailed
        · rw [hsets.isSetter] at hread
          cases hread
    cases hsetter : step.isSetter with
    | false =>
      rw [hconfined.read hsetter] at h
      exact hkept h (.inr hsetter)
    | true =>
      cases hresult : (s.step E m step).1 with
      | error failure =>
        rw [hconfined.failed failure hresult] at h
        exact hkept h (.inl (by rw [hresult]; nofun))
      | ok result =>
        obtain ⟨store, hstore, hsets⟩ := hconfined.set hsetter result hresult store' h
        exact ⟨store, hstore, hsets.certificate?_eq⟩
  · rw [if_neg hm]
    rw [hconfined.others n (Ne.symm hm)] at h
    exact ⟨store', h, rfl⟩

/-- The store of a client has the certificate that it was given last, or else the one it had. -/
theorem Session.certificate?_run {steps : List (Nat × Step)}
    (h : store' ∈ (s.run E steps).store? n) :
    ∃ store ∈ s.store? n,
      store'.certificate? = (lastCertificate? n steps).or store.certificate? := by
  induction steps generalizing s with
  | nil => exact ⟨store', h, rfl⟩
  | cons first more ih =>
    obtain ⟨m, step⟩ := first
    obtain ⟨between, hbetween, hlast⟩ := ih h
    obtain ⟨store, hstore, hfirst⟩ := certificate?_step hbetween
    exact ⟨store, hstore, by rw [hlast, hfirst, lastCertificate?, Option.or_assoc]⟩

/-- **When stores are genuine**: whatever was done with the clients of an engine, exactly if the
certificate that the client was given last is one. -/
theorem Session.genuine_run_iff (E : Engine σ) (s : Session σ)
    (hs : ∀ n, ∀ store ∈ s.store? n, store.Initial) (steps : List (Nat × Step)) {n : Nat}
    {store : Store} (hstore : store ∈ (s.run E steps).store? n) :
    store.Genuine ↔ ∀ c ∈ lastCertificate? n steps, c.isCertificate := by
  have hsound := Sound.run (fun n store hstore => (hs n store hstore).built.sound) E steps
  obtain ⟨first, hfirst, hcertificate⟩ := certificate?_run hstore
  rw [Store.genuine_iff (hsound n store hstore).anchors, hcertificate]
  cases lastCertificate? n steps with
  | some c => exact Iff.rfl
  | none => exact iff_of_true (hs n first hfirst).built.certificate nofun

end

/-- What a client is told that is to use TLS: a server, and a certificate with a key. -/
def certifiedSteps (certificate : CertificateValue) : List (Nat × Step) :=
  [(0, .setServerName "est"), (0, .setServerPort (.int 443)),
    (0, .setTls certificate (.secret (.ed25519 (List.replicate 32 7))))]

/-- The store of a client that was told so. -/
def certifiedStore (certificate : CertificateValue) : Store where
  endpoint := ⟨some "est", some 443⟩
  tls := some ⟨certificate, .ed25519 (List.replicate 32 7)⟩

/-- A client that is given a certificate has a genuine store. -/
theorem Session.genuine_run_certificate :
    (∀ n, ∀ store ∈ sampleClients.store? n, store.Initial) ∧
    certifiedStore (.certificate sampleCertificate) ∈
      (sampleClients.run (Scripted.engine none)
        (certifiedSteps (.certificate sampleCertificate))).store? 0 ∧
    (certifiedStore (.certificate sampleCertificate)).Genuine := by
  have hstore : certifiedStore (.certificate sampleCertificate) ∈
      (sampleClients.run (Scripted.engine none)
        (certifiedSteps (.certificate sampleCertificate))).store? 0 := rfl
  refine ⟨initial_sampleClients, hstore,
    (genuine_run_iff _ _ initial_sampleClients _ hstore).2 fun c hc => ?_⟩
  cases hc
  rfl

/-- A text is taken for a certificate, and found to be none only when it is used. -/
theorem Session.not_genuine_text :
    (∀ n, ∀ store ∈ sampleClients.store? n, store.Initial) ∧
    certifiedStore (.plain "cert.pem") ∈ (sampleClients.run (Scripted.engine none)
      (certifiedSteps (.plain "cert.pem"))).store? 0 ∧
    (certifiedStore (.plain "cert.pem")).selectMode (.mode .tls) = .ok .tls ∧
    (certifiedStore (.plain "cert.pem")).modeArguments .tls = .error
      (CertificateValue.failure (Fault.lacking "str" "public_bytes").message) ∧
    ¬(certifiedStore (.plain "cert.pem")).Genuine := by
  refine ⟨initial_sampleClients, rfl, rfl, rfl, fun hgenuine => ?_⟩
  cases hgenuine.certificate _ rfl

end Enrollment
