import Enrollment.Client.Session
import Enrollment.Engine.Scripted
import Enrollment.Proofs.Except
import Enrollment.Proofs.Numeral

/-!
# What stores hold

A store is filled by six setters and read by everything else. A setter that succeeds writes what it
was given into one part of the store (`Store.Sets`), and one that fails leaves the store as it was;
nothing else that a client can do changes its store, and nothing at all that of another client
(`Session.Confined`). So whatever is done with the clients of an engine, their stores hold only what
each part is for (`Session.stores_sound_and_confined`).
-/

namespace Enrollment

/-! ## What each part is for -/

/-- The private keys that can sign, by their five types. -/
inductive PrivateKey.Signs : PrivateKey → Prop
  | rsa (numbers) : Signs (.rsa numbers)
  | dsa (p q g y x) : Signs (.dsa p q g y x)
  | ec (curve secret x y) : Signs (.ec curve secret x y)
  | ed25519 (seed) : Signs (.ed25519 seed)
  | ed448 (seed) : Signs (.ed448 seed)

theorem PrivateKey.signs_iff {k : PrivateKey} : k.Signs ↔ k.isSigning = true := by
  cases k with
  | x25519 | x448 =>
    refine iff_of_false ?_ Bool.false_ne_true
    rintro ⟨⟩
  | _ => exact iff_of_true (by constructor) rfl

/-- A login without nulls. -/
structure Login.Complete (l : Login) : Prop where
  user : l.user.isNull = false
  password : l.password.isNull = false

/-- A store in which every part that is there is fit for its purpose. -/
structure Store.Sound (s : Store) : Prop where
  host : ∀ host ∈ s.endpoint.host, host ≠ "" ∧ Text.trim host.toList = host.toList
  port : ∀ port ∈ s.endpoint.port, 1 ≤ port ∧ port ≤ 65535
  anchors : ∀ c ∈ s.anchors, c.isCertificate
  http : ∀ login ∈ s.http, login.Complete
  srp : ∀ login ∈ s.srp, login.Complete
  tls : ∀ t ∈ s.tls, t.key.Signs

theorem Store.sound_empty : ({} : Store).Sound where
  host := nofun
  port := nofun
  anchors := nofun
  http := nofun
  srp := nofun
  tls := nofun

/-! ## Setters -/

/-- Whether a step sets something in the store of its client. -/
def Step.isSetter : Step → Bool
  | .setServerName _ | .setServerPort _ | .setTrustAnchors _ | .setHttp _ _ | .setSrp _ _
  | .setTls _ _ => true
  | _ => false

/-- The step that sets a login of a kind. -/
def LoginKind.step : LoginKind → Value → Value → Step
  | .http => .setHttp
  | .srp => .setSrp

/-- The certificate that a step gives to its client: anything but null, with a key that signs. -/
def Step.certificate? : Step → Option CertificateValue
  | .setTls certificate (.secret k) =>
    if !certificate.isNull && k.isSigning then some certificate else none
  | _ => none

/-- What a store becomes by a setter that succeeds: one part has what was given, which is fit for
it, and the others are as they were. -/
inductive Store.Sets (s : Store) : Step → Store → Prop
  | serverName {name host : String} (htrim : host.toList = Text.trim name.toList)
    (hhost : host ≠ "") :
    Sets s (.setServerName (.text name)) { s with endpoint := ⟨some host, s.endpoint.port⟩ }
  | serverPort {port : Int} (hport : 1 ≤ port ∧ port ≤ 65535) :
    Sets s (.setServerPort (.int port)) { s with endpoint := ⟨s.endpoint.host, some port⟩ }
  | trustAnchors {v anchors} (hitems : v.items = .ok anchors)
    (hanchors : ∀ c ∈ anchors, c.isCertificate) : Sets s (.setTrustAnchors v) { s with anchors }
  | http {user password} (hlogin : Login.Complete ⟨user, password⟩) :
    Sets s (.setHttp user password) { s with http := some ⟨user, password⟩ }
  | srp {user password} (hlogin : Login.Complete ⟨user, password⟩) :
    Sets s (.setSrp user password) { s with srp := some ⟨user, password⟩ }
  | tls {certificate k} (hcertificate : certificate.isNull = false) (hkey : k.Signs) :
    Sets s (.setTls certificate (.secret k)) { s with tls := some ⟨certificate, k⟩ }

namespace Store

section
variable {s s' : Store} {step : Step}

/-- A setter that succeeds keeps a store sound. -/
theorem Sets.sound (h : s.Sets step s') (hs : s.Sound) : s'.Sound := by
  cases h with
  | serverName htrim hhost =>
    refine { hs with host := ?_ }
    rintro _ ⟨⟩
    exact ⟨hhost, by rw [htrim, Text.trim_trim]⟩
  | serverPort hport =>
    refine { hs with port := ?_ }
    rintro _ ⟨⟩
    exact hport
  | trustAnchors _ hanchors => exact { hs with anchors := hanchors }
  | http hlogin =>
    refine { hs with http := ?_ }
    rintro _ ⟨⟩
    exact hlogin
  | srp hlogin =>
    refine { hs with srp := ?_ }
    rintro _ ⟨⟩
    exact hlogin
  | tls _ hkey =>
    refine { hs with tls := ?_ }
    rintro _ ⟨⟩
    exact hkey

theorem setServerName_eq_ok_iff {v : Value} :
    s.setServerName v = .ok s' ↔ s.Sets (.setServerName v) s' := by
  constructor
  · intro h
    cases v with
    | text name =>
      rw [setServerName] at h
      simp only at h
      split at h
      · cases h
      · next hhost => cases h; exact .serverName String.toList_ofList hhost
    | _ => cases h
  · intro h
    cases h with
    | serverName htrim hhost =>
      rw [setServerName]
      simp only [← htrim, String.ofList_toList, if_neg hhost]

theorem setServerPort_eq_ok_iff {v : Value} :
    s.setServerPort v = .ok s' ↔ s.Sets (.setServerPort v) s' := by
  constructor
  · intro h
    cases v with
    | int port =>
      rw [setServerPort] at h
      simp only at h
      split at h
      · next hport => cases h; exact .serverPort hport
      · cases h
    | _ => cases h
  · intro h
    cases h with
    | serverPort hport =>
      rw [setServerPort]
      exact if_pos hport

theorem setTrustAnchors_eq_ok_iff {v : CertificatesValue} :
    s.setTrustAnchors v = .ok s' ↔ s.Sets (.setTrustAnchors v) s' := by
  constructor
  · intro h
    obtain ⟨anchors, hitems, h⟩ := bind_eq_ok_iff.1 h
    split at h
    · cases h
    · next hnone =>
      cases h
      exact .trustAnchors hitems (by simpa using List.find?_eq_none.1 hnone)
  · intro h
    cases h with
    | @trustAnchors _ anchors hitems hanchors =>
      refine bind_eq_ok_iff.2 ⟨anchors, hitems, ?_⟩
      have hnone : anchors.find? (fun c => !c.isCertificate) = none :=
        List.find?_eq_none.2 (by simpa using hanchors)
      rw [hnone]
      rfl

theorem login_eq_ok_iff {field : String} {user password : Value} {l : Login} :
    login field user password = .ok l ↔ l = ⟨user, password⟩ ∧ l.Complete := by
  rw [login]
  split
  · next hnull =>
    refine iff_of_false ?_ ?_
    · rintro ⟨⟩
    · rintro ⟨rfl, huser, hpassword⟩
      simp [huser, hpassword] at hnull
  · next hnull =>
    obtain ⟨huser, hpassword⟩ := Bool.or_eq_false_iff.1 (Bool.not_eq_true _ ▸ hnull)
    constructor
    · rintro ⟨⟩
      exact ⟨rfl, huser, hpassword⟩
    · rintro ⟨rfl, -⟩
      rfl

theorem setLogin_eq_ok_iff (kind : LoginKind) {user password : Value} :
    s.setLogin kind user password = .ok s' ↔ s.Sets (kind.step user password) s' := by
  constructor
  · intro h
    obtain ⟨l, hl, h⟩ := bind_eq_ok_iff.1 h
    obtain ⟨rfl, hlogin⟩ := login_eq_ok_iff.1 hl
    cases h
    cases kind with
    | http => exact .http hlogin
    | srp => exact .srp hlogin
  · intro h
    have hlogin : Login.Complete ⟨user, password⟩ ∧
        s' = s.putLogin kind (some ⟨user, password⟩) := by
      cases kind with
      | http => cases h with | http hlogin => exact ⟨hlogin, rfl⟩
      | srp => cases h with | srp hlogin => exact ⟨hlogin, rfl⟩
    obtain ⟨hlogin, rfl⟩ := hlogin
    exact bind_eq_ok_iff.2 ⟨_, login_eq_ok_iff.2 ⟨rfl, hlogin⟩, rfl⟩

theorem setTls_eq_ok_iff {certificate : CertificateValue} {key : KeyValue} :
    s.setTls certificate key = .ok s' ↔ s.Sets (.setTls certificate key) s' := by
  constructor
  · intro h
    cases key with
    | secret k =>
      simp only [setTls] at h
      split at h
      · cases h
      · next hnull =>
        obtain ⟨hcertificate, -⟩ := Bool.or_eq_false_iff.1 (Bool.not_eq_true _ ▸ hnull)
        split at h
        · next hkey => cases h; exact .tls hcertificate (PrivateKey.signs_iff.2 hkey)
        · cases h
    | _ =>
      simp only [setTls] at h
      split at h <;> cases h
  · intro h
    cases h with
    | @tls _ k hcertificate hkey =>
      have hnull : ¬(certificate.isNull || (KeyValue.secret k).isNull) = true := by
        rw [hcertificate]
        exact Bool.false_ne_true
      simp only [setTls, if_neg hnull, if_pos (PrivateKey.signs_iff.1 hkey)]

end

end Store

/-! ## Steps of a client -/

section
variable {E : Engine σ} {c : Client} {step : Step} {w : World σ}

theorem Client.set_cases {r : Except Failure Store}
    (h : ∀ store, r = .ok store ↔ c.store.Sets step store) :
    (∃ store, c.store.Sets step store ∧ c.set r = (.ok .done, c.withStore store)) ∨
    (∀ store, ¬c.store.Sets step store) ∧ ∃ failure, c.set r = (.error failure, c) := by
  cases r with
  | ok store => exact .inl ⟨store, (h store).1 rfl, rfl⟩
  | error failure =>
    refine .inr ⟨fun store hsets => ?_, failure, rfl⟩
    cases (h store).2 hsets

/-- **A setter** writes what it was given if that is fit for its part of the store, and otherwise it
fails and changes nothing. -/
theorem Client.step_setter (hstep : step.isSetter) :
    (∃ store, c.store.Sets step store ∧ c.step E step w = (.ok .done, c.withStore store, w)) ∨
    (∀ store, ¬c.store.Sets step store) ∧ ∃ failure, c.step E step w = (.error failure, c, w) := by
  have hset {r : Except Failure Store} (h : ∀ store, r = .ok store ↔ c.store.Sets step store)
      (hstep : c.step E step w = ((c.set r).1, (c.set r).2, w)) :
      (∃ store, c.store.Sets step store ∧ c.step E step w = (.ok .done, c.withStore store, w)) ∨
      (∀ store, ¬c.store.Sets step store) ∧
        ∃ failure, c.step E step w = (.error failure, c, w) := by
    rw [hstep]
    rcases c.set_cases h with ⟨store, hsets, h⟩ | ⟨hnone, failure, h⟩
    · exact .inl ⟨store, hsets, by rw [h]⟩
    · exact .inr ⟨hnone, failure, by rw [h]⟩
  cases step with
  | setServerName v => exact hset (fun _ => Store.setServerName_eq_ok_iff) rfl
  | setServerPort v => exact hset (fun _ => Store.setServerPort_eq_ok_iff) rfl
  | setTrustAnchors v => exact hset (fun _ => Store.setTrustAnchors_eq_ok_iff) rfl
  | setHttp user password => exact hset (fun _ => Store.setLogin_eq_ok_iff .http) rfl
  | setSrp user password => exact hset (fun _ => Store.setLogin_eq_ok_iff .srp) rfl
  | setTls certificate key => exact hset (fun _ => Store.setTls_eq_ok_iff) rfl
  | _ => cases hstep

/-- Everything but a setter leaves the store alone, however it ends. -/
theorem Client.store_step (hstep : step.isSetter = false) :
    (c.step E step w).2.1.store = c.store := by
  cases step with
  | enroll request key asked disablePop =>
    simp only [Client.step]
    split <;> rfl
  | setServerName | setServerPort | setTrustAnchors | setHttp | setSrp | setTls => cases hstep
  | _ => rfl

end

/-! ## Steps of a session -/

/-- The store of the client with a number. -/
def Session.store? (s : Session σ) (n : Nat) : Option Store := s.clients[n]?.map Client.store

/-- What a step of a client may do to the stores of a session: those of the others stay, and its own
changes by a setter that succeeds, and by nothing else. -/
structure Session.Confined (s : Session σ) (n : Nat) (step : Step)
    (r : Except Failure StepResult × Session σ) : Prop where
  clients : r.2.clients.length = s.clients.length
  others : ∀ m, m ≠ n → r.2.store? m = s.store? m
  failed : ∀ failure, r.1 = .error failure → r.2.store? n = s.store? n
  read : step.isSetter = false → r.2.store? n = s.store? n
  set : step.isSetter → ∀ result, r.1 = .ok result → ∀ store' ∈ r.2.store? n,
    ∃ store ∈ s.store? n, store.Sets step store'
  accepted : ∀ store ∈ s.store? n, ∀ store', store.Sets step store' → r.1 = .ok .done

section
variable {E : Engine σ} {s : Session σ} {n m : Nat} {step : Step}

theorem Session.store?_step_of_ne (h : m ≠ n) :
    (s.step E n step).2.store? m = s.store? m := by
  rw [Session.step]
  split
  · rfl
  · rw [store?, store?]
    exact congrArg _ (List.getElem?_set_ne h.symm)

theorem Session.store?_step_self (E : Engine σ) (step : Step) {c : Client}
    (h : s.clients[n]? = some c) :
    (s.step E n step).2.store? n = some (c.step E step s.world).2.1.store := by
  obtain ⟨hn, -⟩ := List.getElem?_eq_some_iff.1 h
  simp only [Session.step, h, store?, List.getElem?_set_self hn, Option.map_some]

theorem Store.Sets.isSetter {store store' : Store} (h : store.Sets step store') :
    step.isSetter := by
  cases h <;> rfl

/-- **Every step is confined.** -/
theorem Session.confined_step (E : Engine σ) (s : Session σ) (n : Nat) (step : Step) :
    s.Confined n step (s.step E n step) := by
  cases hclient : s.clients[n]? with
  | none =>
    have hstep : s.step E n step = (.ok .done, s) := by simp only [Session.step, hclient]
    have hstore : s.store? n = none := by rw [store?, hclient]; rfl
    rw [hstep]
    refine ⟨rfl, fun _ _ => rfl, fun _ _ => rfl, fun _ => rfl, ?_, fun _ _ _ _ => rfl⟩
    intro _ _ _ store hmem
    rw [hstore] at hmem
    cases hmem
  | some c =>
    have hstore : s.store? n = some c.store := by rw [store?, hclient]; rfl
    have hself := store?_step_self E step hclient
    have hresult : (s.step E n step).1 = (c.step E step s.world).1 := by
      simp only [Session.step, hclient]
    refine ⟨?_, fun _ => store?_step_of_ne, ?_, ?_, ?_, ?_⟩
    · simp only [Session.step, hclient, List.length_set]
    · intro failure hfailed
      rw [hresult] at hfailed
      rw [hself, hstore]
      cases hstep : step.isSetter with
      | false => rw [Client.store_step hstep]
      | true =>
        rcases Client.step_setter (E := E) (c := c) (w := s.world) hstep with
          ⟨store, -, h⟩ | ⟨-, failure, h⟩
        · rw [h] at hfailed
          cases hfailed
        · rw [h]
    · intro hstep
      rw [hself, hstore, Client.store_step hstep]
    · intro hstep result hdone store' hmem
      rw [hresult] at hdone
      rw [hself] at hmem
      rcases Client.step_setter (E := E) (c := c) (w := s.world) hstep with
        ⟨store, hsets, h⟩ | ⟨-, failure, h⟩
      · rw [h] at hmem
        cases hmem
        exact ⟨c.store, hstore, hsets⟩
      · rw [h] at hdone
        cases hdone
    · intro store hmem store' hsets
      rw [hstore] at hmem
      cases hmem
      rcases Client.step_setter (E := E) (c := c) (w := s.world) hsets.isSetter with
        ⟨store, -, h⟩ | ⟨hnone, -⟩
      · rw [hresult, h]
      · exact absurd hsets (hnone store')

/-- Whether the stores of all clients are sound. -/
def Session.Sound (s : Session σ) : Prop := ∀ n, ∀ store ∈ s.store? n, store.Sound

/-- A confined step keeps the stores of all clients sound. -/
theorem Session.Confined.sound {r : Except Failure StepResult × Session σ}
    (h : s.Confined n step r) (hs : s.Sound) : r.2.Sound := by
  intro m store hmem
  by_cases hm : m = n
  · subst hm
    cases hstep : step.isSetter with
    | false =>
      rw [h.read hstep] at hmem
      exact hs m store hmem
    | true =>
      cases hresult : r.1 with
      | error failure =>
        rw [h.failed failure hresult] at hmem
        exact hs m store hmem
      | ok result =>
        obtain ⟨before, hbefore, hsets⟩ := h.set hstep result hresult store hmem
        exact hsets.sound (hs m before hbefore)
  · rw [h.others m hm] at hmem
    exact hs m store hmem

/-- A run keeps the stores of all clients sound. -/
theorem Session.Sound.run (h : s.Sound) (E : Engine σ) (steps : List (Nat × Step)) :
    (s.run E steps).Sound := by
  induction steps generalizing s with
  | nil => exact h
  | cons step more ih => exact ih ((s.confined_step E step.1 step.2).sound h)

end

/-! ## Runs -/

/-- The stores that a client can begin with: an empty one, or one from a configuration. -/
inductive Store.Initial : Store → Prop
  | empty : Initial {}
  | configured {t configuration store} (h : Store.ofConfiguration t configuration = .ok store) :
    Initial store

/-- The stores that setters make of an empty one, with nothing but certificates for TLS. -/
inductive Store.Built : Store → Prop
  | empty : Built {}
  | set {s s' step} (hs : Built s) (hsets : s.Sets step s')
    (hcertificate : ∀ c ∈ step.certificate?, c.isCertificate) : Built s'

section
variable {t : FileTree} {s s' : Store}

theorem Store.Built.sound (h : s.Built) : s.Sound := by
  induction h with
  | empty => exact sound_empty
  | set _ hsets _ ih => exact hsets.sound ih

theorem Store.built_ofServer {c : Configuration.Server} (h : Store.ofServer c = .ok s) :
    s.Built := by
  have hport {named : Store} (hs : named.Built)
      (h : named.setServerPort (.int c.port) = .ok s) : s.Built :=
    hs.set (setServerPort_eq_ok_iff.1 h) nofun
  rw [ofServer] at h
  split at h
  · exact hport .empty h
  · exact hport .empty h
  · obtain ⟨named, hnamed, h⟩ := bind_eq_ok_iff.1 h
    exact hport (Built.empty.set (setServerName_eq_ok_iff.1 hnamed) nofun) h

theorem Store.Built.withAnchors (hs : s.Built) {path : Option Path}
    (h : s.withAnchors t path = .ok s') : s'.Built := by
  cases path with
  | none => cases h; exact hs
  | some path =>
    obtain ⟨certificates, -, h⟩ := bind_eq_ok_iff.1 h
    exact hs.set (setTrustAnchors_eq_ok_iff.1 h) nofun

theorem Store.Built.withLogin (hs : s.Built) {kind : LoginKind}
    {p : Option Configuration.Password} (h : s.withLogin kind p = .ok s') : s'.Built := by
  cases p with
  | none => cases h; exact hs
  | some p => exact hs.set ((setLogin_eq_ok_iff kind).1 h) (by cases kind <;> nofun)

theorem Store.Built.withTls (hs : s.Built) {files : Option Configuration.TlsFiles}
    (h : s.withTls t files = .ok s') : s'.Built := by
  cases files with
  | none => cases h; exact hs
  | some files =>
    obtain ⟨certificates, -, h⟩ := bind_eq_ok_iff.1 h
    split at h
    · cases h
    · obtain ⟨key, -, h⟩ := bind_eq_ok_iff.1 h
      refine hs.set (setTls_eq_ok_iff.1 h) fun c hc => ?_
      rw [Step.certificate?] at hc
      split at hc
      · cases hc
        rfl
      · cases hc

theorem Store.Built.withAuth (hs : s.Built) {auth : Option Configuration.Auth}
    (h : s.withAuth t auth = .ok s') : s'.Built := by
  cases auth with
  | none => cases h; exact hs
  | some auth =>
    obtain ⟨first, hfirst, h⟩ := bind_eq_ok_iff.1 h
    obtain ⟨second, hsecond, h⟩ := bind_eq_ok_iff.1 h
    exact ((hs.withLogin hfirst).withLogin hsecond).withTls h

/-- Every store that a client begins with is made by setters. -/
theorem Store.Initial.built (h : s.Initial) : s.Built := by
  cases h with
  | empty => exact .empty
  | configured h =>
    obtain ⟨first, hfirst, h⟩ := bind_eq_ok_iff.1 h
    obtain ⟨second, hsecond, h⟩ := bind_eq_ok_iff.1 h
    exact ((built_ofServer hfirst).withAnchors hsecond).withAuth h

end

/-- **Whatever is done with the clients of an engine**, in any order and with any values: their
stores are sound at every time, and the next step of one of them is confined to its own store. -/
theorem Session.stores_sound_and_confined (E : Engine σ) (s : Session σ)
    (hs : ∀ n, ∀ store ∈ s.store? n, store.Initial) (steps : List (Nat × Step)) :
    (s.run E steps).Sound ∧
      ∀ n step, (s.run E steps).Confined n step ((s.run E steps).step E n step) :=
  ⟨Sound.run (fun n store hstore => (hs n store hstore).built.sound) E steps,
    fun n step => confined_step E (s.run E steps) n step⟩

/-- Two new clients of a scripted engine. -/
def sampleClients : Session Scripted.State where
  clients := [{}, {}]
  world := { engine := ⟨[], []⟩ }

theorem initial_sampleClients : ∀ n, ∀ store ∈ sampleClients.store? n, store.Initial := by
  rintro (_ | _ | n) store hstore
  · cases hstore; exact .empty
  · cases hstore; exact .empty
  · cases hstore

/-- What they are told to do: the first is given a server, in between the second is given a port
that is none and asks for the certificates of the authority. -/
def sampleSetup : List (Nat × Step) :=
  [(0, .setServerName " est\n"), (1, .setServerPort (.bool true)), (1, .fetch),
    (0, .setServerPort (.int 443)), (0, .setHttp "ada" .null)]

/-- The clients when that is done. -/
def sampleClientsSetUp : Session Scripted.State :=
  sampleClients.run (Scripted.engine none) sampleSetup

theorem Session.stores_sound_and_confined_setup :
    (∀ n, ∀ store ∈ sampleClients.store? n, store.Initial) ∧
    sampleClientsSetUp.store? 0 = some { endpoint := ⟨some "est", some 443⟩ } ∧
    sampleClientsSetUp.store? 1 = some {} ∧ sampleClientsSetUp.Sound ∧
    ∀ n step, sampleClientsSetUp.Confined n step
      (sampleClientsSetUp.step (Scripted.engine none) n step) :=
  ⟨initial_sampleClients, rfl, rfl, stores_sound_and_confined _ _ initial_sampleClients _⟩

end Enrollment
