import Enrollment.Proofs.Deferral
import Enrollment.Proofs.Frame
import Enrollment.Proofs.Requests
import Enrollment.Proofs.Stores

/-!
# Requests made again

A call is made of the store of the client, the longest response and what the caller gave, and of
nothing else (`Client.Calls`). Between two points of a run these are the same if nothing sets them
in between: operations read the stores and the settings, and never leave a trace in them, whatever
they come to. So a request that is made again makes the same call, and over HTTPS sends the same
request (`Session.calls_repeated`).
-/

namespace Enrollment

/-! ## What a call is made of -/

namespace Client

section
variable {c c' : Client} {maxLength : Nat} {step : Step} {call call' : EngineCall}

/-- A step makes no second call. -/
theorem Calls.unique (h : c.Calls maxLength step call) (h' : c.Calls maxLength step call') :
    call = call' := by
  cases h with
  | enroll hread hmode _ _ hcall =>
    cases h' with
    | enroll hread' hmode' _ _ hcall' =>
      cases hread.symm.trans hread'
      cases hmode.symm.trans hmode'
      exact Except.ok.inj (hcall.symm.trans hcall')
  | reenroll hmode _ _ hcall =>
    cases h' with
    | reenroll hmode' _ _ hcall' =>
      cases hmode.symm.trans hmode'
      exact Except.ok.inj (hcall.symm.trans hcall')
  | fetch _ hanchors =>
    cases h' with
    | fetch _ hanchors' =>
      cases hanchors.symm.trans hanchors'
      rfl

/-- The store is all of a client that a call is made of. -/
theorem Calls.of_store_eq (h : c.Calls maxLength step call) (hstore : c'.store = c.store) :
    c'.Calls maxLength step call := by
  obtain ⟨store, progress⟩ := c
  obtain ⟨store', progress'⟩ := c'
  cases hstore
  cases h with
  | enroll hread hmode hcheck hsubject hcall => exact .enroll hread hmode hcheck hsubject hcall
  | reenroll hmode hcheck hsubject hcall => exact .reenroll hmode hcheck hsubject hcall
  | fetch hcomplete hanchors => exact .fetch hcomplete hanchors

/-- Only operations call the engine. -/
theorem Calls.isOperation (h : c.Calls maxLength step call) :
    step.isSetter = false ∧ step.isSetting = false := by
  cases h <;> exact ⟨rfl, rfl⟩

end

end Client

/-! ## What a step does to its engine -/

section
variable {E : Engine σ} {c : Client} {w : World σ} {step : Step}

/-- A petition leaves the engine as its call leaves it, and as it was if there is no call. -/
theorem Petition.Course.engine_cases {s : Store} {p : Petition} {key : KeyValue}
    {asked : ModeValue} {disablePop : Bool} {o : Outcome σ (Option Certificate)}
    (h : p.Course E s key asked disablePop w o) :
    (∃ mode subject call, s.selectMode asked = .ok mode ∧ p.check key = .ok () ∧
      p.subject = .ok subject ∧
      s.prepare p key mode disablePop w.settings.maxLength = .ok call ∧
      o.world.engine = (E.answer w.settings.fips call w.engine).2) ∨
    (∀ mode subject call, s.selectMode asked = .ok mode → p.check key = .ok () →
      p.subject = .ok subject → s.prepare p key mode disablePop w.settings.maxLength ≠ .ok call) ∧
      o.world.engine = w.engine := by
  cases h with
  | unselected hmode | unshown hmode =>
    refine .inr ⟨?_, rfl⟩
    intro _ _ _ hmode'
    cases hmode.symm.trans hmode'
  | mismatched _ hcheck =>
    refine .inr ⟨?_, rfl⟩
    intro _ _ _ _ hcheck'
    cases hcheck.symm.trans hcheck'
  | nameless _ _ hsubject =>
    refine .inr ⟨?_, rfl⟩
    intro _ _ _ _ _ hsubject'
    cases hsubject.symm.trans hsubject'
  | unprepared hmode _ _ hcall =>
    refine .inr ⟨?_, rfl⟩
    intro _ _ _ hmode' _ _ hcall'
    cases hmode.symm.trans hmode'
    cases hcall.symm.trans hcall'
  | called hmode hcheck hsubject hcall hend =>
    exact .inl ⟨_, _, _, hmode, hcheck, hsubject, hcall, hend.engine_eq⟩

theorem Store.engine_fetch_cases (E : Engine σ) (s : Store) (w : World σ) :
    (∃ anchors, s.endpoint.isComplete = true ∧ Bundle.ofAnchors s.anchors = .ok anchors ∧
      (s.fetch E w).2.engine = (E.answer w.settings.fips
        (.caCertificates anchors s.endpoint s.srp w.settings.maxLength) w.engine).2) ∨
    (∀ anchors, s.endpoint.isComplete = true → Bundle.ofAnchors s.anchors ≠ .ok anchors) ∧
      (s.fetch E w).2.engine = w.engine := by
  cases hcomplete : s.endpoint.isComplete with
  | false =>
    refine .inr ⟨by rintro _ ⟨⟩, ?_⟩
    simp only [fetch, hcomplete]
    rfl
  | true =>
    cases hanchors : Bundle.ofAnchors s.anchors with
    | error failure =>
      refine .inr ⟨by rintro _ - ⟨⟩, ?_⟩
      simp only [fetch, hcomplete, hanchors]
      rfl
    | ok anchors =>
      refine .inl ⟨anchors, rfl, rfl, ?_⟩
      simp only [fetch, hcomplete, hanchors, Bool.not_true, Bool.false_eq_true, ↓reduceIte]
      exact engine_concludeFetch

/-- **A step calls the engine once or not at all**, and leaves it as the call leaves it. -/
theorem Client.engine_step_cases (E : Engine σ) (c : Client) (step : Step) (w : World σ) :
    (∃ call, c.Calls w.settings.maxLength step call ∧
      (c.step E step w).2.2.engine = (E.answer w.settings.fips call w.engine).2) ∨
    (∀ call, ¬c.Calls w.settings.maxLength step call) ∧
      (c.step E step w).2.2.engine = w.engine := by
  cases step with
  | enroll request key asked disablePop =>
    cases hread : request.toObject with
    | error failure =>
      refine .inr ⟨?_, by rw [step_enroll_unread hread]⟩
      intro call hcalls
      cases hcalls with
      | enroll hread' => cases hread.symm.trans hread'
    | ok object =>
      rw [step_enroll_read hread]
      rcases (c.course_petition E (.new object) key asked disablePop
          { w with journal := w.journal.openOperation }).engine_cases with
        ⟨_, _, call, hmode, hcheck, hsubject, hcall, hengine⟩ | ⟨hnone, hengine⟩
      · exact .inl ⟨call, .enroll hread hmode hcheck hsubject hcall, hengine⟩
      · refine .inr ⟨?_, hengine⟩
        intro call hcalls
        cases hcalls with
        | enroll hread' hmode hcheck hsubject hcall =>
          cases hread.symm.trans hread'
          exact hnone _ _ _ hmode hcheck hsubject hcall
  | reenroll old key asked disablePop =>
    rcases (c.course_petition E (.renewal old) key asked disablePop
        { w with journal := w.journal.openOperation }).engine_cases with
      ⟨_, _, call, hmode, hcheck, hsubject, hcall, hengine⟩ | ⟨hnone, hengine⟩
    · exact .inl ⟨call, .reenroll hmode hcheck hsubject hcall, hengine⟩
    · refine .inr ⟨?_, hengine⟩
      intro call hcalls
      cases hcalls with
      | reenroll hmode hcheck hsubject hcall => exact hnone _ _ _ hmode hcheck hsubject hcall
  | fetch =>
    rcases c.store.engine_fetch_cases E { w with journal := w.journal.openOperation } with
      ⟨anchors, hcomplete, hanchors, hengine⟩ | ⟨hnone, hengine⟩
    · exact .inl ⟨_, .fetch hcomplete hanchors, hengine⟩
    · refine .inr ⟨?_, hengine⟩
      intro call hcalls
      cases hcalls with
      | fetch hcomplete hanchors => exact hnone _ hcomplete hanchors
  | setMaxLength v => exact .inr ⟨by rintro call ⟨⟩, w.engine_setMaxLength v⟩
  | setVerbosity v => exact .inr ⟨by rintro call ⟨⟩, w.engine_setVerbosity v⟩
  | enableFips => exact .inr ⟨by rintro call ⟨⟩, w.engine_enableFips E⟩
  | _ => exact .inr ⟨by rintro call ⟨⟩, rfl⟩

/-- The engine is left as the call of a step leaves it. -/
theorem Client.Calls.engine_step {call : EngineCall} (h : c.Calls w.settings.maxLength step call)
    (E : Engine σ) :
    (c.step E step w).2.2.engine = (E.answer w.settings.fips call w.engine).2 := by
  rcases c.engine_step_cases E step w with ⟨made, hmade, hengine⟩ | ⟨hnone, -⟩
  · rw [hengine, h.unique hmade]
  · exact absurd h (hnone call)

end

/-! ## The calls of a session -/

/-- A session whose engine has a record of its calls. -/
def Session.record (s : Session σ) (calls : List EngineCall) : Session (σ × List EngineCall) where
  clients := s.clients
  world := s.world.record calls

/-- The calls that a step makes of the engine, as a record of them shows. -/
def Session.calls (E : Engine σ) (s : Session σ) (n : Nat) (step : Step) : List EngineCall :=
  ((s.record []).step E.recorded n step).2.world.engine.2

section
variable {E : Engine σ} {s : Session σ} {n : Nat} {step : Step} {call : EngineCall} {c : Client}

theorem Session.engine_step (E : Engine σ) (hclient : s.clients[n]? = some c)
    (h : c.Calls s.world.settings.maxLength step call) :
    (s.step E n step).2.world.engine =
      (E.answer s.world.settings.fips call s.world.engine).2 := by
  simp only [Session.step, hclient]
  exact h.engine_step E

/-- The call of a step is its only one. -/
theorem Session.calls_eq (E : Engine σ) (hclient : s.clients[n]? = some c)
    (h : c.Calls s.world.settings.maxLength step call) : s.calls E n step = [call] := by
  have hrecord : (s.record []).clients[n]? = some c := hclient
  rw [calls, Session.engine_step E.recorded hrecord h]
  rfl

/-- What the record of a step shows is the call that its client makes. -/
theorem Session.exists_of_mem_calls (h : call ∈ s.calls E n step) :
    ∃ c, s.clients[n]? = some c ∧ c.Calls s.world.settings.maxLength step call := by
  cases hclient : s.clients[n]? with
  | none =>
    have hrecord : (s.record []).clients[n]? = none := hclient
    simp only [calls, Session.step, hrecord] at h
    cases h
  | some c =>
    rcases c.engine_step_cases E.recorded step (s.record []).world with
      ⟨made, hmade, -⟩ | ⟨-, hengine⟩
    · have hcalls : s.calls E n step = [made] := calls_eq E hclient hmade
      rw [hcalls, List.mem_singleton] at h
      subst h
      exact ⟨c, rfl, hmade⟩
    · have hrecord : (s.record []).clients[n]? = some c := hclient
      simp only [calls, Session.step, hrecord, hengine] at h
      cases h

end

/-! ## What comes in between -/

/-- A step that may come between two requests of the client with the number `n`: it changes no
setting, and if it is one of that client, it sets nothing in its store. -/
structure Step.Spares (n m : Nat) (step : Step) : Prop where
  settings : step.isSetting = false
  store : m = n → step.isSetter = false

section
variable {s : Session σ} {n m : Nat} {step : Step} {more : List (Nat × Step)}

theorem Session.store?_step_of_spares (h : step.Spares n m) (E : Engine σ) :
    (s.step E m step).2.store? n = s.store? n := by
  have hconfined := s.confined_step E m step
  by_cases hm : n = m
  · subst hm
    exact hconfined.read (h.store rfl)
  · exact hconfined.others n hm

/-- **A run of such steps** leaves the store of the client and the settings as they are. -/
theorem Session.run_of_spares (h : ∀ m next, (m, next) ∈ more → next.Spares n m) (E : Engine σ) :
    (s.run E more).store? n = s.store? n ∧
      (s.run E more).world.settings = s.world.settings := by
  induction more generalizing s with
  | nil => exact ⟨rfl, rfl⟩
  | cons first more ih =>
    obtain ⟨m, next⟩ := first
    have hfirst : next.Spares n m := h m next (.head _)
    have hkept : s.world.Keeps (s.step E m next).2.world := Session.keeps_step hfirst.settings
    obtain ⟨hstore, hsettings⟩ :=
      ih (s := (s.step E m next).2) fun m next hmem => h m next (.tail _ hmem)
    exact ⟨hstore.trans (store?_step_of_spares hfirst E), hsettings.trans hkept.settings⟩

end

/-! ## On the wire -/

/-- What a call sends over HTTPS depends on the call alone, not on what was sent or answered
before, nor on whether cryptography is restricted. -/
theorem Https.exists_sent (o : Options) (call : EngineCall) :
    ∃ sent : List WireRequest, sent.length ≤ 1 ∧ ∀ restricted t,
      (answer o restricted call t).2.requests = t.requests ++ sent := by
  have hnone {a : Bool → Transport → EngineAnswer × Transport}
      (h : ∀ restricted t, (a restricted t).2 = t) :
      ∃ sent : List WireRequest, sent.length ≤ 1 ∧ ∀ restricted t,
        (a restricted t).2.requests = t.requests ++ sent := by
    refine ⟨[], Nat.zero_le _, ?_⟩
    intro restricted t
    rw [h, List.append_nil]
  have henroll (action : Action) (r : EngineRequest) (arguments : ModeArguments) :
      ∃ sent : List WireRequest, sent.length ≤ 1 ∧ ∀ (_ : Bool) (t : Transport),
        (enroll o action r arguments t).2.requests = t.requests ++ sent := by
    cases hbody : body action r with
    | error failure =>
      refine hnone fun _ t => ?_
      simp only [enroll, hbody]
    | ok b =>
      cases hcertificate : certificateOf arguments with
      | error failure =>
        refine hnone fun _ t => ?_
        simp only [enroll, hbody, hcertificate]
      | ok certificate =>
        refine ⟨[submit o action r b arguments.httpLogin certificate], Nat.le_refl _, ?_⟩
        intro _ t
        simp only [enroll, hbody, hcertificate]
        rfl
  cases call with
  | caCertificates anchors e srp maxLength =>
    cases srp with
    | none => exact ⟨[question o anchors e], Nat.le_refl _, fun _ _ => rfl⟩
    | some login => exact hnone fun _ _ => rfl
  | certificate action r arguments =>
    cases arguments with
    | srp srp login => exact hnone fun _ _ => rfl
    | http login => exact henroll action r (.http login)
    | tls certificate key login => exact henroll action r (.tls certificate key login)

/-! ## The second time -/

section
variable {n : Nat} {step : Step} {more : List (Nat × Step)} {call : EngineCall}

/-- A client that made a call is about to make it again. -/
theorem Session.calls_again {s : Session σ} (E : Engine σ) {c : Client}
    (hmore : ∀ m next, (m, next) ∈ more → next.Spares n m) (hclient : s.clients[n]? = some c)
    (h : c.Calls s.world.settings.maxLength step call) :
    ∃ c', ((s.step E n step).2.run E more).clients[n]? = some c' ∧
      c'.Calls ((s.step E n step).2.run E more).world.settings.maxLength step call := by
  obtain ⟨hsetter, hsetting⟩ := h.isOperation
  have hkept : s.world.Keeps (s.step E n step).2.world := Session.keeps_step hsetting
  obtain ⟨hstore, hsettings⟩ := run_of_spares (s := (s.step E n step).2) hmore E
  rw [(s.confined_step E n step).read hsetter, store?, store?, hclient] at hstore
  rw [hkept.settings] at hsettings
  obtain ⟨c', hclient', hstore'⟩ := Option.map_eq_some_iff.1 hstore
  refine ⟨c', hclient', ?_⟩
  rw [hsettings]
  exact h.of_store_eq hstore'

/-- **A request can be made again.** After any steps of any clients that set nothing in the store
of its client and change no setting, whatever they come to, it makes the same call. Over HTTPS it
sends the same, if it sends anything: a request with the same address, headers, anchors, login,
client certificate and body. -/
theorem Session.calls_repeated (hmore : ∀ m next, (m, next) ∈ more → next.Spares n m) :
    (∀ (σ : Type) (E : Engine σ) (s : Session σ), call ∈ s.calls E n step →
      s.calls E n step = [call] ∧
        ((s.step E n step).2.run E more).calls E n step = [call]) ∧
    ∀ (o : Https.Options) (s : Session Https.Transport), call ∈ s.calls (Https.engine o) n step →
      ∃ sent : List WireRequest, sent.length ≤ 1 ∧
        (s.step (Https.engine o) n step).2.world.engine.requests =
          s.world.engine.requests ++ sent ∧
        (((s.step (Https.engine o) n step).2.run (Https.engine o) more).step (Https.engine o) n
            step).2.world.engine.requests =
          ((s.step (Https.engine o) n step).2.run (Https.engine o) more).world.engine.requests ++
            sent := by
  constructor
  · intro σ E s hcall
    obtain ⟨c, hclient, hmade⟩ := exists_of_mem_calls hcall
    obtain ⟨c', hclient', hmade'⟩ := calls_again E hmore hclient hmade
    exact ⟨calls_eq E hclient hmade, calls_eq E hclient' hmade'⟩
  · intro o s hcall
    obtain ⟨c, hclient, hmade⟩ := exists_of_mem_calls hcall
    obtain ⟨c', hclient', hmade'⟩ := calls_again (Https.engine o) hmore hclient hmade
    obtain ⟨sent, hlength, hsent⟩ := Https.exists_sent o call
    refine ⟨sent, hlength, ?_, ?_⟩
    · rw [engine_step (Https.engine o) hclient hmade]
      exact hsent _ _
    · rw [engine_step (Https.engine o) hclient' hmade']
      exact hsent _ _

end

/-- Two clients of a server that puts everything off. -/
def waitingClients : Session Https.Transport where
  clients := [Https.sampleClient, {}]
  world := Https.deferring " 120 "

/-- What happens while the first client waits. -/
def sampleMeanwhile : List (Nat × Step) :=
  [(0, .fetch), (1, .setServerName "other"), (1, .setHttp "ada" "word"), (1, Https.sampleStep)]

/-- The clients after a first request and what happens then. -/
def waitingClientsLater : Session Https.Transport :=
  (waitingClients.step (Https.engine {}) 0 Https.sampleStep).2.run (Https.engine {}) sampleMeanwhile

theorem Session.calls_repeated_deferral :
    (∀ m next, (m, next) ∈ sampleMeanwhile → next.Spares 0 m) ∧
    ∃ call, call ∈ waitingClients.calls (Https.engine {}) 0 Https.sampleStep ∧
      waitingClientsLater.calls (Https.engine {}) 0 Https.sampleStep = [call] ∧
      ∃ sent : List WireRequest, sent.length = 1 ∧
        (waitingClients.step (Https.engine {}) 0 Https.sampleStep).2.world.engine.requests = sent ∧
        (waitingClientsLater.step (Https.engine {}) 0 Https.sampleStep).2.world.engine.requests =
          waitingClientsLater.world.engine.requests ++ sent := by
  have hmeanwhile : ∀ m next, (m, next) ∈ sampleMeanwhile → next.Spares 0 m := by
    intro m next hmem
    simp only [sampleMeanwhile, List.mem_cons, Prod.mk.injEq, List.not_mem_nil, or_false] at hmem
    rcases hmem with ⟨rfl, rfl⟩ | ⟨rfl, rfl⟩ | ⟨rfl, rfl⟩ | ⟨rfl, rfl⟩
    · exact ⟨rfl, fun _ => rfl⟩
    · exact ⟨rfl, nofun⟩
    · exact ⟨rfl, nofun⟩
    · exact ⟨rfl, nofun⟩
  have hone : (waitingClients.calls (Https.engine {}) 0 Https.sampleStep).length = 1 := by
    decide +kernel
  obtain ⟨call, hcalls⟩ := List.length_eq_one_iff.1 hone
  have hcall : call ∈ waitingClients.calls (Https.engine {}) 0 Https.sampleStep := by
    rw [hcalls]
    exact .head _
  have hsent : (waitingClients.step (Https.engine {}) 0
      Https.sampleStep).2.world.engine.requests.length = 1 := by
    decide +kernel
  obtain ⟨hrepeated, hwire⟩ := calls_repeated hmeanwhile
  obtain ⟨sent, -, hfirst, hsecond⟩ := hwire {} waitingClients hcall
  rw [show waitingClients.world.engine.requests = [] from rfl, List.nil_append] at hfirst
  rw [hfirst] at hsent
  exact ⟨hmeanwhile, call, hcall, (hrepeated _ _ _ hcall).2, sent, hsent, hfirst, hsecond⟩

end Enrollment
