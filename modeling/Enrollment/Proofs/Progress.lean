import Enrollment.Engine.Scripted
import Enrollment.Proofs.Petition

/-!
# Progress and results

The progress of a client is meant to tell how its latest request for a certificate ended:
`Progress.Describes` states what it should say of a result. It does so but in these situations,
which `Untracked` lists: a signing request that cannot be read leaves the progress as it was, a mode
that cannot be shown leaves it at the start, a subject without a text leaves it at the selection of
the mode, and an answer that is `Lost` leaves it waiting for the response or deferred although
something else has failed (`describes_step_iff`).
-/

namespace Enrollment

/-- What a progress says of the result of a request: issued if the request returned, deferred if
the server put it off, faulted if it failed in any other way. -/
structure Progress.Describes (p : Progress) (r : Except Failure α) : Prop where
  issued : p = .issued ↔ ∃ a, r = .ok a
  deferred : p = .deferred ↔ ∃ failure, r = .error failure ∧ failure.isDeferral
  faulted : p = .faulted ↔ ∃ failure, r = .error failure ∧ ¬failure.isDeferral

section
variable {p : Progress} {failure : Failure} {a : α}

theorem Progress.describes_ok : p.Describes (.ok a : Except Failure α) ↔ p = .issued := by
  constructor
  · exact fun h => h.issued.2 ⟨a, rfl⟩
  · rintro rfl
    refine ⟨⟨fun _ => ⟨a, rfl⟩, fun _ => rfl⟩, ⟨nofun, ?_⟩, ⟨nofun, ?_⟩⟩
    · rintro ⟨_, hok, -⟩
      cases hok
    · rintro ⟨_, hok, -⟩
      cases hok

theorem Progress.describes_deferral (h : failure.isDeferral) :
    p.Describes (.error failure : Except Failure α) ↔ p = .deferred := by
  constructor
  · exact fun hp => hp.deferred.2 ⟨failure, rfl, h⟩
  · rintro rfl
    refine ⟨⟨nofun, nofun⟩, ⟨fun _ => ⟨failure, rfl, h⟩, fun _ => rfl⟩, ⟨nofun, ?_⟩⟩
    rintro ⟨_, hsame, hno⟩
    cases hsame
    exact absurd h hno

theorem Progress.describes_error (h : failure.isDeferral = false) :
    p.Describes (.error failure : Except Failure α) ↔ p = .faulted := by
  have hno : ¬failure.isDeferral := by simp [h]
  constructor
  · exact fun hp => hp.faulted.2 ⟨failure, rfl, hno⟩
  · rintro rfl
    refine ⟨⟨nofun, nofun⟩, ⟨nofun, ?_⟩, ⟨fun _ => ⟨failure, rfl, hno⟩, fun _ => rfl⟩⟩
    rintro ⟨_, hsame, hyes⟩
    cases hsame
    exact absurd hyes hno

/-- What the client itself refuses is a fault. -/
theorem Progress.describes_refusal (h : failure.isRefusal) :
    Progress.faulted.Describes (.error failure : Except Failure α) :=
  (describes_error (Failure.isDeferral_of_isRefusal h)).2 rfl

/-- No failure leaves a request under way. -/
theorem Progress.not_describes_error (hdeferred : p ≠ .deferred) (hfaulted : p ≠ .faulted) :
    ¬p.Describes (.error failure : Except Failure α) := by
  intro h
  cases hkind : failure.isDeferral with
  | true => exact hdeferred ((describes_deferral hkind).1 h)
  | false => exact hfaulted ((describes_error hkind).1 h)

theorem Progress.describes_map {β : Type} {r : Except Failure α} (f : α → β) :
    p.Describes (r.map f) ↔ p.Describes r := by
  cases r with
  | error failure =>
    cases h : failure.isDeferral with
    | true => exact (describes_deferral h).trans (describes_deferral h).symm
    | false => exact (describes_error h).trans (describes_error h).symm
  | ok a => exact describes_ok.trans describes_ok.symm

end

/-! ## Losing track -/

/-- The answers that the client loses track of: an unreadable response, and a deferral by a delay
that cannot be written down. -/
inductive Lost (maxLength : Nat) : Except Failure (Option Octets) → Prop
  | unreadable {data} (h : Unreadable maxLength data) : Lost maxLength (.ok data)
  | unshown {e} (hkind : e.kind = .retryAfter) (hwritable : e.retryAfter.isWritable = false) :
    Lost maxLength (.error (.client e))

/-- The petitions that the client loses track of on the way. -/
inductive Petition.Untracked (E : Engine σ) (s : Store) (p : Petition) (key : KeyValue)
    (asked : ModeValue) (disablePop : Bool) (settings : Settings) (engine : σ) : Prop
  /-- There is no such mode, and it cannot be shown. -/
  | unshown (hasked : asked.IsUnshown)
  /-- The subject has no text. -/
  | nameless {mode failure} (hmode : s.selectMode asked = .ok mode) (hcheck : p.check key = .ok ())
    (hsubject : p.subject = .error failure)
  /-- The engine answered, and the answer is lost. -/
  | lost {mode subject call} (hmode : s.selectMode asked = .ok mode)
    (hcheck : p.check key = .ok ()) (hsubject : p.subject = .ok subject)
    (hcall : s.prepare p key mode disablePop settings.maxLength = .ok call)
    (hlost : Lost settings.maxLength (E.answer settings.fips call engine).1.result)

/-- The steps that the client loses track of: a signing request that cannot be read, unless the
request before it failed too, and the petitions that go untracked. -/
inductive Client.Untracked (E : Engine σ) (c : Client) (w : World σ) : Step → Prop
  | unread {request failure key mode disablePop} (hread : request.toObject = .error failure)
    (hbefore : c.progress ≠ .faulted) : Untracked E c w (.enroll request key mode disablePop)
  | enroll {request r key mode disablePop} (hread : request.toObject = .ok r)
    (h : (Petition.new r).Untracked E c.store key mode disablePop w.settings w.engine) :
    Untracked E c w (.enroll request key mode disablePop)
  | reenroll {old key mode disablePop}
    (h : (Petition.renewal old).Untracked E c.store key mode disablePop w.settings w.engine) :
    Untracked E c w (.reenroll old key mode disablePop)

section
variable {E : Engine σ} {c : Client} {w : World σ} {key : KeyValue} {asked : ModeValue}
  {disablePop : Bool}

/-- A mode that cannot be shown is not selected. -/
theorem Store.selectMode_ne_ok_of_isUnshown {s : Store} {mode : AuthMode} (h : asked.IsUnshown) :
    s.selectMode asked ≠ .ok mode := by
  rw [selectMode_eq_fault_iff.2 ⟨rfl, h⟩]
  nofun

/-- Once the engine is called, only its answer counts. -/
theorem Petition.untracked_iff_of_prepare {s : Store} {p : Petition} {mode : AuthMode}
    {subject : String} {call : EngineCall} (hmode : s.selectMode asked = .ok mode)
    (hcheck : p.check key = .ok ()) (hsubject : p.subject = .ok subject)
    (hcall : s.prepare p key mode disablePop w.settings.maxLength = .ok call) :
    p.Untracked E s key asked disablePop w.settings w.engine ↔
      Lost w.settings.maxLength (E.answer w.settings.fips call w.engine).1.result := by
  constructor
  · intro h
    cases h with
    | unshown hasked => exact absurd hmode (Store.selectMode_ne_ok_of_isUnshown hasked)
    | nameless _ _ hsubject' => rw [hsubject] at hsubject'; cases hsubject'
    | lost hmode' _ _ hcall' hlost =>
      cases Except.ok.inj (hmode.symm.trans hmode')
      cases Except.ok.inj (hcall.symm.trans hcall')
      exact hlost
  · exact .lost hmode hcheck hsubject hcall

/-- A call is described unless its answer is lost. -/
theorem Concluded.describes_iff {a : Action} {maxLength : Nat}
    {answer : Except Failure (Option Octets)} {o : Outcome σ (Option Certificate)}
    (h : Concluded a maxLength w answer o) :
    o.progress.Describes o.result ↔ ¬Lost maxLength answer := by
  cases h with
  | empty hdata | issued hdata =>
    exact iff_of_true (Progress.describes_ok.2 rfl) fun (.unreadable h) => hdata h
  | refused hdata hfailure =>
    exact iff_of_true (Progress.describes_refusal hfailure) fun (.unreadable h) => hdata h
  | unreadable hdata =>
    exact iff_of_false (Progress.not_describes_error nofun nofun) (not_not.2 (.unreadable hdata))
  | @deferred e _ hkind hwritable =>
    have hdeferral : (Failure.client e).isDeferral := decide_eq_true hkind
    refine iff_of_true ((Progress.describes_deferral hdeferral).2 rfl) ?_
    rintro (_ | ⟨-, hunwritable⟩)
    rw [hwritable] at hunwritable
    cases hunwritable
  | unshown hkind hwritable =>
    refine iff_of_false ?_ (not_not.2 (.unshown hkind hwritable))
    exact fun h => nomatch (Progress.describes_error rfl).1 h
  | @failed e _ hkind =>
    have hdeferral : (Failure.client e).isDeferral = false := decide_eq_false hkind
    exact iff_of_true ((Progress.describes_error hdeferral).2 rfl) fun (.unshown h _) => hkind h
  | unrecorded hkind =>
    exact iff_of_true ((Progress.describes_error rfl).2 rfl) fun (.unshown h _) => hkind h
  | thrown =>
    refine iff_of_true ((Progress.describes_error ?_).2 rfl) nofun
    cases a <;> rfl

/-- A petition is described unless it goes untracked. -/
theorem Petition.Course.describes_iff {s : Store} {p : Petition}
    {o : Outcome σ (Option Certificate)} (h : p.Course E s key asked disablePop w o) :
    o.progress.Describes o.result ↔ ¬p.Untracked E s key asked disablePop w.settings w.engine := by
  cases h with
  | unselected hmode =>
    refine iff_of_true (Progress.describes_refusal (Store.isRefusal_of_selectMode hmode)) ?_
    rintro (hasked | ⟨hmode', _, _⟩ | ⟨hmode', _, _, _, _⟩)
    · cases hmode.symm.trans (Store.selectMode_eq_fault_iff.2 ⟨rfl, hasked⟩)
    · cases hmode.symm.trans hmode'
    · cases hmode.symm.trans hmode'
  | unshown hmode =>
    exact iff_of_false (Progress.not_describes_error nofun nofun)
      (not_not.2 (.unshown (Store.selectMode_eq_fault_iff.1 hmode).2))
  | mismatched hmode hcheck =>
    refine iff_of_true (Progress.describes_refusal (Petition.isRefusal_of_check hcheck)) ?_
    rintro (hasked | ⟨_, hcheck', _⟩ | ⟨_, hcheck', _, _, _⟩)
    · exact Store.selectMode_ne_ok_of_isUnshown hasked hmode
    · cases hcheck.symm.trans hcheck'
    · cases hcheck.symm.trans hcheck'
  | nameless hmode hcheck hsubject =>
    exact iff_of_false (Progress.not_describes_error nofun nofun)
      (not_not.2 (.nameless hmode hcheck hsubject))
  | unprepared hmode hcheck hsubject hcall =>
    refine iff_of_true (Progress.describes_refusal (Store.isRefusal_of_prepare hcall)) ?_
    rintro (hasked | ⟨_, _, hsubject'⟩ | ⟨hmode', _, _, hcall', _⟩)
    · exact Store.selectMode_ne_ok_of_isUnshown hasked hmode
    · cases hsubject.symm.trans hsubject'
    · cases Except.ok.inj (hmode.symm.trans hmode')
      cases hcall.symm.trans hcall'
  | called hmode hcheck hsubject hcall hend =>
    rw [Petition.untracked_iff_of_prepare hmode hcheck hsubject hcall]
    exact hend.describes_iff

/-! ## The theorem -/

theorem Client.request_describes_iff (p : Petition) :
    (c.request E p key asked disablePop w).2.1.progress.Describes
        (c.request E p key asked disablePop w).1 ↔
      ¬p.Untracked E c.store key asked disablePop w.settings w.engine :=
  (Progress.describes_map _).trans (c.course_petition E p key asked disablePop _).describes_iff

/-- **When the progress describes the call**: after every request for a certificate, by any client
in any state, with any engine, exactly if the request does not go untracked. -/
theorem Client.describes_step_iff (E : Engine σ) (c : Client) (w : World σ) :
    (∀ request key mode disablePop,
      (c.step E (.enroll request key mode disablePop) w).2.1.progress.Describes
          (c.step E (.enroll request key mode disablePop) w).1 ↔
        ¬c.Untracked E w (.enroll request key mode disablePop)) ∧
    ∀ old key mode disablePop,
      (c.step E (.reenroll old key mode disablePop) w).2.1.progress.Describes
          (c.step E (.reenroll old key mode disablePop) w).1 ↔
        ¬c.Untracked E w (.reenroll old key mode disablePop) := by
  refine ⟨fun request key mode disablePop => ?_, fun old key mode disablePop => ?_⟩
  · cases hread : request.toObject with
    | error failure =>
      rw [step_enroll_unread hread]
      refine (Progress.describes_error
        (Failure.not_isDeferral_of_isLocal (RequestValue.isLocal_of_toObject hread))).trans ⟨?_, ?_⟩
      · rintro hfaulted (⟨_, hbefore⟩ | ⟨hread', _⟩)
        · exact hbefore hfaulted
        · rw [hread] at hread'
          cases hread'
      · exact fun h => not_not.1 fun hbefore => h (.unread hread hbefore)
    | ok r =>
      rw [step_enroll_read hread, Client.request_describes_iff]
      refine not_congr ⟨.enroll hread, ?_⟩
      rintro (⟨hread', _⟩ | ⟨hread', h⟩)
      · rw [hread] at hread'
        cases hread'
      · rw [hread] at hread'
        cases hread'
        exact h
  · refine (Client.request_describes_iff (.renewal old)).trans (not_congr ⟨.reenroll, ?_⟩)
    intro h
    cases h with
    | reenroll h => exact h

/-- The progress of a new client does not tell that its first request could not be read. -/
theorem Client.not_describes_empty_request :
    ¬(({} : Client).step (Scripted.engine none)
        (.enroll (.plain (.octets [])) (.plain .null) (.mode .http) false)
        { engine := ⟨[], []⟩ }).2.1.progress.Describes
      (({} : Client).step (Scripted.engine none)
        (.enroll (.plain (.octets [])) (.plain .null) (.mode .http) false)
        { engine := ⟨[], []⟩ }).1 := by
  intro h
  have hfaulted := h.faulted.2 ⟨SigningRequest.failure cryptographicText, rfl, nofun⟩
  cases hfaulted

end

end Enrollment
