import Enrollment.Proofs.Https

/-!
# Deferrals

A server that answers with the status 202 puts a request off, and may say for how long.
`retryAfter_cases` says which delays cannot be read: texts of digits with one that is no decimal
digit, and texts of too many digits. Exactly then the deferral is lost, and the call and the
operation above it fail with another error (`putsOff_iff`).
-/

namespace Enrollment.Https

open Der Text X509

/-- The number that ASCII digits spell, most significant first. -/
def number (digits : List Char) : Nat :=
  Nat.ofDigits 10 (digits.reverse.map fun c => c.toNat - 48)

/-- What a header holds between the blanks at its ends. -/
def delayText (header : Option String) : List Char := (header.map fun s => trim s.toList).getD []

/-- Whether a header makes its reader fail: it holds digits only, and one of them is no decimal
digit, or there are too many of them. -/
def UnreadableDelay (header : Option String) : Prop :=
  delayText header ≠ [] ∧ (∀ c ∈ delayText header, isDigit c) ∧
    ((∃ c ∈ delayText header, ¬isDecimal c) ∨ Radix.digitLimit < (delayText header).length)

/-- Whether a delay is the one that a header asks for: if the header holds a number in ASCII
digits, it is this number. -/
def AsksFor (header : Option String) (delay : Option Int) : Prop :=
  delayText header ≠ [] → (∀ c ∈ delayText header, c.isDigit) →
    delay = some (number (delayText header) : Int)

/-- The values of ASCII digits, folded as they are read, are their number. -/
theorem foldl_decimalValue {digits : List Char} (h : ∀ c ∈ digits, c.isDigit) :
    (digits.map decimalValue).foldl (fun n d => n * 10 + d) 0 = number digits := by
  have hvalues : digits.map decimalValue = digits.map fun c => c.toNat - 48 :=
    List.map_congr_left fun c hc => by rw [decimalValue, decimalDigit?_of_isDigit (h c hc)]; rfl
  rw [hvalues, number, List.map_reverse, Nat.ofDigits_eq_foldr, List.foldl_eq_foldr_reverse]
  congr 1
  funext d n
  simp only [Nat.cast_id]
  omega

/-- **What a header is read as.** -/
theorem retryAfter_cases (header : Option String) :
    (UnreadableDelay header ∧ ∃ fault, retryAfter header = .error fault) ∨
    (¬UnreadableDelay header ∧ ∃ delay, retryAfter header = .ok delay ∧ AsksFor header delay) := by
  cases header with
  | none => exact .inr ⟨fun h => h.1 rfl, none, rfl, fun h => absurd rfl h⟩
  | some s =>
    have htext : delayText (some s) = trim s.toList := rfl
    rw [UnreadableDelay, htext, retryAfter]
    by_cases hdigits : trim s.toList ≠ [] ∧ ∀ c ∈ trim s.toList, isDigit c
    · obtain ⟨hne, hall⟩ := hdigits
      have hcond : ((trim s.toList).isEmpty || !(trim s.toList).all isDigit) = false := by
        simpa using ⟨hne, hall⟩
      simp only [hcond, readInteger, Radix.read_of_isDigit hne (trim_trim _) hall]
      cases hdecimal : (trim s.toList).all isDecimal with
      | false =>
        obtain ⟨c, hc, hspecial⟩ := List.all_eq_false.1 hdecimal
        exact .inl ⟨⟨hne, hall, .inl ⟨c, hc, hspecial⟩⟩, _, rfl⟩
      | true =>
        by_cases hlong : Radix.digitLimit < (trim s.toList).length
        · rw [if_pos rfl, if_pos hlong]
          exact .inl ⟨⟨hne, hall, .inr hlong⟩, _, rfl⟩
        · rw [if_pos rfl, if_neg hlong]
          refine .inr ⟨?_, _, rfl, fun _ hascii => ?_⟩
          · rintro ⟨-, -, ⟨c, hc, hspecial⟩ | hmany⟩
            · exact hspecial (List.all_eq_true.1 hdecimal c hc)
            · exact hlong hmany
          · exact congrArg (fun n : Nat => some (n : Int)) (foldl_decimalValue hascii)
    · have hcond : ((trim s.toList).isEmpty || !(trim s.toList).all isDigit) = true := by
        rw [not_and_or, not_not] at hdigits
        simpa using hdigits
      simp only [hcond]
      refine .inr ⟨fun h => hdigits ⟨h.1, h.2.1⟩, none, rfl, fun hne hascii => ?_⟩
      exact absurd ⟨hne, fun c hc => isDigit_of_isAsciiDigit (hascii c hc)⟩ hdigits

/-! ## Putting off -/

/-- The failure of an operation that the server put off, for as long as a header asks. -/
def PutsOff (a : Action) (header : Option String) (failure : Failure) : Prop :=
  ∃ delay, failure = .ofCause .retryAfter (.deferred a.operation delay) ∧ AsksFor header delay

/-- Whether what comes of a step says that it was put off: it failed that way, and the client knows
that it was put off. -/
def IsPutOff (a : Action) (header : Option String)
    (out : Except Failure StepResult × Client × World Transport) : Prop :=
  ∃ failure, out.1 = .error failure ∧ PutsOff a header failure ∧ out.2.1.progress = .deferred

section
variable {o : Options} {r : Response}

/-- A call that is answered with the status 202 is put off, or the header makes it fail. -/
theorem answer_cases_of_deferred {restricted : Bool} {a : Action} {request : EngineRequest}
    {arguments : ModeArguments} {t : Transport} (hstatus : r.status = 202)
    (hreply : t.reply = .response r)
    (hsends : Sends o restricted (.certificate a request arguments) t) :
    (UnreadableDelay (r.header? "Retry-After") ∧ ∃ fault,
      (answer o restricted (.certificate a request arguments) t).1.result = .error (.fault fault)) ∨
    (¬UnreadableDelay (r.header? "Retry-After") ∧ ∃ delay,
      (answer o restricted (.certificate a request arguments) t).1.result =
        .error (.ofCause .retryAfter (.deferred a.operation delay)) ∧
      AsksFor (r.header? "Retry-After") delay) := by
  rw [result_answer_of_sends hreply hsends, interpret, if_pos hstatus]
  rcases retryAfter_cases (r.header? "Retry-After") with
    ⟨hbad, fault, hfault⟩ | ⟨hgood, delay, hdelay, hasks⟩
  · rw [hfault]
    exact .inl ⟨hbad, fault, rfl⟩
  · rw [hdelay]
    exact .inr ⟨hgood, delay, rfl, hasks⟩

/-- A petition that is answered with the status 202 is put off, or the header makes it fail. -/
theorem course_cases_of_deferred {s : Store} {p : Petition} {key : KeyValue} {asked : ModeValue}
    {disablePop : Bool} {w : World Transport} {out : Outcome Transport (Option Certificate)}
    (hstatus : r.status = 202) (hreply : w.engine.reply = .response r)
    (hcourse : p.Course (engine o) s key asked disablePop w out)
    (hsends : w.engine.requests.length < out.world.engine.requests.length) :
    (UnreadableDelay (r.header? "Retry-After") ∧ out.progress = .faulted) ∨
    (¬UnreadableDelay (r.header? "Retry-After") ∧ out.progress = .deferred ∧
      ∃ failure, out.result = .error failure ∧
        PutsOff p.action (r.header? "Retry-After") failure) := by
  cases hcourse with
  | unselected | unshown | mismatched | nameless | unprepared =>
    exact absurd hsends (Nat.lt_irrefl _)
  | called _ _ _ hcall hend =>
    obtain ⟨anchors, privateKey, payload, arguments, -, -, -, -, rfl⟩ := Store.prepare_eq_ok hcall
    rw [hend.engine_eq] at hsends
    rcases answer_cases_of_deferred hstatus hreply hsends with
      ⟨hbad, fault, hanswer⟩ | ⟨hgood, delay, hanswer, hasks⟩
    · refine .inl ⟨hbad, ?_⟩
      generalize hresult : (World.call _ _ _).1 = result at hend
      have hfault : result = .error (.fault fault) := hresult.symm.trans hanswer
      subst hfault
      cases hend
      rfl
    · generalize hresult : (World.call _ _ _).1 = result at hend
      have hdeferral : result =
          .error (.ofCause .retryAfter (.deferred p.action.operation delay)) :=
        hresult.symm.trans hanswer
      subst hdeferral
      cases hend with
      | deferred => exact .inr ⟨hgood, rfl, _, rfl, delay, rfl, hasks⟩
      | unshown _ hwritable =>
        have hplain := Failure.isWritable_of_isPlain (isPlain_of_answer hanswer)
        cases hplain.symm.trans hwritable
      | failed hkind => exact absurd rfl hkind
      | unrecorded hkind => exact absurd rfl hkind

theorem isPutOff_request_iff {c : Client} {p : Petition} {key : KeyValue} {asked : ModeValue}
    {disablePop : Bool} {w : World Transport} (hstatus : r.status = 202)
    (hreply : w.engine.reply = .response r)
    (hsends : HasSent w (c.request (engine o) p key asked disablePop w)) :
    IsPutOff p.action (r.header? "Retry-After") (c.request (engine o) p key asked disablePop w) ↔
      ¬UnreadableDelay (r.header? "Retry-After") := by
  have hopen : ({ w with journal := w.journal.openOperation } : World Transport).engine.reply =
      .response r := hreply
  rcases course_cases_of_deferred hstatus hopen
    (c.course_petition (engine o) p key asked disablePop _) hsends with
    ⟨hbad, hprogress⟩ | ⟨hgood, hprogress, failure, hresult, hputs⟩
  · refine iff_of_false ?_ (not_not.2 hbad)
    rintro ⟨_, -, -, hdeferred⟩
    cases hprogress.symm.trans hdeferred
  · refine iff_of_true ⟨failure, ?_, hputs, hprogress⟩ hgood
    exact map_eq_error_iff.2 hresult

/-- **When a deferral is kept**: of the calls for a certificate and of the enrolments and renewals
that send a request and are answered with the status 202, exactly those are put off whose header
can be read. -/
theorem putsOff_iff (o : Options) {r : Response} (hstatus : r.status = 202) :
    (∀ restricted a request arguments t, t.reply = .response r →
      Sends o restricted (.certificate a request arguments) t →
      ((∃ failure,
          (answer o restricted (.certificate a request arguments) t).1.result = .error failure ∧
          PutsOff a (r.header? "Retry-After") failure) ↔
        ¬UnreadableDelay (r.header? "Retry-After"))) ∧
    (∀ (c : Client) w request key mode disablePop, w.engine.reply = .response r →
      HasSent w (c.step (engine o) (.enroll request key mode disablePop) w) →
      (IsPutOff .enroll (r.header? "Retry-After")
          (c.step (engine o) (.enroll request key mode disablePop) w) ↔
        ¬UnreadableDelay (r.header? "Retry-After"))) ∧
    ∀ (c : Client) w old key mode disablePop, w.engine.reply = .response r →
      HasSent w (c.step (engine o) (.reenroll old key mode disablePop) w) →
      (IsPutOff .reenroll (r.header? "Retry-After")
          (c.step (engine o) (.reenroll old key mode disablePop) w) ↔
        ¬UnreadableDelay (r.header? "Retry-After")) := by
  refine ⟨?_, ?_, ?_⟩
  · intro restricted a request arguments t hreply hsends
    rcases answer_cases_of_deferred hstatus hreply hsends with
      ⟨hbad, fault, hanswer⟩ | ⟨hgood, delay, hanswer, hasks⟩
    · refine iff_of_false ?_ (not_not.2 hbad)
      rintro ⟨_, hresult, delay, rfl, -⟩
      cases hanswer.symm.trans hresult
    · exact iff_of_true ⟨_, hanswer, delay, rfl, hasks⟩ hgood
  · intro c w request key mode disablePop hreply hsent
    cases hread : request.toObject with
    | error failure =>
      rw [Client.step_enroll_unread hread] at hsent
      exact absurd hsent (Nat.lt_irrefl _)
    | ok object =>
      rw [Client.step_enroll_read hread] at hsent ⊢
      exact isPutOff_request_iff hstatus hreply hsent
  · intro c w old key mode disablePop hreply hsent
    exact isPutOff_request_iff hstatus hreply hsent

/-! ## A deferral kept, and one lost -/

/-- A small key, too weak for any use. -/
def sampleKey : PrivateKey := .rsa ⟨33, 3, 7, 3, 11, 1, 7, 2⟩

/-- A signing request for the key, for nobody. -/
def sampleRequest : Octets :=
  sequence [sequence [natural 0, sequence [], sampleKey.publicKey.encode, wrap (tagContext 0) []],
    (Algorithm.plain oidEd25519).encode, bitString []]

/-- A client that knows its server and a login for HTTP. -/
def sampleClient : Client where
  store := { endpoint := ⟨some "est", some 443⟩, http := some ⟨.text "user", .text "word"⟩ }

/-- An enrolment with the request and the key. -/
def sampleStep : Step :=
  .enroll (.plain (.octets sampleRequest)) (.secret sampleKey) (.mode .http) false

/-- The reply of a server that puts a request off and says so in a header. -/
def deferral (header : String) : Response := { status := 202, headers := [("Retry-After", header)] }

/-- A world with a server that puts everything off. -/
def deferring (header : String) : World Transport where
  engine := ⟨[.response (deferral header)], []⟩

theorem isPutOff_two_minutes : (deferral " 120 ").status = 202 ∧
    (deferring " 120 ").engine.reply = .response (deferral " 120 ") ∧
    HasSent (deferring " 120 ") (sampleClient.step (engine {}) sampleStep (deferring " 120 ")) ∧
    IsPutOff .enroll ((deferral " 120 ").header? "Retry-After")
      (sampleClient.step (engine {}) sampleStep (deferring " 120 ")) := by
  have hsent : HasSent (deferring " 120 ")
      (sampleClient.step (engine {}) sampleStep (deferring " 120 ")) := by
    rw [HasSent]
    decide +kernel
  have hreadable : ¬UnreadableDelay ((deferral " 120 ").header? "Retry-After") := by
    have hdecimal : (delayText ((deferral " 120 ").header? "Retry-After")).all isDecimal := by
      decide +kernel
    have hshort : (delayText ((deferral " 120 ").header? "Retry-After")).length ≤
        Radix.digitLimit := by
      decide +kernel
    rintro ⟨-, -, ⟨c, hc, hno⟩ | hlong⟩
    · exact hno (List.all_eq_true.1 hdecimal c hc)
    · exact Nat.not_lt.2 hshort hlong
  exact ⟨rfl, rfl, hsent, ((putsOff_iff {} rfl).2.1 _ _ _ _ _ _ rfl hsent).2 hreadable⟩

/-- A superscript two is a digit and no number: the deferral is lost. -/
theorem not_isPutOff_superscript : (deferral "²").status = 202 ∧
    (deferring "²").engine.reply = .response (deferral "²") ∧
    HasSent (deferring "²") (sampleClient.step (engine {}) sampleStep (deferring "²")) ∧
    ¬IsPutOff .enroll ((deferral "²").header? "Retry-After")
      (sampleClient.step (engine {}) sampleStep (deferring "²")) := by
  refine ⟨rfl, rfl, ?_, ?_⟩
  · rw [HasSent]
    decide +kernel
  · rintro ⟨_, -, -, hdeferred⟩
    have hfaulted : (sampleClient.step (engine {}) sampleStep (deferring "²")).2.1.progress =
        .faulted := by
      decide +kernel
    cases hfaulted.symm.trans hdeferred

end

end Enrollment.Https
