import Enrollment.Proofs.Base64
import Enrollment.Proofs.Deferral
import Enrollment.Proofs.Replies
import Enrollment.Proofs.Requests

/-!
# Certificates delivered

A server delivers certificates as a collection in base64, with white space wherever it likes. They
pass four formats on their way to the caller: base64, PKCS #7, PEM in the engine, and the stream of
PEM blocks that the client reads. None of them loses, changes or moves a certificate
(`certificates_delivered`).
-/

namespace Enrollment

open Der

/-! ## White space -/

/-- Whether a body is a text with white space inserted anywhere. -/
inductive Spaced : Octets → Octets → Prop
  | nil : Spaced [] []
  | letter {b : UInt8} {body text : Octets} (h : Spaced body text) : Spaced (b :: body) (b :: text)
  | space {b : UInt8} {body text : Octets} (hb : Octets.isSpace b) (h : Spaced body text) :
    Spaced (b :: body) text

/-- Every body is what is left of it with white space inserted. -/
theorem spaced_dropSpaces (body : Octets) : Spaced body body.dropSpaces := by
  induction body with
  | nil => exact .nil
  | cons b body ih =>
    rw [Octets.dropSpaces, List.filter_cons]
    cases hb : Octets.isSpace b with
    | false => exact .letter ih
    | true => exact .space hb ih

/-- The text is found again, if there is no white space in it. -/
theorem Spaced.dropSpaces_eq {body text : Octets} (h : Spaced body text)
    (htext : ∀ b ∈ text, Octets.isSpace b = false) : body.dropSpaces = text := by
  induction h with
  | nil => rfl
  | @letter b body text _ ih =>
    obtain ⟨hb, hmore⟩ := List.forall_mem_cons.1 htext
    rw [Octets.dropSpaces, List.filter_cons, hb]
    exact congrArg (b :: ·) (ih hmore)
  | space hb _ ih =>
    rw [Octets.dropSpaces, List.filter_cons, hb]
    exact ih htext

/-- No letter of base64 is white space. -/
theorem Base64.isSpace_of_isLetter {b : UInt8} (h : isLetter b = true) :
    Octets.isSpace b = false := by
  obtain ⟨hlow, -, -⟩ := bounds_of_isLetter h
  have hne : ¬b = 32 := by rintro rfl; exact Nat.lt_irrefl _ hlow
  have hhigh : ¬b ≤ 13 := by
    intro hle
    have : b.toNat ≤ 13 := UInt8.le_iff_toNat_le.1 hle
    omega
  simp [Octets.isSpace, hne, hhigh]

/-- Octets in base64 are read back, whatever white space was inserted. -/
theorem Base64.readLenient_dropSpaces {body bytes : Octets} (h : Spaced body (encode bytes)) :
    readLenient body.dropSpaces = .ok bytes := by
  rw [h.dropSpaces_eq fun b hb => isSpace_of_isLetter (mem_encode hb)]
  exact readFrom_encode false bytes 0

/-! ## Replies that deliver -/

/-- Whether a reply delivers certificates: it is a success of the type of collections, and its body
is base64 of a collection of these certificates, with white space inserted anywhere. -/
structure Response.Delivers (r : Response) (cs : List Certificate) : Prop where
  status : r.status = 200
  typed : r.IsTyped
  body : ∃ der, Pkcs7.IsCollection cs der ∧ Spaced r.body (Base64.encode der)

/-- What a reply delivers it holds. -/
theorem Response.Delivers.holds {r : Response} {cs : List Certificate} (h : r.Delivers cs) :
    r.Holds cs := by
  obtain ⟨hstatus, htyped, der, hder, hbody⟩ := h
  refine ⟨hstatus, htyped, der, Base64.readLenient_dropSpaces hbody, ?_⟩
  rw [Pkcs7.message?, Pkcs7.messageOfDer?_of_isCollection hder]
  rfl

/-- A call that is answered with certificates gives their PEM texts. -/
theorem Https.answer_of_holds {o : Options} {restricted : Bool} {call : EngineCall} {t : Transport}
    {r : Response} {cs : List Certificate} (h : r.Holds cs) (hreply : t.reply = .response r)
    (hfits : ((cs.flatMap Certificate.toPem).length : Int) ≤ call.maxLength)
    (hsends : Sends o restricted call t) :
    (answer o restricted call t).1.result = .ok (some (cs.flatMap Certificate.toPem)) := by
  rw [result_answer_of_sends hreply hsends, interpret_of_holds h, interpretCollection_of_holds h,
    if_neg (Int.not_lt.2 hfits)]

/-- A call that is answered with certificates that are too long tells how long they are. -/
theorem Https.answer_of_long {o : Options} {restricted : Bool} {call : EngineCall} {t : Transport}
    {r : Response} {cs : List Certificate} (h : r.Holds cs) (hreply : t.reply = .response r)
    (hlong : call.maxLength < ((cs.flatMap Certificate.toPem).length : Int))
    (hsends : Sends o restricted call t) :
    (answer o restricted call t).1.result = .error (.ofCause .bufferSize
      (.tooLong (cs.flatMap Certificate.toPem).length call.maxLength)) := by
  rw [result_answer_of_sends hreply hsends, interpret_of_holds h, interpretCollection_of_holds h,
    if_pos hlong]

/-! ## What the client makes of them -/

/-- The PEM texts of one certificate or more are not empty. -/
theorem isEmpty_flatMap_toPem (c : Certificate) (cs : List Certificate) :
    ((c :: cs).flatMap Certificate.toPem).isEmpty = false := by
  rw [List.flatMap_cons, Certificate.toPem_eq]
  simp

/-- The certificate of a response is the first one, if it can be told about. -/
theorem interpretResponse_flatMap_toPem {a : Action} {server : String} {maxLength : Nat}
    {cs : List Certificate} {w : World σ}
    (hfits : (cs.flatMap Certificate.toPem).length ≤ maxLength)
    (htellable : ∀ first ∈ cs.head?, first.IsTellable) :
    (interpretResponse a server maxLength (some (cs.flatMap Certificate.toPem)) w).result =
      .ok cs.head? := by
  have hbytes : responseOctets (some (cs.flatMap Certificate.toPem)) =
      cs.flatMap Certificate.toPem := dropTrailingNul_flatMap_toPem cs
  rw [interpretResponse]
  simp only [hbytes, Nat.not_lt.2 hfits, if_false]
  cases cs with
  | nil => rfl
  | cons c cs =>
    have hfirst := firstCertificate_of_ofStream (ofStream_flatMap_toPem (c :: cs))
    rcases certificateFacts_eq c with ⟨-, facts, hfacts⟩ | ⟨huntellable, -⟩
    · simp only [isEmpty_flatMap_toPem, hfirst, hfacts]
      rfl
    · exact absurd (htellable c rfl) huntellable

/-- The certificates of the authority are all of them. -/
theorem concludeFetch_flatMap_toPem {server : String} {maxLength : Nat} {cs : List Certificate}
    {w : World σ} (hfits : (cs.flatMap Certificate.toPem).length ≤ maxLength) :
    (concludeFetch server maxLength (.ok (some (cs.flatMap Certificate.toPem))) w).1 = .ok cs := by
  rw [concludeFetch]
  simp only [Option.getD_some, Nat.not_lt.2 hfits, if_false, ofStream_flatMap_toPem,
    Reading.toExcept]
  cases cs with
  | nil => rfl
  | cons c cs =>
    simp only [isEmpty_flatMap_toPem]
    rfl

/-! ## The operations -/

namespace Https

section
variable {o : Options} {r : Response} {cs : List Certificate} {c : Client} {w : World Transport}

/-- A petition that sends a request passes every check before the call. -/
theorem exists_prepare_of_sent {p : Petition} {key : KeyValue} {asked : ModeValue}
    {disablePop : Bool} (hsent : w.engine.requests.length <
      (c.petition (engine o) p key asked disablePop w).world.engine.requests.length) :
    ∃ mode subject call, c.store.selectMode asked = .ok mode ∧ p.check key = .ok () ∧
      p.subject = .ok subject ∧
      c.store.prepare p key mode disablePop w.settings.maxLength = .ok call := by
  have hcourse := c.course_petition (engine o) p key asked disablePop w
  generalize c.petition (engine o) p key asked disablePop w = out at hsent hcourse
  cases hcourse with
  | unselected | unshown | mismatched | nameless | unprepared =>
    exact absurd hsent (Nat.lt_irrefl _)
  | called hmode hcheck hsubject hcall _ => exact ⟨_, _, _, hmode, hcheck, hsubject, hcall⟩

/-- A petition that is answered with certificates gives the first of them. -/
theorem petition_of_holds {p : Petition} {key : KeyValue} {asked : ModeValue} {disablePop : Bool}
    (h : r.Holds cs) (hreply : w.engine.reply = .response r)
    (hfits : (cs.flatMap Certificate.toPem).length ≤ w.settings.maxLength)
    (htellable : ∀ first ∈ cs.head?, first.IsTellable)
    (hsent : w.engine.requests.length <
      (c.petition (engine o) p key asked disablePop w).world.engine.requests.length) :
    (c.petition (engine o) p key asked disablePop w).result = .ok cs.head? := by
  obtain ⟨mode, subject, call, hmode, hcheck, hsubject, hcall⟩ := exists_prepare_of_sent hsent
  have hlength : call.maxLength = w.settings.maxLength := by
    obtain ⟨anchors, privateKey, payload, arguments, -, -, -, -, rfl⟩ := Store.prepare_eq_ok hcall
    rfl
  rw [Client.petition_eq_conclude hmode hcheck hsubject hcall] at hsent ⊢
  -- nothing but the call touches the engine, so it is the call that sent the request
  rw [(concluded_concludeEnroll _).engine_eq] at hsent
  have hanswer : ((w.announced c.store p mode subject disablePop).call (engine o) call).1 = _ :=
    answer_of_holds h hreply (hlength ▸ Int.ofNat_le.2 hfits) hsent
  rw [hanswer]
  exact interpretResponse_flatMap_toPem hfits htellable

/-- A question that is answered with certificates gives all of them. -/
theorem fetch_of_holds {s : Store} (h : r.Holds cs) (hreply : w.engine.reply = .response r)
    (hfits : (cs.flatMap Certificate.toPem).length ≤ w.settings.maxLength)
    (hsent : w.engine.requests.length < (s.fetch (engine o) w).2.engine.requests.length) :
    (s.fetch (engine o) w).1 = .ok cs := by
  rw [Store.fetch] at hsent ⊢
  simp only at hsent ⊢
  split at hsent
  · exact absurd hsent (Nat.lt_irrefl _)
  · next hcomplete =>
    rw [if_neg hcomplete]
    split at hsent
    · exact absurd hsent (Nat.lt_irrefl _)
    · next anchors hanchors =>
      rw [engine_concludeFetch] at hsent
      have hanswer : (w.call (engine o) (.caCertificates anchors s.endpoint s.srp _)).1 = _ :=
        answer_of_holds h hreply (Int.ofNat_le.2 hfits) hsent
      rw [hanswer]
      exact concludeFetch_flatMap_toPem hfits

/-- A client that asks for the certificates of the authority gets all that the reply holds. -/
theorem step_fetch_of_holds (h : r.Holds cs) (hreply : w.engine.reply = .response r)
    (hfits : (cs.flatMap Certificate.toPem).length ≤ w.settings.maxLength)
    (hsent : HasSent w (c.step (engine o) .fetch w)) :
    (c.step (engine o) .fetch w).1 = .ok (.certificates cs) :=
  map_eq_ok_iff.2 ⟨cs, fetch_of_holds h hreply hfits hsent, rfl⟩

/-- **Certificates are delivered**: whatever a reply delivers, if it is not too long, fetching the
certificates of the authority gives all of it in order, and enrolment and renewal give the first
certificate, or none if there is none, provided that it can be told about. -/
theorem certificates_delivered (o : Options) {r : Response} {cs : List Certificate}
    (hdelivers : r.Delivers cs) {w : World Transport} (hreply : w.engine.reply = .response r)
    (hfits : (cs.flatMap Certificate.toPem).length ≤ w.settings.maxLength) (c : Client) :
    (HasSent w (c.step (engine o) .fetch w) →
      (c.step (engine o) .fetch w).1 = .ok (.certificates cs)) ∧
    ((∀ first ∈ cs.head?, first.IsTellable) →
      (∀ request key mode disablePop,
        HasSent w (c.step (engine o) (.enroll request key mode disablePop) w) →
        (c.step (engine o) (.enroll request key mode disablePop) w).1 =
          .ok (.certificate cs.head?)) ∧
      ∀ old key mode disablePop,
        HasSent w (c.step (engine o) (.reenroll old key mode disablePop) w) →
        (c.step (engine o) (.reenroll old key mode disablePop) w).1 =
          .ok (.certificate cs.head?)) := by
  have hholds := hdelivers.holds
  refine ⟨step_fetch_of_holds hholds hreply hfits, fun htellable => ⟨?_, ?_⟩⟩
  · intro request key mode disablePop hsent
    cases hread : request.toObject with
    | error failure =>
      rw [Client.step_enroll_unread hread] at hsent
      exact absurd hsent (Nat.lt_irrefl _)
    | ok object =>
      rw [Client.step_enroll_read hread] at hsent ⊢
      exact map_eq_ok_iff.2 ⟨_, petition_of_holds hholds hreply hfits htellable hsent, rfl⟩
  · intro old key mode disablePop hsent
    exact map_eq_ok_iff.2 ⟨_, petition_of_holds hholds hreply hfits htellable hsent, rfl⟩

/-! ## A delivery -/

open X509 in
/-- A certificate like the sample, with the next number. -/
def nextCertificate : Certificate where
  der := sequence [
    sequence [natural 2, (Algorithm.plain oidEd25519).encode, sequence [],
      sequence [wrap tagUtcTime (Octets.ofAscii "240101000000Z"),
        wrap tagUtcTime (Octets.ofAscii "340101000000Z")],
      sequence [], sampleContent.key.encode],
    (Algorithm.plain oidEd25519).encode, bitString []]
  content := { sampleContent with serial := 2 }
  reads := by decide +kernel

/-- Two certificates. -/
def sampleCertificates : List Certificate := [sampleCertificate, nextCertificate]

/-- A reply with a collection of the two, in two lines. -/
def sampleDelivery : Response :=
  let text := Base64.encode (Pkcs7.encode sampleCertificates)
  collectionReply (text.take 64 ++ [10] ++ text.drop 64)

/-- A world with a server that delivers the collection. -/
def delivering : World Transport where
  engine := replying sampleDelivery

/-- A renewal of the certificate with the key. -/
def sampleRenewal : Step :=
  .reenroll (.certificate sampleCertificate) (.secret sampleKey) (.mode .http) false

theorem delivers_sampleDelivery : sampleDelivery.Delivers sampleCertificates := by
  refine ⟨rfl, occursIn_iff.1 (by decide +kernel), _, Pkcs7.isCollection_encode ?_, ?_⟩
  · decide +kernel
  · have hbody : sampleDelivery.body.dropSpaces =
        Base64.encode (Pkcs7.encode sampleCertificates) := by
      decide +kernel
    exact hbody ▸ spaced_dropSpaces sampleDelivery.body

theorem certificates_delivered_in_two_lines : sampleDelivery.Delivers sampleCertificates ∧
    delivering.engine.reply = .response sampleDelivery ∧
    (sampleCertificates.flatMap Certificate.toPem).length ≤ delivering.settings.maxLength ∧
    (∀ first ∈ sampleCertificates.head?, first.IsTellable) ∧
    HasSent delivering (sampleClient.step (engine {}) .fetch delivering) ∧
    (sampleClient.step (engine {}) .fetch delivering).1 =
      .ok (.certificates [sampleCertificate, nextCertificate]) ∧
    HasSent delivering (sampleClient.step (engine {}) sampleStep delivering) ∧
    (sampleClient.step (engine {}) sampleStep delivering).1 =
      .ok (.certificate (some sampleCertificate)) ∧
    HasSent delivering (sampleClient.step (engine {}) sampleRenewal delivering) ∧
    (sampleClient.step (engine {}) sampleRenewal delivering).1 =
      .ok (.certificate (some sampleCertificate)) := by
  have hfits : (sampleCertificates.flatMap Certificate.toPem).length ≤
      delivering.settings.maxLength := by
    decide +kernel
  have htellable : ∀ first ∈ sampleCertificates.head?, first.IsTellable := by
    rintro _ ⟨⟩
    exact ⟨⟨"", rfl⟩, by decide, by decide⟩
  have hfetch : HasSent delivering (sampleClient.step (engine {}) .fetch delivering) := by
    rw [HasSent]
    decide +kernel
  have henroll : HasSent delivering (sampleClient.step (engine {}) sampleStep delivering) := by
    rw [HasSent]
    decide +kernel
  have hrenew : HasSent delivering (sampleClient.step (engine {}) sampleRenewal delivering) := by
    rw [HasSent]
    decide +kernel
  have h := certificates_delivered {} delivers_sampleDelivery (w := delivering) rfl hfits
    sampleClient
  exact ⟨delivers_sampleDelivery, rfl, hfits, htellable, hfetch, h.1 hfetch, henroll,
    (h.2 htellable).1 _ _ _ _ henroll, hrenew, (h.2 htellable).2 _ _ _ _ hrenew⟩

end

end Https

end Enrollment
