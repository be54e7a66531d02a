import Enrollment.Proofs.Collection
import Enrollment.Proofs.Https
import Enrollment.Proofs.Stream

/-!
# What replies mean

A reply that is no deferral is empty, or carries certificates, which fit or are too long, or else
makes the call fail with an error of its own kind that tells the status (`Settled`). Three kinds of
reply are none of these: a message of another type than a collection, a collection with a
certificate of an unknown version, and a failure whose text is in an encoding that cannot be read.
What comes of them is no error of the call at all (`settled_iff`).
-/

namespace Enrollment

namespace Https

/-! ## What a reply carries -/

/-- A text stands somewhere in another. -/
theorem occursIn_iff {text cs : List Char} : occursIn text cs ↔ text <:+: cs := by
  induction cs with
  | nil => rw [occursIn, List.isEmpty_iff, List.infix_nil]
  | cons c more ih =>
    rw [occursIn, Bool.or_eq_true, List.isPrefixOf_iff_prefix, ih, List.infix_cons_iff]

/-- **Bodies that are read as certificates.** -/
theorem collection_eq_ok_iff {body : Octets} {cs : List Certificate} :
    collection body = .ok (.ok cs) ↔ ∃ der, Base64.readLenient body.dropSpaces = .ok der ∧
      Pkcs7.message? der = some (.collection (cs.map Certificate.der)) := by
  rw [collection]
  constructor
  · intro h
    split at h
    · cases h
    · next der hder =>
      split at h
      · next hread =>
        cases h
        exact ⟨der, hder, Pkcs7.certificates_eq_ok_iff.1 hread⟩
      · cases h
      · cases h
  · rintro ⟨der, hder, hmessage⟩
    rw [hder]
    simp only [Pkcs7.certificates_eq_ok_iff.2 hmessage]

/-- **Bodies that are read as no certificates, and not for being malformed.** -/
theorem collection_eq_error_iff {body : Octets} {failure : Failure} :
    collection body = .error failure ↔ ∃ der fault,
      Base64.readLenient body.dropSpaces = .ok der ∧ fault ≠ .malformed ∧
      Pkcs7.certificates der = .error fault ∧ failure = .fault (.cryptographic fault) := by
  rw [collection]
  constructor
  · intro h
    split at h
    · cases h
    · next der hder =>
      split at h
      · cases h
      · cases h
      · next fault hfault hread =>
        cases h
        exact ⟨der, fault, hder, hfault, hread, rfl⟩
  · rintro ⟨der, fault, hder, hfault, hread, rfl⟩
    rw [hder]
    simp only [hread]

end Https

namespace Response

/-- Whether a reply says that there is nothing. -/
def IsEmpty (r : Response) : Prop :=
  r.status = 204 ∨ r.status = 200 ∧ ∀ b ∈ r.body, Octets.isSpace b

/-- Whether the type that a reply gives for its body is that of collections. -/
def IsTyped (r : Response) : Prop :=
  Https.collectionType.toList <:+: ((r.header? "Content-Type").getD "").toList

/-- Whether a reply carries a message: its body is base64, white space aside, of octets that have
the message at their front. -/
structure Carries (r : Response) (m : Pkcs7.Message) : Prop where
  status : r.status = 200
  typed : r.IsTyped
  body : ∃ der, Base64.readLenient r.body.dropSpaces = .ok der ∧ Pkcs7.message? der = some m

/-- Whether a reply carries a collection of these certificates. -/
def Holds (r : Response) (cs : List Certificate) : Prop :=
  r.Carries (.collection (cs.map Certificate.der))

/-- Whether a reply carries what is well-formed and cannot be read. -/
inductive Unreadable (r : Response) : Prop
  /-- A message of another type. -/
  | other (h : r.Carries .other)
  /-- A collection whose first member that is no certificate is of an unknown version. -/
  | version {before : List Certificate} {bad : Octets} {after : List Octets}
      (h : r.Carries (.collection (before.map Certificate.der ++ bad :: after)))
      (hbad : Certificate.ofDer bad = .error .unknownVersion)

variable {r : Response} {m : Pkcs7.Message} {cs : List Certificate}

theorem isEmpty_iff : r.IsEmpty ↔ r.status = 204 ∨ r.status = 200 ∧ r.body.isBlank := by
  rw [IsEmpty, Octets.isBlank, List.all_eq_true]

/-- A reply that carries something is not empty. -/
theorem Carries.not_isEmpty (h : r.Carries m) : ¬r.IsEmpty := by
  obtain ⟨hstatus, -, der, hder, hmessage⟩ := h
  rintro (h204 | ⟨-, hblank⟩)
  · rw [hstatus] at h204
    cases h204
  · -- a blank body is the base64 of nothing, and nothing is no message
    have hnothing : r.body.dropSpaces = [] :=
      List.filter_eq_nil_iff.2 fun b hb => by simp only [hblank b hb]; decide
    rw [hnothing] at hder
    cases hder
    cases hmessage

/-- **When a reply holds certificates**, in terms of what its body is read as. -/
theorem holds_iff : r.Holds cs ↔
    r.status = 200 ∧ r.IsTyped ∧ Https.collection r.body = .ok (.ok cs) :=
  ⟨fun h => ⟨h.status, h.typed, Https.collection_eq_ok_iff.2 h.body⟩,
    fun ⟨hstatus, htyped, h⟩ => ⟨hstatus, htyped, Https.collection_eq_ok_iff.1 h⟩⟩

end Response

namespace Https

/-! ## What comes of it -/

section
variable {kind : ErrorKind} {maxLength : Int} {r : Response}

/-- What comes of certificates is their PEM texts, if these are not too long. -/
theorem interpretCollection_of_holds {cs : List Certificate} (h : r.Holds cs) :
    (interpretCollection kind maxLength r).result =
      if maxLength < ((cs.flatMap Certificate.toPem).length : Int) then
        .error (.ofCause .bufferSize (.tooLong (cs.flatMap Certificate.toPem).length maxLength))
      else .ok (some (cs.flatMap Certificate.toPem)) := by
  obtain ⟨-, htyped, hbody⟩ := Response.holds_iff.1 h
  rw [interpretCollection]
  simp only [occursIn_iff.2 htyped, hbody, Bool.not_true, Bool.false_eq_true, if_false]
  split
  · rfl
  · rfl

/-- A reply that holds certificates is read as a collection. -/
theorem interpret_of_holds {cs : List Certificate} (h : r.Holds cs) :
    interpret kind maxLength r = interpretCollection kind maxLength r := by
  have hdeferred : r.status ≠ 202 := by
    rw [h.status]
    decide
  have hempty := mt Response.isEmpty_iff.2 h.not_isEmpty
  rw [interpret, if_neg hdeferred, if_neg hempty, if_neg (not_not.2 h.status)]

end

/-- A reply of the type of collections with a body in base64. -/
def collectionReply (body : Octets) : Response where
  status := 200
  headers := [("content-type", "application/pkcs7-mime; smime-type=certs-only")]
  body := body

/-- A transport that gets a reply. -/
def replying (r : Response) : Transport := ⟨[.response r], []⟩

end Https

end Enrollment
