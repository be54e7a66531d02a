import Enrollment.Proofs.Configured
import Enrollment.Proofs.Petition
import Enrollment.Proofs.Truncation

/-!
# What decoders fail with

Each decoder has one kind of error for all that can be wrong with its input. Only input that reads
in every respect but its version gets past that kind, as the fault of an unknown version: a block of
a stream with all blocks before it certificates (`ReachesUnknown`), or a signing request
(`SigningRequest.StatesUnknown`). `Decoding.documented` says so of all five decoders.
-/

namespace Enrollment

open Octets X509

/-- A result is given, or the failure is an error of enrolment of the kind. -/
def FailsOnlyAs {α : Type} (kind : ErrorKind) (x : Except Failure α) : Prop :=
  ∀ failure, x = .error failure → ∃ cause, failure = .ofCause kind cause

/-- A decoder fails with errors of its kind, except that on input which states an unknown version,
and on no other, it fails with the fault for that. -/
structure DecodesUnless {α : Type} (unknown : Prop) (kind : ErrorKind) (x : Except Failure α) :
    Prop where
  documented : FailsOnlyAs kind x ↔ ¬unknown
  escapes : unknown → x = .error (.fault (.cryptographic .unknownVersion))

section
variable {α : Type} {unknown : Prop} {kind : ErrorKind}

theorem failsOnlyAs_ok (a : α) : FailsOnlyAs kind (.ok a) := by
  rintro _ ⟨⟩

theorem failsOnlyAs_ofCause (cause : Cause) :
    FailsOnlyAs kind (.error (.ofCause kind cause) : Except Failure α) := by
  rintro _ ⟨⟩
  exact ⟨cause, rfl⟩

theorem not_failsOnlyAs_fault (f : Fault) :
    ¬FailsOnlyAs kind (.error (.fault f) : Except Failure α) := by
  intro h
  obtain ⟨_, hcause⟩ := h _ rfl
  cases hcause

theorem DecodesUnless.ok (a : α) (h : ¬unknown) : DecodesUnless unknown kind (.ok a) :=
  ⟨iff_of_true (failsOnlyAs_ok a) h, fun hunknown => absurd hunknown h⟩

theorem DecodesUnless.ofCause (cause : Cause) (h : ¬unknown) :
    DecodesUnless unknown kind (.error (.ofCause kind cause) : Except Failure α) :=
  ⟨iff_of_true (failsOnlyAs_ofCause cause) h, fun hunknown => absurd hunknown h⟩

theorem DecodesUnless.fault (h : unknown) : DecodesUnless unknown kind
    (.error (.fault (.cryptographic .unknownVersion)) : Except Failure α) :=
  ⟨iff_of_false (not_failsOnlyAs_fault _) (not_not_intro h), fun _ => rfl⟩

/-- What is done with the result does not change what a decoder fails with. -/
theorem DecodesUnless.map {β : Type} {x : Except Failure α} (f : α → β)
    (h : DecodesUnless unknown kind x) : DecodesUnless unknown kind (x.map f) := by
  cases x with
  | error failure =>
    have hsame : FailsOnlyAs kind ((.error failure : Except Failure α).map f) ↔
        FailsOnlyAs kind (.error failure : Except Failure α) :=
      forall_congr' fun _ => imp_congr_left map_eq_error_iff
    exact ⟨hsame.trans h.documented, fun hunknown => map_eq_error_iff.2 (h.escapes hunknown)⟩
  | ok a => exact .ok (f a) (h.documented.1 (failsOnlyAs_ok a))

theorem DecodesUnless.congr {unknown' : Prop} {x : Except Failure α} (h : unknown ↔ unknown')
    (hx : DecodesUnless unknown kind x) : DecodesUnless unknown' kind x :=
  ⟨hx.documented.trans (not_congr h), fun h' => hx.escapes (h.2 h')⟩

end

/-! ## Certificates -/

/-- Octets that are a certificate in every respect but its version, which is neither the first nor
the third. -/
def Certificate.HasUnknownVersion (der : Octets) : Prop :=
  ∃ version content, Content.ofOctets? der = some (version, content) ∧ version ≠ 0 ∧ version ≠ 2

theorem Certificate.ofDer_eq_unknownVersion_iff {der : Octets} :
    ofDer der = .error .unknownVersion ↔ HasUnknownVersion der := by
  have hofDer : ofDer der = .error .unknownVersion ↔
      Content.ofDer der = .error .unknownVersion := by
    unfold ofDer
    split
    · next content hread => simp only [hread, reduceCtorEq]
    · next fault hread => simp only [hread, Except.error.injEq]
  rw [hofDer, Content.ofDer, HasUnknownVersion]
  cases Content.ofOctets? der with
  | none => exact iff_of_false (by rintro ⟨⟩) (by rintro ⟨_, _, ⟨⟩, -⟩)
  | some read =>
    obtain ⟨version, content⟩ := read
    by_cases hversion : version = 0 ∨ version = 2
    · simpa [hversion] using or_iff_not_imp_left.1 hversion
    · simpa [hversion] using not_or.1 hversion

/-- The first block of a run is of an unknown version if its section is. -/
theorem leadsUnknown_iff {bytes : Octets} : LeadsUnknown bytes ↔ ∃ block rest found,
    nextBlock bytes = some (some (block, rest)) ∧
      Pem.find? certificateLabels block = some found ∧
        Certificate.HasUnknownVersion found.data := by
  refine exists_congr fun block => exists_congr fun rest => ?_
  rw [exists_and_left]
  refine and_congr_right fun _ => ?_
  rw [Certificate.ofPem]
  cases Pem.find? certificateLabels block with
  | none => exact iff_of_false (by rintro ⟨⟩) (by rintro ⟨_, ⟨⟩, -⟩)
  | some found => simp [Certificate.ofDer_eq_unknownVersion_iff]

/-- A run in which some block is of an unknown version, and all blocks before it are
certificates. -/
inductive ReachesUnknown : Octets → Prop
  | here {bytes} (h : LeadsUnknown bytes) : ReachesUnknown bytes
  | later {bytes block rest c} (hblock : nextBlock bytes = some (some (block, rest)))
    (hread : Certificate.ofPem block = .ok c) (h : ReachesUnknown rest) : ReachesUnknown bytes

section
variable {bytes block rest : Octets}

theorem not_reachesUnknown_of_nextBlock (h : ∀ found, nextBlock bytes ≠ some (some found)) :
    ¬ReachesUnknown bytes := by
  rintro (⟨block, rest, hblock, -⟩ | ⟨hblock, -, -⟩)
  · exact h _ hblock
  · exact h _ hblock

/-- Whether a run reaches a block of an unknown version is up to its first block, and to the rest if
that is a certificate. -/
theorem reachesUnknown_iff (hblock : nextBlock bytes = some (some (block, rest))) :
    ReachesUnknown bytes ↔ Certificate.ofPem block = .error .unknownVersion ∨
      (∃ c, Certificate.ofPem block = .ok c) ∧ ReachesUnknown rest := by
  constructor
  · rintro (⟨block', rest', hblock', hread⟩ | ⟨hblock', hread, h⟩)
    · rw [hblock] at hblock'
      cases hblock'
      exact .inl hread
    · rw [hblock] at hblock'
      cases hblock'
      exact .inr ⟨⟨_, hread⟩, h⟩
  · rintro (hread | ⟨⟨c, hread⟩, h⟩)
    · exact .here ⟨block, rest, hblock, hread⟩
    · exact .later hblock hread h

/-- What comes after a block is shorter than the run. -/
theorem length_rest_lt (h : nextBlock bytes = some (some (block, rest))) :
    rest.length < bytes.length := by
  rw [nextBlock] at h
  obtain ⟨⟨gap, opened⟩, hbegin, h⟩ := Option.map_eq_some_iff.1 h
  obtain ⟨⟨inner, closing⟩, hend, heq⟩ := Option.map_eq_some_iff.1 h
  cases heq
  obtain ⟨rfl, hopening⟩ := eq_of_breakAt hbegin
  obtain ⟨rfl, hclosing⟩ := eq_of_breakAt hend
  have hline : 0 < (Pem.endLine certificateLabel).length := by decide
  have hclosed := hclosing.length_le
  simp only [List.length_drop, List.length_append]
  omega

theorem Reading.toExcept_cons (c : Certificate) (r : Reading) :
    (r.cons c).toExcept = r.toExcept.map (c :: ·) := by
  obtain ⟨found, failure⟩ := r
  cases failure <;> rfl

/-- **The blocks of a run fail as errors of certificates do**, unless a block of an unknown version
is reached. The induction is on the bound on the number of blocks, which the run does not use up:
every block takes a part of it. -/
theorem decodesUnless_readBlocks {fuel : Nat} (hfuel : bytes.length < fuel) (index : Nat) :
    DecodesUnless (ReachesUnknown bytes) .certificateParse
      (readBlocks fuel index bytes).toExcept := by
  induction fuel generalizing bytes index with
  | zero => exact absurd hfuel (Nat.not_lt_zero _)
  | succ fuel ih =>
    rw [readBlocks]
    split
    · next hnone =>
      exact .ok [] (not_reachesUnknown_of_nextBlock (by simp [hnone]))
    · next hopen =>
      exact .ofCause _ (not_reachesUnknown_of_nextBlock (by simp [hopen]))
    · next block rest hblock =>
      have hreaches := reachesUnknown_iff hblock
      split
      · next hread => exact .ofCause _ (by simp [hreaches, hread])
      · next hread => exact .fault (by simp [hreaches, hread])
      · next c hread =>
        have hrest := ih (Nat.lt_of_lt_of_le (length_rest_lt hblock) (Nat.le_of_lt_succ hfuel))
          (index + 1)
        rw [Reading.toExcept_cons]
        exact (hrest.map _).congr (by simp [hreaches, hread])

/-- A stream that is read to its end. -/
theorem decodesUnless_ofStream (bytes : Octets) (length : Option Int) :
    DecodesUnless (ReachesUnknown (streamView length bytes)) .certificateParse
      (Reading.ofStream bytes length).toExcept := by
  rcases ofStream_cases bytes length with ⟨hnone, hread⟩ | ⟨-, hread⟩
  · have hknown : ¬ReachesUnknown (streamView length bytes) :=
      not_reachesUnknown_of_nextBlock (by simp [hnone])
    rw [hread]
    cases (streamView length bytes).isBlank with
    | true => exact .ok [] hknown
    | false => exact .ofCause _ hknown
  · rw [hread]
    exact decodesUnless_readBlocks (Nat.lt_succ_self _) 0

/-- The first certificate of a stream, which is as far as the stream is read. -/
theorem decodesUnless_firstCertificate (bytes : Octets) (length : Option Int) :
    DecodesUnless (LeadsUnknown (streamView length bytes)) .certificateParse
      (firstCertificate bytes length) := by
  have hblock (h : ∀ found, nextBlock (streamView length bytes) ≠ some (some found)) :
      ¬LeadsUnknown (streamView length bytes) :=
    fun hleads => not_reachesUnknown_of_nextBlock h (.here hleads)
  rw [firstCertificate]
  rcases ofStream_cases bytes length with ⟨hnone, hread⟩ | ⟨hsome, hread⟩
  · have hknown := hblock (by simp [hnone])
    rw [hread]
    cases (streamView length bytes).isBlank with
    | true => exact .ofCause _ hknown
    | false => exact .ofCause _ hknown
  · rw [hread, readBlocks]
    cases hfound : nextBlock (streamView length bytes) with
    | none => exact absurd hfound hsome
    | some found =>
      cases found with
      | none => exact .ofCause _ (hblock (by simp [hfound]))
      | some found =>
        obtain ⟨block, rest⟩ := found
        have hleads : LeadsUnknown (streamView length bytes) ↔
            Certificate.ofPem block = .error .unknownVersion := by
          simp [LeadsUnknown, hfound]
        simp only
        cases hblock : Certificate.ofPem block with
        | ok c => exact .ok c (by simp [hleads, hblock])
        | error fault =>
          cases fault with
          | malformed => exact .ofCause _ (by simp [hleads, hblock])
          | unknownVersion => exact .fault (hleads.2 hblock)

end

/-! ## Files of certificates -/

/-- A file of certificates that can be read. -/
theorem decodesUnless_loadCertificates {t : FileTree} {path : Path} {bytes : Octets}
    (hfile : readFile t path = .ok bytes) :
    DecodesUnless (ReachesUnknown (streamView none bytes)) .configuration
      (loadCertificates t path) := by
  have hstream := decodesUnless_ofStream bytes none
  rw [loadCertificates, hfile]
  simp only
  cases hread : (Reading.ofStream bytes).toExcept with
  | ok cs =>
    rw [hread] at hstream
    have hknown := hstream.documented.1 (failsOnlyAs_ok cs)
    cases cs with
    | nil => exact .ofCause _ hknown
    | cons c cs => exact .ok _ hknown
  | error failure =>
    rw [hread] at hstream
    cases failure with
    | client e =>
      refine .ofCause _ fun hunknown => ?_
      cases hstream.escapes hunknown
    | fault f =>
      have hunknown := not_not.1 (mt hstream.documented.2 (not_failsOnlyAs_fault f))
      rw [hstream.escapes hunknown]
      exact .fault hunknown

/-! ## Signing requests -/

namespace SigningRequest

/-- Octets that are a signing request in every respect but its version, which is not the only
one. -/
def HasUnknownVersion (der : Octets) : Prop :=
  ∃ version content, RequestContent.ofOctets? der = some (version, content) ∧ version ≠ 0

/-- The octets in DER that a request is given as: those of its first section if it begins like PEM,
and else all of them. -/
def given? (bytes : Octets) : Option Octets :=
  if pemStart.isPrefixOf bytes then (Pem.find? labels bytes).map Pem.Section.data else some bytes

/-- The octets that a text stands for: its own if it begins like PEM, and else those that it spells
in base64. Blanks around it do not count. -/
def spelled? (text : String) : Option Octets :=
  if pemStart.isPrefixOf (ofChars (Text.trim text.toList)) then
    some (ofChars (Text.trim text.toList))
  else (Base64.readChars (Text.trim text.toList)).toOption

/-- Octets that are given as a request of an unknown version. -/
def StatesUnknown (bytes : Octets) : Prop := ∃ der, given? bytes = some der ∧ HasUnknownVersion der

section
variable {der bytes : Octets}

theorem ofDer_cases (der : Octets) :
    (∃ r, ofDer der = .ok r ∧ ¬HasUnknownVersion der) ∨
    (ofDer der = .error .malformed ∧ ¬HasUnknownVersion der) ∨
    (ofDer der = .error .unknownVersion ∧ HasUnknownVersion der) := by
  unfold ofDer
  split
  · next content h =>
    refine .inl ⟨_, rfl, ?_⟩
    rintro ⟨version, _, hread, hversion⟩
    rw [RequestContent.ofDer, hread] at h
    simp [hversion] at h
  · next fault h =>
    rw [RequestContent.ofDer] at h
    split at h
    · next hnone =>
      cases h
      refine .inr (.inl ⟨rfl, ?_⟩)
      rintro ⟨_, _, hread, -⟩
      rw [hnone] at hread
      cases hread
    · next version content hread =>
      split at h
      · cases h
      · next hversion =>
        cases h
        exact .inr (.inr ⟨rfl, version, content, hread, hversion⟩)

/-- A request that is given as octets. -/
theorem decodesUnless_ofOctets (bytes : Octets) :
    DecodesUnless (StatesUnknown bytes) .encoding (ofOctets bytes) := by
  have hgiven {der : Octets} (h : given? bytes = some der) :
      StatesUnknown bytes ↔ HasUnknownVersion der := by
    simp [StatesUnknown, h]
  have hread {der : Octets} (h : given? bytes = some der) :
      DecodesUnless (StatesUnknown bytes) .encoding ((ofDer der).mapError readFailure) := by
    rcases ofDer_cases der with ⟨r, hder, hknown⟩ | ⟨hder, hknown⟩ | ⟨hder, hunknown⟩
    · rw [hder]
      exact .ok r (mt (hgiven h).1 hknown)
    · rw [hder]
      exact .ofCause _ (mt (hgiven h).1 hknown)
    · rw [hder]
      exact .fault ((hgiven h).2 hunknown)
  rw [ofOctets]
  by_cases hpem : pemStart.isPrefixOf bytes = true
  · rw [if_pos hpem, ofPem]
    cases hfound : Pem.find? labels bytes with
    | none =>
      refine .ofCause _ ?_
      rintro ⟨_, hder, -⟩
      simp [given?, hpem, hfound] at hder
    | some found => exact hread (by simp [given?, hpem, hfound])
  · rw [if_neg hpem]
    exact hread (by simp [given?, hpem])

/-- A request that is given as text. -/
theorem decodesUnless_ofText (text : String) :
    DecodesUnless (∃ bytes, spelled? text = some bytes ∧ StatesUnknown bytes) .encoding
      (ofText text) := by
  have hspelled {bytes : Octets} (h : spelled? text = some bytes) :
      DecodesUnless (∃ bytes, spelled? text = some bytes ∧ StatesUnknown bytes) .encoding
        (ofOctets bytes) :=
    (decodesUnless_ofOctets bytes).congr (by simp [h])
  rw [ofText]
  split
  · next hpem => exact hspelled (by simp [spelled?, hpem])
  · next hpem =>
    split
    · next bytes hread => exact hspelled (by simp [spelled?, hpem, hread, Except.toOption])
    · next fault hread =>
      refine .ofCause _ ?_
      rintro ⟨_, hbytes, -⟩
      simp [spelled?, hpem, hread, Except.toOption] at hbytes

end

end SigningRequest

/-! ## The theorem -/

/-- **Decoders fail with their documented errors, except for unknown versions.** Reading a stream to
its end, whatever length of it is looked at, and reading its first certificate fail with errors of
certificates; reading a signing request from octets or text fails with errors of encoding; and a
file that can be read gives at least one certificate or fails with an error of configuration. Each
of them fails otherwise on input of an unknown version, and there always with the fault for it. -/
theorem Decoding.documented (bytes : Octets) (length : Option Int) (text : String) (t : FileTree)
    (path : Path) :
    DecodesUnless (ReachesUnknown (streamView length bytes)) .certificateParse
      (Reading.ofStream bytes length).toExcept ∧
    DecodesUnless (LeadsUnknown (streamView length bytes)) .certificateParse
      (firstCertificate bytes length) ∧
    DecodesUnless (SigningRequest.StatesUnknown bytes) .encoding
      (SigningRequest.ofValue (.octets bytes)) ∧
    DecodesUnless (∃ bytes, SigningRequest.spelled? text = some bytes ∧
      SigningRequest.StatesUnknown bytes) .encoding (SigningRequest.ofValue (.text text)) ∧
    (readFile t path = .ok bytes →
      DecodesUnless (ReachesUnknown (streamView none bytes)) .configuration
        (loadCertificates t path) ∧ loadCertificates t path ≠ .ok []) := by
  refine ⟨decodesUnless_ofStream bytes length, decodesUnless_firstCertificate bytes length,
    SigningRequest.decodesUnless_ofOctets bytes, SigningRequest.decodesUnless_ofText text, ?_⟩
  intro hfile
  refine ⟨decodesUnless_loadCertificates hfile, fun hempty => ?_⟩
  exact (loadCertificates_eq_ok_iff.1 hempty).1 rfl

/-- A block of a certificate with an empty sequence in it. -/
def sampleMalformed : Octets := Pem.ofLines (List.map ofAscii [
  "-----BEGIN CERTIFICATE-----", "MAA=", "-----END CERTIFICATE-----"])

/-- A file that holds this block. -/
def sampleAnchors : FileTree := { nodes := [(["work", "anchors"], .file sampleMalformed)] }

/-- A malformed block is read as far as its contents, and fails as documented. -/
theorem Decoding.documented_malformed :
    readFile sampleAnchors (.ofText "anchors") = .ok sampleMalformed ∧
    FailsOnlyAs .certificateParse (Reading.ofStream sampleMalformed).toExcept ∧
    (Reading.ofStream sampleMalformed).failure.isSome ∧
    FailsOnlyAs .configuration (loadCertificates sampleAnchors (.ofText "anchors")) ∧
    loadCertificates sampleAnchors (.ofText "anchors") ≠ .ok [] := by
  have hfile : readFile sampleAnchors (.ofText "anchors") = .ok sampleMalformed := rfl
  obtain ⟨hstream, -, -, -, hload⟩ :=
    documented sampleMalformed none "" sampleAnchors (.ofText "anchors")
  obtain ⟨hdecodes, hne⟩ := hload hfile
  have hmalformed : ((nextBlock (streamView none sampleMalformed)).join.map fun first =>
      (Certificate.ofPem first.1).map fun _ => ()) = some (.error .malformed) := by
    decide +kernel
  have hknown : ¬ReachesUnknown (streamView none sampleMalformed) := by
    obtain ⟨⟨block, rest⟩, hblock, hread⟩ := Option.map_eq_some_iff.1 hmalformed
    rw [reachesUnknown_iff (Option.join_eq_some_iff.1 hblock), map_eq_error_iff.1 hread]
    simp
  exact ⟨hfile, hstream.documented.2 hknown, by decide +kernel, hdecodes.documented.2 hknown, hne⟩

/-- A certificate of the second version, in PEM. -/
def sampleSecondVersion : Octets := Pem.ofLines (List.map ofAscii [
  "-----BEGIN CERTIFICATE-----",
  "MIHPMIGCoAMCAQECAQEwBQYDK2VwMBcxFTATBgNVBAMMDFRlc3QgUm9vdCBDQTAe",
  "Fw0yNDAxMDEwMDAwMDBaFw0zNDAxMDEwMDAwMDBaMAwxCjAIBgNVBAMMAXQwKjAF",
  "BgMrZXADIQBFELcedtjeAEcjGcyPiSNrkoXgd5OVcUDeqgXpdvmDcjAFBgMrZXAD",
  "QQArHFI/EwunVjntUjZcZbdluD3epsjRgeR39wxZVFxNsx7kEeEH5+ALrMpLGEj+",
  "WcRQAgK51GDC0ar1UqHAYYls",
  "-----END CERTIFICATE-----"])

/-- A stream with a certificate of the second version does not fail as documented. -/
theorem Decoding.not_documented_second :
    (Reading.ofStream sampleSecondVersion).toExcept =
      .error (.fault (.cryptographic .unknownVersion)) ∧
    ¬FailsOnlyAs .certificateParse (Reading.ofStream sampleSecondVersion).toExcept := by
  have hsecond : ((nextBlock (streamView none sampleSecondVersion)).join.bind fun first =>
      (Pem.find? certificateLabels first.1).bind fun found =>
        (Content.ofOctets? found.data).map Prod.fst) = some 1 := by
    decide +kernel
  have hreaches : ReachesUnknown (streamView none sampleSecondVersion) := by
    obtain ⟨⟨block, rest⟩, hblock, hsecond⟩ := Option.bind_eq_some_iff.1 hsecond
    obtain ⟨found, hfind, hsecond⟩ := Option.bind_eq_some_iff.1 hsecond
    obtain ⟨⟨version, content⟩, hread, rfl⟩ := Option.map_eq_some_iff.1 hsecond
    have hversion : Certificate.HasUnknownVersion found.data :=
      ⟨1, content, hread, by decide, by decide⟩
    exact .here (leadsUnknown_iff.2
      ⟨block, rest, found, Option.join_eq_some_iff.1 hblock, hfind, hversion⟩)
  have hstream := decodesUnless_ofStream sampleSecondVersion none
  exact ⟨hstream.escapes hreaches, fun h => hstream.documented.1 h hreaches⟩

end Enrollment
