import Enrollment.Proofs.Certificates

/-!
# Streams of certificates and bundles of anchors

A stream of certificates in PEM, with any text between the blocks that does not hold the beginning
of a BEGIN line, and with any number of NUL octets at its end, reads as its certificates. So does
the buffer of a bundle, which therefore tells which anchors it was made of
(`Certificate.streams_read_back`).
-/

namespace Enrollment

/-- A stream that reads as certificates has the first of them as its first. -/
theorem firstCertificate_of_ofStream {bytes : Octets} {length : Option Int} {c : Certificate}
    {cs : List Certificate} {failure : Option Failure}
    (h : Reading.ofStream bytes length = ⟨c :: cs, failure⟩) :
    firstCertificate bytes length = .ok c := by
  rw [firstCertificate, h]

/-! ## Bundles -/

/-- The bundle of certificates. -/
def Bundle.ofCertificates (cs : List Certificate) : Bundle :=
  ⟨bundleData (cs.map Certificate.toPem), cs.length⟩

namespace Bundle

/-- Every list of certificates has a bundle. -/
theorem ofAnchors_map (cs : List Certificate) :
    ofAnchors (cs.map .certificate) = .ok (ofCertificates cs) := by
  have htexts : (cs.map CertificateValue.certificate).mapM CertificateValue.toPem =
      .ok (cs.map Certificate.toPem) := by
    induction cs with
    | nil => rfl
    | cons c cs ih =>
      rw [List.map_cons, List.mapM_cons, ih]
      rfl
  rw [ofAnchors, anchorsData, htexts, List.length_map]
  rfl

theorem data_ofCertificates_ne_nil (cs : List Certificate) : (ofCertificates cs).data ≠ [] := by
  rw [ofCertificates, bundleData]
  split
  · exact List.cons_ne_nil _ _
  · exact List.append_ne_nil_of_right_ne_nil _ (List.cons_ne_nil _ _)

/-- The buffer of a bundle, with the NUL octets at its end, reads as the certificates. -/
theorem ofStream_data (cs : List Certificate) :
    Reading.ofStream (ofCertificates cs).data = ⟨cs, none⟩ := by
  obtain ⟨count, hdata⟩ := exists_bundleData_eq cs
  rw [ofCertificates, hdata, ofStream_flatMap_toPem_zeros]

/-- Different certificates never share a bundle. -/
theorem ofCertificates_injective : Function.Injective ofCertificates := by
  intro cs ds h
  have hread := ofStream_data cs
  rw [h, ofStream_data] at hread
  exact (congrArg Reading.certificates hread).symm

end Bundle

/-! ## The theorem -/

/-- **Streams and bundles are read back.** A stream with at least one block reads as its
certificates, in order and without a failure, and its first certificate is the first of them. A
bundle is never empty, counts its anchors, has their PEM texts as its text, and its buffer reads as
the anchors, so that different anchors never share one. -/
theorem Certificate.streams_read_back :
    (∀ (gap : Octets) (c : Certificate) (pieces : List (Octets × Certificate)) (last : Octets)
      (count : Nat), IsGap gap → (∀ piece ∈ pieces, IsGap piece.1) → IsGap last →
      Reading.ofStream (interleaved ((gap, c) :: pieces) last ++ List.replicate count 0) =
          ⟨c :: pieces.map Prod.snd, none⟩ ∧
        firstCertificate (interleaved ((gap, c) :: pieces) last ++ List.replicate count 0) =
          .ok c) ∧
    (∀ cs : List Certificate, ∃ b, Bundle.ofAnchors (cs.map .certificate) = .ok b ∧
      b.data ≠ [] ∧ b.count = cs.length ∧ b.pem = cs.flatMap Certificate.toPem ∧
      Reading.ofStream b.data = ⟨cs, none⟩) ∧
    ∀ cs ds : List Certificate,
      Bundle.ofAnchors (cs.map .certificate) = Bundle.ofAnchors (ds.map .certificate) →
        cs = ds := by
  refine ⟨?_, ?_, ?_⟩
  · intro gap c pieces last count hgap hpieces hlast
    have hread := ofStream_interleaved (c := c) hgap hpieces hlast count
    exact ⟨hread, firstCertificate_of_ofStream hread⟩
  · intro cs
    exact ⟨_, Bundle.ofAnchors_map cs, Bundle.data_ofCertificates_ne_nil cs, rfl,
      Bundle.pem_eq cs _, Bundle.ofStream_data cs⟩
  · intro cs ds h
    rw [Bundle.ofAnchors_map, Bundle.ofAnchors_map] at h
    exact Bundle.ofCertificates_injective (Except.ok.inj h)

/-! ## A gap that looks like a block -/

open Der X509 in
/-- What a small certificate says, which is for nobody and by nobody. -/
def sampleContent : Content where
  serial := 1
  issuer := []
  notBefore := ⟨⟨2024, 1, 1⟩, 0, 0, 0, 0, some 0⟩
  notAfter := ⟨⟨2034, 1, 1⟩, 0, 0, 0, 0, some 0⟩
  subject := []
  key := ⟨.plain oidEd25519, 0, []⟩
  extensions := []

open Der X509 in
/-- A certificate with this content. -/
def sampleCertificate : Certificate where
  der := sequence [
    sequence [natural 1, (Algorithm.plain oidEd25519).encode, sequence [],
      sequence [wrap tagUtcTime (Octets.ofAscii "240101000000Z"),
        wrap tagUtcTime (Octets.ofAscii "340101000000Z")],
      sequence [], sampleContent.key.encode],
    (Algorithm.plain oidEd25519).encode, bitString []]
  content := sampleContent
  reads := by decide +kernel

/-- A gap with an END line and the most of a BEGIN line. -/
def sampleGap : Octets :=
  Octets.ofAscii "-----END CERTIFICATE-----\n-----BEGIN CERTIFICAT-----BEGIN "

theorem Certificate.streams_read_back_forged : IsGap sampleGap ∧ IsGap (sampleGap ++ [0]) ∧
    Reading.ofStream (interleaved
        [(sampleGap, sampleCertificate), (sampleGap, sampleCertificate)] (sampleGap ++ [0]) ++
          List.replicate 2 0) = ⟨[sampleCertificate, sampleCertificate], none⟩ ∧
    firstCertificate (interleaved
        [(sampleGap, sampleCertificate), (sampleGap, sampleCertificate)] (sampleGap ++ [0]) ++
          List.replicate 2 0) = .ok sampleCertificate := by
  have hgap : IsGap sampleGap := by decide +kernel
  have hlast : IsGap (sampleGap ++ [0]) := by decide +kernel
  have hread := streams_read_back.1 sampleGap sampleCertificate [(sampleGap, sampleCertificate)]
    (sampleGap ++ [0]) 2 hgap (by simpa using hgap) hlast
  exact ⟨hgap, hlast, hread⟩

end Enrollment
