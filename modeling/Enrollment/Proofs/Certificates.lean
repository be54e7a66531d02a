import Enrollment.Argument
import Enrollment.Proofs.Except
import Enrollment.Proofs.Pem
import Mathlib.Data.List.DropRight
import Mathlib.Data.List.Infix

/-!
# Certificates read back

A response is a run of certificate blocks with text between them. Text that does not hold the
beginning of a BEGIN line cannot hide or forge a block, not even together with the block that
follows it (`breakAt_beginLine`), so `readBlocks` finds the certificates that were written, in
order (`readBlocks_interleaved`), and NUL octets at the end do not matter (`ofStream_interleaved`).
Without text between the blocks that is `ofStream_flatMap_toPem`, and for the bundle of trust
anchors `Bundle.ofStream_pem`.
-/

namespace Enrollment

namespace Octets

/-! ## Looking for a marker -/

section
variable {marker before rest : Octets}

/-- A marker at the front is found there. -/
theorem breakAt_self (marker rest : Octets) :
    breakAt marker (marker ++ rest) = some ([], marker ++ rest) := by
  have hprefix : marker.isPrefixOf (marker ++ rest) = true :=
    List.isPrefixOf_iff_prefix.2 (List.prefix_append _ _)
  cases happend : marker ++ rest with
  | nil => rw [breakAt, ← happend, if_pos hprefix, happend]
  | cons b more => rw [breakAt, ← happend, if_pos hprefix, happend]

/-- A run is passed over if the marker begins nowhere in it. -/
theorem breakAt_append (h : ∀ n < before.length, ¬marker <+: before.drop n ++ rest) :
    breakAt marker (before ++ rest) =
      (breakAt marker rest).map fun parts => (before ++ parts.1, parts.2) := by
  induction before with
  | nil => simp
  | cons b before ih =>
    have hhere : marker.isPrefixOf (b :: (before ++ rest)) = false := by
      rw [← Bool.not_eq_true, List.isPrefixOf_iff_prefix]
      exact h 0 (by simp)
    have hmore := ih fun n hn => h (n + 1) (by simpa using hn)
    rw [List.cons_append, breakAt, hhere]
    simp only [Bool.false_eq_true, if_false, hmore, Option.map_map]
    rfl

/-- Where neither a run nor a marker is the beginning of the other, the marker does not begin with
the run, whatever follows. -/
theorem not_prefix_append (hrun : ¬before <+: marker) (hmarker : ¬marker <+: before) :
    ¬marker <+: before ++ rest := fun h =>
  (List.prefix_or_prefix_of_prefix h (List.prefix_append _ _)).elim hmarker hrun

end

/-- What is in front of an octet other than NUL stays. -/
theorem dropTrailingNul_append {front : Octets} {b : UInt8} (hb : b ≠ 0) (tail : Octets) :
    dropTrailingNul (front ++ b :: tail) = front ++ b :: dropTrailingNul tail := by
  have hstop : (b == 0) = false := by simpa using hb
  unfold dropTrailingNul dropTrailing
  rw [List.reverse_append, List.reverse_cons, List.append_assoc, List.dropWhile_append]
  split
  · next hempty =>
    simp [List.isEmpty_iff.1 hempty, hstop]
  · simp

end Octets

open Octets

/-! ## One block -/

/-- The block of a certificate: its PEM text without the line feed at the end. -/
def Certificate.block (c : Certificate) : Octets := Pem.block certificateLabel c.der

theorem Certificate.toPem_eq (c : Certificate) : c.toPem = c.block ++ [10] := Pem.encode_eq _ _

/-- The block of a certificate reads as the certificate. -/
theorem Certificate.ofPem_block (c : Certificate) : Certificate.ofPem c.block = .ok c := by
  have hfind : Pem.find? certificateLabels (Pem.block certificateLabel c.der ++ []) =
      some ⟨certificateLabel, [], c.der⟩ := Pem.find?_block (by decide) c.der [] rfl (.head _)
  rw [List.append_nil] at hfind
  rw [Certificate.ofPem, Certificate.block, hfind]
  exact Certificate.ofDer_der c

/-- How every BEGIN line of a certificate starts. -/
def blockStart : Octets := ofAscii "-----BEGIN CERTIFICATE"

/-- Text that may stand between blocks: it does not hold the start of a BEGIN line. -/
def IsGap (text : Octets) : Prop := ¬blockStart <:+: text

instance (text : Octets) : Decidable (IsGap text) := inferInstanceAs (Decidable (¬_))

theorem isGap_nil : IsGap [] := by
  rintro ⟨before, after, h⟩
  simp [blockStart, ofAscii] at h

/-- A line feed in front does not make a gap a block. -/
theorem IsGap.cons_feed {text : Octets} (h : IsGap text) : IsGap (10 :: text) := by
  intro hinfix
  rcases List.infix_cons_iff.1 hinfix with hprefix | hinfix
  · exact absurd hprefix (by simp [blockStart, ofAscii])
  · exact h hinfix

/-- **A gap cannot forge a BEGIN line with the block behind it.** A BEGIN line that began in the gap
and ended in the block would overlap the block's own line by more than the five hyphens that it
begins and ends with. -/
theorem breakAt_beginLine {gap : Octets} (h : IsGap gap) (rest : Octets) :
    breakAt (Pem.beginLine certificateLabel) (gap ++ (Pem.beginLine certificateLabel ++ rest)) =
      some (gap, Pem.beginLine certificateLabel ++ rest) := by
  have hoverlap : ∀ n < blockStart.length, 0 < n →
      ¬(Pem.beginLine certificateLabel).drop n <+: Pem.beginLine certificateLabel := by
    decide
  have hpass : ∀ n < gap.length, ¬Pem.beginLine certificateLabel <+:
      gap.drop n ++ (Pem.beginLine certificateLabel ++ rest) := by
    intro n hn hprefix
    have hstart : blockStart <+: Pem.beginLine certificateLabel := ⟨Pem.dashes, by decide⟩
    rcases Nat.lt_or_ge (gap.drop n).length blockStart.length with hshort | hlong
    · have hpositive : 0 < (gap.drop n).length := by simp; omega
      have hdrop := hprefix.drop (gap.drop n).length
      rw [List.drop_left] at hdrop
      exact hoverlap _ hshort hpositive
        (List.prefix_of_prefix_length_le hdrop (List.prefix_append _ _) (by simp))
    · have hinside :=
        List.prefix_of_prefix_length_le (hstart.trans hprefix) (List.prefix_append _ _) hlong
      exact h (hinside.isInfix.trans (List.drop_suffix _ _).isInfix)
  rw [breakAt_append hpass, breakAt_self]
  simp

/-- The END line of a block is the first one in it. -/
theorem breakAt_endLine (data rest : Octets) :
    breakAt (Pem.endLine certificateLabel) (Pem.block certificateLabel data ++ rest) =
      some (Pem.beginLine certificateLabel ++ (10 :: Pem.bodyLines data),
        Pem.endLine certificateLabel ++ rest) := by
  have hblock : Pem.block certificateLabel data ++ rest =
      (Pem.beginLine certificateLabel ++ [10]) ++
        (Pem.bodyLines data ++ (Pem.endLine certificateLabel ++ rest)) := by
    simp [Pem.block, List.append_assoc]
  have hopening : ∀ n < (Pem.beginLine certificateLabel ++ [10]).length,
      ¬(Pem.beginLine certificateLabel ++ [10]).drop n <+: Pem.endLine certificateLabel ∧
        ¬Pem.endLine certificateLabel <+: (Pem.beginLine certificateLabel ++ [10]).drop n := by
    decide
  have hbody : ∀ n < (Pem.bodyLines data).length, ¬Pem.endLine certificateLabel <+:
      (Pem.bodyLines data).drop n ++ (Pem.endLine certificateLabel ++ rest) := by
    intro n hn hprefix
    rw [List.drop_eq_getElem_cons hn, List.cons_append] at hprefix
    exact (Pem.bounds_of_mem_bodyLines (List.getElem_mem hn)).2.1
      (List.cons_prefix_cons.1 hprefix).1.symm
  rw [hblock, breakAt_append fun n hn => not_prefix_append (hopening n hn).1 (hopening n hn).2,
    breakAt_append hbody, breakAt_self]
  simp

/-- **The next block of a run** is the one behind a gap, and what follows it is left. -/
theorem nextBlock_block {gap : Octets} (h : IsGap gap) (c : Certificate) (rest : Octets) :
    nextBlock (gap ++ (c.block ++ rest)) = some (some (c.block, rest)) := by
  have hbegin : c.block ++ rest = Pem.beginLine certificateLabel ++
      (10 :: (Pem.bodyLines c.der ++ (Pem.endLine certificateLabel ++ rest))) := by
    simp [Certificate.block, Pem.block, List.append_assoc]
  have hfind := breakAt_beginLine h
    (10 :: (Pem.bodyLines c.der ++ (Pem.endLine certificateLabel ++ rest)))
  rw [← hbegin] at hfind
  rw [nextBlock, hfind]
  simp only [Option.map_some, Certificate.block, breakAt_endLine, List.drop_left]
  simp [Pem.block, List.append_assoc]

/-- A gap holds no block. -/
theorem nextBlock_gap {gap : Octets} (h : IsGap gap) : nextBlock gap = none := by
  have hpass : ∀ n < gap.length, ¬Pem.beginLine certificateLabel <+: gap.drop n ++ [] := by
    intro n _ hprefix
    rw [List.append_nil] at hprefix
    have hstart : blockStart <+: Pem.beginLine certificateLabel := ⟨Pem.dashes, by decide⟩
    exact h ((hstart.trans hprefix).isInfix.trans (List.drop_suffix _ _).isInfix)
  have hnone := breakAt_append hpass
  rw [List.append_nil] at hnone
  rw [nextBlock, hnone]
  rfl

/-! ## A run of blocks -/

/-- Certificates as PEM text, each behind a gap, and a gap at the end. -/
def interleaved (pieces : List (Octets × Certificate)) (last : Octets) : Octets :=
  pieces.flatMap (fun piece => piece.1 ++ piece.2.toPem) ++ last

theorem interleaved_cons (gap : Octets) (c : Certificate) (pieces : List (Octets × Certificate))
    (last : Octets) :
    interleaved ((gap, c) :: pieces) last =
      gap ++ (c.block ++ ([10] ++ interleaved pieces last)) := by
  simp [interleaved, Certificate.toPem_eq, List.append_assoc]

/-- A block is read, and the rest of the run is read with the next number. -/
theorem readBlocks_block {gap : Octets} (h : IsGap gap) (c : Certificate) (rest : Octets)
    (fuel index : Nat) :
    readBlocks (fuel + 1) index (gap ++ (c.block ++ rest)) =
      (readBlocks fuel (index + 1) rest).cons c := by
  rw [readBlocks, nextBlock_block h]
  simp only [c.ofPem_block]

/-- All blocks of a run are read, in order. A line feed that the block before the run left over
does not matter. -/
theorem readBlocks_interleaved {pieces : List (Octets × Certificate)} {last : Octets}
    (hpieces : ∀ piece ∈ pieces, IsGap piece.1) (hlast : IsGap last) {fuel : Nat}
    (hfuel : pieces.length < fuel) (index : Nat) {lead : Octets} (hlead : lead = [] ∨ lead = [10]) :
    readBlocks fuel index (lead ++ interleaved pieces last) = ⟨pieces.map Prod.snd, none⟩ := by
  have hgap : ∀ {gap : Octets}, IsGap gap → IsGap (lead ++ gap) := by
    intro gap h
    rcases hlead with rfl | rfl
    · exact h
    · exact h.cons_feed
  induction pieces generalizing lead fuel index with
  | nil =>
    obtain ⟨fuel, rfl⟩ := Nat.exists_eq_add_of_lt hfuel
    rw [readBlocks, interleaved, List.flatMap_nil, List.nil_append, nextBlock_gap (hgap hlast)]
    rfl
  | cons piece pieces ih =>
    obtain ⟨gap, c⟩ := piece
    obtain ⟨fuel, rfl⟩ := Nat.exists_eq_succ_of_ne_zero (Nat.ne_zero_of_lt hfuel)
    have hrest := ih (fun p hp => hpieces p (.tail _ hp)) (Nat.lt_of_succ_lt_succ hfuel)
      (index + 1) (.inr rfl) IsGap.cons_feed
    rw [interleaved_cons, ← List.append_assoc, readBlocks_block (hgap (hpieces _ (.head _))), hrest]
    rfl

/-- NUL octets at the end of a run do not matter. -/
theorem dropTrailingNul_append_zeros (bytes : Octets) (count : Nat) :
    dropTrailingNul (bytes ++ List.replicate count 0) = dropTrailingNul bytes := by
  have hzeros : (List.replicate count (0 : UInt8)).dropWhile (· == 0) = [] := by simp
  unfold dropTrailingNul dropTrailing
  rw [List.reverse_append, List.reverse_replicate, List.dropWhile_append, hzeros]
  rfl

/-- A gap without the NUL octets at its end is a gap. -/
theorem IsGap.dropTrailingNul {gap : Octets} (h : IsGap gap) : IsGap gap.dropTrailingNul :=
  fun hin => h (List.IsInfix.trans hin (List.rdropWhile_prefix (· == 0) gap).isInfix)

/-- The PEM text of a certificate ends with a line feed, so that only the NUL octets behind the last
block go. -/
theorem dropTrailingNul_interleaved {pieces : List (Octets × Certificate)} (h : pieces ≠ [])
    (last : Octets) :
    dropTrailingNul (interleaved pieces last) = interleaved pieces last.dropTrailingNul := by
  obtain ⟨pieces, ⟨gap, c⟩, rfl⟩ := (List.eq_nil_or_concat' pieces).resolve_left h
  have hsplit : ∀ last, interleaved (pieces ++ [(gap, c)]) last =
      (interleaved pieces gap ++ c.block) ++ 10 :: last := by
    intro last
    simp [interleaved, Certificate.toPem_eq, List.append_assoc]
  rw [hsplit, hsplit, dropTrailingNul_append (by decide)]

/-- A run is longer than the number of its blocks. -/
theorem length_le_interleaved (pieces : List (Octets × Certificate)) (last : Octets) :
    pieces.length ≤ (interleaved pieces last).length := by
  induction pieces with
  | nil => exact Nat.zero_le _
  | cons piece pieces ih =>
    obtain ⟨gap, c⟩ := piece
    rw [interleaved_cons]
    simp only [List.length_append, List.length_cons, List.length_nil]
    omega

/-- **Certificates behind gaps are read back**, all of them and in order, and NUL octets at the end
do not matter. -/
theorem ofStream_interleaved {gap : Octets} {c : Certificate}
    {pieces : List (Octets × Certificate)} {last : Octets} (hgap : IsGap gap)
    (hpieces : ∀ piece ∈ pieces, IsGap piece.1) (hlast : IsGap last) (count : Nat) :
    Reading.ofStream (interleaved ((gap, c) :: pieces) last ++ List.replicate count 0) =
      ⟨c :: pieces.map Prod.snd, none⟩ := by
  have hview : (upTo none (interleaved ((gap, c) :: pieces) last ++
      List.replicate count 0)).dropTrailingNul =
        interleaved ((gap, c) :: pieces) last.dropTrailingNul := by
    rw [upTo, dropTrailingNul_append_zeros,
      dropTrailingNul_interleaved (List.cons_ne_nil _ _)]
  have hnext : nextBlock (interleaved ((gap, c) :: pieces) last.dropTrailingNul) =
      some (some (c.block, [10] ++ interleaved pieces last.dropTrailingNul)) := by
    rw [interleaved_cons, nextBlock_block hgap]
  have hfuel := Nat.lt_succ_of_le
    (length_le_interleaved ((gap, c) :: pieces) last.dropTrailingNul)
  rw [Reading.ofStream, hview, hnext]
  exact readBlocks_interleaved (List.forall_mem_cons.2 ⟨hgap, hpieces⟩) hlast.dropTrailingNul hfuel
    0 (.inl rfl)

/-- Blocks right behind one another are blocks behind empty gaps. -/
theorem interleaved_map (cs : List Certificate) :
    interleaved (cs.map ([], ·)) [] = cs.flatMap Certificate.toPem := by
  simp [interleaved, List.flatMap_map]

/-- No NUL octet ends certificates written one after the other. -/
theorem dropTrailingNul_flatMap_toPem (cs : List Certificate) :
    dropTrailingNul (cs.flatMap Certificate.toPem) = cs.flatMap Certificate.toPem := by
  rcases eq_or_ne cs [] with rfl | hne
  · rfl
  · rw [← interleaved_map, dropTrailingNul_interleaved (by simpa using hne)]
    rfl

/-- **Certificates written one after the other are read back**, all of them and in order, with any
number of NUL octets at the end. -/
theorem ofStream_flatMap_toPem_zeros (cs : List Certificate) (count : Nat) :
    Reading.ofStream (cs.flatMap Certificate.toPem ++ List.replicate count 0) = ⟨cs, none⟩ := by
  cases cs with
  | nil =>
    rw [Reading.ofStream, upTo, dropTrailingNul_append_zeros]
    rfl
  | cons c more =>
    have hgaps : ∀ piece ∈ more.map (([] : Octets), ·), IsGap piece.1 := by simp [isGap_nil]
    have hread : Reading.ofStream (interleaved ((c :: more).map ([], ·)) [] ++ _) = _ :=
      ofStream_interleaved isGap_nil hgaps isGap_nil count
    rwa [interleaved_map, List.map_map, show Prod.snd ∘ (([] : Octets), ·) = id from rfl,
      List.map_id] at hread

theorem ofStream_flatMap_toPem (cs : List Certificate) :
    Reading.ofStream (cs.flatMap Certificate.toPem) = ⟨cs, none⟩ := by
  simpa using ofStream_flatMap_toPem_zeros cs 0

/-! ## Bundles -/

/-- Only genuine certificates have PEM texts. -/
theorem eq_map_of_mapM_toPem {anchors : List CertificateValue} {texts : List Octets}
    (h : anchors.mapM CertificateValue.toPem = .ok texts) : ∃ cs : List Certificate,
      anchors = cs.map .certificate ∧ texts = cs.map Certificate.toPem := by
  induction anchors generalizing texts with
  | nil =>
    cases h
    exact ⟨[], rfl, rfl⟩
  | cons anchor anchors ih =>
    rw [List.mapM_cons] at h
    obtain ⟨text, htext, h⟩ := bind_eq_ok_iff.1 h
    obtain ⟨more, hmore, h⟩ := bind_eq_ok_iff.1 h
    cases h
    obtain ⟨cs, rfl, rfl⟩ := ih hmore
    cases anchor with
    | certificate c =>
      cases htext
      exact ⟨c :: cs, rfl, rfl⟩
    | unencodable reason => cases htext
    | plain v => cases htext

/-- A bundle is made of genuine certificates only: their PEM texts and their number. -/
theorem Bundle.eq_of_ofAnchors {anchors : List CertificateValue} {b : Bundle}
    (h : Bundle.ofAnchors anchors = .ok b) : ∃ cs : List Certificate,
      anchors = cs.map .certificate ∧ b = ⟨bundleData (cs.map Certificate.toPem), cs.length⟩ := by
  obtain ⟨data, hdata, h⟩ := bind_eq_ok_iff.1 h
  obtain ⟨texts, htexts, hdata⟩ := bind_eq_ok_iff.1 hdata
  obtain ⟨cs, rfl, rfl⟩ := eq_map_of_mapM_toPem htexts
  cases hdata
  cases h
  exact ⟨cs, rfl, by rw [List.length_map]⟩

/-- The buffer of a bundle is the PEM text of its anchors with NUL octets behind it. -/
theorem exists_bundleData_eq (cs : List Certificate) : ∃ count,
    bundleData (cs.map Certificate.toPem) =
      cs.flatMap Certificate.toPem ++ List.replicate count 0 := by
  cases cs with
  | nil => exact ⟨1, rfl⟩
  | cons c more =>
    refine ⟨2, ?_⟩
    rw [List.flatMap_def]
    rfl

/-- The text of a bundle is the PEM text of its anchors. -/
theorem Bundle.pem_eq (cs : List Certificate) (count : Int) :
    Bundle.pem ⟨bundleData (cs.map Certificate.toPem), count⟩ = cs.flatMap Certificate.toPem := by
  obtain ⟨zeros, hdata⟩ := exists_bundleData_eq cs
  rw [Bundle.pem, hdata, dropTrailingNul_append_zeros, dropTrailingNul_flatMap_toPem]

/-- **A bundle reads as its anchors.** -/
theorem Bundle.ofStream_pem (cs : List Certificate) (count : Int) :
    Reading.ofStream (Bundle.pem ⟨bundleData (cs.map Certificate.toPem), count⟩) = ⟨cs, none⟩ := by
  rw [Bundle.pem_eq, ofStream_flatMap_toPem]

end Enrollment
