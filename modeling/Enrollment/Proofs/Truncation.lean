import Enrollment.Proofs.Stream

/-!
# Truncated streams

The beginning of a stream never shows a certificate that the stream itself does not show. A marker
that is found in a run is found at the same place in every longer run (`breakAt_of_prefix`), so the
blocks of a run are those of the longer one as far as they go (`readBlocks_prefix`), wherever the
cut falls. A cut inside a block leaves the blocks before it, and is reported with the number of the
block (`ofStream_cut_inside`). Both are put together in `Reading.truncated`.
-/

namespace Enrollment

namespace Octets

section
variable {marker run whole before rest : Octets}

/-- A run is cut where the marker stands. -/
theorem eq_of_breakAt (h : breakAt marker run = some (before, rest)) :
    run = before ++ rest ∧ marker <+: rest := by
  induction run generalizing before with
  | nil =>
    rw [breakAt] at h
    split at h
    · next hprefix =>
      cases h
      exact ⟨rfl, List.isPrefixOf_iff_prefix.1 hprefix⟩
    · cases h
  | cons b run ih =>
    rw [breakAt] at h
    split at h
    · next hprefix =>
      cases h
      exact ⟨rfl, List.isPrefixOf_iff_prefix.1 hprefix⟩
    · obtain ⟨⟨before', rest'⟩, hmore, heq⟩ := Option.map_eq_some_iff.1 h
      cases heq
      obtain ⟨rfl, hmarker⟩ := ih hmore
      exact ⟨rfl, hmarker⟩

/-- **A marker that is found in a run is found at the same place in every longer run.** An earlier
one would end before the marker of the run does, and lie in the run itself. -/
theorem breakAt_of_prefix (hrun : run <+: whole) (h : breakAt marker run = some (before, rest)) :
    ∃ rest', rest <+: rest' ∧ breakAt marker whole = some (before, rest') := by
  obtain ⟨tail, rfl⟩ := hrun
  induction run generalizing before with
  | nil =>
    rw [breakAt] at h
    split at h
    · next hprefix =>
      cases h
      obtain rfl := List.prefix_nil.1 (List.isPrefixOf_iff_prefix.1 hprefix)
      exact ⟨tail, List.nil_prefix, breakAt_self [] tail⟩
    · cases h
  | cons b run ih =>
    rw [breakAt] at h
    split at h
    · next hprefix =>
      cases h
      have hlonger : marker.isPrefixOf (b :: run ++ tail) = true :=
        List.isPrefixOf_iff_prefix.2
          ((List.isPrefixOf_iff_prefix.1 hprefix).trans (List.prefix_append _ _))
      refine ⟨b :: run ++ tail, List.prefix_append _ _, ?_⟩
      rw [List.cons_append, breakAt, ← List.cons_append, if_pos hlonger]
    · next hprefix =>
      obtain ⟨⟨before', rest'⟩, hmore, heq⟩ := Option.map_eq_some_iff.1 h
      cases heq
      -- the run holds a whole marker further on, so it is no shorter than the marker
      have hlength : marker.length ≤ (b :: run).length := by
        obtain ⟨rfl, hmarker⟩ := eq_of_breakAt hmore
        have := hmarker.length_le
        simp only [List.length_cons, List.length_append]
        omega
      have hlonger : marker.isPrefixOf (b :: (run ++ tail)) = false := by
        rw [← Bool.not_eq_true, List.isPrefixOf_iff_prefix]
        intro hmarker
        exact hprefix (List.isPrefixOf_iff_prefix.2
          (List.prefix_of_prefix_length_le hmarker (List.prefix_append (b :: run) tail) hlength))
      obtain ⟨rest', hrest, hfound⟩ := ih hmore
      refine ⟨rest', hrest, ?_⟩
      rw [List.cons_append, breakAt, hlonger, hfound]
      rfl

/-- What is left of a run without the NUL octets at its end is the beginning of what is left of a
longer one. -/
theorem dropTrailingNul_prefix (h : run <+: whole) :
    run.dropTrailingNul <+: whole.dropTrailingNul := by
  obtain ⟨tail, rfl⟩ := h
  change run.rdropWhile (· == 0) <+: (run ++ tail).rdropWhile (· == 0)
  induction tail using List.reverseRecOn with
  | nil => rw [List.append_nil]
  | append_singleton tail b ih =>
    rw [← List.append_assoc]
    by_cases hb : (b == 0) = true
    · rwa [List.rdropWhile_concat_pos (· == 0) _ b hb]
    · rw [List.rdropWhile_concat_neg (· == 0) _ b hb, List.append_assoc]
      exact (List.rdropWhile_prefix _ _).trans (List.prefix_append _ _)

/-- A run that does not end with a NUL octet stays as it is. -/
theorem dropTrailingNul_eq_self (h : ∀ b ∈ run, b ≠ 0) : run.dropTrailingNul = run :=
  List.rdropWhile_eq_self_iff.2 fun hne => by simpa using h _ (List.getLast_mem hne)

end

end Octets

open Octets

/-! ## What is looked at -/

/-- The part of a stream that is looked at: up to its length, without the NUL octets at its end. -/
def streamView (length : Option Int) (bytes : Octets) : Octets :=
  (upTo length bytes).dropTrailingNul

/-- The first octets of a run, or all but its last, are its beginning. -/
theorem upTo_prefix_self (length : Option Int) (bytes : Octets) : upTo length bytes <+: bytes := by
  unfold upTo
  split
  · exact List.prefix_rfl
  · exact List.take_prefix _ _
  · exact List.take_prefix _ _

/-- A view of a stream is the beginning of the stream, wherever it ends. -/
theorem upTo_eq_take (length : Option Int) (bytes : Octets) :
    upTo length bytes = bytes.take (upTo length bytes).length :=
  List.prefix_iff_eq_take.1 (upTo_prefix_self length bytes)

theorem streamView_prefix (length : Option Int) (bytes : Octets) :
    streamView length bytes <+: streamView none bytes :=
  dropTrailingNul_prefix (upTo_prefix_self length bytes)

/-- **How a stream is read**: without a block it is empty or an error, and else its blocks are
read. -/
theorem ofStream_cases (bytes : Octets) (length : Option Int) :
    (nextBlock (streamView length bytes) = none ∧ Reading.ofStream bytes length =
      ⟨[], if (streamView length bytes).isBlank then none
        else some (noCertificate (streamView length bytes).length)⟩) ∨
    (nextBlock (streamView length bytes) ≠ none ∧ Reading.ofStream bytes length =
      readBlocks ((streamView length bytes).length + 1) 0 (streamView length bytes)) := by
  unfold Reading.ofStream streamView
  simp only
  split
  · next hnone => exact .inl ⟨hnone, rfl⟩
  · next hsome => exact .inr ⟨by simp [hsome], rfl⟩

/-- The certificates of a stream are those of its blocks. -/
theorem certificates_ofStream (bytes : Octets) (length : Option Int) :
    (Reading.ofStream bytes length).certificates =
      (readBlocks ((streamView length bytes).length + 1) 0
        (streamView length bytes)).certificates := by
  rcases ofStream_cases bytes length with ⟨hnone, hread⟩ | ⟨-, hread⟩
  · rw [hread, readBlocks, hnone]
  · rw [hread]

/-! ## The beginning of a run -/

section
variable {run whole block rest : Octets}

/-- The first block of a run is the first block of every longer run. -/
theorem nextBlock_of_prefix (hrun : run <+: whole)
    (h : nextBlock run = some (some (block, rest))) :
    ∃ rest', rest <+: rest' ∧ nextBlock whole = some (some (block, rest')) := by
  rw [nextBlock] at h
  obtain ⟨⟨gap, opened⟩, hbegin, h⟩ := Option.map_eq_some_iff.1 h
  obtain ⟨⟨inner, closing⟩, hend, heq⟩ := Option.map_eq_some_iff.1 h
  cases heq
  obtain ⟨opened', hopened, hbegin'⟩ := breakAt_of_prefix hrun hbegin
  obtain ⟨closing', hclosing, hend'⟩ := breakAt_of_prefix hopened hend
  refine ⟨closing'.drop (Pem.endLine certificateLabel).length, hclosing.drop _, ?_⟩
  rw [nextBlock, hbegin']
  simp only [Option.map_some, hend']

/-- **The beginning of a run shows no certificate that the run does not show.** The induction
follows the blocks; the shorter run is the first to come to an end or to a block that does not
read. -/
theorem readBlocks_prefix {fuel fuel' : Nat} (hfuel : fuel ≤ fuel') (hrun : run <+: whole)
    (index : Nat) :
    (readBlocks fuel index run).certificates <+: (readBlocks fuel' index whole).certificates := by
  induction fuel generalizing fuel' index run whole with
  | zero => exact List.nil_prefix
  | succ fuel ih =>
    obtain ⟨fuel', rfl⟩ := Nat.exists_eq_add_one_of_ne_zero (Nat.ne_zero_of_lt hfuel)
    rw [readBlocks]
    split
    · exact List.nil_prefix
    · exact List.nil_prefix
    · next block rest hblock =>
      obtain ⟨rest', hrest, hblock'⟩ := nextBlock_of_prefix hrun hblock
      rw [readBlocks, hblock']
      cases hread : Certificate.ofPem block with
      | error fault => cases fault <;> exact List.nil_prefix
      | ok c =>
        simp only [hread]
        exact List.cons_prefix_cons.2
          ⟨rfl, ih (Nat.le_of_succ_le_succ hfuel) hrest (index + 1)⟩

end

/-- The certificates of the beginning of a stream are the first of those of the stream. -/
theorem certificates_ofStream_prefix (bytes : Octets) (length : Option Int) :
    (Reading.ofStream bytes length).certificates <+: (Reading.ofStream bytes).certificates := by
  have hview := streamView_prefix length bytes
  rw [certificates_ofStream, certificates_ofStream]
  exact readBlocks_prefix (Nat.succ_le_succ hview.length_le) hview 0

/-! ## A cut inside a block -/

/-- The octets of a block, the first of them its BEGIN line. -/
theorem Certificate.length_block (c : Certificate) : c.block.length =
    (Pem.beginLine certificateLabel).length + (Pem.bodyLines c.der).length + 1 +
      (Pem.endLine certificateLabel).length := by
  simp only [block, Pem.block, List.length_append, List.length_cons]
  omega

/-- No octet of a certificate in PEM is NUL. -/
theorem Certificate.ne_zero_of_mem_toPem {c : Certificate} {b : UInt8} (h : b ∈ c.toPem) :
    b ≠ 0 := by
  have hbegin : ∀ b ∈ Pem.beginLine certificateLabel, b ≠ 0 := by decide +kernel
  have hend : ∀ b ∈ Pem.endLine certificateLabel, b ≠ 0 := by decide +kernel
  rw [Certificate.toPem_eq, block, Pem.block] at h
  simp only [List.mem_append, List.mem_cons, List.not_mem_nil, or_false] at h
  obtain (h | rfl | h | h) | rfl := h
  · exact hbegin b h
  · decide
  · rcases Pem.mem_bodyLines h with hletter | rfl
    · rintro rfl
      exact absurd (Base64.bounds_of_isLetter hletter).1 (by decide)
    · decide
  · exact hend b h
  · decide

/-- A block that is cut off before the end of its END line is missing that line. -/
theorem nextBlock_cut {gap : Octets} (hgap : IsGap gap) {c : Certificate} {kept : Nat}
    (hbegin : (Pem.beginLine certificateLabel).length ≤ kept) (hend : kept < c.block.length) :
    nextBlock (gap ++ c.block.take kept) = some none := by
  have hblock : c.block = Pem.beginLine certificateLabel ++
      (10 :: (Pem.bodyLines c.der ++ Pem.endLine certificateLabel)) := rfl
  have hopened : breakAt (Pem.beginLine certificateLabel) (gap ++ c.block.take kept) =
      some (gap, c.block.take kept) := by
    rw [hblock, List.take_append, List.take_of_length_le hbegin, breakAt_beginLine hgap]
  have hclosed : breakAt (Pem.endLine certificateLabel) (c.block.take kept) = none := by
    rw [Option.eq_none_iff_forall_ne_some]
    rintro ⟨inner, rest⟩ hfound
    obtain ⟨hsplit, hmarker⟩ := eq_of_breakAt hfound
    obtain ⟨rest', -, hwhole⟩ := breakAt_of_prefix (List.take_prefix kept c.block) hfound
    -- the END line would be where that of the block is, and the block has it at its end
    have hlast := breakAt_endLine c.der []
    rw [List.append_nil, ← Certificate.block, hwhole] at hlast
    cases hlast
    have hlength := congrArg List.length hsplit
    have hmarked := hmarker.length_le
    have hwidth := c.length_block
    simp only [List.length_append, List.length_cons, List.length_take] at hlength
    omega
  rw [nextBlock, hopened]
  simp only [Option.map_some, hclosed, Option.map_none]

/-- What a block leaves of its line feed is a gap. -/
theorem isGap_lead {lead : Octets} (h : lead = [] ∨ lead = [10]) : IsGap lead := by
  rcases h with rfl | rfl
  · exact isGap_nil
  · exact isGap_nil.cons_feed

/-- The blocks in front of a run are read, and the rest of the run with the numbers after theirs. A
line feed that the block before the run left over does not matter. -/
theorem readBlocks_flatMap_toPem (cs : List Certificate) (rest : Octets) (fuel index : Nat)
    {lead : Octets} (hlead : lead = [] ∨ lead = [10]) :
    ∃ lead', (lead' = [] ∨ lead' = [10]) ∧
      readBlocks (cs.length + fuel) index (lead ++ (cs.flatMap Certificate.toPem ++ rest)) =
        ⟨cs ++ (readBlocks fuel (index + cs.length) (lead' ++ rest)).certificates,
          (readBlocks fuel (index + cs.length) (lead' ++ rest)).failure⟩ := by
  induction cs generalizing index lead with
  | nil => exact ⟨lead, hlead, by simp⟩
  | cons c cs ih =>
    obtain ⟨lead', hlead', hread⟩ := ih (index + 1) (.inr rfl)
    have hrun : lead ++ ((c :: cs).flatMap Certificate.toPem ++ rest) =
        lead ++ (c.block ++ ([10] ++ (cs.flatMap Certificate.toPem ++ rest))) := by
      rw [List.flatMap_cons, Certificate.toPem_eq]
      simp only [List.append_assoc]
    have hfuel : (c :: cs).length + fuel = cs.length + fuel + 1 := by
      rw [List.length_cons]
      omega
    have hindex : index + 1 + cs.length = index + (c :: cs).length := by
      rw [List.length_cons]
      omega
    refine ⟨lead', hlead', ?_⟩
    rw [hrun, hfuel, readBlocks_block (isGap_lead hlead), hread, hindex]
    rfl

/-- **A stream that is cut inside a block** reads as the certificates before that block, and fails
with its number. -/
theorem ofStream_cut_inside (before : List Certificate) (c : Certificate)
    (after : List Certificate) {length : Option Int} {cut : Nat}
    (hcut : (upTo length ((before ++ c :: after).flatMap Certificate.toPem)).length = cut)
    (hbegin : (before.flatMap Certificate.toPem).length +
      (Pem.beginLine certificateLabel).length ≤ cut)
    (hend : cut < (before.flatMap Certificate.toPem).length + c.block.length) :
    Reading.ofStream ((before ++ c :: after).flatMap Certificate.toPem) length =
      ⟨before, some (.ofCause .certificateParse
        (.malformedBlock before.length "missing END CERTIFICATE marker"))⟩ := by
  obtain ⟨kept, rfl⟩ := Nat.exists_eq_add_of_le (Nat.le_of_add_right_le hbegin)
  have hkept := Nat.le_of_add_le_add_left hbegin
  have hinside := Nat.lt_of_add_lt_add_left hend
  have hview : streamView length ((before ++ c :: after).flatMap Certificate.toPem) =
      before.flatMap Certificate.toPem ++ c.block.take kept := by
    have hupTo : upTo length ((before ++ c :: after).flatMap Certificate.toPem) =
        before.flatMap Certificate.toPem ++ c.block.take kept := by
      rw [upTo_eq_take, hcut, List.flatMap_append, List.flatMap_cons, List.take_length_add_append,
        Certificate.toPem_eq, List.append_assoc, List.take_append_of_le_length hinside.le]
    rw [streamView, hupTo]
    refine dropTrailingNul_eq_self fun b hb => ?_
    rcases List.mem_append.1 hb with hb | hb
    · obtain ⟨d, -, hb⟩ := List.mem_flatMap.1 hb
      exact Certificate.ne_zero_of_mem_toPem hb
    · refine Certificate.ne_zero_of_mem_toPem (c := c) ?_
      rw [Certificate.toPem_eq]
      exact List.mem_append_left _ (List.mem_of_mem_take hb)
  have hread : readBlocks ((streamView length
      ((before ++ c :: after).flatMap Certificate.toPem)).length + 1) 0 (streamView length
        ((before ++ c :: after).flatMap Certificate.toPem)) =
      ⟨before, some (.ofCause .certificateParse
        (.malformedBlock before.length "missing END CERTIFICATE marker"))⟩ := by
    have hblocks : before.length ≤ (before.flatMap Certificate.toPem).length := by
      rw [← interleaved_map]
      simpa using length_le_interleaved (before.map ([], ·)) []
    obtain ⟨fuel, hfuel⟩ : ∃ fuel,
        (before.flatMap Certificate.toPem ++ c.block.take kept).length = before.length + fuel :=
      Nat.exists_eq_add_of_le (by rw [List.length_append]; omega)
    obtain ⟨lead, hlead, hbefore⟩ :=
      readBlocks_flatMap_toPem before (c.block.take kept) (fuel + 1) 0 (.inl rfl)
    rw [hview, hfuel, Nat.add_assoc, ← List.nil_append (before.flatMap _ ++ _), hbefore, readBlocks,
      nextBlock_cut (isGap_lead hlead) hkept hinside]
    simp [Reading.failed]
  rcases ofStream_cases ((before ++ c :: after).flatMap Certificate.toPem) length with
    ⟨hnone, -⟩ | ⟨-, hstream⟩
  · rw [readBlocks, hnone] at hread
    cases hread
  · rw [hstream, hread]

/-! ## The theorem -/

/-- **Truncation never invents a certificate.** The certificates of a stream up to any length are
the first of those of the whole stream. Where certificates stand one after the other and the cut
falls behind the BEGIN line of one of them and before the end of its END line, the certificates
before it are read, and the failure names its number. -/
theorem Reading.truncated :
    (∀ (bytes : Octets) (length : Int),
      (Reading.ofStream bytes (some length)).certificates <+:
        (Reading.ofStream bytes).certificates) ∧
    ∀ (before : List Certificate) (c : Certificate) (after : List Certificate) (length : Int)
      (cut : Nat),
      (upTo (some length) ((before ++ c :: after).flatMap Certificate.toPem)).length = cut →
      (before.flatMap Certificate.toPem).length + (Pem.beginLine certificateLabel).length ≤ cut →
      cut < (before.flatMap Certificate.toPem).length + c.block.length →
      Reading.ofStream ((before ++ c :: after).flatMap Certificate.toPem) (some length) =
        ⟨before, some (.ofCause .certificateParse
          (.malformedBlock before.length "missing END CERTIFICATE marker"))⟩ :=
  ⟨fun bytes length => certificates_ofStream_prefix bytes (some length),
    fun before c after _ _ hcut hbegin hend => ofStream_cut_inside before c after hcut hbegin hend⟩

/-- Two certificates without the last two octets: the line feed and a hyphen. -/
theorem Reading.truncated_second :
    (upTo (some (-2)) (([sampleCertificate] ++ [sampleCertificate]).flatMap
      Certificate.toPem)).length = 2 * sampleCertificate.toPem.length - 2 ∧
    ([sampleCertificate].flatMap Certificate.toPem).length +
      (Pem.beginLine certificateLabel).length ≤ 2 * sampleCertificate.toPem.length - 2 ∧
    2 * sampleCertificate.toPem.length - 2 <
      ([sampleCertificate].flatMap Certificate.toPem).length + sampleCertificate.block.length ∧
    Reading.ofStream (([sampleCertificate] ++ [sampleCertificate]).flatMap Certificate.toPem)
        (some (-2)) = ⟨[sampleCertificate], some (.ofCause .certificateParse
          (.malformedBlock 1 "missing END CERTIFICATE marker"))⟩ := by
  have hcut : (upTo (some (-2)) (([sampleCertificate] ++ [sampleCertificate]).flatMap
      Certificate.toPem)).length = 2 * sampleCertificate.toPem.length - 2 := by
    decide +kernel
  have hbegin : ([sampleCertificate].flatMap Certificate.toPem).length +
      (Pem.beginLine certificateLabel).length ≤ 2 * sampleCertificate.toPem.length - 2 := by
    decide +kernel
  have hend : 2 * sampleCertificate.toPem.length - 2 <
      ([sampleCertificate].flatMap Certificate.toPem).length +
        sampleCertificate.block.length := by
    decide +kernel
  exact ⟨hcut, hbegin, hend,
    Reading.truncated.2 [sampleCertificate] sampleCertificate [] (-2) _ hcut hbegin hend⟩

end Enrollment
