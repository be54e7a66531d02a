import Enrollment.Der.Primitive
import Mathlib.Algebra.Group.Nat.Defs

/-!
# DER elements read back

Big-endian numbers of a fixed width come back modulo that width (`toNat_ofNatWidth`), and in
shortest form as they are (`toNat_ofNat`). An element with a one-octet identifier is read off the
front of a run as it was written, if its content is short enough for four length octets
(`Element.read_make`), and what is read is the only spelling of the element (`eq_encode_of_read`).
Together they say that octets which are an element are that element (`Element.eq_of_readOne_make`).
-/

namespace Enrollment

namespace Octets

/-! ## Numbers of a fixed width -/

theorem toNat_append_singleton (bytes : Octets) (b : UInt8) :
    toNat (bytes ++ [b]) = toNat bytes * 256 + b.toNat := by
  simp [toNat, List.foldl_append]

theorem ofNatWidth_succ (width n : Nat) :
    ofNatWidth (width + 1) n = ofNatWidth width (n / 256) ++ [UInt8.ofNat (n % 256)] := by
  simp [ofNatWidth, ofNatLittle]

@[simp] theorem length_ofNatWidth (width n : Nat) : (ofNatWidth width n).length = width := by
  induction width generalizing n with
  | zero => rfl
  | succ width ih => rw [ofNatWidth_succ, List.length_append, ih, List.length_singleton]

/-- The octets of a width spell a number up to that width. -/
theorem toNat_ofNatWidth (width n : Nat) : toNat (ofNatWidth width n) = n % 256 ^ width := by
  induction width generalizing n with
  | zero => rw [Nat.pow_zero, Nat.mod_one]; rfl
  | succ width ih =>
    have hlow : (UInt8.ofNat (n % 256)).toNat = n % 256 := by
      rw [UInt8.toNat_ofNat', Nat.mod_eq_of_lt (Nat.mod_lt n (by decide))]
    rw [ofNatWidth_succ, toNat_append_singleton, ih, hlow, Nat.pow_succ, Nat.mul_comm (256 ^ width),
      Nat.mod_mul, Nat.mul_comm, Nat.add_comm]

/-- Octets are the spelling of their number in their own width. -/
theorem ofNatWidth_toNat (bytes : Octets) : ofNatWidth bytes.length (toNat bytes) = bytes := by
  induction h : bytes.length generalizing bytes with
  | zero => rw [List.eq_nil_of_length_eq_zero h]; rfl
  | succ width ih =>
    obtain ⟨front, b, rfl⟩ : ∃ front b, bytes = front ++ [b] :=
      ⟨_, _, (List.dropLast_concat_getLast (List.ne_nil_of_length_eq_add_one h)).symm⟩
    have hb := b.toNat_lt
    have hfront : front.length = width := by simpa using h
    have hdiv : (toNat front * 256 + b.toNat) / 256 = toNat front := by omega
    have hmod : (toNat front * 256 + b.toNat) % 256 = b.toNat := by omega
    rw [toNat_append_singleton, ofNatWidth_succ, hdiv, hmod, ih front hfront, UInt8.ofNat_toNat]

/-- A width spells the same octets for numbers that agree up to it. -/
theorem ofNatWidth_mod (width n : Nat) :
    ofNatWidth width (n % 256 ^ width) = ofNatWidth width n := by
  have hback := ofNatWidth_toNat (ofNatWidth width n)
  rwa [length_ofNatWidth, toNat_ofNatWidth] at hback

/-! ## The shortest width -/

/-- The width of a number is the least that spells it. -/
theorem widthOf_le_iff {n width : Nat} : widthOf n ≤ width ↔ n < 256 ^ width := by
  rcases Nat.eq_zero_or_pos n with rfl | hpos
  · rw [widthOf, if_pos rfl]
    exact iff_of_true (Nat.zero_le _) (Nat.pow_pos (by decide))
  · have hne : n ≠ 0 := Nat.ne_of_gt hpos
    rw [widthOf, if_neg hne, show (256 : Nat) = 2 ^ 8 from rfl, ← Nat.pow_mul, ← Nat.log2_lt hne]
    omega

theorem toNat_ofNat (n : Nat) : toNat (ofNat n) = n := by
  rw [ofNat, toNat_ofNatWidth, Nat.mod_eq_of_lt (widthOf_le_iff.1 (Nat.le_refl _))]

@[simp] theorem length_ofNat (n : Nat) : (ofNat n).length = widthOf n := length_ofNatWidth _ _

/-- The shortest spelling does not begin with a zero. -/
theorem ofNat_ne_zero_cons (n : Nat) (rest : Octets) : ofNat n ≠ 0 :: rest := by
  intro h
  have hlength : widthOf n = rest.length + 1 := by rw [← length_ofNat, h, List.length_cons]
  have hsame : n = toNat rest := by rw [← toNat_ofNat n, h]; rfl
  have hbound : toNat rest < 256 ^ rest.length := by
    have hmod := toNat_ofNatWidth rest.length (toNat rest)
    rw [ofNatWidth_toNat] at hmod
    rw [hmod]
    exact Nat.mod_lt _ (Nat.pow_pos (by decide))
  have := widthOf_le_iff.2 (hsame ▸ hbound)
  omega

end Octets

namespace Der

open Octets

/-! ## Length octets -/

/-- A length below 256⁴ is read as it was written. -/
theorem readLength_lengthOctets {n : Nat} (h : n < 256 ^ 4) (rest : Octets) :
    readLength (lengthOctets n ++ rest) = some (n, rest) := by
  by_cases hshort : n < 128
  · have hn : (UInt8.ofNat n).toNat = n := by
      rw [UInt8.toNat_ofNat', Nat.mod_eq_of_lt (by omega)]
    rw [lengthOctets, if_pos hshort, List.singleton_append, readLength]
    simp only [hn, if_pos hshort]
  · have hwide : widthOf n ≤ 4 := widthOf_le_iff.2 h
    have hpositive : 1 ≤ widthOf n := by
      rcases Nat.eq_zero_or_pos (widthOf n) with hzero | hpositive
      · have := widthOf_le_iff.1 (Nat.le_of_eq hzero)
        omega
      · exact hpositive
    have hb : (UInt8.ofNat (128 + widthOf n)).toNat = 128 + widthOf n := by
      rw [UInt8.toNat_ofNat', Nat.mod_eq_of_lt (by omega)]
    have htake : (ofNat n ++ rest).take (widthOf n) = ofNat n :=
      List.take_left' (length_ofNat n)
    have hdrop : (ofNat n ++ rest).drop (widthOf n) = rest := List.drop_left' (length_ofNat n)
    rw [lengthOctets, if_neg hshort, List.cons_append, readLength]
    have hlong : ¬128 + widthOf n < 128 := by omega
    simp only [hb, hlong, if_false, Nat.add_sub_cancel_left, htake, hdrop, toNat_ofNat]
    rw [if_pos ⟨hpositive, hwide, by simp, by omega, trivial⟩]

/-- Length octets that are read are those of their length, which is below 256⁴. -/
theorem eq_of_readLength {bytes rest : Octets} {n : Nat} (h : readLength bytes = some (n, rest)) :
    bytes = lengthOctets n ++ rest ∧ n < 256 ^ 4 := by
  cases bytes with
  | nil => cases h
  | cons b more =>
    rw [readLength] at h
    have hb := b.toNat_lt
    by_cases hshort : b.toNat < 128
    · simp only [hshort, if_true, Option.some.injEq, Prod.mk.injEq] at h
      obtain ⟨rfl, rfl⟩ := h
      rw [lengthOctets, if_pos hshort, UInt8.ofNat_toNat]
      exact ⟨rfl, by omega⟩
    · simp only [hshort, if_false] at h
      split at h
      · next hfits =>
        obtain ⟨-, hwide, hlength, hlong, hwidth⟩ := hfits
        simp only [Option.some.injEq, Prod.mk.injEq] at h
        obtain ⟨rfl, rfl⟩ := h
        have htake : (more.take (b.toNat - 128)).length = b.toNat - 128 := by
          rw [List.length_take]
          omega
        have hbytes : ofNat (toNat (more.take (b.toNat - 128))) = more.take (b.toNat - 128) := by
          have hback := ofNatWidth_toNat (more.take (b.toNat - 128))
          rw [ofNat, hwidth]
          rwa [htake] at hback
        have hfirst : UInt8.ofNat (128 + (b.toNat - 128)) = b := by
          rw [Nat.add_sub_cancel' (by omega), UInt8.ofNat_toNat]
        refine ⟨?_, ?_⟩
        · rw [lengthOctets, if_neg (by omega), hbytes, hwidth, hfirst, List.cons_append,
            List.take_append_drop]
        · exact Nat.lt_of_lt_of_le (widthOf_le_iff.1 (Nat.le_refl _))
            (Nat.pow_le_pow_right (by decide) (by rw [hwidth]; exact hwide))
      · cases h

/-! ## Elements -/

/-- Identifier octets that are read are a part of the run. -/
theorem eq_of_readTagNumber {bytes number rest : Octets}
    (h : readTagNumber bytes = some (number, rest)) : bytes = number ++ rest := by
  induction bytes generalizing number with
  | nil => cases h
  | cons b more ih =>
    rw [readTagNumber] at h
    split at h
    · cases h
      rfl
    · obtain ⟨⟨number', rest'⟩, hmore, heq⟩ := Option.map_eq_some_iff.1 h
      cases heq
      rw [ih hmore, List.cons_append]

theorem eq_of_readIdentifier {bytes identifier rest : Octets}
    (h : readIdentifier bytes = some (identifier, rest)) : bytes = identifier ++ rest := by
  cases bytes with
  | nil => cases h
  | cons b more =>
    rw [readIdentifier] at h
    split at h
    · cases h
      rfl
    · split at h
      · cases h
      · next number rest' hnumber =>
        split at h
        · cases h
        · split at h
          · cases h
          · cases h
            rw [eq_of_readTagNumber hnumber, List.cons_append]

/-- A tag that is its whole identifier. -/
def IsLowTag (tag : UInt8) : Prop := tag.toNat % 32 < 31

instance (tag : UInt8) : Decidable (IsLowTag tag) := inferInstanceAs (Decidable (_ < _))

theorem readIdentifier_cons {tag : UInt8} (h : IsLowTag tag) (rest : Octets) :
    readIdentifier (tag :: rest) = some ([tag], rest) := if_pos h

/-- Content that four length octets can announce. -/
def IsShort (content : Octets) : Prop := content.length < 256 ^ 4

theorem IsShort.of_le {content more : Octets} (h : IsShort more)
    (hle : content.length ≤ more.length) : IsShort content := Nat.lt_of_le_of_lt hle h

namespace Element

/-- An element is read off the front of a run as it was written. -/
theorem read_make {tag : UInt8} (htag : IsLowTag tag) {content : Octets} (h : IsShort content)
    (rest : Octets) : read ((make tag content).encode ++ rest) = some (make tag content, rest) := by
  rw [read, encode, make, List.append_assoc, List.append_assoc, List.singleton_append,
    readIdentifier_cons htag]
  simp only [Option.bind_eq_bind, Option.bind_some, readLength_lengthOctets h]
  simp

/-- What is read off a run is the spelling of the element, and its content is short. -/
theorem eq_encode_of_read {bytes rest : Octets} {e : Element} (h : read bytes = some (e, rest)) :
    bytes = e.encode ++ rest ∧ IsShort e.content := by
  rw [read] at h
  obtain ⟨⟨identifier, more⟩, hidentifier, h⟩ := Option.bind_eq_some_iff.1 h
  obtain ⟨⟨length, content⟩, hlength, h⟩ := Option.bind_eq_some_iff.1 h
  simp only at h
  split at h
  · next hfits =>
    simp only [Option.some.injEq, Prod.mk.injEq] at h
    obtain ⟨rfl, rfl⟩ := h
    have htake : (content.take length).length = length := by
      rw [List.length_take]
      omega
    obtain ⟨heq, hshort⟩ := eq_of_readLength hlength
    refine ⟨?_, ?_⟩
    · rw [eq_of_readIdentifier hidentifier, heq, encode, htake, List.append_assoc,
        List.append_assoc, List.take_append_drop]
    · rw [IsShort, htake]
      exact hshort
  · cases h

/-- An element that is read has the tag that the run begins with. -/
theorem identifier_of_read {tag : UInt8} (htag : IsLowTag tag) {bytes rest : Octets} {e : Element}
    (h : read (tag :: bytes) = some (e, rest)) : e.identifier = [tag] := by
  rw [read, readIdentifier_cons htag] at h
  simp only [Option.bind_eq_bind, Option.bind_some] at h
  obtain ⟨⟨length, content⟩, -, h⟩ := Option.bind_eq_some_iff.1 h
  simp only at h
  split at h
  · cases h
    rfl
  · cases h

/-- A longer content takes no fewer length octets. -/
theorem length_lengthOctets_mono {m n : Nat} (h : m ≤ n) :
    (lengthOctets m).length ≤ (lengthOctets n).length := by
  have hwidth : widthOf m ≤ widthOf n :=
    widthOf_le_iff.2 (Nat.lt_of_le_of_lt h (widthOf_le_iff.1 (Nat.le_refl _)))
  unfold lengthOctets
  split <;> split <;> simp <;> omega

/-- A run that is a written element and reads as one reads as that element. -/
theorem eq_of_readOne_make {tag : UInt8} (htag : IsLowTag tag) {content : Octets} {e : Element}
    (h : readOne (make tag content).encode = some e) : e = make tag content ∧ IsShort content := by
  have hread : read (make tag content).encode = some (e, []) := by
    rw [readOne] at h
    split at h
    · next heq => cases h; exact heq
    · cases h
  obtain ⟨hencode, hshort⟩ := eq_encode_of_read hread
  suffices IsShort content by
    have hback := read_make htag this []
    rw [List.append_nil, hread] at hback
    cases hback
    exact ⟨rfl, this⟩
  -- the identifier is the same, so a longer content could not have been read
  have hidentifier : e.identifier = [tag] := identifier_of_read htag hread
  have hlength := congrArg List.length hencode
  simp only [List.append_nil, encode, make, hidentifier, List.length_append] at hlength
  by_cases hle : content.length ≤ e.content.length
  · exact hshort.of_le hle
  · have := length_lengthOctets_mono (Nat.le_of_not_le hle)
    omega

/-- Elements of short contents are read one after the other. -/
theorem readAll_flatMap_make {parts : List (UInt8 × Octets)}
    (h : ∀ part ∈ parts, IsLowTag part.1 ∧ IsShort part.2) :
    readAll (parts.flatMap fun part => (make part.1 part.2).encode) =
      some (parts.map fun part => make part.1 part.2) := by
  have hmany : ∀ fuel, parts.length ≤ fuel →
      readMany fuel (parts.flatMap fun part => (make part.1 part.2).encode) =
        some (parts.map fun part => make part.1 part.2) := by
    induction parts with
    | nil =>
      intro fuel _
      cases fuel <;> rfl
    | cons part parts ih =>
      intro fuel hfuel
      obtain ⟨fuel, rfl⟩ := Nat.exists_eq_succ_of_ne_zero (Nat.ne_zero_of_lt hfuel)
      obtain ⟨htag, hshort⟩ := h part (.head _)
      have hrest := ih (fun p hp => h p (.tail _ hp)) fuel (Nat.le_of_succ_le_succ hfuel)
      have hread := read_make htag hshort
        (parts.flatMap fun part => (make part.1 part.2).encode)
      rw [List.flatMap_cons]
      rw [show (make part.1 part.2).encode = part.1 :: _ from rfl, List.cons_append] at hread ⊢
      rw [readMany, hread]
      · simp only [hrest, Option.map_some, List.map_cons]
      · nofun
  refine hmany _ ?_
  clear hmany h
  induction parts with
  | nil => exact Nat.le_refl _
  | cons part parts ih =>
    have hpositive : 0 < (make part.1 part.2).encode.length := by
      simp only [encode, make, List.length_append, List.length_singleton]
      omega
    rw [List.flatMap_cons, List.length_append, List.length_cons]
    omega

end Element

namespace Element

/-! ## Parts -/

section
variable {tag : UInt8} {content : Octets}

@[simp] theorem hasTag_make (other : UInt8) :
    (make tag content).hasTag other = (tag == other) := by
  simp [hasTag, make]

@[simp] theorem contentOf?_make : (make tag content).contentOf? tag = some content := by
  rw [contentOf?, hasTag_make, beq_self_eq_true, if_pos rfl, make]

theorem contentOf?_make_ne {other : UInt8} (h : tag ≠ other) :
    (make tag content).contentOf? other = none := by
  simp [contentOf?, h]

/-- The parts of an element that was made of short elements are these. -/
theorem partsOf?_make {parts : List (UInt8 × Octets)}
    (h : ∀ part ∈ parts, IsLowTag part.1 ∧ IsShort part.2) :
    (make tag (parts.flatMap fun part => (make part.1 part.2).encode)).partsOf? tag =
      some (parts.map fun part => make part.1 part.2) := by
  rw [partsOf?, hasTag_make, beq_self_eq_true, if_pos rfl]
  exact readAll_flatMap_make h

end

end Element

/-- The content of a part is no longer than that of the whole. -/
theorem IsShort.of_part {parts : List (UInt8 × Octets)} {part : UInt8 × Octets}
    (h : IsShort (parts.flatMap fun part => (Element.make part.1 part.2).encode))
    (hmem : part ∈ parts) :
    IsShort part.2 := by
  refine h.of_le ?_
  obtain ⟨before, after, rfl⟩ := List.append_of_mem hmem
  simp only [List.flatMap_append, List.flatMap_cons, List.length_append, Element.encode,
    Element.make]
  omega

/-! ## What stands in a run -/

namespace Element

section
variable {tag : UInt8} {bytes content : Octets} {e : Element} {parts : List Element}

/-- A run that reads as one element is the spelling of the element. -/
theorem eq_encode_of_readOne (h : readOne bytes = some e) :
    bytes = e.encode ∧ IsShort e.content := by
  rw [readOne] at h
  split at h
  · next hread =>
    cases h
    simpa using eq_encode_of_read hread
  · cases h

/-- A run that is nothing but elements is their spellings. -/
theorem eq_flatMap_of_readAll (h : readAll bytes = some parts) : bytes = parts.flatMap encode := by
  have hmany : ∀ fuel {bytes parts}, readMany fuel bytes = some parts →
      bytes = parts.flatMap encode := by
    intro fuel
    induction fuel with
    | zero =>
      intro bytes parts h
      cases bytes with
      | nil => cases h; rfl
      | cons b rest => cases h
    | succ fuel ih =>
      intro bytes parts h
      cases bytes with
      | nil => cases h; rfl
      | cons b rest =>
        rw [readMany] at h
        · split at h
          · cases h
          · next e more hread =>
            obtain ⟨parts, hparts, rfl⟩ := Option.map_eq_some_iff.1 h
            rw [(eq_encode_of_read hread).1, ih hparts, List.flatMap_cons]
        · nofun
  exact hmany _ h

theorem eq_make_of_hasTag (h : e.hasTag tag = true) : e = make tag e.content := by
  obtain ⟨identifier, content⟩ := e
  obtain rfl : identifier = [tag] := beq_iff_eq.1 h
  rfl

/-- An element with a tag is made of the tag and its content. -/
theorem eq_make_of_contentOf? (h : e.contentOf? tag = some content) : e = make tag content := by
  rw [contentOf?] at h
  split at h
  · next htag =>
    cases h
    exact eq_make_of_hasTag htag
  · cases h

/-- An element with a tag is made of the tag and its parts. -/
theorem eq_make_of_partsOf? (h : e.partsOf? tag = some parts) :
    e = make tag (parts.flatMap encode) := by
  rw [partsOf?] at h
  split at h
  · next htag =>
    rw [← eq_flatMap_of_readAll h]
    exact eq_make_of_hasTag htag
  · cases h

end

end Element

/-! ## Numbers -/

/-- The content of a number is in shortest form, begins below 128 and spells the number. -/
theorem naturalContent_spec (n : Nat) : ∃ b rest, naturalContent n = b :: rest ∧
    isShortestInteger (naturalContent n) = true ∧ b < 128 ∧ toNat (naturalContent n) = n := by
  cases hbytes : Octets.ofNat n with
  | nil =>
    have hzero : n = 0 := by rw [← toNat_ofNat n, hbytes]; rfl
    subst hzero
    exact ⟨0, [], by decide⟩
  | cons b rest =>
    have hnumber : toNat (b :: rest) = n := by rw [← hbytes, toNat_ofNat]
    have hb : b ≠ 0 := by
      rintro rfl
      exact ofNat_ne_zero_cons n rest hbytes
    unfold naturalContent
    rw [hbytes]
    by_cases hlow : b < 128
    · have hhigh : (b == 255) = false := by
        rw [beq_eq_false_iff_ne]
        rintro rfl
        exact absurd hlow (by decide)
      refine ⟨b, rest, if_pos hlow, ?_, hlow, ?_⟩
      · simp only [hlow, if_true]
        cases rest <;> simp [isShortestInteger, hb, hhigh]
      · simp only [hlow, if_true, hnumber]
    · refine ⟨0, b :: rest, if_neg hlow, ?_, by decide, ?_⟩
      · simp only [hlow, if_false]
        simp [isShortestInteger, hlow]
      · simp only [hlow, if_false]
        rw [← hnumber]
        simp [Octets.toNat]

/-- The content of a number reads as the number. -/
theorem natural?_naturalContent (n : Nat) : natural? (naturalContent n) = some n := by
  obtain ⟨b, rest, hcontent, hshortest, hlow, hnumber⟩ := naturalContent_spec n
  have hinteger : integer? (naturalContent n) = some (n : Int) := by
    rw [integer?, if_pos hshortest]
    simp only [hcontent] at hnumber ⊢
    simp only [hlow, if_true, hnumber]
  rw [natural?, hinteger]

end Der

end Enrollment
