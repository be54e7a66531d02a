import Enrollment.X509.DecodedName
import Enrollment.Proofs.Except
import Enrollment.Proofs.Spelling

/-!
# Names put together again

An element that reads as a name is the element of that name (`Name.toElement_of_ofElement?`): the
strict reading leaves nothing out. A name that can be taken apart is the one that is put together
again (`DecodedName.toName_of_decode`), whatever its string types and however many attributes a
relative name has: each text has one spelling in its string type, and what was read as a set stands
in the order in which a set is written. The names that cannot be taken apart are those that have no
text (`Name.decode_eq_error_iff`).
-/

namespace Enrollment.X509

open Der

/-! ## Elements of names -/

section
variable {e : Element}

/-- What reads as an attribute is the element of the attribute. -/
theorem Attribute.toElement_of_ofElement? {a : Attribute} (h : ofElement? e = some a) :
    a.toElement = e := by
  obtain ⟨parts, hparts, h⟩ := Option.bind_eq_some_iff.1 h
  split at h
  · next type value =>
    obtain ⟨oid, hoid, h⟩ := Option.bind_eq_some_iff.1 h
    split at h
    · cases h
      rw [Element.eq_make_of_partsOf? hparts, Element.eq_make_of_contentOf? hoid, toElement]
      simp [Der.oid, wrap]
    · cases h
  · cases h

/-- What reads as a relative name is the element of the relative name, and stands in order. -/
theorem relativeNameToElement_of_ofElement? {r : RelativeName}
    (h : relativeNameOfElement? e = some r) :
    relativeNameToElement r = e ∧ isSorted (r.map fun a => a.toElement.encode) = true := by
  obtain ⟨parts, hparts, h⟩ := Option.bind_eq_some_iff.1 h
  split at h
  · next hsorted =>
    have hmap : r.map Attribute.toElement = parts :=
      map_of_mapM_eq_some h fun _ _ _ => Attribute.toElement_of_ofElement?
    subst hmap
    refine ⟨?_, by simpa [Function.comp_def] using hsorted⟩
    rw [Element.eq_make_of_partsOf? hparts, relativeNameToElement, List.flatMap_map]
  · cases h

/-- **What reads as a name is the element of the name.** -/
theorem Name.toElement_of_ofElement? {n : Name} (h : ofElement? e = some n) : n.toElement = e := by
  obtain ⟨parts, hparts, h⟩ := Option.bind_eq_some_iff.1 h
  have hmap : n.map relativeNameToElement = parts :=
    map_of_mapM_eq_some h fun _ _ _ hr => (relativeNameToElement_of_ofElement? hr).1
  rw [Element.eq_make_of_partsOf? hparts, toElement, ← hmap, List.flatMap_map]

end

/-! ## The order of a set -/

/-- What stands in order is put in the same order. -/
theorem RelativeName.foldr_insert_of_isSorted {r : RelativeName}
    (h : isSorted (r.map fun a => a.toElement.encode) = true) : r.foldr insert [] = r := by
  induction r with
  | nil => rfl
  | cons a r ih =>
    cases r with
    | nil => rfl
    | cons b more =>
      simp only [List.map_cons, isSorted, Bool.and_eq_true] at h ih
      rw [List.foldr_cons, ih h.2, insert, if_pos h.1]

/-! ## Names taken apart -/

/-- A text is spelt in its string type as the value that it was read from. -/
theorem Attribute.value_of_text {a : Attribute} {text : AttributeText} (h : a.text = .ok text) :
    ∃ tag, a.value = .make tag (text.toOctets tag) := by
  obtain ⟨type, identifier, content⟩ := a
  rw [Attribute.text] at h
  simp only at h
  split at h
  · next tag =>
    refine ⟨tag, congrArg (Element.mk [tag]) ?_⟩
    split at h
    · split at h
      · cases h; rfl
      · cases h
    split at h
    · next hbmp =>
      split at h
      · next chars hchars =>
        cases h
        rw [AttributeText.toOctets, if_pos hbmp]
        exact (Octets.utf16OfChars_of_utf16Chars? hchars).symm
      · cases h
    next hbmp =>
    split at h
    · next huniversal =>
      split at h
      · next chars hchars =>
        cases h
        rw [AttributeText.toOctets, if_neg hbmp, if_pos huniversal]
        exact (Octets.utf32OfChars_of_utf32Chars? hchars).symm
      · cases h
    next huniversal =>
    split at h
    · split at h
      · next chars hchars =>
        cases h
        rw [AttributeText.toOctets, if_neg hbmp, if_neg huniversal]
        exact (Octets.ofChars_of_utf8Chars? hchars).symm
      · cases h
    · cases h
  · cases h

/-- An attribute that can be taken apart is put together again. -/
theorem DecodedAttribute.toAttribute_of_decode {a : Attribute} {d : DecodedAttribute}
    (h : a.decode = .ok d) : d.toAttribute = a := by
  obtain ⟨text, htext, h⟩ := bind_eq_ok_iff.1 h
  cases h
  obtain ⟨tag, hvalue⟩ := Attribute.value_of_text htext
  have hhead : a.value.identifier.headD 0 = tag := by rw [hvalue]; rfl
  rw [toAttribute, hhead, ← hvalue]

/-- A relative name that stands in order and can be taken apart is put together again. -/
theorem DecodedRelativeName.toRelativeName_of_decode {r : RelativeName} {d : DecodedRelativeName}
    (hsorted : isSorted (r.map fun a => a.toElement.encode) = true)
    (h : RelativeName.decode r = .ok d) : d.toRelativeName = r := by
  obtain ⟨attributes, hattributes, h⟩ := bind_eq_ok_iff.1 h
  split at h
  · cases h
    have hmap : attributes.map DecodedAttribute.toAttribute = r :=
      map_of_mapM_eq_ok hattributes fun _ _ _ => DecodedAttribute.toAttribute_of_decode
    rw [toRelativeName, hmap, RelativeName.foldr_insert_of_isSorted hsorted]
  · cases h

/-- Every relative name of a name that was read stands in order. -/
theorem isSorted_of_mem {e : Element} {n : Name} {r : RelativeName}
    (h : Name.ofElement? e = some n) (hmem : r ∈ n) :
    isSorted (r.map fun a => a.toElement.encode) = true := by
  obtain ⟨parts, -, h⟩ := Option.bind_eq_some_iff.1 h
  obtain ⟨part, -, hpart⟩ := exists_mem_of_mapM_eq_some h hmem
  exact (relativeNameToElement_of_ofElement? hpart).2

/-- **A name that was read and can be taken apart is put together again.** -/
theorem DecodedName.toName_of_decode {e : Element} {n : Name} {d : DecodedName}
    (hread : Name.ofElement? e = some n) (h : Name.decode n = .ok d) : d.toName = n :=
  map_of_mapM_eq_ok h fun _ hr _ =>
    DecodedRelativeName.toRelativeName_of_decode (isSorted_of_mem hread hr)

/-! ## Names that cannot be taken apart -/

theorem Attribute.pair_eq (a : Attribute) : a.pair = a.decode.map fun d => (d.type, d.text) := by
  rw [pair, decode]
  cases a.text <;> rfl

theorem Attribute.mapM_pair (r : RelativeName) :
    r.mapM pair = (r.mapM decode).map (List.map fun d => (d.type, d.text)) := by
  induction r with
  | nil => rfl
  | cons a r ih =>
    rw [List.mapM_cons, List.mapM_cons, ih, pair_eq]
    cases a.decode with
    | error fault => rfl
    | ok d => cases r.mapM decode <;> rfl

/-- A relative name is taken apart when it has a text, and fails with the same fault. -/
theorem RelativeName.decode_eq_error_iff {r : RelativeName} {fault : NameFault} :
    RelativeName.decode r = .error fault ↔ relativeNameText r = .error fault := by
  rw [RelativeName.decode, relativeNameText, Attribute.mapM_pair]
  cases r.mapM Attribute.decode with
  | error other => exact ⟨fun h => by cases h; rfl, fun h => by cases h; rfl⟩
  | ok attributes =>
    by_cases h : attributes ≠ [] ∧ allDistinct (attributes.map fun a => (a.type, a.text)) = true
    · have htext : ((attributes.map fun a => (a.type, a.text)).isEmpty ||
          !allDistinct (attributes.map fun a => (a.type, a.text))) = false := by
        simpa using h
      simp only [Except.map, bind, Except.bind, dif_pos h, htext, Bool.false_eq_true, if_false]
      exact ⟨fun h => (by cases h), fun h => (by cases h)⟩
    · have htext : ((attributes.map fun a => (a.type, a.text)).isEmpty ||
          !allDistinct (attributes.map fun a => (a.type, a.text))) = true := by
        simpa [Decidable.or_iff_not_imp_left] using h
      simp only [Except.map, bind, Except.bind, dif_neg h, htext, if_true]
      exact ⟨fun h => by cases h; rfl, fun h => by cases h; rfl⟩

/-- **A name is taken apart when it has a text**, and fails with the same fault. -/
theorem Name.decode_eq_error_iff {n : Name} {fault : NameFault} :
    Name.decode n = .error fault ↔ n.text = .error fault := by
  have htext : n.text = .error fault ↔ n.mapM relativeNameText = .error fault := by
    rw [text, bind_eq_error_iff]
    exact ⟨fun h => h.resolve_right fun ⟨_, _, h⟩ => (by cases h), .inl⟩
  rw [htext, decode]
  exact mapM_eq_error_congr fun _ _ _ => RelativeName.decode_eq_error_iff

end Enrollment.X509
