import Enrollment.Renewal
import Enrollment.Proofs.Collection
import Enrollment.Proofs.GeneralNames
import Enrollment.Proofs.PrivateKey

/-!
# Renewal requests read back

A request for renewing a certificate is signed, sent, and read by a server that compares it with the
certificate. `IsRenewalOf` is what the server should find: the subject of the certificate down to
its element, the public half of the key, and no other extension than the subject alternative name of
the certificate. Subject and alternative name are taken apart on the way, and are put together again
as they stood. A certificate that cannot be taken apart is not renewed (`isError_build_iff`).
-/

namespace Enrollment

open Der X509 Pkcs7

/-! ## What a server finds in a request -/

/-- The request with a signature. -/
def RenewalRequest.signedWith (r : RenewalRequest) (signature : Octets) : Octets :=
  Der.sequence [r.signed, r.algorithm.encode, bitString signature]

/-- The element of a certificate's subject: the fifth of the signed part, if the version is not
counted. -/
def Certificate.subjectElement? (c : Certificate) : Option Element := do
  match ← (← Element.readOne c.der).partsOf? tagSequence with
  | signed :: _ =>
    let (_, parts) ← Content.version? (← signed.partsOf? tagSequence)
    parts[4]?
  | [] => none

/-- The element of a request's subject: the second of the signed part. -/
def SigningRequest.subjectElement? (q : SigningRequest) : Option Element := do
  (← q.content.signed.partsOf? tagSequence)[1]?

namespace X509.RequestContent

/-- Whether an attribute asks for extensions. -/
def isExtensionRequest (e : Element) : Bool :=
  match e.partsOf? tagSequence with
  | some (type :: _) => type.contentOf? tagOid == some RenewalRequest.oidExtensionRequest
  | _ => false

/-- The extensions that a request asks for: those in the one value of the first attribute that asks
for any. -/
def requestedExtensions? (content : RequestContent) : Option (List Extension) :=
  match content.attributes.find? isExtensionRequest with
  | none => some []
  | some e => do
    match ← e.partsOf? tagSequence with
    | [_, values] =>
      match ← values.partsOf? tagSet with
      | [value] => Extension.listOfElement? value
      | _ => none
    | _ => none

end X509.RequestContent

/-- The subject alternative name of a certificate. -/
def Certificate.alternativeName? (c : Certificate) : Option Extension :=
  c.content.extensions.find? fun x => x.oid == oidSubjectAltName

/-- A request asks for renewing a certificate with a key. -/
structure IsRenewalOf (c : Certificate) (k : PrivateKey) (q : SigningRequest) : Prop where
  /-- The relative names, their order, the types, string types and values of the attributes. -/
  subject : q.content.subject = c.content.subject
  element : q.subjectElement?.isSome ∧ q.subjectElement? = c.subjectElement?
  key : q.content.key = k.publicKey.subjectKey
  extensions : q.content.requestedExtensions? = some c.alternativeName?.toList
  /-- No other attribute stands beside the one that asks for the extension. -/
  attributes : q.content.attributes.length = c.alternativeName?.toList.length

/-! ## Elements -/

/-- A sequence of elements with tags. -/
theorem sequence_map_wrap (parts : List (UInt8 × Octets)) :
    Der.sequence (parts.map fun part => wrap part.1 part.2) =
      wrap tagSequence (elements parts) := by
  rw [Der.sequence, elements, List.flatMap_def]
  rfl

theorem Der.IsShort.of_wrap {tag : UInt8} {content : Octets} (h : IsShort (wrap tag content)) :
    IsShort content :=
  h.of_le (by simp only [wrap, Element.encode, List.length_append, Element.make]; omega)

/-- The fifth element after the version of a certificate reads as its subject. -/
theorem X509.Content.exists_subject {e : Element} {version : Nat} {content : Content}
    (h : ofElement? e = some (version, content)) :
    ∃ parts rest subject, e.partsOf? tagSequence = some parts ∧
      version? parts = some (version, rest) ∧ rest[4]? = some subject ∧
      Name.ofElement? subject = some content.subject := by
  obtain ⟨parts, hparts, h⟩ := Option.bind_eq_some_iff.1 h
  obtain ⟨⟨version', rest⟩, hversion, h⟩ := Option.bind_eq_some_iff.1 h
  simp only at h
  split at h
  · next serial algorithm issuer validity subject key more =>
    obtain ⟨_, -, h⟩ := Option.bind_eq_some_iff.1 h
    obtain ⟨_, -, h⟩ := Option.bind_eq_some_iff.1 h
    obtain ⟨_, -, h⟩ := Option.bind_eq_some_iff.1 h
    obtain ⟨_, -, h⟩ := Option.bind_eq_some_iff.1 h
    obtain ⟨_, -, h⟩ := Option.bind_eq_some_iff.1 h
    obtain ⟨name, hname, h⟩ := Option.bind_eq_some_iff.1 h
    obtain ⟨_, -, h⟩ := Option.bind_eq_some_iff.1 h
    obtain ⟨_, -, h⟩ := Option.bind_eq_some_iff.1 h
    obtain ⟨_, -, h⟩ := Option.bind_eq_some_iff.1 h
    obtain ⟨_, -, h⟩ := Option.bind_eq_some_iff.1 h
    cases h
    exact ⟨parts, _, subject, hparts, hversion, rfl, hname⟩
  · cases h

/-- The subject of a certificate reads from its element. -/
theorem Certificate.exists_subjectElement (c : Certificate) :
    ∃ e, c.subjectElement? = some e ∧ Name.ofElement? e = some c.content.subject := by
  have hreads := c.reads
  rw [Content.ofDer] at hreads
  split at hreads
  · cases hreads
  next version content hoctets =>
  obtain rfl : content = c.content := by
    split at hreads
    · exact Except.ok.inj hreads
    · cases hreads
  rw [Content.ofOctets?] at hoctets
  obtain ⟨whole, hone, hoctets⟩ := Option.bind_eq_some_iff.1 hoctets
  obtain ⟨parts, hparts, hoctets⟩ := Option.bind_eq_some_iff.1 hoctets
  split at hoctets
  · next signed algorithm signature =>
    obtain ⟨⟨version', content⟩, hsigned, hoctets⟩ := Option.bind_eq_some_iff.1 hoctets
    obtain ⟨_, -, hoctets⟩ := Option.bind_eq_some_iff.1 hoctets
    obtain ⟨_, -, hoctets⟩ := Option.bind_eq_some_iff.1 hoctets
    obtain ⟨_, -, hoctets⟩ := Option.bind_eq_some_iff.1 hoctets
    cases hoctets
    obtain ⟨inner, rest, subject, hinner, hversion, hsubject, hname⟩ :=
      Content.exists_subject hsigned
    refine ⟨subject, ?_, hname⟩
    rw [subjectElement?, hone]
    simp only [Option.bind_eq_bind, Option.bind_some, hparts, hinner, hversion, hsubject]
  · cases hoctets

/-! ## Keys -/

/-- An algorithm identifier reads as it was written. -/
theorem X509.Algorithm.ofElement?_make {oid : Oid} {parameter : Option (UInt8 × Octets)}
    (hoid : isOid oid = true) (hlow : ∀ part ∈ parameter, IsLowTag part.1)
    (hadmits : (parameterRule oid).admits (parameter.map fun part => .make part.1 part.2) = true)
    (hshort : IsShort (elements (parts oid parameter))) :
    ofElement? (.make tagSequence (elements (parts oid parameter))) =
      some ⟨oid, parameter.map fun part => .make part.1 part.2⟩ := by
  have htags : ∀ part ∈ parts oid parameter, IsLowTag part.1 := by
    rw [parts, List.forall_mem_cons]
    exact ⟨(by decide : IsLowTag tagOid), by simpa using hlow⟩
  rw [ofElement?, partsOf?_elements htags hshort]
  cases parameter with
  | none => simp_all [parts, ofElement?.check]
  | some part => simp_all [parts, ofElement?.check]

namespace PrivateKey

variable (k : PrivateKey)

/-- The elements of the public half of a key. -/
def publicParts : List (UInt8 × Octets) :=
  [(tagSequence, elements (Algorithm.parts k.algorithmOid k.parameter)),
    (tagBitString, 0 :: k.publicKey.subjectKey.bits)]

theorem encode_publicKey : k.publicKey.encode = wrap tagSequence (elements k.publicParts) := by
  rw [PublicKey.encode, SubjectKey.encode, algorithm_eq]
  cases k <;> rfl

theorem isLowTag_publicParts : ∀ part ∈ k.publicParts, IsLowTag part.1 := by
  have htags : IsLowTag tagSequence ∧ IsLowTag tagBitString := by decide
  simp [publicParts, htags]

/-- The parameters of a key obey the rule of its algorithm. -/
theorem admits_parameter (h : ∀ part ∈ k.parameter, IsShort part.2) :
    (parameterRule k.algorithmOid).admits (k.parameter.map fun part => .make part.1 part.2) =
      true := by
  cases k with
  | rsa | ed25519 | ed448 | x25519 | x448 => rfl
  | ec curve => cases curve <;> rfl
  | dsa p q g y x =>
    have hrule : parameterRule oidDsa = .dsa := rfl
    rw [algorithmOid, hrule, parameter, Option.map_some, ParameterRule.admits,
      dsaParameters?_flatMap_natural (h _ rfl)]
    rfl

/-- The public half of a key reads as it was written. -/
theorem subjectKey_ofElement? (h : IsShort (elements k.publicParts)) :
    SubjectKey.ofElement? (.make tagSequence (elements k.publicParts)) =
      some k.publicKey.subjectKey := by
  have halgorithm : IsShort (elements (Algorithm.parts k.algorithmOid k.parameter)) :=
    h.of_part (.head _)
  have hoid : isOid k.algorithmOid = true := by cases k <;> rfl
  have hparameter : ∀ part ∈ k.parameter, IsShort part.2 := fun part hpart =>
    halgorithm.of_part (.tail _ (Option.mem_toList.2 hpart))
  have hbits : bitString? (0 :: k.publicKey.subjectKey.bits) =
      some (0, k.publicKey.subjectKey.bits) := rfl
  have hunused : k.publicKey.subjectKey.unused = 0 := by cases k <;> rfl
  rw [SubjectKey.ofElement?, partsOf?_elements k.isLowTag_publicParts h]
  simp only [publicParts, List.map_cons, List.map_nil, Option.bind_eq_bind, Option.bind_some,
    Algorithm.ofElement?_make hoid k.isLowTag_parameter (k.admits_parameter hparameter) halgorithm,
    Element.contentOf?_make, hbits, ← algorithm_eq]
  rw [← hunused]

end PrivateKey

/-! ## Extensions -/

namespace X509.Extension

variable (x : Extension)

/-- The elements of an extension. -/
def parts : List (UInt8 × Octets) :=
  (tagOid, x.oid) :: (if x.critical then [(tagBoolean, [255])] else []) ++
    [(tagOctetString, x.value)]

theorem encode_eq : x.encode = wrap tagSequence (elements x.parts) := by
  rw [← sequence_map_wrap, encode, parts, Der.sequence, Der.sequence]
  cases x.critical <;> rfl

theorem isLowTag_parts : ∀ part ∈ x.parts, IsLowTag part.1 := by
  have htags : IsLowTag tagOid ∧ IsLowTag tagBoolean ∧ IsLowTag tagOctetString := by decide
  cases hcritical : x.critical <;> simp [parts, hcritical, htags]

variable {x}

/-- An extension reads as it was written. -/
theorem ofElement?_make (hoid : isOid x.oid = true) (h : IsShort (elements x.parts)) :
    ofElement? (.make tagSequence (elements x.parts)) = some x := by
  rw [ofElement?, partsOf?_elements x.isLowTag_parts h]
  obtain ⟨oid, critical, value⟩ := x
  cases critical with
  | false => simp_all [parts]
  | true =>
    have htrue : boolean? [255] = some true := rfl
    simp_all [parts]

/-- So does a sequence of one extension. -/
theorem listOfElement?_make (hoid : isOid x.oid = true) (h : IsShort x.encode) :
    listOfElement? (.make tagSequence x.encode) = some [x] := by
  have hencode : x.encode = elements [(tagSequence, elements x.parts)] := by
    rw [encode_eq]
    exact (List.append_nil _).symm
  have htag : IsLowTag tagSequence := by decide
  rw [hencode] at h ⊢
  rw [listOfElement?, partsOf?_elements (by simp [htag]) h]
  simp [ofElement?_make hoid (h.of_part (.head _))]

end X509.Extension

/-! ## Octets that read -/

/-- Octets that read as the content of a request are a request. -/
theorem SigningRequest.exists_ofDer_eq_ok {der : Octets} {content : RequestContent}
    (h : RequestContent.ofOctets? der = some (0, content)) :
    ∃ q, SigningRequest.ofDer der = .ok q ∧ q.content = content := by
  have hreads : RequestContent.ofDer der = .ok content := by
    rw [RequestContent.ofDer, h]
    rfl
  rw [SigningRequest.ofDer]
  split
  · next content' hcontent =>
    rw [hreads] at hcontent
    exact ⟨_, rfl, (Except.ok.inj hcontent).symm⟩
  · next hfault =>
    rw [hreads] at hfault
    cases hfault

/-- A request is one element. -/
theorem SigningRequest.isSome_readOne {der : Octets} {q : SigningRequest}
    (h : SigningRequest.ofDer der = .ok q) : (Element.readOne der).isSome = true := by
  have hreads := q.reads
  rw [SigningRequest.der_of_ofDer h, RequestContent.ofDer] at hreads
  split at hreads
  · cases hreads
  · next hoctets =>
    obtain ⟨e, he, -⟩ := Option.bind_eq_some_iff.1 hoctets
    rw [he]
    rfl

namespace RenewalRequest

/-! ## Attributes -/

/-- The elements of the attribute that asks for an extension. -/
def attributeParts (x : Extension) : List (UInt8 × Octets) :=
  [(tagOid, oidExtensionRequest), (tagSet, elements [(tagSequence, x.encode)])]

/-- The elements of the attributes. -/
def attributesParts (x : Option Extension) : List (UInt8 × Octets) :=
  (x.map fun x => (tagSequence, elements (attributeParts x))).toList

theorem attributes_eq (x : Option Extension) :
    attributes x = wrap (tagContext 0) (elements (attributesParts x)) := by
  cases x with
  | none => rfl
  | some x => simp [attributes, attributesParts, attributeParts, elements, Der.sequence, wrap,
      Der.oid]

variable {x : Extension}

/-- The attribute that asks for an extension is an attribute, and asks for this one. -/
theorem attribute_reads (hoid : isOid x.oid = true) (h : IsShort (elements (attributeParts x))) :
    RequestContent.isAttribute (.make tagSequence (elements (attributeParts x))) = true ∧
    ∀ content : RequestContent,
      content.attributes = [.make tagSequence (elements (attributeParts x))] →
      content.requestedExtensions? = some [x] := by
  have htags : IsLowTag tagOid ∧ IsLowTag tagSet ∧ IsLowTag tagSequence := by decide
  have hset : IsShort (elements [(tagSequence, x.encode)]) := h.of_part (.tail _ (.head _))
  have hparts : (Element.make tagSequence (elements (attributeParts x))).partsOf? tagSequence =
      some [.make tagOid oidExtensionRequest, .make tagSet (elements [(tagSequence, x.encode)])] :=
    partsOf?_elements (by simp [attributeParts, htags]) h
  have hvalues : (Element.make tagSet (elements [(tagSequence, x.encode)])).partsOf? tagSet =
      some [.make tagSequence x.encode] :=
    partsOf?_elements (by simp [htags]) hset
  have hlist := Extension.listOfElement?_make hoid (hset.of_part (.head _))
  refine ⟨?_, fun content hcontent => ?_⟩
  · rw [RequestContent.isAttribute, hparts]
    simp only [hvalues]
    rfl
  · have hrequest : RequestContent.isExtensionRequest
        (.make tagSequence (elements (attributeParts x))) = true := by
      rw [RequestContent.isExtensionRequest, hparts]
      rfl
    rw [RequestContent.requestedExtensions?, hcontent, List.find?_cons_of_pos hrequest]
    simp only [hparts, hvalues, hlist, Option.bind_eq_bind, Option.bind_some]

/-- The attributes of a request are read, and ask for the extension or for none. -/
theorem attributes_read {x : Option Extension} (hoid : ∀ y ∈ x, isOid y.oid = true)
    (h : IsShort (elements (attributesParts x))) :
    ∃ as, RequestContent.attributes? (.make (tagContext 0) (elements (attributesParts x))) =
        some as ∧ as.length = x.toList.length ∧
      ∀ content : RequestContent, content.attributes = as →
        content.requestedExtensions? = some x.toList := by
  cases x with
  | none =>
    refine ⟨[], rfl, rfl, fun content hcontent => ?_⟩
    rw [RequestContent.requestedExtensions?, hcontent]
    rfl
  | some x =>
    have htag : IsLowTag tagSequence := by decide
    obtain ⟨hattribute, hasks⟩ := attribute_reads (hoid x rfl) (h.of_part (.head _))
    refine ⟨[.make tagSequence (elements (attributeParts x))], ?_, rfl, hasks⟩
    rw [RequestContent.attributes?, partsOf?_elements (by simp [attributesParts, htag]) h]
    simp [attributesParts, hattribute, isSorted]

/-! ## Requests -/

/-- The signed part of the request that a certificate and a key lead to. -/
def signedParts (c : Certificate) (k : PrivateKey) : List (UInt8 × Octets) :=
  [(tagInteger, naturalContent 0), (tagSequence, c.content.subject.toElement.content),
    (tagSequence, elements k.publicParts),
    (tagContext 0, elements (attributesParts c.alternativeName?))]

variable {c : Certificate} {k : PrivateKey}

theorem isLowTag_signedParts : ∀ part ∈ signedParts c k, IsLowTag part.1 := by
  have htags : IsLowTag tagInteger ∧ IsLowTag tagSequence ∧ IsLowTag (tagContext 0) := by decide
  simp [signedParts, htags]

/-- The algorithm of a signature reads as it was written. -/
theorem algorithm_reads {a : Algorithm} (h : k.signatureAlgorithm? = some a) :
    ∃ content, a.encode = wrap tagSequence content ∧
      Algorithm.ofElement? (.make tagSequence content) = some a := by
  refine ⟨[Der.oid a.oid, (a.parameters.map Element.encode).getD []].flatten, rfl, ?_⟩
  cases k with
  | rsa | dsa | ec | ed25519 | ed448 => cases h; rfl
  | x25519 | x448 => cases h

/-- The alternative name that is found is put together as it stood. -/
theorem map_toExtension_of_alternativeName {xs : List Extension} {x : Option DecodedExtension}
    (h : alternativeName xs = .ok x) :
    x.map DecodedExtension.toExtension = xs.find? fun x => x.oid == oidSubjectAltName := by
  rw [alternativeName] at h
  split at h
  · cases h
  obtain ⟨decoded, hdecoded, h⟩ := bind_eq_ok_iff.1 h
  cases h
  have hmap : decoded.map DecodedExtension.toExtension = xs :=
    map_of_mapM_eq_ok (mapError_eq_ok_iff.1 hdecoded) fun _ _ _ =>
      DecodedExtension.toExtension_of_decode
  rw [← hmap, List.find?_map]
  rfl

/-- **What is built carries over subject and alternative name**: both are put together as they
stood. -/
theorem signed_of_build {r : RenewalRequest} (h : build c k = .ok r) :
    r.signed = wrap tagSequence (elements (signedParts c k)) ∧
      k.signatureAlgorithm? = some r.algorithm := by
  obtain ⟨subject, hsubject, h⟩ := bind_eq_ok_iff.1 h
  obtain ⟨extension, hextension, h⟩ := bind_eq_ok_iff.1 h
  split at h
  · cases h
  · next algorithm halgorithm =>
    cases h
    obtain ⟨e, -, hread⟩ := c.exists_subjectElement
    have hname := DecodedName.toName_of_decode hread (mapError_eq_ok_iff.1 hsubject)
    have hsigned : (signedParts c k).map (fun part => wrap part.1 part.2) =
        [natural 0, c.content.subject.toElement.encode, k.publicKey.encode,
          attributes c.alternativeName?] := by
      rw [k.encode_publicKey, attributes_eq]
      rfl
    refine ⟨?_, halgorithm⟩
    rw [← sequence_map_wrap, hsigned, signedPart, hname,
      map_toExtension_of_alternativeName hextension]
    rfl

/-- What the elements of the signed part are read as. -/
theorem ofOctets?_signed {as : List Element} {a : Algorithm} {algorithm signature : Octets}
    (hread : Algorithm.ofElement? (.make tagSequence algorithm) = some a)
    (has : RequestContent.attributes?
      (.make (tagContext 0) (elements (attributesParts c.alternativeName?))) = some as)
    (hshort : IsShort (elements [(tagSequence, elements (signedParts c k)),
      (tagSequence, algorithm), (tagBitString, 0 :: signature)])) :
    RequestContent.ofOctets? (wrap tagSequence (elements [(tagSequence, elements (signedParts c k)),
      (tagSequence, algorithm), (tagBitString, 0 :: signature)])) =
    some (0, ⟨c.content.subject, k.publicKey.subjectKey, as,
      .make tagSequence (elements (signedParts c k)), a⟩) := by
  have htags : IsLowTag tagSequence ∧ IsLowTag tagBitString := by decide
  have hinner : IsShort (elements (signedParts c k)) := hshort.of_part (.head _)
  have hversion := natural?_naturalContent 0
  have hbits : bitString? (0 :: signature) = some (0, signature) := rfl
  have hkey := k.subjectKey_ofElement? (hinner.of_part (.tail _ (.tail _ (.head _))))
  have hsubject : Name.ofElement? (.make tagSequence c.content.subject.toElement.content) =
      some c.content.subject := by
    obtain ⟨e, -, hname⟩ := c.exists_subjectElement
    obtain rfl := Name.toElement_of_ofElement? hname
    exact hname
  rw [RequestContent.ofOctets?, Element.readOne_wrap htags.1 hshort]
  simp only [Option.bind_eq_bind, Option.bind_some, partsOf?_elements (by simp [htags]) hshort,
    List.map_cons, List.map_nil, partsOf?_elements isLowTag_signedParts hinner]
  simp only [signedParts, List.map_cons, List.map_nil, Element.contentOf?_make, Option.bind_some,
    hversion, hsubject, hkey, has, hread, hbits]
  rfl

/-- **A signed request that is one element reads as one for renewing the certificate.** -/
theorem isRenewalOf_of_build {r : RenewalRequest} {signature : Octets} (h : build c k = .ok r)
    (hone : (Element.readOne (r.signedWith signature)).isSome = true) :
    ∃ q, SigningRequest.ofDer (r.signedWith signature) = .ok q ∧ IsRenewalOf c k q := by
  obtain ⟨hsigned, halgorithm⟩ := signed_of_build h
  obtain ⟨algorithm, hencode, hread⟩ := algorithm_reads halgorithm
  -- the octets of the request are elements inside elements, all of them short
  have hwhole : r.signedWith signature = wrap tagSequence (elements
      [(tagSequence, elements (signedParts c k)), (tagSequence, algorithm),
        (tagBitString, 0 :: signature)]) := by
    rw [← sequence_map_wrap, signedWith, hsigned, hencode]
    rfl
  rw [hwhole] at hone ⊢
  obtain ⟨whole, hone⟩ := Option.isSome_iff_exists.1 hone
  obtain ⟨-, hparts⟩ := Element.eq_of_readOne_make (by decide) hone
  have hinner : IsShort (elements (signedParts c k)) := hparts.of_part (.head _)
  have hoid : ∀ x ∈ c.alternativeName?, isOid x.oid = true := by
    intro x hx
    rw [Certificate.alternativeName?, Option.mem_def] at hx
    have hname := List.find?_some hx
    rw [beq_iff_eq.1 hname]
    rfl
  obtain ⟨as, has, hlength, hasks⟩ :=
    attributes_read hoid (hinner.of_part (.tail _ (.tail _ (.tail _ (.head _)))))
  obtain ⟨q, hq, hcontent⟩ := SigningRequest.exists_ofDer_eq_ok (ofOctets?_signed hread has hparts)
  have helement : q.subjectElement? = some c.content.subject.toElement := by
    rw [SigningRequest.subjectElement?, hcontent, partsOf?_elements isLowTag_signedParts hinner]
    rfl
  obtain ⟨e, he, hname⟩ := c.exists_subjectElement
  obtain rfl := Name.toElement_of_ofElement? hname
  exact ⟨q, hq, {
    subject := by rw [hcontent]
    element := ⟨by rw [helement]; rfl, helement.trans he.symm⟩
    key := by rw [hcontent]
    extensions := hasks _ (by rw [hcontent])
    attributes := by rw [hcontent, hlength] }⟩

/-- **When a certificate is not renewed**: the key does not sign, the certificate has an extension
twice or one that cannot be taken apart, or its subject has no text. A client that asks for a
renewal finds out about the last before it calls its engine, since it shows the subject. -/
theorem isError_build_iff {c : Certificate} {k : PrivateKey} :
    (∃ fault, build c k = .error fault) ↔
      k.signatureAlgorithm? = none ∨
        (∃ fault, alternativeName c.content.extensions = .error fault) ∨
        ∃ fault, c.content.subject.text = .error fault := by
  have hname : (∃ fault, (Name.decode c.content.subject).mapError nameFault = .error fault) ↔
      ∃ fault, c.content.subject.text = .error fault := by
    simp only [mapError_eq_error_iff, ← Name.decode_eq_error_iff]
    exact ⟨fun ⟨_, fault, h, _⟩ => ⟨fault, h⟩, fun ⟨fault, h⟩ => ⟨_, fault, h, rfl⟩⟩
  rw [← hname]
  constructor
  · rintro ⟨fault, h⟩
    rcases bind_eq_error_iff.1 h with h | ⟨subject, -, h⟩
    · exact .inr (.inr ⟨fault, h⟩)
    rcases bind_eq_error_iff.1 h with h | ⟨extension, -, h⟩
    · exact .inr (.inl ⟨fault, h⟩)
    split at h
    · next hkey => exact .inl hkey
    · cases h
  · intro h
    cases hbuilt : build c k with
    | error fault => exact ⟨fault, rfl⟩
    | ok r =>
      obtain ⟨subject, hsubject, h'⟩ := bind_eq_ok_iff.1 hbuilt
      obtain ⟨extension, hextension, h'⟩ := bind_eq_ok_iff.1 h'
      rcases h with hkey | ⟨fault, h⟩ | ⟨fault, h⟩
      · rw [hkey] at h'
        cases h'
      · cases h.symm.trans hextension
      · cases h.symm.trans hsubject

/-- **A renewal keeps the identity.** Whatever certificate and key a request was built from, and
whatever its signature is, it reads as a request for renewing the certificate with the key, and as
no other. Only a request of 4 GiB and more may be too long for an element. -/
theorem keeps_identity {old key : Octets} {r : RenewalRequest} (h : ofOctets old key = .ok r) :
    ∃ c k, Certificate.ofDer old = .ok c ∧ PrivateKey.ofDer key = .ok k ∧ ∀ signature,
      (IsShort (r.signedWith signature) →
        ∃ q, SigningRequest.ofDer (r.signedWith signature) = .ok q) ∧
      ∀ q, SigningRequest.ofDer (r.signedWith signature) = .ok q → IsRenewalOf c k q := by
  obtain ⟨c, hc, h⟩ := bind_eq_ok_iff.1 h
  obtain ⟨k, hk, h⟩ := bind_eq_ok_iff.1 h
  refine ⟨c, k, mapError_eq_ok_iff.1 hc, mapError_eq_ok_iff.1 hk,
    fun signature => ⟨fun hshort => ?_, fun q hq => ?_⟩⟩
  · have hone := Element.readOne_wrap (by decide : IsLowTag tagSequence) hshort.of_wrap
    obtain ⟨q, hq, -⟩ := isRenewalOf_of_build h (Option.isSome_of_eq_some hone)
    exact ⟨q, hq⟩
  · obtain ⟨q', hq', hrenewal⟩ := isRenewalOf_of_build h (SigningRequest.isSome_readOne hq)
    rw [hq] at hq'
    cases hq'
    exact hrenewal

/-- The name of an authority. -/
def sampleAuthority : Name := [[⟨[0x55, 0x04, 0x03], .make tagUtf8String (Octets.ofAscii "CA")⟩]]

/-- A name with a relative name of two attributes, one of them in UTF-16. -/
def sampleSubject : Name := [
  [⟨[0x55, 0x04, 0x06], .make tagPrintableString (Octets.ofAscii "FI")⟩],
  [⟨[0x55, 0x04, 0x03], .make tagBmpString [0x00, 0xc4]⟩,
    ⟨[0x55, 0x04, 0x0a], .make tagUtf8String (Octets.ofAscii "Acme")⟩]]

/-- A critical alternative name: a host, the network 10.0.0.0/8 and a directory name. -/
def sampleAlternativeName : Extension where
  oid := oidSubjectAltName
  critical := true
  value := Der.sequence [wrap (tagContextPrimitive 2) (Octets.ofAscii "a.test"),
    wrap (tagContextPrimitive 7) [10, 0, 0, 0, 255, 0, 0, 0],
    wrap (tagContext 4) sampleAuthority.toElement.encode]

/-- A certificate for the two. -/
def sampleOld : Octets := Der.sequence [
  Der.sequence [wrap (tagContext 0) (natural 2), natural 1, (Algorithm.plain oidEd25519).encode,
    sampleAuthority.toElement.encode,
    Der.sequence [wrap tagUtcTime (Octets.ofAscii "240101000000Z"),
      wrap tagUtcTime (Octets.ofAscii "340101000000Z")],
    sampleSubject.toElement.encode,
    (⟨.plain oidEd25519, 0, List.replicate 32 0⟩ : SubjectKey).encode,
    wrap (tagContext 3) (Der.sequence [sampleAlternativeName.encode])],
  (Algorithm.plain oidEd25519).encode, bitString (List.replicate 64 0)]

/-- A key that signs. -/
def sampleKey : Octets := (PrivateKey.ed25519 (List.replicate 32 7)).toPkcs8

theorem keeps_identity_sample : ∃ r c k q, ofOctets sampleOld sampleKey = .ok r ∧
    IsShort (r.signedWith (List.replicate 64 0)) ∧ Certificate.ofDer sampleOld = .ok c ∧
    PrivateKey.ofDer sampleKey = .ok k ∧
    SigningRequest.ofDer (r.signedWith (List.replicate 64 0)) = .ok q ∧ IsRenewalOf c k q := by
  have hbuilt : (ofOctets sampleOld sampleKey).toOption.any
      (fun r => (r.signedWith (List.replicate 64 0)).length < 256 ^ 4) = true := by
    decide +kernel
  cases hr : ofOctets sampleOld sampleKey with
  | error fault =>
    rw [hr] at hbuilt
    cases hbuilt
  | ok r =>
    rw [hr] at hbuilt
    have hshort : (r.signedWith (List.replicate 64 0)).length < 256 ^ 4 :=
      of_decide_eq_true hbuilt
    obtain ⟨c, k, hc, hk, hkeeps⟩ := keeps_identity hr
    obtain ⟨hreads, hrenewal⟩ := hkeeps (List.replicate 64 0)
    obtain ⟨q, hq⟩ := hreads hshort
    exact ⟨r, c, k, q, rfl, hshort, hc, hk, hq, hrenewal q hq⟩

end RenewalRequest

end Enrollment
