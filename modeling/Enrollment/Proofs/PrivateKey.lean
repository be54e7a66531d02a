import Enrollment.Key.Private
import Enrollment.Proofs.Der

/-!
# Private keys read back

Not every value of `PrivateKey` is a key: nothing keeps the numbers of an RSA key from being
inconsistent. But what a key is written as is never read as another key: if the octets of
`PrivateKey.toPkcs8` read at all, they read as a key with the same octets (`toPkcs8_of_ofDer`).
-/

namespace Enrollment

open Der X509 Octets

namespace X509.Algorithm

/-- The elements of an algorithm identifier. -/
def parts (oid : Oid) (parameter : Option (UInt8 × Octets)) : List (UInt8 × Octets) :=
  (tagOid, oid) :: parameter.toList

/-- An algorithm identifier that is read is the one that was written. -/
theorem eq_of_ofElement? {oid : Oid} {parameter : Option (UInt8 × Octets)} {a : Algorithm}
    (hlow : ∀ part ∈ parameter, IsLowTag part.1)
    (hshort : ∀ part ∈ parts oid parameter, IsShort part.2)
    (h : ofElement? (Element.make tagSequence
      ((parts oid parameter).flatMap fun part => (Element.make part.1 part.2).encode)) = some a) :
    a = ⟨oid, parameter.map fun part => Element.make part.1 part.2⟩ := by
  have htags : ∀ part ∈ parts oid parameter, IsLowTag part.1 ∧ IsShort part.2 := by
    intro part hpart
    refine ⟨?_, hshort part hpart⟩
    rcases List.mem_cons.1 hpart with rfl | hpart
    · exact (by decide : IsLowTag tagOid)
    · exact hlow part (by simpa using hpart)
  have hcheck : ∀ p, ofElement?.check (Element.make tagOid oid) p = some a → a = ⟨oid, p⟩ := by
    intro p hp
    rw [ofElement?.check] at hp
    simp only [Element.contentOf?_make, Option.bind_eq_bind, Option.bind_some] at hp
    split at hp
    · exact (Option.some.inj hp).symm
    · cases hp
  rw [ofElement?, Element.partsOf?_make htags] at h
  cases parameter with
  | none => exact hcheck none h
  | some part => exact hcheck _ h

end X509.Algorithm

namespace PrivateKey

/-- The algorithm of a key, in its elements. -/
def parameter : PrivateKey → Option (UInt8 × Octets)
  | .rsa _ => some (tagNull, [])
  | .dsa p q g _ _ => some (tagSequence, [p, q, g].flatMap natural)
  | .ec curve _ _ _ => some (tagOid, curve.oid)
  | .ed25519 _ | .ed448 _ | .x25519 _ | .x448 _ => none

/-- The object identifier of the algorithm of a key. -/
def algorithmOid : PrivateKey → Oid
  | .rsa _ => oidRsa
  | .dsa .. => oidDsa
  | .ec .. => oidEc
  | .ed25519 _ => oidEd25519
  | .ed448 _ => oidEd448
  | .x25519 _ => oidX25519
  | .x448 _ => oidX448

theorem algorithm_eq (k : PrivateKey) : k.publicKey.subjectKey.algorithm =
    ⟨k.algorithmOid, k.parameter.map fun part => Element.make part.1 part.2⟩ := by
  cases k <;> rfl

/-- The elements of a written key: version, algorithm and content. -/
def pkcs8Parts (k : PrivateKey) : List (UInt8 × Octets) :=
  [(tagInteger, [0]),
    (tagSequence, (Algorithm.parts k.algorithmOid k.parameter).flatMap fun part =>
      (Element.make part.1 part.2).encode),
    (tagOctetString, k.inner)]

theorem toPkcs8_eq (k : PrivateKey) : k.toPkcs8 = (Element.make tagSequence
    (k.pkcs8Parts.flatMap fun part => (Element.make part.1 part.2).encode)).encode := by
  rw [toPkcs8, algorithm_eq]
  cases k <;> rfl

section
variable {k k' : PrivateKey}

/-- The tags of a written key are one octet each. -/
theorem isLowTag_pkcs8Parts (k : PrivateKey) : ∀ part ∈ k.pkcs8Parts, IsLowTag part.1 := by
  intro part hpart
  simp only [pkcs8Parts, List.mem_cons, List.not_mem_nil, or_false] at hpart
  rcases hpart with rfl | rfl | rfl
  · exact (by decide : IsLowTag tagInteger)
  · exact (by decide : IsLowTag tagSequence)
  · exact (by decide : IsLowTag tagOctetString)

theorem isLowTag_parameter (k : PrivateKey) : ∀ part ∈ k.parameter, IsLowTag part.1 := by
  intro part hpart
  cases k with
  | rsa => cases hpart; exact (by decide : IsLowTag tagNull)
  | dsa => cases hpart; exact (by decide : IsLowTag tagSequence)
  | ec => cases hpart; exact (by decide : IsLowTag tagOid)
  | ed25519 | ed448 | x25519 | x448 => cases hpart

theorem map_pkcs8Parts (k : PrivateKey) :
    (k.pkcs8Parts.map fun part => Element.make part.1 part.2) =
      [Element.make tagInteger [0],
        Element.make tagSequence ((Algorithm.parts k.algorithmOid k.parameter).flatMap fun part =>
          (Element.make part.1 part.2).encode),
        Element.make tagOctetString k.inner] := rfl

/-- The numbers of a sequence with a part that is no number cannot be read. -/
theorem naturals?_eq_none {e part : Element} {parts : List Element}
    (h : e.partsOf? tagSequence = some parts) (hmem : part ∈ parts)
    (hpart : part.contentOf? tagInteger = none) : PublicKey.naturals? e = none := by
  rw [PublicKey.naturals?, h]
  simp only [Option.bind_eq_bind, Option.bind_some]
  clear h
  induction parts with
  | nil => cases hmem
  | cons first more ih =>
    rw [List.mapM_cons]
    cases hmem with
    | head => rw [hpart]; rfl
    | tail _ hmem =>
      rw [ih hmem]
      cases first.contentOf? tagInteger with
      | none => rfl
      | some content => cases hnumber : natural? content <;> simp [hnumber]

/-- **The content of a written key is read under the key's own algorithm**, and none of the older
forms fits. -/
theorem ofInner?_of_ofDer (h : ofDer k.toPkcs8 = .ok k') :
    ofInner? ⟨k.algorithmOid, k.parameter.map fun part => Element.make part.1 part.2⟩ k.inner =
      some k' ∧ ∀ part ∈ k.pkcs8Parts, IsShort part.2 := by
  rw [ofDer, toPkcs8_eq] at h
  cases hone : Element.readOne (Element.make tagSequence
      (k.pkcs8Parts.flatMap fun part => (Element.make part.1 part.2).encode)).encode with
  | none => rw [hone] at h; cases h
  | some e =>
    obtain ⟨rfl, hwhole⟩ := Element.eq_of_readOne_make (by decide) hone
    have hshort : ∀ part ∈ k.pkcs8Parts, IsShort part.2 := fun part => hwhole.of_part
    have hparts : (Element.make tagSequence (k.pkcs8Parts.flatMap fun part =>
        (Element.make part.1 part.2).encode)).partsOf? tagSequence = some _ :=
      (Element.partsOf?_make fun part hpart =>
        ⟨k.isLowTag_pkcs8Parts part hpart, hshort part hpart⟩).trans
        (congrArg some k.map_pkcs8Parts)
    refine ⟨?_, hshort⟩
    rw [hone] at h
    simp only at h
    have hnaturals := naturals?_eq_none hparts (.tail _ (.head _))
      (Element.contentOf?_make_ne (by decide))
    have hrsa : ofRsa? (Element.make tagSequence (k.pkcs8Parts.flatMap fun part =>
        (Element.make part.1 part.2).encode)) = none := by rw [ofRsa?, hnaturals]; rfl
    have hdsa : ofDsa? (Element.make tagSequence (k.pkcs8Parts.flatMap fun part =>
        (Element.make part.1 part.2).encode)) = none := by rw [ofDsa?, hnaturals]; rfl
    have hec : ofEc? none (Element.make tagSequence (k.pkcs8Parts.flatMap fun part =>
        (Element.make part.1 part.2).encode)) = none := by
      rw [ofEc?, hparts]
      rfl
    rw [hrsa, hec, hdsa] at h
    cases hread : ofPkcs8? (Element.make tagSequence (k.pkcs8Parts.flatMap fun part =>
        (Element.make part.1 part.2).encode)) with
    | none => rw [hread] at h; cases h
    | some found =>
      rw [hread] at h
      cases h
      rw [ofPkcs8?, hparts] at hread
      have hversion : natural? [0] = some 0 := by decide
      simp only [Option.bind_eq_bind, Option.bind_some, Element.contentOf?_make, hversion,
        Nat.not_lt_zero, ↓reduceIte, gt_iff_lt] at hread
      obtain ⟨a, ha, hread⟩ := Option.bind_eq_some_iff.1 hread
      rwa [Algorithm.eq_of_ofElement? k.isLowTag_parameter
        (fun part => IsShort.of_part (hshort _ (.tail _ (.head _)))) ha] at hread

/-! ## The content of each kind of key -/

/-- Integers that were written are read back. -/
theorem mapM_natural? (ns : List Nat) :
    (ns.map fun n => Element.make tagInteger (naturalContent n)).mapM
      (fun part => do natural? (← part.contentOf? tagInteger)) = some ns := by
  induction ns with
  | nil => rfl
  | cons n ns ih => rw [List.map_cons, List.mapM_cons, ih]; simp [natural?_naturalContent]

/-- The elements of a sequence of integers. -/
theorem partsOf?_naturals {ns : List Nat} (h : IsShort (ns.flatMap natural)) :
    (Element.make tagSequence (ns.flatMap natural)).partsOf? tagSequence =
      some (ns.map fun n => Element.make tagInteger (naturalContent n)) := by
  have hflat : ns.flatMap natural = (ns.map fun n => (tagInteger, naturalContent n)).flatMap
      fun part => (Element.make part.1 part.2).encode := by
    rw [List.flatMap_map]; rfl
  rw [hflat] at h ⊢
  rw [Element.partsOf?_make fun part hpart => ⟨?_, h.of_part hpart⟩, List.map_map]
  · rfl
  · obtain ⟨n, -, rfl⟩ := List.mem_map.1 hpart
    exact (by decide : IsLowTag tagInteger)

theorem naturals?_flatMap_natural {ns : List Nat} (h : IsShort (ns.flatMap natural)) :
    PublicKey.naturals? (Element.make tagSequence (ns.flatMap natural)) = some ns := by
  rw [PublicKey.naturals?, partsOf?_naturals h]
  exact mapM_natural? ns

theorem dsaParameters?_flatMap_natural {p q g : Nat} (h : IsShort ([p, q, g].flatMap natural)) :
    dsaParameters? (Element.make tagSequence ([p, q, g].flatMap natural)) = some (p, q, g) := by
  rw [dsaParameters?, partsOf?_naturals h]
  simp [natural?_naturalContent]

/-- A written point is read as its coordinates, each cut to the width of the curve. -/
theorem point?_pointOctets {curve : Curve} {x y : Nat} {found : Nat × Nat}
    (h : curve.point? (curve.pointOctets x y) = some found) :
    found = (x % 256 ^ curve.width, y % 256 ^ curve.width) := by
  rw [Curve.pointOctets, List.cons_append, Curve.point?, if_pos rfl] at h
  split at h
  · rw [List.take_left' (length_ofNatWidth _ _), List.drop_left' (length_ofNatWidth _ _),
      toNat_ofNatWidth, toNat_ofNatWidth] at h
    exact (Option.some.inj h).symm
  · cases h

theorem eq_of_ofInner?_rsa {numbers : RsaNumbers} {parameters : Option Element}
    (h : ofInner? ⟨oidRsa, parameters⟩ (rsa numbers).inner = some k') : k' = .rsa numbers := by
  rw [ofInner?, inner, Der.sequence, ← List.flatMap_def] at h
  obtain ⟨e, he, h⟩ := Option.bind_eq_some_iff.1 h
  obtain ⟨rfl, hshort⟩ := Element.eq_of_readOne_make (by decide) he
  simp only [↓reduceIte] at h
  rw [ofRsa?, naturals?_flatMap_natural hshort] at h
  simp only [Option.bind_eq_bind, Option.bind_some] at h
  split at h
  · exact (Option.some.inj h).symm
  · cases h

theorem eq_of_ofInner?_dsa {p q g y x : Nat} (hshort : IsShort ([p, q, g].flatMap natural))
    (h : ofInner? ⟨oidDsa, some (.make tagSequence ([p, q, g].flatMap natural))⟩
      (dsa p q g y x).inner = some k') : k' = .dsa p q g (Modular.pow p g x) x := by
  rw [ofInner?, inner, natural, wrap] at h
  obtain ⟨e, he, h⟩ := Option.bind_eq_some_iff.1 h
  obtain ⟨rfl, -⟩ := Element.eq_of_readOne_make (by decide) he
  simp only at h
  rw [if_neg (by decide), if_neg (by decide)] at h
  simp only [↓reduceIte, Option.bind_eq_bind, Option.bind_some,
    dsaParameters?_flatMap_natural hshort, Element.contentOf?_make, natural?_naturalContent] at h
  exact (Option.some.inj h).symm

theorem toPkcs8_of_ofInner?_ec {curve : Curve} {secret x y : Nat}
    (h : ofInner? ⟨oidEc, some (.make tagOid curve.oid)⟩ (ec curve secret x y).inner = some k') :
    k'.toPkcs8 = (ec curve secret x y).toPkcs8 := by
  have hinner : (ec curve secret x y).inner = (Element.make tagSequence
      ([(tagInteger, naturalContent 1), (tagOctetString, Octets.ofNatWidth curve.width secret),
        (tagContext 1, bitString (curve.pointOctets x y))].flatMap fun part =>
          (Element.make part.1 part.2).encode)).encode := rfl
  rw [ofInner?, hinner] at h
  obtain ⟨e, he, h⟩ := Option.bind_eq_some_iff.1 h
  obtain ⟨rfl, hshort⟩ := Element.eq_of_readOne_make (by decide) he
  simp only at h
  rw [if_neg (by decide)] at h
  simp only [↓reduceIte] at h
  obtain ⟨curve', hcurve, h⟩ := Option.bind_eq_some_iff.1 h
  have hsame : curve = curve' := by
    rw [PublicKey.curve?] at hcurve
    simp only [Option.bind_eq_bind, Option.bind_some, Element.contentOf?_make,
      Curve.ofOid?_oid] at hcurve
    exact Option.some.inj hcurve
  subst hsame
  rw [ofEc?, Element.partsOf?_make fun part hpart => ⟨?_, hshort.of_part hpart⟩] at h
  · have hzero : ∀ content, takeContext 0 [Element.make (tagContext 1) content] =
        (none, [Element.make (tagContext 1) content]) := fun _ => rfl
    have hone : ∀ content, takeContext 1 [Element.make (tagContext 1) content] =
        (some (Element.make (tagContext 1) content), []) := fun _ => rfl
    clear he hcurve hshort
    simp only [List.map_cons, List.map_nil, Option.bind_eq_bind, Option.bind_some,
      Element.contentOf?_make, natural?_naturalContent, toNat_ofNatWidth, ne_eq, not_true_eq_false,
      ↓reduceIte, hzero, hone, List.isEmpty_nil, Bool.not_true, Bool.false_eq_true] at h
    split at h
    · cases h
    · obtain ⟨e, he, h⟩ := Option.bind_eq_some_iff.1 h
      obtain ⟨rfl, -⟩ := Element.eq_of_readOne_make (by decide) he
      have hbits : bitString? (0 :: curve.pointOctets x y) = some (0, curve.pointOctets x y) := rfl
      simp only [Element.contentOf?_make, Option.bind_some, hbits] at h
      split at h
      · next hpoint =>
        simp only [Bool.and_eq_true, beq_iff_eq] at hpoint
        obtain ⟨hx, hy⟩ := Prod.mk.inj (point?_pointOctets hpoint.2)
        rw [hx, hy] at h
        cases h
        rw [toPkcs8, toPkcs8, inner, inner, Curve.pointOctets, Curve.pointOctets, ofNatWidth_mod,
          ofNatWidth_mod, ofNatWidth_mod]
        rfl
      · cases h
  · simp only [List.mem_cons, List.not_mem_nil, or_false] at hpart
    rcases hpart with rfl | rfl | rfl
    · exact (by decide : IsLowTag tagInteger)
    · exact (by decide : IsLowTag tagOctetString)
    · exact (by decide : IsLowTag (tagContext 1))

/-- **What a key is written as is never read as another key**: a key that its octets are read as
has the same octets. -/
theorem toPkcs8_of_ofDer (h : ofDer k.toPkcs8 = .ok k') : k'.toPkcs8 = k.toPkcs8 := by
  obtain ⟨hinner, hshort⟩ := ofInner?_of_ofDer h
  cases k with
  | rsa numbers => rw [eq_of_ofInner?_rsa hinner]
  | dsa p q g y x =>
    have hpart : (tagSequence, [p, q, g].flatMap natural) ∈
        Algorithm.parts oidDsa (dsa p q g y x).parameter := .tail _ (.head _)
    have hnumbers := IsShort.of_part (hshort _ (.tail _ (.head _))) hpart
    rw [eq_of_ofInner?_dsa hnumbers hinner]
    rfl
  | ec curve secret x y => exact toPkcs8_of_ofInner?_ec hinner
  | ed25519 bytes | ed448 bytes | x25519 bytes | x448 bytes =>
    rw [ofInner?] at hinner
    obtain ⟨e, he, hinner⟩ := Option.bind_eq_some_iff.1 hinner
    obtain ⟨rfl, -⟩ := Element.eq_of_readOne_make (by decide) he
    simp +decide only [algorithmOid, ↓reduceIte, Option.bind_eq_bind, Element.contentOf?_make,
      Option.bind_some] at hinner
    split at hinner
    · cases hinner; rfl
    · cases hinner

end

end PrivateKey

end Enrollment
