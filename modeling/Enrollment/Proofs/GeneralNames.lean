import Enrollment.X509.Extension
import Enrollment.Proofs.Names

/-!
# Extensions put together again

A general name that can be taken apart is put together again, of whichever kind it is
(`DecodedGeneralName.toElement_of_decode`): the mask of a network is given by its ones, and a
directory name by its own reading. So is the value of a subject alternative name
(`encodeNames_of_decodeNames`), and with it every extension
(`DecodedExtension.toExtension_of_decode`).
-/

namespace Enrollment.X509

open Der

/-! ## Addresses -/

theorem IpVersion.width_of_ofWidth? {n : Nat} {version : IpVersion}
    (h : ofWidth? n = some version) : version.width = n := by
  rw [ofWidth?] at h
  split at h
  · next hn => cases h; exact hn.symm
  · split at h
    · next hn => cases h; exact hn.symm
    · cases h

/-- A mask is given by the ones that it was read as. -/
theorem IpVersion.mask_of_ones? {version : IpVersion} {mask ones : Nat}
    (h : version.ones? mask = some ones) : version.mask ones = mask := by
  simpa using List.find?_some h

/-- **An address, or a network, is written as it stood.** -/
theorem Address.toOctets_of_ofOctets? {bytes : Octets} {a : Address}
    (h : ofOctets? bytes = some a) : a.toOctets = bytes := by
  rw [ofOctets?] at h
  split at h
  · next version hversion =>
    cases h
    rw [toOctets, IpVersion.width_of_ofWidth? hversion, Octets.ofNatWidth_toNat]
  · simp only at h
    split at h
    · cases h
    · next heven =>
      have heven := Decidable.not_not.1 heven
      obtain ⟨version, hversion, h⟩ := Option.bind_eq_some_iff.1 h
      obtain ⟨ones, hones, h⟩ := Option.bind_eq_some_iff.1 h
      split at h
      · cases h
        have hwidth := IpVersion.width_of_ofWidth? hversion
        have hfirst : (bytes.take (bytes.length / 2)).length = version.width := by
          rw [List.length_take, hwidth]
          omega
        have hsecond : (bytes.drop (bytes.length / 2)).length = version.width := by
          rw [List.length_drop, hwidth]
          omega
        have hbase := Octets.ofNatWidth_toNat (bytes.take (bytes.length / 2))
        have hmask := Octets.ofNatWidth_toNat (bytes.drop (bytes.length / 2))
        rw [hfirst] at hbase
        rw [hsecond] at hmask
        rw [toOctets, IpVersion.mask_of_ones? hones, hbase, hmask, List.take_append_drop]
      · cases h

/-! ## General names -/

theorem TextName.tag_of_ofTag? {t : UInt8} {kind : TextName} (h : ofTag? t = some kind) :
    kind.tag = t := by
  simpa using List.find?_some h

/-- **A general name that can be taken apart is put together again.** -/
theorem DecodedGeneralName.toElement_of_decode {e : Element} {g : GeneralName}
    {d : DecodedGeneralName} (hread : GeneralName.ofElement? e = some g) (h : g.decode = .ok d) :
    d.toElement = e := by
  obtain ⟨identifier, content⟩ := e
  rw [GeneralName.ofElement?] at hread
  simp only at hread
  split at hread
  · next tag =>
    split at hread
    · next hother =>
      obtain ⟨parts, hparts, hread⟩ := Option.bind_eq_some_iff.1 hread
      split at hread
      · next type value =>
        obtain ⟨oid, hoid, hread⟩ := Option.bind_eq_some_iff.1 hread
        obtain ⟨inner, hinner, hread⟩ := Option.bind_eq_some_iff.1 hread
        obtain ⟨e, he, hread⟩ := Option.bind_eq_some_iff.1 hread
        split at hread
        · cases hread
          cases h
          have hcontent : content = type.encode ++ value.encode := by
            simpa using Element.eq_flatMap_of_readAll hparts
          rw [hcontent, Element.eq_make_of_contentOf? hoid, Element.eq_make_of_contentOf? hinner,
            (Element.eq_encode_of_readOne he).1, hother]
          rfl
        · cases hread
      · cases hread
    split at hread
    · cases hread
      cases h
    split at hread
    · next hdirectory =>
      obtain ⟨e, he, hread⟩ := Option.bind_eq_some_iff.1 hread
      obtain ⟨name, hname, hread⟩ := Option.bind_eq_some_iff.1 hread
      cases hread
      obtain ⟨decoded, hdecoded, rfl⟩ := map_eq_ok_iff.1 h
      have hdecoded := mapError_eq_ok_iff.1 hdecoded
      rw [toElement, DecodedName.toName_of_decode hname hdecoded,
        Name.toElement_of_ofElement? hname, ← (Element.eq_encode_of_readOne he).1, hdirectory]
      rfl
    split at hread
    · next haddress =>
      cases hread
      rw [GeneralName.decode] at h
      split at h
      · next a ha =>
        cases h
        rw [toElement, Address.toOctets_of_ofOctets? ha, haddress]
        rfl
      · cases h
    split at hread
    · next hregistered =>
      split at hread
      · cases hread
        cases h
        rw [toElement, hregistered]
        rfl
      · cases hread
    · obtain ⟨kind, hkind, hread⟩ := Option.bind_eq_some_iff.1 hread
      obtain ⟨chars, hchars, hread⟩ := Option.bind_eq_some_iff.1 hread
      cases hread
      cases h
      rw [toElement, TextName.tag_of_ofTag? hkind, Octets.ofChars_of_utf8Chars? hchars]
      rfl
  · cases hread

/-- So are general names one after the other. -/
theorem DecodedGeneralName.map_toElement_of_decode {parts : List Element}
    {names : List GeneralName} {decoded : List DecodedGeneralName}
    (hread : parts.mapM GeneralName.ofElement? = some names)
    (h : names.mapM GeneralName.decode = .ok decoded) : decoded.map toElement = parts := by
  induction parts generalizing names decoded with
  | nil =>
    cases hread
    cases h
    rfl
  | cons e parts ih =>
    rw [List.mapM_cons] at hread
    obtain ⟨g, hg, hread⟩ := Option.bind_eq_some_iff.1 hread
    obtain ⟨names, hnames, hread⟩ := Option.bind_eq_some_iff.1 hread
    cases hread
    rw [List.mapM_cons] at h
    obtain ⟨d, hd, h⟩ := bind_eq_ok_iff.1 h
    obtain ⟨decoded, hdecoded, h⟩ := bind_eq_ok_iff.1 h
    cases h
    rw [List.map_cons, toElement_of_decode hg hd, ih hnames hdecoded]

/-! ## Extensions -/

/-- **The value of a subject alternative name is put together again.** -/
theorem encodeNames_of_decodeNames {value : Octets} {names : List DecodedGeneralName}
    (h : decodeNames value = .ok names) : encodeNames names = value := by
  rw [decodeNames] at h
  split at h
  · next general hgeneral =>
    obtain ⟨e, he, hgeneral⟩ := Option.bind_eq_some_iff.1 hgeneral
    obtain ⟨parts, hparts, hgeneral⟩ := Option.bind_eq_some_iff.1 hgeneral
    rw [(Element.eq_encode_of_readOne he).1, Element.eq_make_of_partsOf? hparts,
      ← DecodedGeneralName.map_toElement_of_decode hgeneral h, List.flatMap_map, encodeNames,
      Der.sequence, List.flatMap_def]
  · cases h

/-- **An extension that can be taken apart is put together again.** -/
theorem DecodedExtension.toExtension_of_decode {x : Extension} {d : DecodedExtension}
    (h : x.decode = .ok d) : d.toExtension = x := by
  rw [Extension.decode] at h
  split at h
  · obtain ⟨names, hnames, rfl⟩ := map_eq_ok_iff.1 h
    rw [toExtension, ExtensionValue.toOctets, encodeNames_of_decodeNames hnames]
  · split at h
    · cases h; rfl
    · cases h

end Enrollment.X509
