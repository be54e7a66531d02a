import Enrollment.Octets.Utf8
import Enrollment.Proofs.Der

/-!
# Spellings of texts

What octets spell in one of the three encodings is spelt by no other octets: a text that was read is
written as it stood (`ofChars_of_utf8Chars?`, `utf16OfChars_of_utf16Chars?`,
`utf32OfChars_of_utf32Chars?`). Overlong forms, surrogates and numbers that no character has would
break that, and the readers refuse them.
-/

namespace Enrollment.Octets

/-- The number of a character is the one that it was made of. -/
theorem toNat_charOfNat {n : Nat} (h : n.isValidChar) : (Char.ofNat n).toNat = n := by
  rw [Char.ofNat, dif_pos h]
  rfl

/-- A number with the value of an octet is that octet. -/
theorem ofNat_eq_of_toNat {n : Nat} {b : UInt8} (h : n = b.toNat) : UInt8.ofNat n = b := by
  rw [h, UInt8.ofNat_toNat]

/-! ## UTF-8 -/

section
variable {n : Nat}

theorem ofChar_one (h : n < 0x80) : ofChar (Char.ofNat n) = [UInt8.ofNat n] := by
  rw [ofChar, toNat_charOfNat (.inl (by omega))]
  exact if_pos h

theorem ofChar_two (h : 0x80 ≤ n) (h' : n < 0x800) : ofChar (Char.ofNat n) =
    [UInt8.ofNat (0xc0 + n / 64), UInt8.ofNat (0x80 + n % 64)] := by
  rw [ofChar, toNat_charOfNat (.inl (by omega))]
  simp only [if_neg (Nat.not_lt.2 h), if_pos h']

theorem ofChar_three (hvalid : n.isValidChar) (h : 0x800 ≤ n) (h' : n < 0x10000) :
    ofChar (Char.ofNat n) = [UInt8.ofNat (0xe0 + n / 4096), UInt8.ofNat (0x80 + n / 64 % 64),
      UInt8.ofNat (0x80 + n % 64)] := by
  rw [ofChar, toNat_charOfNat hvalid]
  simp only [if_neg (Nat.not_lt.2 h), if_pos h', if_neg (show ¬n < 0x80 by omega)]

theorem ofChar_four (h : 0x10000 ≤ n) (h' : n < 0x110000) :
    ofChar (Char.ofNat n) = [UInt8.ofNat (0xf0 + n / 262144), UInt8.ofNat (0x80 + n / 4096 % 64),
      UInt8.ofNat (0x80 + n / 64 % 64), UInt8.ofNat (0x80 + n % 64)] := by
  rw [ofChar, toNat_charOfNat (.inr ⟨by omega, h'⟩)]
  simp only [if_neg (Nat.not_lt.2 h), if_neg (show ¬n < 0x80 by omega),
    if_neg (show ¬n < 0x800 by omega)]

end

/-- The bounds of an octet that continues a character. -/
theorem bounds_of_isContinuation {b : UInt8} (h : isContinuation b = true) :
    0x80 ≤ b.toNat ∧ b.toNat ≤ 0xbf := by
  simpa [isContinuation, UInt8.le_iff_toNat_le] using h

/-- The bounds of an octet behind `lead`: it continues a character, begins at `low` behind `p` and
ends at `high` behind `q`. -/
theorem bounds_of_follows {lead second p q low high : UInt8} (hne : p ≠ q)
    (hlow : 0x80 ≤ low.toNat) (hhigh : high.toNat ≤ 0xbf)
    (h : (if lead == p then decide (low ≤ second) && decide (second ≤ 0xbf)
      else if lead == q then decide (0x80 ≤ second) && decide (second ≤ high)
      else isContinuation second) = true) :
    0x80 ≤ second.toNat ∧ second.toNat ≤ 0xbf ∧ (lead.toNat = p.toNat → low.toNat ≤ second.toNat) ∧
      (lead.toNat = q.toNat → second.toNat ≤ high.toNat) := by
  simp only [UInt8.toNat_inj]
  split at h
  · next hlead =>
    obtain rfl := beq_iff_eq.1 hlead
    simp only [UInt8.le_iff_toNat_le, Bool.and_eq_true, decide_eq_true_eq] at h
    exact ⟨Nat.le_trans hlow h.1, h.2, fun _ => h.1, fun heq => absurd heq hne⟩
  · next hp =>
    have hp : lead ≠ p := fun heq => hp (beq_iff_eq.2 heq)
    split at h
    · next hlead =>
      obtain rfl := beq_iff_eq.1 hlead
      simp only [UInt8.le_iff_toNat_le, Bool.and_eq_true, decide_eq_true_eq] at h
      exact ⟨h.1, Nat.le_trans h.2 hhigh, fun heq => absurd heq hp, fun _ => h.2⟩
    · next hq =>
      have hq : lead ≠ q := fun heq => hq (beq_iff_eq.2 heq)
      obtain ⟨hfirst, hlast⟩ := bounds_of_isContinuation h
      exact ⟨hfirst, hlast, fun heq => absurd heq hp, fun heq => absurd heq hq⟩

/-- The second octet of a character of three leaves out the numbers that two octets would do for,
and the surrogates. -/
theorem bounds_of_followsThree {lead second : UInt8} (h : followsThree lead second = true) :
    0x80 ≤ second.toNat ∧ second.toNat ≤ 0xbf ∧ (lead.toNat = 0xe0 → 0xa0 ≤ second.toNat) ∧
      (lead.toNat = 0xed → second.toNat ≤ 0x9f) :=
  bounds_of_follows (by decide) (by decide) (by decide) h

/-- The second octet of a character of four leaves out the numbers that three octets would do for,
and those above the last character. -/
theorem bounds_of_followsFour {lead second : UInt8} (h : followsFour lead second = true) :
    0x80 ≤ second.toNat ∧ second.toNat ≤ 0xbf ∧ (lead.toNat = 0xf0 → 0x90 ≤ second.toNat) ∧
      (lead.toNat = 0xf4 → second.toNat ≤ 0x8f) :=
  bounds_of_follows (by decide) (by decide) (by decide) h

/-- **A character at the front of a run is spelt by the octets that it was read from.** -/
theorem eq_of_utf8Front {lead : UInt8} {rest : Octets} {c : Char} {width : Nat}
    (h : utf8Front lead rest = .char c width) :
    lead :: rest = ofChar c ++ rest.drop (width - 1) := by
  have hlead := lead.toNat_lt
  unfold utf8Front at h
  simp only at h
  split at h
  · next hone =>
    cases h
    rw [ofChar_one (UInt8.lt_iff_toNat_lt.1 hone), UInt8.ofNat_toNat]
    rfl
  split at h
  · next htwo =>
    simp only [Bool.and_eq_true, decide_eq_true_eq, UInt8.le_iff_toNat_le] at htwo
    simp only [UInt8.reduceToNat] at htwo
    split at h
    · next b more =>
      split at h
      · next hb =>
        cases h
        have hb := bounds_of_isContinuation hb
        rw [ofChar_two (by omega) (by omega), ofNat_eq_of_toNat (b := lead) (by omega),
          ofNat_eq_of_toNat (b := b) (by omega)]
        rfl
      · cases h
    · cases h
  split at h
  · next hthree =>
    simp only [Bool.and_eq_true, decide_eq_true_eq, UInt8.le_iff_toNat_le] at hthree
    simp only [UInt8.reduceToNat] at hthree
    split at h
    · next b c' more =>
      split at h
      · next hb =>
        split at h
        · next hc =>
          cases h
          have hb := bounds_of_followsThree hb
          have hc := bounds_of_isContinuation hc
          have hvalid : (lead.toNat % 16 * 4096 + b.toNat % 64 * 64 +
              c'.toNat % 64).isValidChar := by
            rw [Nat.isValidChar]
            omega
          rw [ofChar_three hvalid (by omega) (by omega), ofNat_eq_of_toNat (b := lead) (by omega),
            ofNat_eq_of_toNat (b := b) (by omega), ofNat_eq_of_toNat (b := c') (by omega)]
          rfl
        · cases h
      · cases h
    · split at h <;> cases h
    · cases h
  split at h
  · next hfour =>
    simp only [Bool.and_eq_true, decide_eq_true_eq, UInt8.le_iff_toNat_le] at hfour
    simp only [UInt8.reduceToNat] at hfour
    split at h
    · next b c' d more =>
      split at h
      · next hb =>
        split at h
        · next hc =>
          split at h
          · next hd =>
            cases h
            have hb := bounds_of_followsFour hb
            have hc := bounds_of_isContinuation hc
            have hd := bounds_of_isContinuation hd
            rw [ofChar_four (by omega) (by omega), ofNat_eq_of_toNat (b := lead) (by omega),
              ofNat_eq_of_toNat (b := b) (by omega), ofNat_eq_of_toNat (b := c') (by omega),
              ofNat_eq_of_toNat (b := d) (by omega)]
            rfl
          · cases h
        · cases h
      · cases h
    · split at h
      · split at h <;> cases h
      · cases h
    · split at h <;> cases h
    · cases h
  · cases h

/-- Octets that belong to the character before are passed over. -/
theorem utf8CharsFrom_eq_drop (skip : Nat) (bytes : Octets) :
    utf8CharsFrom skip bytes = utf8CharsFrom 0 (bytes.drop skip) := by
  induction skip generalizing bytes with
  | zero => rfl
  | succ skip ih =>
    cases bytes with
    | nil => rfl
    | cons b rest => exact ih rest

/-- **A text that was read from UTF-8 is written as it stood.** -/
theorem ofChars_of_utf8Chars? {bytes : Octets} {text : List Char}
    (h : utf8Chars? bytes = some text) : ofChars text = bytes := by
  -- each character takes at least one octet off the run
  induction hlength : bytes.length using Nat.strongRecOn generalizing bytes text with
  | ind length ih =>
    subst hlength
    cases bytes with
    | nil => cases h; rfl
    | cons b rest =>
      rw [utf8Chars?, utf8CharsFrom] at h
      split at h
      · next c width hfront =>
        rw [utf8CharsFrom_eq_drop] at h
        obtain ⟨text, htext, rfl⟩ := Option.map_eq_some_iff.1 h
        have hshorter : (rest.drop (width - 1)).length < (b :: rest).length := by
          rw [List.length_drop, List.length_cons]
          omega
        have hrest := ih _ hshorter htext rfl
        rw [eq_of_utf8Front hfront, ofChars, List.flatMap_cons, ← ofChars, hrest]
      · cases h

/-! ## UTF-16 and UTF-32 -/

/-- Two octets are the spelling of their number. -/
theorem ofNatWidth_two (a b : UInt8) : ofNatWidth 2 (a.toNat * 256 + b.toNat) = [a, b] := by
  have h := ofNatWidth_toNat [a, b]
  simpa [toNat] using h

/-- Four octets are the spelling of their number. -/
theorem ofNatWidth_four (a b c d : UInt8) :
    ofNatWidth 4 (((a.toNat * 256 + b.toNat) * 256 + c.toNat) * 256 + d.toNat) = [a, b, c, d] := by
  have h := ofNatWidth_toNat [a, b, c, d]
  simpa [toNat] using h

theorem toNat_of_charAt? {n : Nat} {c : Char} (h : charAt? n = some c) : c.toNat = n := by
  rw [charAt?] at h
  split at h
  · next hvalid =>
    cases h
    exact toNat_charOfNat hvalid
  · cases h

/-- Two surrogates are the spelling of their character. -/
theorem utf16OfChar_surrogates {high low : Nat} (hhigh : 0xd800 ≤ high ∧ high < 0xdc00)
    (hlow : 0xdc00 ≤ low ∧ low < 0xe000) :
    utf16OfChar (Char.ofNat (0x10000 + (high - 0xd800) * 1024 + (low - 0xdc00))) =
      ofNatWidth 2 high ++ ofNatWidth 2 low := by
  have hvalid : (0x10000 + (high - 0xd800) * 1024 + (low - 0xdc00)).isValidChar :=
    .inr (by omega)
  have hfirst : 0xd800 + (0x10000 + (high - 0xd800) * 1024 + (low - 0xdc00) - 0x10000) / 1024 =
      high := by omega
  have hsecond : 0xdc00 + (0x10000 + (high - 0xd800) * 1024 + (low - 0xdc00) - 0x10000) % 1024 =
      low := by omega
  rw [utf16OfChar, toNat_charOfNat hvalid]
  simp only [hfirst, hsecond]
  exact if_neg (by omega)

/-- A unit that is a character of its own is its spelling. -/
theorem utf16OfChar_unit {a b : UInt8} {c : Char} (h : charAt? (a.toNat * 256 + b.toNat) = some c) :
    utf16OfChar c = [a, b] := by
  have hbound : a.toNat * 256 + b.toNat < 0x10000 := by
    have ha := a.toNat_lt
    have hb := b.toNat_lt
    omega
  rw [utf16OfChar, toNat_of_charAt? h]
  simp only [if_pos hbound, ofNatWidth_two]

/-- **A text that was read from UTF-16 is written as it stood.** -/
theorem utf16OfChars_of_utf16Chars? {bytes : Octets} {text : List Char}
    (h : utf16Chars? bytes = some text) : utf16OfChars text = bytes := by
  -- each character takes two or four octets off the run
  induction hlength : bytes.length using Nat.strongRecOn generalizing bytes text with
  | ind length ih =>
    subst hlength
    match bytes with
    | [] => cases h; rfl
    | [_] => cases h
    | a :: b :: rest =>
      unfold utf16Chars? at h
      simp only at h
      split at h
      · next hhigh =>
        split at h
        · next c d more =>
          split at h
          · next hlow =>
            obtain ⟨text, htext, rfl⟩ := Option.map_eq_some_iff.1 h
            simp only [Bool.and_eq_true, decide_eq_true_eq] at hhigh hlow
            have hmore := ih more.length (by simp only [List.length_cons]; omega) htext rfl
            rw [utf16OfChars, List.flatMap_cons, utf16OfChar_surrogates hhigh hlow,
              ofNatWidth_two, ofNatWidth_two, ← utf16OfChars, hmore]
            rfl
          · cases h
        · cases h
      · split at h
        · next c hc =>
          obtain ⟨text, htext, rfl⟩ := Option.map_eq_some_iff.1 h
          have hrest := ih rest.length (by simp only [List.length_cons]; omega) htext rfl
          rw [utf16OfChars, List.flatMap_cons, utf16OfChar_unit hc, ← utf16OfChars, hrest]
          rfl
        · cases h

/-- **A text that was read from UTF-32 is written as it stood.** -/
theorem utf32OfChars_of_utf32Chars? {bytes : Octets} {text : List Char}
    (h : utf32Chars? bytes = some text) : utf32OfChars text = bytes := by
  fun_induction utf32Chars? bytes generalizing text with
  | case1 => cases h; rfl
  | case2 a b c d rest x hx ih =>
    obtain ⟨text, htext, rfl⟩ := Option.map_eq_some_iff.1 h
    rw [utf32OfChars, List.flatMap_cons, toNat_of_charAt? hx, ofNatWidth_four, ← utf32OfChars,
      ih htext]
    rfl
  | case3 | case4 => cases h

end Enrollment.Octets
