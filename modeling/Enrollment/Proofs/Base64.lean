import Enrollment.Octets.Base64

/-!
# Base64 reads back

What `Base64.encode` writes is in the alphabet or fill (`mem_encode`), and all three readers give
the octets back: `canonical?_encode` for the reader of canonical text, `readFrom_encode` for the
one that goes character by character, strict or lenient, from wherever a group begins.
-/

namespace Enrollment.Base64

/-! ## The alphabet -/

/-- Every six-bit number has its own character, and that is not the fill. -/
theorem value?_digit : ∀ n < 64, value? (digit n) = some n := by decide

/-- No digit is the fill. -/
theorem digit_ne_pad : ∀ n < 64, (digit n == pad) = false := by decide

/-- A character of base64 text: one of the alphabet, or the fill. -/
def isLetter (b : UInt8) : Bool := (value? b).isSome || b == pad

/-- A letter is an ASCII character above the blanks, and no hyphen. -/
theorem bounds_of_isLetter {b : UInt8} (h : isLetter b = true) :
    32 < b.toNat ∧ b.toNat < 128 ∧ b ≠ 45 := by
  have hall : ∀ n < 256, isLetter (UInt8.ofNat n) = true → 32 < n ∧ n < 128 ∧ n ≠ 45 := by
    decide +kernel
  have hb := hall b.toNat b.toNat_lt (by rw [UInt8.ofNat_toNat]; exact h)
  exact ⟨hb.1, hb.2.1, fun heq => hb.2.2 (by rw [heq]; rfl)⟩

theorem isLetter_digit {n : Nat} (h : n < 64) : isLetter (digit n) = true := by
  rw [isLetter, value?_digit n h]
  rfl

theorem isLetter_pad : isLetter pad = true := rfl

/-! ## The numbers of a group

Three octets are cut into four six-bit numbers and put together again. -/

section
variable (a b c : UInt8)

theorem first_lt : a.toNat / 4 < 64 := by have := a.toNat_lt; omega

theorem second_lt : a.toNat % 4 * 16 + b.toNat / 16 < 64 := by have := b.toNat_lt; omega

theorem third_lt : b.toNat % 16 * 4 + c.toNat / 64 < 64 := by have := c.toNat_lt; omega

theorem fourth_lt : c.toNat % 64 < 64 := by omega

theorem join_first :
    UInt8.ofNat (a.toNat / 4 * 4 + (a.toNat % 4 * 16 + b.toNat / 16) / 16) = a := by
  have hb := b.toNat_lt
  have : a.toNat / 4 * 4 + (a.toNat % 4 * 16 + b.toNat / 16) / 16 = a.toNat := by omega
  rw [this, UInt8.ofNat_toNat]

theorem join_second :
    UInt8.ofNat ((a.toNat % 4 * 16 + b.toNat / 16) % 16 * 16 +
      (b.toNat % 16 * 4 + c.toNat / 64) / 4) = b := by
  have hb := b.toNat_lt
  have hc := c.toNat_lt
  have : (a.toNat % 4 * 16 + b.toNat / 16) % 16 * 16 +
      (b.toNat % 16 * 4 + c.toNat / 64) / 4 = b.toNat := by omega
  rw [this, UInt8.ofNat_toNat]

theorem join_third :
    UInt8.ofNat ((b.toNat % 16 * 4 + c.toNat / 64) % 4 * 64 + c.toNat % 64) = c := by
  have hc := c.toNat_lt
  have : (b.toNat % 16 * 4 + c.toNat / 64) % 4 * 64 + c.toNat % 64 = c.toNat := by omega
  rw [this, UInt8.ofNat_toNat]

end

/-! ## What is written -/

/-- Only letters are written. -/
theorem mem_encode {b : UInt8} {bytes : Octets} (h : b ∈ encode bytes) : isLetter b = true := by
  fun_induction encode bytes with
  | case1 => cases h
  | case2 a =>
    simp only [List.mem_cons, List.not_mem_nil, or_false] at h
    rcases h with rfl | rfl | rfl | rfl
    · exact isLetter_digit (first_lt a)
    · exact isLetter_digit (by omega)
    · exact isLetter_pad
    · exact isLetter_pad
  | case3 a c =>
    simp only [List.mem_cons, List.not_mem_nil, or_false] at h
    rcases h with rfl | rfl | rfl | rfl
    · exact isLetter_digit (first_lt a)
    · exact isLetter_digit (second_lt a c)
    · exact isLetter_digit (by omega)
    · exact isLetter_pad
  | case4 a c d rest ih =>
    simp only [List.mem_cons] at h
    rcases h with rfl | rfl | rfl | rfl | h
    · exact isLetter_digit (first_lt a)
    · exact isLetter_digit (second_lt a c)
    · exact isLetter_digit (third_lt c d)
    · exact isLetter_digit (fourth_lt d)
    · exact ih h

/-! ## What is read back -/

/-- The reader of canonical text gives back what was written. -/
theorem canonical?_encode (bytes : Octets) : canonical? (encode bytes) = some bytes := by
  fun_induction encode bytes with
  | case1 => rfl
  | case2 a =>
    have hsecond : a.toNat % 4 * 16 < 64 := by omega
    have hspare : (a.toNat % 4 * 16 % 16 == 0) = true := by simp
    have hjoin : a.toNat / 4 * 4 + a.toNat % 4 * 16 / 16 = a.toNat := by omega
    simp only [canonical?, value?_digit _ (first_lt a), value?_digit _ hsecond, hspare, hjoin,
      Option.bind_eq_bind, Option.bind_some, beq_self_eq_true, List.isEmpty_nil, Bool.and_self,
      if_true, UInt8.ofNat_toNat]
  | case3 a b =>
    have hthird : b.toNat % 16 * 4 < 64 := by omega
    have hspare : (b.toNat % 16 * 4 % 4 == 0) = true := by simp
    have hb := b.toNat_lt
    have hjoin : (a.toNat % 4 * 16 + b.toNat / 16) % 16 * 16 + b.toNat % 16 * 4 / 4 = b.toNat := by
      omega
    simp only [canonical?, value?_digit _ (first_lt a), value?_digit _ (second_lt a b),
      value?_digit _ hthird, digit_ne_pad _ hthird, hspare, hjoin, join_first,
      Option.bind_eq_bind, Option.bind_some, beq_self_eq_true, List.isEmpty_nil, Bool.and_self,
      if_true, Bool.false_eq_true, if_false, UInt8.ofNat_toNat]
  | case4 a b c rest ih =>
    simp only [canonical?, value?_digit _ (first_lt a), value?_digit _ (second_lt a b),
      value?_digit _ (third_lt b c), value?_digit _ (fourth_lt c), digit_ne_pad _ (third_lt b c),
      digit_ne_pad _ (fourth_lt c), ih, join_first, join_second, join_third,
      Option.bind_eq_bind, Option.bind_some, Bool.false_eq_true, if_false]

/-! ## The readers that go character by character -/

section
variable {strict : Bool} {p : Progress} {n : Nat} {rest : Octets}

/-- A digit that opens a group. -/
theorem readFrom_first (h : n < 64) (hplace : p.place = 0) (hfilled : p.filled = false) :
    readFrom strict p (digit n :: rest) =
      readFrom strict { p with place := 1, bits := n, fills := 0 } rest := by
  rw [readFrom]
  simp only [digit_ne_pad n h, value?_digit n h, hplace, hfilled, Bool.and_false,
    Bool.false_eq_true, if_false]

/-- A digit in the second place completes an octet. -/
theorem readFrom_second (h : n < 64) (hplace : p.place = 1) (hfilled : p.filled = false) :
    readFrom strict p (digit n :: rest) =
      (readFrom strict { p with place := 2, bits := n % 16, fills := 0, done := p.done + 1 }
        rest).map (UInt8.ofNat (p.bits * 4 + n / 16) :: ·) := by
  rw [readFrom]
  simp only [digit_ne_pad n h, value?_digit n h, hplace, hfilled, Bool.and_false,
    Bool.false_eq_true, if_false]

/-- A digit in the third place completes an octet. -/
theorem readFrom_third (h : n < 64) (hplace : p.place = 2) (hfilled : p.filled = false) :
    readFrom strict p (digit n :: rest) =
      (readFrom strict { p with place := 3, bits := n % 4, fills := 0, done := p.done + 1 }
        rest).map (UInt8.ofNat (p.bits * 16 + n / 4) :: ·) := by
  rw [readFrom]
  simp only [digit_ne_pad n h, value?_digit n h, hplace, hfilled, Bool.and_false,
    Bool.false_eq_true, if_false]

/-- A digit in the last place completes an octet and the group. -/
theorem readFrom_fourth (h : n < 64) (hplace : p.place = 3) (hfilled : p.filled = false) :
    readFrom strict p (digit n :: rest) =
      (readFrom strict { p with place := 0, bits := 0, fills := 0, done := p.done + 1 }
        rest).map (UInt8.ofNat (p.bits * 64 + n) :: ·) := by
  rw [readFrom]
  simp only [digit_ne_pad n h, value?_digit n h, hplace, hfilled, Bool.and_false,
    Bool.false_eq_true, if_false]

/-- The fill that completes a group ends the text. -/
theorem readFrom_pad (hplace : 2 ≤ p.place) (hfills : 4 ≤ p.place + (p.fills + 1)) :
    readFrom strict p [pad] = .ok [] := by
  rw [readFrom]
  simp [hplace, hfills]

/-- Two fills complete a group of two digits. -/
theorem readFrom_pads (hplace : p.place = 2) (hfills : p.fills = 0) :
    readFrom strict p [pad, pad] = .ok [] := by
  have hmore : ¬(2 ≤ p.place ∧ 4 ≤ p.place + (p.fills + 1)) := by omega
  rw [readFrom]
  simp only [beq_self_eq_true, if_true, hmore, if_false]
  exact readFrom_pad (by simp [hplace]) (by simp [hplace, hfills])

end

/-- Both readers give back what was written, from wherever a group begins. -/
theorem readFrom_encode (strict : Bool) (bytes : Octets) (done : Nat) :
    readFrom strict { done } (encode bytes) = .ok bytes := by
  fun_induction encode bytes generalizing done with
  | case1 => rfl
  | case2 a =>
    have hsecond : a.toNat % 4 * 16 < 64 := by omega
    have hjoin : a.toNat / 4 * 4 + a.toNat % 4 * 16 / 16 = a.toNat := by omega
    rw [readFrom_first (first_lt a) rfl rfl, readFrom_second hsecond rfl rfl,
      readFrom_pads rfl rfl]
    simp only [Except.map, hjoin, UInt8.ofNat_toNat]
  | case3 a b =>
    have hthird : b.toNat % 16 * 4 < 64 := by omega
    have hb := b.toNat_lt
    have hjoin : (a.toNat % 4 * 16 + b.toNat / 16) % 16 * 16 + b.toNat % 16 * 4 / 4 = b.toNat := by
      omega
    rw [readFrom_first (first_lt a) rfl rfl, readFrom_second (second_lt a b) rfl rfl,
      readFrom_third hthird rfl rfl, readFrom_pad (by simp) (by simp)]
    simp only [Except.map, join_first, hjoin, UInt8.ofNat_toNat]
  | case4 a b c rest ih =>
    rw [readFrom_first (first_lt a) rfl rfl, readFrom_second (second_lt a b) rfl rfl,
      readFrom_third (third_lt b c) rfl rfl, readFrom_fourth (fourth_lt c) rfl rfl, ih]
    simp only [Except.map, join_first, join_second, join_third]

end Enrollment.Base64
