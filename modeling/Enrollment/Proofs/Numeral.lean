import Enrollment.Value
import Mathlib.Data.List.DropRight
import Mathlib.Data.Nat.Digits.Defs

/-!
# Integers of digits

What `Radix.read` makes of a text that holds nothing but digits (`Radix.read_of_isDigit`): the
number they spell, unless one of them is no decimal digit or there are too many of them. What was
read can be written down again (`Radix.isShort_of_read`).
-/

namespace Enrollment

namespace Text

theorem trimBy_eq (p : Char → Bool) (text : List Char) :
    trimBy p text = (text.dropWhile p).rdropWhile p := rfl

/-- A trimmed text has nothing to trim. -/
theorem trim_trim (text : List Char) : trim (trim text) = trim text := by
  have hfront : (trim text).dropWhile isBlank = trim text := by
    obtain ⟨more, hmore⟩ := List.rdropWhile_prefix isBlank (text.dropWhile isBlank)
    rw [trim, trimBy_eq]
    cases htrimmed : (text.dropWhile isBlank).rdropWhile isBlank with
    | nil => rfl
    | cons c rest =>
      rw [htrimmed] at hmore
      have hne : text.dropWhile isBlank ≠ [] := by rw [← hmore]; nofun
      have hhead := List.head_dropWhile_not isBlank hne
      simp only [← hmore, List.cons_append, List.head_cons] at hhead
      rw [List.dropWhile_cons_of_neg (by simp [hhead])]
  rw [trim, trimBy_eq]
  change ((trim text).dropWhile isBlank).rdropWhile isBlank = trim text
  rw [hfront]
  exact List.rdropWhile_idempotent _ _

/-- Whether a character is a decimal digit. -/
def isDecimal (c : Char) : Bool := (decimalDigit? c).isSome

/-- The value of a decimal digit, and zero for everything else. -/
def decimalValue (c : Char) : Nat := (decimalDigit? c).getD 0

theorem decimalDigit?_lt {c : Char} {d : Nat} (h : decimalDigit? c = some d) : d < 10 := by
  rw [decimalDigit?] at h
  split at h
  · split at h
    · cases h; omega
    · cases h
  · obtain ⟨first, hfind, rfl⟩ := Option.map_eq_some_iff.1 h
    have hrange := List.find?_some hfind
    simp only [Bool.and_eq_true, decide_eq_true_eq] at hrange
    omega

/-- The value of an ASCII digit. -/
theorem decimalDigit?_of_isDigit {c : Char} (h : c.isDigit) :
    decimalDigit? c = some (c.toNat - 48) := by
  obtain ⟨hlow, hhigh⟩ : 48 ≤ c.toNat ∧ c.toNat ≤ 57 := Char.isDigit_iff_toNat.1 h
  rw [decimalDigit?, if_pos (by omega), if_pos (by omega)]

/-- Among the ASCII characters only the decimal digits are digits. -/
theorem isDigit_ascii {c : Char} (h : c.toNat < 128) : isDigit c = isDecimal c := by
  have habove : ∀ range ∈ specialDigits, 128 ≤ range.1 := by decide
  rw [isDigit, isDecimal]
  refine Bool.or_eq_left_iff_imp.2 fun hspecial => ?_
  obtain ⟨range, hrange, hinside⟩ := List.any_eq_true.1 hspecial
  have := habove range hrange
  simp only [Bool.and_eq_true, decide_eq_true_eq] at hinside
  omega

/-- A digit is none of the other characters of a numeral. -/
theorem ne_of_isDigit {c d : Char} (h : isDigit c) (hd : isDigit d = false) : c ≠ d := by
  rintro rfl
  rw [h] at hd
  cases hd

end Text

namespace Radix

open Text

section
variable {text : List Char} {c : Char}

theorem digit?_of_isDigit (h : isDigit c) : digit? 10 c = decimalDigit? c := by
  cases hdecimal : decimalDigit? c with
  | some d => simp [digit?, digitValue?, hdecimal, decimalDigit?_lt hdecimal]
  | none =>
    -- letters are ASCII, where there is no digit but the decimal ones
    have hascii : ¬c.toNat < 128 := by
      intro hlow
      rw [isDigit_ascii hlow, isDecimal, hdecimal] at h
      cases h
    have hlower : ¬('a' ≤ c ∧ c ≤ 'z') := fun hc =>
      hascii (Nat.lt_of_le_of_lt (Char.le_def.1 hc.2) (by decide))
    have hupper : ¬('A' ≤ c ∧ c ≤ 'Z') := fun hc =>
      hascii (Nat.lt_of_le_of_lt (Char.le_def.1 hc.2) (by decide))
    simp [digit?, digitValue?, hdecimal, hlower, hupper]

/-- Between digits there are no underscores, so each digit counts. -/
theorem digits?_of_isDigit (hne : text ≠ []) (h : ∀ c ∈ text, isDigit c) :
    digits? 10 text =
      if text.all isDecimal then some (text.map decimalValue) else none := by
  induction text with
  | nil => exact absurd rfl hne
  | cons c more ih =>
    have hc := digit?_of_isDigit (h c (.head _))
    have hmore : ∀ d ∈ more, isDigit d := fun d hd => h d (.tail _ hd)
    cases more with
    | nil =>
      rw [digits?, hc]
      cases hdecimal : decimalDigit? c <;> simp [hdecimal, isDecimal, decimalValue]
    | cons d rest =>
      have hunderscore : d ≠ '_' := ne_of_isDigit (hmore d (.head _)) (by decide)
      have hcons : ∀ more, d :: rest = '_' :: more → False := by
        rintro _ hsame
        cases hsame
        exact hunderscore rfl
      have hstep : digits? 10 (c :: d :: rest) = (do
          return (← digit? 10 c) :: (← digits? 10 (d :: rest))) := by
        rw [digits?]
        · nofun
        · exact hcons
      rw [hstep, hc, ih nofun hmore]
      cases hdecimal : decimalDigit? c with
      | none => simp [hdecimal, isDecimal]
      | some n =>
        have hall : (c :: d :: rest).all isDecimal = (d :: rest).all isDecimal := by
          simp [isDecimal, hdecimal]
        have hvalues : (c :: d :: rest).map decimalValue = n :: (d :: rest).map decimalValue := by
          simp [decimalValue, hdecimal]
        rw [hall, hvalues]
        cases (d :: rest).all isDecimal <;> rfl

/-- **What a text of digits reads as.** -/
theorem read_of_isDigit (hne : text ≠ []) (htrim : trim text = text) (h : ∀ c ∈ text, isDigit c) :
    read 10 text =
      if text.all isDecimal then
        if digitLimit < text.length then .error (.tooLong text.length)
        else .ok ((text.map decimalValue).foldl (fun n d => n * 10 + d) 0 : Nat)
      else .error .notInteger := by
  have hsign : Numeral.splitSign text = (false, text) := by
    cases text with
    | nil => rfl
    | cons c more =>
      have hminus : c ≠ '-' := ne_of_isDigit (h c (.head _)) (by decide)
      have hplus : c ≠ '+' := ne_of_isDigit (h c (.head _)) (by decide)
      rw [Numeral.splitSign]
      · rintro _ hsame
        cases hsame
        exact hminus rfl
      · rintro _ hsame
        cases hsame
        exact hplus rfl
  have hmark : dropMark 10 text = text := by
    rw [dropMark]
    rintro _ _ _ _ _ hletter
    cases hletter
  rw [read, htrim, hsign]
  simp only
  rw [hmark, digits?_of_isDigit hne h]
  cases text.all isDecimal with
  | false => rfl
  | true =>
    simp only [↓reduceIte, List.length_map]
    split
    · next hlong => rw [if_pos hlong.2]
    · next hlong => rw [if_neg fun h => hlong ⟨rfl, h⟩]; rfl

/-! ## What was read -/

theorem digits?_lt {radix : Nat} {digits : List Nat} (h : digits? radix text = some digits) :
    ∀ d ∈ digits, d < radix := by
  have hdigit {c : Char} {d : Nat} (h : digit? radix c = some d) : d < radix := by
    rw [digit?, Option.filter_eq_some_iff] at h
    exact of_decide_eq_true h.2
  have hcons {c : Char} {more : List Char} {digits : List Nat}
      (ih : ∀ {digits}, digits? radix more = some digits → ∀ d ∈ digits, d < radix)
      (h : (do return (← digit? radix c) :: (← digits? radix more)) = some digits) :
      ∀ d ∈ digits, d < radix := by
    obtain ⟨d, hd, h⟩ := Option.bind_eq_some_iff.1 h
    obtain ⟨rest, hrest, h⟩ := Option.bind_eq_some_iff.1 h
    cases h
    exact List.forall_mem_cons.2 ⟨hdigit hd, ih hrest⟩
  induction text using digits?.induct generalizing digits with
  | case1 => cases h
  | case2 c =>
    obtain ⟨d, hd, rfl⟩ := Option.map_eq_some_iff.1 h
    exact List.forall_mem_singleton.2 (hdigit hd)
  | case3 c more ih => exact hcons ih h
  | case4 c more hsingle hunderscore ih =>
    rw [digits?] at h
    · exact hcons ih h
    · exact hsingle
    · exact hunderscore

/-- A number of digits is below the power of the base. -/
theorem foldl_lt {radix : Nat} {digits : List Nat} (h : ∀ d ∈ digits, d < radix) (n : Nat) :
    digits.foldl (fun n d => n * radix + d) n < (n + 1) * radix ^ digits.length := by
  induction digits generalizing n with
  | nil => simp
  | cons d rest ih =>
    obtain ⟨hd, hrest⟩ := List.forall_mem_cons.1 h
    have hstep : n * radix + d + 1 ≤ (n + 1) * radix := by
      rw [Nat.succ_mul]
      omega
    calc (d :: rest).foldl (fun n d => n * radix + d) n
        < (n * radix + d + 1) * radix ^ rest.length := ih hrest _
      _ ≤ (n + 1) * radix * radix ^ rest.length := Nat.mul_le_mul_right _ hstep
      _ = (n + 1) * radix ^ (d :: rest).length := by
        rw [List.length_cons, Nat.pow_succ', Nat.mul_assoc]

/-- **An integer that was read can be written down.** -/
theorem isShort_of_read {n : Int} (h : read 10 text = .ok n) : Value.isShort n := by
  rw [read] at h
  simp only at h
  split at h
  · cases h
  · next digits hdigits =>
    split at h
    · cases h
    · next hlength =>
      have hshort : digits.length ≤ digitLimit := Nat.not_lt.1 fun hlong => hlength ⟨rfl, hlong⟩
      have hbelow := Nat.lt_of_lt_of_le (foldl_lt (digits?_lt hdigits) 0)
        (Nat.mul_le_mul_left _ (Nat.pow_le_pow_right (by decide) hshort))
      rw [Nat.zero_add, Nat.one_mul] at hbelow
      have habs : n.natAbs = digits.foldl (fun n d => n * 10 + d) 0 := by
        cases h
        split
        · exact Int.natAbs_neg _
        · rfl
      rw [Value.isShort, habs, decide_eq_true_eq]
      exact Nat.toDigits_length 10 _ digitLimit (by decide) hbelow

end

end Radix

end Enrollment
