import Enrollment.Value
import Mathlib.Tactic.SplitIfs

/-!
# Values on a line

What is shown of a value stays on one line, whatever texts are in it (`Value.oneLine_wording`):
quoting escapes the ends of lines (`Text.oneLine_quote`), and the other kinds of values are written
with digits, letters and marks.
-/

namespace Enrollment

/-- A text that does not end a line. -/
def OneLine (text : String) : Prop := '\n' ∉ text.toList

instance (text : String) : Decidable (OneLine text) :=
  inferInstanceAs (Decidable ('\n' ∉ text.toList))

section
variable {s t : String} {cs : List Char}

theorem oneLine_append : OneLine (s ++ t) ↔ OneLine s ∧ OneLine t := by
  rw [OneLine, String.toList_append, List.mem_append, not_or]
  rfl

theorem OneLine.between (hs : OneLine s) {a b : String} (ha : OneLine a) (hb : OneLine b) :
    OneLine (a ++ s ++ b) :=
  oneLine_append.2 ⟨oneLine_append.2 ⟨ha, hs⟩, hb⟩

theorem oneLine_ofList : OneLine (String.ofList cs) ↔ '\n' ∉ cs := by
  rw [OneLine, String.toList_ofList]

/-- A natural number is written with digits. -/
theorem isDigit_of_mem_repr {n : Nat} {c : Char} (h : c ∈ n.repr.toList) : c.isDigit = true := by
  rw [Nat.toList_repr] at h
  exact Nat.isDigit_of_mem_toDigits (by omega) (by omega) h

/-- An integer is written with digits, and with a minus if it is negative. -/
theorem isDigit_of_mem_toString {n : Int} {c : Char} (h : c ∈ (toString n).toList) :
    c.isDigit = true ∨ c = '-' := by
  rw [Int.toString_eq_repr, Int.repr_eq_if] at h
  split at h
  · exact .inl (isDigit_of_mem_repr h)
  · rw [String.toList_append, List.mem_append] at h
    rcases h with h | h
    · exact .inr (List.mem_singleton.1 h)
    · exact .inl (isDigit_of_mem_repr h)

theorem oneLine_toString (n : Nat) : OneLine (toString n) := fun h =>
  Bool.false_ne_true (isDigit_of_mem_repr h)

theorem oneLine_toString_int (n : Int) : OneLine (toString n) := by
  intro h
  rcases isDigit_of_mem_toString h with h | h
  · exact Bool.false_ne_true h
  · simp at h

end

/-- What stands before the first separator is found again. -/
theorem eq_of_append_cons {α : Type*} {separator : α} {a a' b b' : List α} (ha : separator ∉ a)
    (ha' : separator ∉ a') (h : a' ++ separator :: b' = a ++ separator :: b) :
    a' = a ∧ b' = b := by
  induction a generalizing a' with
  | nil =>
    cases a' with
    | nil => exact ⟨rfl, (List.cons.inj h).2⟩
    | cons c a' => exact absurd (.head _) ((List.cons.inj h).1 ▸ ha')
  | cons c a ih =>
    cases a' with
    | nil => exact absurd (.head _) ((List.cons.inj h).1.symm ▸ ha)
    | cons c' a' =>
      obtain ⟨rfl, hrest⟩ := List.cons.inj h
      obtain ⟨rfl, rfl⟩ := ih (fun h => ha (.tail _ h)) (fun h => ha' (.tail _ h)) hrest
      exact ⟨rfl, rfl⟩

namespace Text

theorem not_mem_hexDigits (width n : Nat) : '\n' ∉ hexDigits width n := by
  rw [hexDigits, List.mem_map]
  rintro ⟨i, -, h⟩
  have hdigit : ∀ n < 16, Octets.hexDigit n ≠ '\n' := by decide
  exact hdigit _ (Nat.mod_lt _ (by decide)) h

theorem quoteMark_ne (text : List Char) : quoteMark text ≠ '\n' := by
  rw [quoteMark]
  split <;> decide

/-- A quoted character does not end a line. -/
theorem not_mem_quoteChar {mark : Char} (hmark : mark ≠ '\n') (c : Char) :
    '\n' ∉ quoteChar mark c := by
  simp only [quoteChar]
  split_ifs with hself hend hreturn htab hprintable hnarrow hwide
  · have hc : c ≠ '\n' := by
      rintro rfl
      simp [hmark.symm] at hself
    simp [hc.symm]
  · simp
  · simp
  · simp
  · have hc : c ≠ '\n' := by simpa using hend
    simp [hc.symm]
  · simp [not_mem_hexDigits]
  · simp [not_mem_hexDigits]
  · simp [not_mem_hexDigits]

theorem oneLine_quote (text : String) : OneLine (quote text) := by
  have hmark := quoteMark_ne text.toList
  rw [quote, oneLine_ofList]
  simp only [List.cons_append, List.mem_cons, List.mem_append, List.mem_flatMap, not_or,
    not_exists, not_and, List.not_mem_nil, not_false_iff, and_true]
  exact ⟨hmark.symm, fun c _ => not_mem_quoteChar hmark c, hmark.symm⟩

theorem oneLine_quoteOctets (bytes : Octets) : OneLine (quoteOctets bytes) := by
  have hmark := quoteMark_ne bytes.toLatin
  have hoctet (b : UInt8) : '\n' ∉ quoteOctet (quoteMark bytes.toLatin) b := by
    rw [quoteOctet]
    split
    · simp [not_mem_hexDigits]
    · exact not_mem_quoteChar hmark _
  rw [quoteOctets, oneLine_ofList]
  simp only [List.cons_append, List.mem_cons, List.mem_append, List.mem_flatMap, not_or,
    not_exists, not_and, List.not_mem_nil, not_false_iff, and_true]
  exact ⟨by decide, hmark.symm, fun b _ => hoctet b, hmark.symm⟩

end Text

/-! ## Numbers -/

namespace Binary64

theorem not_mem_digitsOf (n : Nat) : '\n' ∉ digitsOf n := oneLine_toString n

theorem not_mem_shortest (mantissa : Nat) (exponent : Int) :
    '\n' ∉ (shortest mantissa exponent).1 := by
  simp only [shortest, List.mem_reverse]
  exact fun h => not_mem_digitsOf _ (List.mem_reverse.1 ((List.dropWhile_sublist _).mem h))

/-- Where the decimal point goes, and whether there is an exponent, ends no line. -/
theorem not_mem_layOut {digits : List Char} {place : Int} (h : '\n' ∉ digits) :
    '\n' ∉ layOut digits place := by
  have htake (n : Nat) : '\n' ∉ digits.take n := fun hmem => h (List.mem_of_mem_take hmem)
  have hdrop (n : Nat) : '\n' ∉ digits.drop n := fun hmem => h (List.mem_of_mem_drop hmem)
  simp only [layOut]
  split
  · split
    · simp [h]
    · split
      · simp [h]
      · simp [htake, hdrop]
  · have hmark : '\n' ≠ (if place - 1 < 0 then '-' else '+') := by split <;> decide
    have hpower : '\n' ∉ (if (digitsOf (place - 1).natAbs).length < 2 then
        '0' :: digitsOf (place - 1).natAbs else digitsOf (place - 1).natAbs) := by
      split
      · simp [not_mem_digitsOf]
      · exact not_mem_digitsOf _
    rw [List.mem_append, not_or]
    refine ⟨?_, List.not_mem_cons_of_ne_of_not_mem (by decide)
      (List.not_mem_cons_of_ne_of_not_mem hmark hpower)⟩
    split
    · exact h
    · exact h
    · simpa using h

theorem oneLine_text (x : Binary64) : OneLine x.text := by
  cases x with
  | nan => decide
  | infinite negative => cases negative <;> decide
  | finite negative mantissa exponent =>
    have hlayOut : '\n' ∉ layOut (shortest mantissa exponent).1 (shortest mantissa exponent).2 :=
      not_mem_layOut (not_mem_shortest mantissa exponent)
    rw [text, oneLine_ofList]
    simp only
    have hbody : '\n' ∉ (if mantissa = 0 then ['0', '.', '0'] else
        layOut (shortest mantissa exponent).1 (shortest mantissa exponent).2) := by
      split
      · decide
      · exact hlayOut
    split
    · exact List.not_mem_cons_of_ne_of_not_mem (by decide) hbody
    · exact hbody

end Binary64

/-! ## Values -/

namespace Value

theorem oneLine_commaSeparated {parts : List String} (h : ∀ s ∈ parts, OneLine s) :
    OneLine (commaSeparated parts) := by
  fun_induction commaSeparated parts with
  | case1 => decide
  | case2 s => exact h s (.head _)
  | case3 s more _ ih =>
    refine oneLine_append.2 ⟨oneLine_append.2 ⟨h s (.head _), by decide⟩, ?_⟩
    exact ih fun s hs => h s (.tail _ hs)

theorem oneLine_shownDate (d : Date) : OneLine (shownDate d) := by
  refine (oneLine_commaSeparated ?_).between (by decide) (by decide)
  simp only [List.forall_mem_cons, oneLine_toString, true_and]
  exact List.forall_mem_nil _

theorem oneLine_shownOffset (seconds : Int) : OneLine (shownOffset seconds) := by
  rw [shownOffset]
  split
  · decide
  · refine (oneLine_commaSeparated ?_).between (by decide) (by decide)
    have hdays (n : Int) : OneLine ("days=" ++ toString n) :=
      oneLine_append.2 ⟨by decide, oneLine_toString_int n⟩
    have hseconds (n : Int) : OneLine ("seconds=" ++ toString n) :=
      oneLine_append.2 ⟨by decide, oneLine_toString_int n⟩
    intro s hs
    rcases List.mem_append.1 hs with hs | hs
    · split at hs
      · cases hs
      · rw [List.mem_singleton.1 hs]
        exact hdays _
    · split at hs
      · cases hs
      · rw [List.mem_singleton.1 hs]
        exact hseconds _

theorem oneLine_shownMoment (m : Moment) : OneLine (shownMoment m) := by
  refine (oneLine_commaSeparated ?_).between (by decide) (by decide)
  intro s hs
  rcases List.mem_append.1 hs with hs | hs
  · obtain ⟨n, -, rfl⟩ := List.mem_map.1 hs
    exact oneLine_toString n
  · split at hs
    · cases hs
    · rw [List.mem_singleton.1 hs]
      exact oneLine_append.2 ⟨by decide, oneLine_shownOffset _⟩

/-- A tuple of one item is written with a comma behind it. -/
theorem oneLine_wording_tuple {items : List Value} (h : ∀ s ∈ wordings items, OneLine s) :
    OneLine (wording (.tuple items)) := by
  rcases items with _ | ⟨item, _ | ⟨second, more⟩⟩
  · simp only [wording]
    decide
  · simp only [wording]
    exact (h _ (by simp [wordings])).between (by decide) (by decide)
  · simp only [wording]
    exact (oneLine_commaSeparated h).between (by decide) (by decide)

/-- A set without items is written in words. -/
theorem oneLine_wording_set {items : List Value} (h : ∀ s ∈ wordings items, OneLine s) :
    OneLine (wording (.set items)) := by
  cases items with
  | nil =>
    simp only [wording]
    decide
  | cons item more =>
    simp only [wording]
    exact (oneLine_commaSeparated h).between (by decide) (by decide)

mutual

/-- **What is shown of a value stays on one line.** -/
theorem oneLine_wording : (v : Value) → OneLine v.wording
  | .null => by simp only [wording]; decide
  | .bool b => by cases b <;> (simp only [wording]; decide)
  | .int n => by rw [wording]; exact oneLine_toString_int n
  | .float x => by rw [wording]; exact x.oneLine_text
  | .text s => by rw [wording]; exact Text.oneLine_quote s
  | .octets bytes => by rw [wording]; exact Text.oneLine_quoteOctets bytes
  | .list items => by
    rw [wording]
    exact (oneLine_commaSeparated (oneLine_wordings items)).between (by decide) (by decide)
  | .tuple items => oneLine_wording_tuple (oneLine_wordings items)
  | .set items => oneLine_wording_set (oneLine_wordings items)
  | .table entries => by
    rw [wording]
    exact (oneLine_commaSeparated (oneLine_entryWordings entries)).between (by decide) (by decide)
  | .date d => by rw [wording]; exact oneLine_shownDate d
  | .moment m => by rw [wording]; exact oneLine_shownMoment m
  | .sameList => by simp only [wording]; decide
  | .sameTable _ => by simp only [wording]; decide

theorem oneLine_wordings : (items : List Value) → ∀ s ∈ wordings items, OneLine s
  | [] => by simp [wordings]
  | item :: more => by
    rw [wordings, List.forall_mem_cons]
    exact ⟨oneLine_wording item, oneLine_wordings more⟩

theorem oneLine_entryWordings :
    (entries : List (Value × Value)) → ∀ s ∈ entryWordings entries, OneLine s
  | [] => by simp [entryWordings]
  | (key, item) :: more => by
    rw [entryWordings, List.forall_mem_cons]
    have hcolon : OneLine ": " := by decide
    exact ⟨hcolon.between (oneLine_wording key) (oneLine_wording item), oneLine_entryWordings more⟩

end

end Value

end Enrollment
