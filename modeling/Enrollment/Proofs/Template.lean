import Enrollment.Proofs.Except
import Enrollment.Text.Template
import Mathlib.Data.List.Basic

/-!
# Plain templates

A template is plain if there are no braces in it but those of places without a name, a conversion
and a form. Its places take the values one after the other, and each shows its value as running
text. So filling it in fails for no values that can be written down (`Template.fill_plain`).
-/

namespace Enrollment

/-- Without a form a value is shown as running text. -/
theorem Value.layOut_nil {v : Value} (h : v.isWritable) : v.layOut [] = .ok v.asText.toList :=
  if_pos h

namespace Template

/-- Whether there is no brace in a text. -/
def IsBraceless (text : List Char) : Prop := ∀ c ∈ text, c ≠ '\x7b' ∧ c ≠ '\x7d'

instance (text : List Char) : Decidable (IsBraceless text) :=
  inferInstanceAs (Decidable (∀ c ∈ text, c ≠ '\x7b' ∧ c ≠ '\x7d'))

/-- The template that has a plain place after each of some texts, and one more text at its end. -/
def plain : List (List Char × Value) → List Char → List Char
  | [], last => last
  | (front, _) :: more, last => front ++ '\x7b' :: '\x7d' :: plain more last

/-- That template with the values in its places. -/
def plainText : List (List Char × Value) → List Char → List Char
  | [], last => last
  | (front, v) :: more, last => front ++ (v.asText.toList ++ plainText more last)

/-- How places are numbered after some that numbered themselves. -/
def Numbering.after : Nat → Numbering
  | 0 => .fresh
  | n + 1 => .automatic (n + 1)

section
variable {ν : Type} {put : Putter ν} {state : ν} {fuel : Nat} {front rest : List Char}

/-- Letters stay as they are. -/
theorem fillFrom_append (h : IsBraceless front) :
    fillFrom put (front.length + fuel) state (front ++ rest) =
      (fillFrom put fuel state rest).map fun (text, state) => (front ++ text, state) := by
  induction front with
  | nil =>
    rw [List.length_nil, Nat.zero_add, List.nil_append]
    cases fillFrom put fuel state rest <;> rfl
  | cons c front ih =>
    obtain ⟨hc, hfront⟩ := List.forall_mem_cons.1 h
    rw [List.length_cons, Nat.add_right_comm, List.cons_append, fillFrom, if_pos hc, ih hfront]
    cases fillFrom put fuel state rest <;> rfl

/-- A plain place becomes what is put there. -/
theorem fillFrom_place : fillFrom put (fuel + 1) state ('\x7b' :: '\x7d' :: rest) =
    put state ⟨[], none, []⟩ >>= fun (front, state) =>
      (fillFrom put fuel state rest).map fun (text, state) => (front ++ text, state) := by
  have hplace : takePlace ('\x7d' :: rest) = .ok (⟨[], none, []⟩, rest) := rfl
  rw [fillFrom, if_neg (by decide), if_neg (by simp), if_neg (by simp), hplace]
  simp only [bind, Except.bind]
  cases put state ⟨[], none, []⟩ with
  | error fault => rfl
  | ok laid =>
    simp only
    cases fillFrom put fuel laid.2 rest <;> rfl

theorem fillFrom_nil : fillFrom put fuel state [] = .ok ([], state) := by
  cases fuel <;> rfl

end

section
variable {inside : Filler Numbering} {values before : List Value} {v : Value}
  {pieces : List (List Char × Value)} {last : List Char}

/-- A plain place takes the next value. -/
theorem find_after (n : Nat) : find values (.after n) [] =
    match values[n]? with
    | none => .error (.noValue n)
    | some v => .ok (v, .after (n + 1)) := by
  have hnext : (Numbering.after n).next [] = .ok (n, .after (n + 1)) := by cases n <;> rfl
  change ((Numbering.after n).next [] >>= _) = _
  simp only [hnext, bind, Except.bind]
  cases values[n]? <;> rfl

theorem putNumbered_plain {n : Nat} (hvalue : values[n]? = some v) (h : v.isWritable) :
    putNumbered values inside (.after n) ⟨[], none, []⟩ =
      .ok (v.asText.toList, .after (n + 1)) := by
  have hinside : fillInside inside (.after (n + 1)) ⟨[], none, []⟩ = .ok ([], .after (n + 1)) := rfl
  simp only [putNumbered, find_after, hvalue, bind, Except.bind, convert, hinside,
    Value.layOut_nil h]
  rfl

/-- The places from here on take the values from here on. -/
theorem fillFrom_plain (hpieces : ∀ p ∈ pieces, IsBraceless p.1 ∧ p.2.isWritable)
    (hlast : IsBraceless last) {fuel : Nat} (hfuel : (plain pieces last).length ≤ fuel) :
    fillFrom (putNumbered (before ++ pieces.map Prod.snd) inside) fuel (.after before.length)
        (plain pieces last) =
      .ok (plainText pieces last, .after (before.length + pieces.length)) := by
  induction pieces generalizing before fuel with
  | nil =>
    obtain ⟨more, rfl⟩ := Nat.exists_eq_add_of_le hfuel
    have hfilled : fillFrom (putNumbered before inside) (last.length + more)
        (.after before.length) (last ++ []) = _ := fillFrom_append hlast
    simp only [fillFrom_nil, Except.map, List.append_nil] at hfilled
    rw [List.map_nil, List.append_nil]
    exact hfilled
  | cons piece pieces ih =>
    obtain ⟨front, v⟩ := piece
    obtain ⟨⟨hfront, hv⟩, hpieces⟩ := List.forall_mem_cons.1 hpieces
    rw [plain, List.length_append, List.length_cons, List.length_cons] at hfuel
    obtain ⟨more, rfl⟩ := Nat.exists_eq_add_of_le hfuel
    have hvalue : (before ++ ((front, v) :: pieces).map Prod.snd)[before.length]? = some v := by
      simp
    have hrest : fillFrom (putNumbered (before ++ ((front, v) :: pieces).map Prod.snd) inside)
        ((plain pieces last).length + 1 + more) (.after (before.length + 1)) (plain pieces last) =
          .ok (plainText pieces last, .after (before.length + (pieces.length + 1))) := by
      have h := @ih (before ++ [v]) hpieces ((plain pieces last).length + 1 + more) (by omega)
      rwa [List.append_assoc, List.length_append, List.length_singleton,
        Nat.add_assoc before.length, Nat.add_comm 1 pieces.length] at h
    rw [plain, Nat.add_assoc, fillFrom_append hfront, Nat.add_right_comm _ 1 more, fillFrom_place,
      putNumbered_plain hvalue hv]
    simp only [bind, Except.bind, hrest]
    rfl

/-- **A plain template is filled in with the values, in their order.** -/
theorem fill_plain (hpieces : ∀ p ∈ pieces, IsBraceless p.1 ∧ p.2.isWritable)
    (hlast : IsBraceless last) :
    fill (String.ofList (plain pieces last)) (pieces.map Prod.snd) =
      .ok (String.ofList (plainText pieces last)) := by
  let inside : Filler Numbering := fun state form =>
    fillFrom (putNumbered (pieces.map Prod.snd) fun _ _ => .error .tooDeep) form.length state form
  have hfilled : fillFrom (putNumbered ([] ++ pieces.map Prod.snd) inside)
      (plain pieces last).length (.after ([] : List Value).length) (plain pieces last) = _ :=
    fillFrom_plain hpieces hlast (Nat.le_refl _)
  rw [fill, fillWith, String.toList_ofList]
  exact congrArg (fun r => (r.map Prod.fst).map String.ofList) hfilled

end

end Template

end Enrollment
