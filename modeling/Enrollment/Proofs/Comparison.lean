import Enrollment.Value

/-!
# Comparing values

Whether two values are the same can be computed, so statements about concrete data can be checked
by evaluation.
-/

namespace Enrollment.Value

mutual

/-- Whether two values are the same. -/
def same : Value → Value → Bool
  | .null, .null => true
  | .bool a, .bool b => a == b
  | .int a, .int b => a == b
  | .float a, .float b => a == b
  | .text a, .text b => a == b
  | .octets a, .octets b => a == b
  | .list a, .list b => sameAll a b
  | .tuple a, .tuple b => sameAll a b
  | .set a, .set b => sameAll a b
  | .table a, .table b => sameEntries a b
  | .date a, .date b => a == b
  | .moment a, .moment b => a == b
  | .sameList, .sameList => true
  | .sameTable a, .sameTable b => sameEntries a b
  | _, _ => false

/-- Whether two lists have the same values. -/
def sameAll : List Value → List Value → Bool
  | [], [] => true
  | a :: as, b :: bs => same a b && sameAll as bs
  | _, _ => false

/-- Whether two tables have the same entries. -/
def sameEntries : List (Value × Value) → List (Value × Value) → Bool
  | [], [] => true
  | (k, a) :: as, (l, b) :: bs => same k l && same a b && sameEntries as bs
  | _, _ => false

end

mutual

theorem same_iff : (v w : Value) → (v.same w = true ↔ v = w)
  | .list a, w => by
    cases w with
    | list b => simp [same, sameAll_iff a b]
    | _ => simp [same]
  | .tuple a, w => by
    cases w with
    | tuple b => simp [same, sameAll_iff a b]
    | _ => simp [same]
  | .set a, w => by
    cases w with
    | set b => simp [same, sameAll_iff a b]
    | _ => simp [same]
  | .table a, w => by
    cases w with
    | table b => simp [same, sameEntries_iff a b]
    | _ => simp [same]
  | .sameTable a, w => by
    cases w with
    | sameTable b => simp [same, sameEntries_iff a b]
    | _ => simp [same]
  | .null, w => by cases w <;> simp [same]
  | .bool a, w => by cases w <;> simp [same]
  | .int a, w => by cases w <;> simp [same]
  | .float a, w => by cases w <;> simp [same]
  | .text a, w => by cases w <;> simp [same]
  | .octets a, w => by cases w <;> simp [same]
  | .date a, w => by cases w <;> simp [same]
  | .moment a, w => by cases w <;> simp [same]
  | .sameList, w => by cases w <;> simp [same]

theorem sameAll_iff : (a b : List Value) → (sameAll a b = true ↔ a = b)
  | [], b => by cases b <;> simp [sameAll]
  | x :: xs, b => by
    cases b with
    | nil => simp [sameAll]
    | cons y ys => simp [sameAll, same_iff x y, sameAll_iff xs ys]

theorem sameEntries_iff : (a b : List (Value × Value)) → (sameEntries a b = true ↔ a = b)
  | [], b => by cases b <;> simp [sameEntries]
  | (k, x) :: xs, b => by
    cases b with
    | nil => simp [sameEntries]
    | cons entry ys =>
      simp [sameEntries, same_iff k entry.1, same_iff x entry.2, sameEntries_iff xs ys,
        Prod.ext_iff]

end

instance : DecidableEq Value := fun v w => decidable_of_iff _ (same_iff v w)

end Enrollment.Value
