import Enrollment.Calendar
import Enrollment.Der.Element

/-!
# Primitive DER values

Integers in shortest two's complement, booleans, bit strings, object identifiers and the two
kinds of time. Readers take the content of an element and refuse every form but the shortest.
-/

namespace Enrollment.Der

/-! ## Integers -/

/-- Whether content octets are a shortest two's complement number: not empty, and the first nine
bits not all alike. -/
def isShortestInteger : Octets → Bool
  | [] => false
  | [_] => true
  | a :: b :: _ => !(a == 0 && b < 128) && !(a == 255 && 128 ≤ b)

/-- The number of an INTEGER's content. -/
def integer? (content : Octets) : Option Int :=
  if isShortestInteger content then
    let n := Octets.toNat content
    match content with
    | b :: _ =>
      some (if b < 128 then (n : Int) else (n : Int) - (Nat.pow 2 (8 * content.length) : Nat))
    | [] => none
  else none

/-- The number of an INTEGER's content, if it is not negative. -/
def natural? (content : Octets) : Option Nat :=
  match integer? content with
  | some (.ofNat n) => some n
  | _ => none

/-- The content of an INTEGER that is not negative: a zero octet in front keeps the sign bit
clear. -/
def naturalContent (n : Nat) : Octets :=
  let bytes := Octets.ofNat n
  match bytes with
  | [] => [0]
  | b :: _ => if b < 128 then bytes else 0 :: bytes

/-- An INTEGER that is not negative, encoded. -/
def natural (n : Nat) : Octets := wrap tagInteger (naturalContent n)

/-! ## Booleans, bit strings, nothing -/

/-- The truth value of a BOOLEAN's content. -/
def boolean? : Octets → Option Bool
  | [0] => some false
  | [255] => some true
  | _ => none

/-- The octets of a BIT STRING's content; the unused bits at its end are fewer than eight and
zero. -/
def bitString? : Octets → Option (Nat × Octets)
  | [] => none
  | unused :: bytes =>
    if unused = 0 then some (0, bytes)
    else if 7 < unused then none
    else match bytes.getLast? with
      | none => none
      | some last =>
        if last.toNat % Nat.pow 2 unused.toNat = 0 then some (unused.toNat, bytes) else none

/-- A BIT STRING of whole octets, encoded. -/
def bitString (bytes : Octets) : Octets := wrap tagBitString (0 :: bytes)

/-- NULL, encoded. -/
def null : Octets := wrap tagNull []

/-! ## Object identifiers -/

/-- Reads digits in base 128 into arcs. `digits` counts those of the arc at hand. -/
def arcsFrom : Nat → Nat → Octets → Option (List Nat)
  | 0, _, [] => some []
  | _ + 1, _, [] => none
  | digits, n, b :: rest =>
    if digits = 0 ∧ b = 128 then none
    else if 19 ≤ digits then none
    else if b < 128 then (arcsFrom 0 0 rest).map ((n * 128 + b.toNat) :: ·)
    else arcsFrom (digits + 1) (n * 128 + (b.toNat - 128)) rest

/-- The arcs of an OBJECT IDENTIFIER's content; the first two share a number. -/
def arcs? (content : Octets) : Option (List Nat) :=
  if content.isEmpty || 63 < content.length then none
  else match arcsFrom 0 0 content with
    | some (first :: more) =>
      some (if first < 40 then 0 :: first :: more
        else if first < 80 then 1 :: (first - 40) :: more
        else 2 :: (first - 80) :: more)
    | _ => none

/-- An object identifier: the content octets of its encoding. -/
abbrev Oid := Octets

/-- Whether content octets are an object identifier. -/
def isOid (content : Octets) : Bool := (arcs? content).isSome

/-- An object identifier with dots between its arcs. -/
def dotted (oid : Oid) : String :=
  String.intercalate "." (((arcs? oid).getD []).map toString)

/-- An object identifier, encoded. -/
def oid (content : Oid) : Octets := wrap tagOid content

/-! ## Time -/

/-- The number of a run of ASCII digits. -/
def digits? (bytes : Octets) : Option Nat :=
  if bytes.all fun b => 48 ≤ b && b ≤ 57 then
    some (bytes.foldl (fun n b => n * 10 + (b.toNat - 48)) 0)
  else none

/-- The moment of a year and the ten digits for month, day, hour, minute and second, which a `Z`
follows. -/
def clock? (year : Nat) (bytes : Octets) : Option Moment := do
  if bytes.length ≠ 11 ∨ bytes.getLast? ≠ some 90 then none
  let month ← digits? (bytes.take 2)
  let day ← digits? ((bytes.drop 2).take 2)
  let hour ← digits? ((bytes.drop 4).take 2)
  let minute ← digits? ((bytes.drop 6).take 2)
  let second ← digits? ((bytes.drop 8).take 2)
  let m : Moment := ⟨⟨year, month, day⟩, hour, minute, second, 0, some 0⟩
  if m.date.isDay && m.isTime then some m else none

/-- The moment of a UTCTime or GeneralizedTime. Two-digit years from 50 on belong to the
twentieth century. -/
def time? (e : Element) : Option Moment :=
  if e.hasTag tagUtcTime then do
    let year ← digits? (e.content.take 2)
    clock? (if 50 ≤ year then 1900 + year else 2000 + year) (e.content.drop 2)
  else if e.hasTag tagGeneralizedTime then do
    let year ← digits? (e.content.take 4)
    clock? year (e.content.drop 4)
  else none

end Enrollment.Der
