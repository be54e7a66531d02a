import Enrollment.Der.Element

/-!
# Elements in the basic encoding

The basic encoding writes elements more freely than DER does: a length may take more octets than
it needs, and the length of an element that holds elements may be left open, two zero octets then
stand at its end. `Ber.toDer` writes such an element the one way that DER allows.
-/

namespace Enrollment.Ber

open Der

/-- Whether an element with the identifier octets holds elements. -/
def holdsElements : Octets → Bool
  | b :: _ => b.toNat / 32 % 2 = 1
  | [] => false

/-- Reads the octets of a length that is not left open: the length and the rest of the run. -/
def readLength : Octets → Option (Nat × Octets)
  | [] => none
  | b :: rest =>
    let width := b.toNat - 128
    if b < 128 then some (b.toNat, rest)
    else if 1 ≤ width ∧ width ≤ rest.length then
      some (Octets.toNat (rest.take width), rest.drop width)
    else none

mutual

/-- Takes one element off the front of a run. The fuel bounds how often elements are looked for
on the way. -/
def read : Nat → Octets → Option (Element × Octets)
  | 0, _ => none
  | fuel + 1, bytes => do
    let (identifier, rest) ← readIdentifier bytes
    if rest.head? = some 128 then
      if holdsElements identifier then
        let (parts, rest) ← readOpen fuel rest.tail
        some (⟨identifier, parts.flatMap Element.encode⟩, rest)
      else none
    else
      let (length, rest) ← readLength rest
      let content := rest.take length
      if rest.length < length then none
      else if holdsElements identifier then
        let parts ← readAll fuel content
        some (⟨identifier, parts.flatMap Element.encode⟩, rest.drop length)
      else some (⟨identifier, content⟩, rest.drop length)

/-- Takes elements off the front of a run up to the two zero octets that end an open length. -/
def readOpen : Nat → Octets → Option (List Element × Octets)
  | 0, _ => none
  | _ + 1, 0 :: 0 :: rest => some ([], rest)
  | fuel + 1, bytes => do
    let (e, rest) ← read fuel bytes
    let (more, rest) ← readOpen fuel rest
    some (e :: more, rest)

/-- Reads a run that is nothing but elements. -/
def readAll : Nat → Octets → Option (List Element)
  | _, [] => some []
  | 0, _ :: _ => none
  | fuel + 1, bytes => do
    let (e, rest) ← read fuel bytes
    let more ← readAll fuel rest
    some (e :: more)

end

/-- The element at the front of a run, written as DER writes it. Every look for an element takes
two octets off the run or goes into an element of at least two, so twice their number is enough. -/
def toDer (bytes : Octets) : Option Octets :=
  (read (2 * bytes.length) bytes).map fun (e, _) => e.encode

end Enrollment.Ber
