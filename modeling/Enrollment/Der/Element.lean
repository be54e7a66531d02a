import Enrollment.Octets.Basic

/-!
# DER elements

Every DER value is an element: identifier octets, a length, and so many content octets. The
length is always definite and in its shortest form. `Element.read` takes one element off the
front of a run, `Element.encode` writes one down, and `Element.readAll` reads a run that is
nothing but elements.
-/

namespace Enrollment.Der

/-- One tag-length-value element. The identifier octets are kept as they are written. -/
structure Element where
  identifier : Octets
  content : Octets
deriving DecidableEq, Repr, Inhabited

/-- The length octets of an element: one octet below 128, otherwise a count of octets and the
shortest big-endian number. -/
def lengthOctets (n : Nat) : Octets :=
  if n < 128 then [UInt8.ofNat n]
  else UInt8.ofNat (128 + Octets.widthOf n) :: Octets.ofNat n

/-- Reads length octets: the length and the rest of the run. At most four octets hold it. -/
def readLength : Octets → Option (Nat × Octets)
  | [] => none
  | b :: rest =>
    let n := b.toNat
    if n < 128 then some (n, rest)
    else
      let width := n - 128
      let length := Octets.toNat (rest.take width)
      if 1 ≤ width ∧ width ≤ 4 ∧ width ≤ rest.length ∧ 128 ≤ length ∧
          Octets.widthOf length = width then
        some (length, rest.drop width)
      else none

/-- Reads the further octets of a tag number that is written in base 128: the octets up to the
first below 128. -/
def readTagNumber : Octets → Option (Octets × Octets)
  | [] => none
  | b :: rest =>
    if b < 128 then some ([b], rest)
    else (readTagNumber rest).map fun (more, rest) => (b :: more, rest)

/-- Reads identifier octets. A tag number from 31 on takes several of them, without a leading
zero digit. -/
def readIdentifier : Octets → Option (Octets × Octets)
  | [] => none
  | b :: rest =>
    if b.toNat % 32 < 31 then some ([b], rest)
    else
      match readTagNumber rest with
      | none => none
      | some (number, rest) =>
        if number.head? == some 128 || number.length > 4 then none
        else if number.length == 1 && number.all (· < 31) then none
        else some (b :: number, rest)

namespace Element

/-- The octets of an element. -/
def encode (e : Element) : Octets := e.identifier ++ lengthOctets e.content.length ++ e.content

/-- Takes one element off the front of a run. -/
def read (bytes : Octets) : Option (Element × Octets) := do
  let (identifier, rest) ← readIdentifier bytes
  let (length, rest) ← readLength rest
  if length ≤ rest.length then some (⟨identifier, rest.take length⟩, rest.drop length) else none

/-- Reads at most `fuel` elements, up to the end of the run. -/
def readMany : Nat → Octets → Option (List Element)
  | _, [] => some []
  | 0, _ :: _ => none
  | fuel + 1, bytes =>
    match read bytes with
    | none => none
    | some (e, rest) => (readMany fuel rest).map (e :: ·)

/-- Reads a run that is nothing but elements. Each takes at least two octets, so the length of
the run bounds their number. -/
def readAll (bytes : Octets) : Option (List Element) := readMany bytes.length bytes

/-- Reads a run that is one element. -/
def readOne (bytes : Octets) : Option Element :=
  match read bytes with
  | some (e, []) => some e
  | _ => none

/-- An element with a one-octet identifier. -/
def make (identifier : UInt8) (content : Octets) : Element := ⟨[identifier], content⟩

/-- Whether the element has the given one-octet identifier. -/
def hasTag (tag : UInt8) (e : Element) : Bool := e.identifier == [tag]

/-- The content of an element with the given one-octet identifier. -/
def contentOf? (tag : UInt8) (e : Element) : Option Octets :=
  if e.hasTag tag then some e.content else none

/-- The elements inside an element with the given one-octet identifier. -/
def partsOf? (tag : UInt8) (e : Element) : Option (List Element) :=
  if e.hasTag tag then readAll e.content else none

end Element

/-! ## The identifiers in use -/

def tagBoolean : UInt8 := 0x01
def tagInteger : UInt8 := 0x02
def tagBitString : UInt8 := 0x03
def tagOctetString : UInt8 := 0x04
def tagNull : UInt8 := 0x05
def tagOid : UInt8 := 0x06
def tagUtf8String : UInt8 := 0x0c
def tagPrintableString : UInt8 := 0x13
def tagUtcTime : UInt8 := 0x17
def tagGeneralizedTime : UInt8 := 0x18
def tagUniversalString : UInt8 := 0x1c
def tagBmpString : UInt8 := 0x1e
def tagSequence : UInt8 := 0x30
def tagSet : UInt8 := 0x31

/-- The identifier of a context-specific element that holds elements. -/
def tagContext (n : UInt8) : UInt8 := 0xa0 + n

/-- The identifier of a context-specific element that holds octets. -/
def tagContextPrimitive (n : UInt8) : UInt8 := 0x80 + n

/-- A sequence of encoded elements. -/
def sequence (parts : List Octets) : Octets := (Element.make tagSequence parts.flatten).encode

/-- An element with a one-octet identifier, encoded. -/
def wrap (tag : UInt8) (content : Octets) : Octets := (Element.make tag content).encode

end Enrollment.Der
