/-!
# Octets

A run of octets is a list of 8-bit words. This module holds the operations that every format
below is written with: trimming, searching for a marker, reading a big-endian number and
writing one back.
-/

namespace Enrollment

/-- A run of octets, most significant first wherever it stands for a number. -/
abbrev Octets := List UInt8

namespace Octets

/-- The octets of a text that holds only ASCII characters. -/
def ofAscii (text : String) : Octets := text.toList.map fun c => UInt8.ofNat c.toNat

/-- The characters with the code points that the octets spell, one for one. -/
def toLatin (bytes : Octets) : List Char := bytes.map fun b => Char.ofNat b.toNat

/-- The run without the octets at its end that satisfy `p`. -/
def dropTrailing (p : UInt8 → Bool) (bytes : Octets) : Octets :=
  (bytes.reverse.dropWhile p).reverse

/-- The run without the NUL octets at its end. -/
def dropTrailingNul (bytes : Octets) : Octets := dropTrailing (· == 0) bytes

/-- The white space of octet strings: tab, line feed, vertical tab, form feed, carriage return
and space. -/
def isSpace (b : UInt8) : Bool := b == 32 || (9 ≤ b && b ≤ 13)

/-- Whether the run holds nothing but white space. -/
def isBlank (bytes : Octets) : Bool := bytes.all isSpace

/-- The run without its white space. -/
def dropSpaces (bytes : Octets) : Octets := bytes.filter fun b => !isSpace b

/-- Cuts before the first place where `marker` stands: what comes before it, and the run from
the marker on. -/
def breakAt (marker : Octets) : Octets → Option (Octets × Octets)
  | [] => if marker.isPrefixOf [] then some ([], []) else none
  | b :: rest =>
    if marker.isPrefixOf (b :: rest) then some ([], b :: rest)
    else (breakAt marker rest).map fun (before, from_) => (b :: before, from_)

/-- The number that the octets spell, most significant first. -/
def toNat (bytes : Octets) : Nat := bytes.foldl (fun n b => n * 256 + b.toNat) 0

/-- The number that the octets spell, least significant first. -/
def toNatLittle (bytes : Octets) : Nat := toNat bytes.reverse

/-- The `width` lowest octets of a number, least significant first. -/
def ofNatLittle : Nat → Nat → Octets
  | 0, _ => []
  | width + 1, n => UInt8.ofNat (n % 256) :: ofNatLittle width (n / 256)

/-- The `width` lowest octets of a number, most significant first. -/
def ofNatWidth (width n : Nat) : Octets := (ofNatLittle width n).reverse

/-- How many octets it takes to spell a number; none for zero. -/
def widthOf (n : Nat) : Nat := if n = 0 then 0 else Nat.log2 n / 8 + 1

/-- The shortest spelling of a number; empty for zero. -/
def ofNat (n : Nat) : Octets := ofNatWidth (widthOf n) n

/-- The lower-case hexadecimal digit of a number below sixteen. -/
def hexDigit (n : Nat) : Char :=
  Char.ofNat (if n < 10 then 48 + n else 87 + n)

/-- Two lower-case hexadecimal digits for each octet. -/
def toHex (bytes : Octets) : String :=
  String.ofList (bytes.flatMap fun b => [hexDigit (b.toNat / 16), hexDigit (b.toNat % 16)])

/-- Dictionary order, in which a proper beginning comes first. -/
def lexLe : Octets → Octets → Bool
  | [], _ => true
  | _ :: _, [] => false
  | a :: as, b :: bs => if a < b then true else if b < a then false else lexLe as bs

/-- Cuts a run into pieces of `width` octets, the last one possibly shorter. -/
def chunks (width : Nat) (bytes : Octets) : List Octets :=
  go bytes.length bytes
where
  /-- At most `fuel` pieces; a run of `fuel` octets never has more of them. -/
  go : Nat → Octets → List Octets
    | _, [] => []
    | 0, rest => [rest]
    | fuel + 1, rest => rest.take width :: go fuel (rest.drop width)

end Octets

end Enrollment
