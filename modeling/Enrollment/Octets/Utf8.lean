import Enrollment.Octets.Basic

/-!
# UTF-8 and its neighbours

Characters are written as one to four octets. A strict reader refuses every run that is not the
spelling of some text; a lenient one puts U+FFFD in place of each longest part that could have
begun a character and did not become one. UTF-16 and UTF-32 serve the two wide string types of
distinguished names.
-/

namespace Enrollment.Octets

/-- The UTF-8 octets of a character. -/
def ofChar (c : Char) : Octets :=
  let n := c.toNat
  if n < 0x80 then [UInt8.ofNat n]
  else if n < 0x800 then [UInt8.ofNat (0xc0 + n / 64), UInt8.ofNat (0x80 + n % 64)]
  else if n < 0x10000 then
    [UInt8.ofNat (0xe0 + n / 4096), UInt8.ofNat (0x80 + n / 64 % 64), UInt8.ofNat (0x80 + n % 64)]
  else
    [UInt8.ofNat (0xf0 + n / 262144), UInt8.ofNat (0x80 + n / 4096 % 64),
      UInt8.ofNat (0x80 + n / 64 % 64), UInt8.ofNat (0x80 + n % 64)]

/-- The UTF-8 octets of a list of characters. -/
def ofChars (text : List Char) : Octets := text.flatMap ofChar

/-- The UTF-8 octets of a text. -/
def ofText (text : String) : Octets := ofChars text.toList

/-- Whether an octet continues a character: `10xxxxxx`. -/
def isContinuation (b : UInt8) : Bool := 0x80 ≤ b && b ≤ 0xbf

/-- Whether `second` may follow `lead` in a character of three octets: nothing longer than it
need be, and no surrogate. -/
def followsThree (lead second : UInt8) : Bool :=
  if lead == 0xe0 then 0xa0 ≤ second && second ≤ 0xbf
  else if lead == 0xed then 0x80 ≤ second && second ≤ 0x9f
  else isContinuation second

/-- Whether `second` may follow `lead` in a character of four octets: nothing longer than it
need be, and nothing above U+10FFFF. -/
def followsFour (lead second : UInt8) : Bool :=
  if lead == 0xf0 then 0x90 ≤ second && second ≤ 0xbf
  else if lead == 0xf4 then 0x80 ≤ second && second ≤ 0x8f
  else isContinuation second

/-- How the front of a run reads: a character of some octets, or the count of octets that
belong to one that never came to be. -/
inductive Utf8Front where
  | char (c : Char) (width : Nat)
  | broken (width : Nat)

/-- Reads the front of a run that begins with `lead`. -/
def utf8Front (lead : UInt8) (rest : Octets) : Utf8Front :=
  let low (b : UInt8) : Nat := b.toNat % 64
  if lead < 0x80 then .char (Char.ofNat lead.toNat) 1
  else if 0xc2 ≤ lead && lead ≤ 0xdf then
    match rest with
    | b :: _ =>
      if isContinuation b then .char (Char.ofNat (lead.toNat % 32 * 64 + low b)) 2 else .broken 1
    | [] => .broken 1
  else if 0xe0 ≤ lead && lead ≤ 0xef then
    match rest with
    | b :: c :: _ =>
      if followsThree lead b then
        if isContinuation c then
          .char (Char.ofNat (lead.toNat % 16 * 4096 + low b * 64 + low c)) 3
        else .broken 2
      else .broken 1
    | [b] => if followsThree lead b then .broken 2 else .broken 1
    | [] => .broken 1
  else if 0xf0 ≤ lead && lead ≤ 0xf4 then
    match rest with
    | b :: c :: d :: _ =>
      if followsFour lead b then
        if isContinuation c then
          if isContinuation d then
            .char (Char.ofNat (lead.toNat % 8 * 262144 + low b * 4096 + low c * 64 + low d)) 4
          else .broken 3
        else .broken 2
      else .broken 1
    | [b, c] => if followsFour lead b then (if isContinuation c then .broken 3 else .broken 2)
        else .broken 1
    | [b] => if followsFour lead b then .broken 2 else .broken 1
    | [] => .broken 1
  else .broken 1

/-- The characters of a run; `skip` octets of it belong to the character before. -/
def utf8CharsFrom : Nat → Octets → Option (List Char)
  | _, [] => some []
  | skip + 1, _ :: rest => utf8CharsFrom skip rest
  | 0, b :: rest =>
    match utf8Front b rest with
    | .char c width => (utf8CharsFrom (width - 1) rest).map (c :: ·)
    | .broken _ => none

/-- The text that the octets spell, if they are the spelling of one. -/
def utf8Chars? (bytes : Octets) : Option (List Char) := utf8CharsFrom 0 bytes

/-- The text that the octets spell, if they are the spelling of one. -/
def utf8? (bytes : Octets) : Option String := (utf8Chars? bytes).map String.ofList

/-- As `utf8CharsFrom`, with U+FFFD for what does not read. -/
def utf8LenientFrom : Nat → Octets → List Char
  | _, [] => []
  | skip + 1, _ :: rest => utf8LenientFrom skip rest
  | 0, b :: rest =>
    match utf8Front b rest with
    | .char c width => c :: utf8LenientFrom (width - 1) rest
    | .broken width => '\uFFFD' :: utf8LenientFrom (width - 1) rest

/-- The text of the octets, with U+FFFD for each part that spells nothing. -/
def utf8Lenient (bytes : Octets) : List Char := utf8LenientFrom 0 bytes

/-- The text of ASCII octets, with U+FFFD for each octet above 127. -/
def asciiLenient (bytes : Octets) : List Char :=
  bytes.map fun b => if b < 0x80 then Char.ofNat b.toNat else '\uFFFD'

/-- The character with a code point, if there is one: surrogates have none. -/
def charAt? (n : Nat) : Option Char := if n.isValidChar then some (Char.ofNat n) else none

/-- The text that pairs of octets spell in UTF-16, high octet first. -/
def utf16Chars? : Octets → Option (List Char)
  | [] => some []
  | [_] => none
  | a :: b :: rest =>
    let unit := a.toNat * 256 + b.toNat
    if 0xd800 ≤ unit && unit < 0xdc00 then
      match rest with
      | c :: d :: rest =>
        let low := c.toNat * 256 + d.toNat
        if 0xdc00 ≤ low && low < 0xe000 then
          (utf16Chars? rest).map
            (Char.ofNat (0x10000 + (unit - 0xd800) * 1024 + (low - 0xdc00)) :: ·)
        else none
      | _ => none
    else match charAt? unit with
      | some c => (utf16Chars? rest).map (c :: ·)
      | none => none

/-- The UTF-16 octets of a character, high octet first: one unit of 16 bits, or two surrogates. -/
def utf16OfChar (c : Char) : Octets :=
  let n := c.toNat
  if n < 0x10000 then ofNatWidth 2 n
  else ofNatWidth 2 (0xd800 + (n - 0x10000) / 1024) ++ ofNatWidth 2 (0xdc00 + (n - 0x10000) % 1024)

/-- The UTF-16 octets of a list of characters. -/
def utf16OfChars (text : List Char) : Octets := text.flatMap utf16OfChar

/-- The text that groups of four octets spell in UTF-32, high octet first. -/
def utf32Chars? : Octets → Option (List Char)
  | [] => some []
  | a :: b :: c :: d :: rest =>
    match charAt? (((a.toNat * 256 + b.toNat) * 256 + c.toNat) * 256 + d.toNat) with
    | some x => (utf32Chars? rest).map (x :: ·)
    | none => none
  | _ => none

/-- The UTF-32 octets of a list of characters, high octet first. -/
def utf32OfChars (text : List Char) : Octets := text.flatMap fun c => ofNatWidth 4 c.toNat

end Enrollment.Octets
