import Enrollment.Octets.Basic

/-!
# Base64

`encode` writes three octets as four characters of a 64-letter alphabet and fills the last group
with `=`. Three readers stand beside it. `canonical?` takes exactly what `encode` writes. `read`
takes characters one after the other and gives the octets gathered so far; it is strict, and then
names what it refuses, or lenient, and then steps over every character that is not in the
alphabet.
-/

namespace Enrollment.Base64

/-- The character of a six-bit number. -/
def digit (n : Nat) : UInt8 :=
  UInt8.ofNat <|
    if n < 26 then 65 + n else if n < 52 then 71 + n else if n < 62 then n - 4
    else if n = 62 then 43 else 47

/-- The six-bit number of a character. -/
def value? (b : UInt8) : Option Nat :=
  let n := b.toNat
  if 65 ≤ n ∧ n ≤ 90 then some (n - 65)
  else if 97 ≤ n ∧ n ≤ 122 then some (n - 71)
  else if 48 ≤ n ∧ n ≤ 57 then some (n + 4)
  else if n = 43 then some 62
  else if n = 47 then some 63
  else none

/-- The fill character `=`. -/
def pad : UInt8 := 61

/-- Four characters for each three octets; a short last group is filled up. -/
def encode : Octets → Octets
  | [] => []
  | [a] => [digit (a.toNat / 4), digit (a.toNat % 4 * 16), pad, pad]
  | [a, b] =>
    [digit (a.toNat / 4), digit (a.toNat % 4 * 16 + b.toNat / 16), digit (b.toNat % 16 * 4), pad]
  | a :: b :: c :: rest =>
    digit (a.toNat / 4) :: digit (a.toNat % 4 * 16 + b.toNat / 16) ::
      digit (b.toNat % 16 * 4 + c.toNat / 64) :: digit (c.toNat % 64) :: encode rest

/-- Reads what `encode` writes and nothing else: whole groups, fill only in the last one, and no
bit set that the fill leaves over. -/
def canonical? : Octets → Option Octets
  | [] => some []
  | a :: b :: c :: d :: rest => do
    let x ← value? a
    let y ← value? b
    if c == pad then
      if d == pad && rest.isEmpty && y % 16 == 0 then some [UInt8.ofNat (x * 4 + y / 16)] else none
    else
      let z ← value? c
      if d == pad then
        if rest.isEmpty && z % 4 == 0 then
          some [UInt8.ofNat (x * 4 + y / 16), UInt8.ofNat (y % 16 * 16 + z / 4)]
        else none
      else
        let w ← value? d
        let more ← canonical? rest
        some (UInt8.ofNat (x * 4 + y / 16) :: UInt8.ofNat (y % 16 * 16 + z / 4) ::
          UInt8.ofNat (z % 4 * 64 + w) :: more)
  | _ => none

/-- Why a text is not the base64 spelling of octets. -/
inductive Fault where
  | notAscii
  | leadingPadding
  | foreignCharacter
  | excessData
  | paddingInside
  | paddingMissing
  /-- One character more than whole groups; the argument counts all of them. -/
  | loneCharacter (count : Nat)
deriving DecidableEq, Repr

/-- The wording of a refusal. -/
def Fault.message : Fault → String
  | .notAscii => "string argument should contain only ASCII characters"
  | .leadingPadding => "Leading padding not allowed"
  | .foreignCharacter => "Only base64 data is allowed"
  | .excessData => "Excess data after padding"
  | .paddingInside => "Discontinuous padding not allowed"
  | .paddingMissing => "Incorrect padding"
  | .loneCharacter count =>
    "Invalid base64-encoded string: number of data characters (" ++ toString count ++
      ") cannot be 1 more than a multiple of 4"

/-- Where a reader stands: the characters seen of the current group, the bits of the last one
that no octet has taken yet, the fills seen since, whether any fill was seen at all, and how many
octets are done. -/
structure Progress where
  place : Nat := 0
  bits : Nat := 0
  fills : Nat := 0
  filled : Bool := false
  done : Nat := 0

/-- Reads the rest of a text from where the reader stands. -/
def readFrom (strict : Bool) : Progress → Octets → Except Fault Octets
  | p, [] =>
    if p.place = 0 then .ok []
    else if p.place = 1 then .error (.loneCharacter (p.done / 3 * 4 + 1))
    else .error .paddingMissing
  | p, b :: rest =>
    if b == pad then
      if 2 ≤ p.place ∧ 4 ≤ p.place + (p.fills + 1) then
        if strict && !rest.isEmpty then .error .excessData else .ok []
      else
        readFrom strict
          { p with fills := if 2 ≤ p.place then p.fills + 1 else p.fills, filled := true } rest
    else match value? b with
      | none => if strict then .error .foreignCharacter else readFrom strict p rest
      | some v =>
        if strict && p.filled then .error .paddingInside
        else match p.place with
          | 0 => readFrom strict { p with place := 1, bits := v, fills := 0 } rest
          | 1 => (readFrom strict
              { p with place := 2, bits := v % 16, fills := 0, done := p.done + 1 } rest).map
                (UInt8.ofNat (p.bits * 4 + v / 16) :: ·)
          | 2 => (readFrom strict
              { p with place := 3, bits := v % 4, fills := 0, done := p.done + 1 } rest).map
                (UInt8.ofNat (p.bits * 16 + v / 4) :: ·)
          | _ => (readFrom strict
              { p with place := 0, bits := 0, fills := 0, done := p.done + 1 } rest).map
                (UInt8.ofNat (p.bits * 64 + v) :: ·)

/-- Reads a text that may hold nothing but base64. -/
def readStrict (text : Octets) : Except Fault Octets :=
  if text.head? == some pad then .error .leadingPadding else readFrom true {} text

/-- Reads a text and steps over all that is not base64 in it. -/
def readLenient (text : Octets) : Except Fault Octets := readFrom false {} text

/-- As `readStrict`, for characters; those above U+007F are refused before anything else. -/
def readChars (text : List Char) : Except Fault Octets :=
  if text.all (·.toNat < 128) then readStrict (text.map fun c => UInt8.ofNat c.toNat)
  else .error .notAscii

end Enrollment.Base64
