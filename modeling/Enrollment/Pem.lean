import Enrollment.Octets.Base64
import Enrollment.Octets.Utf8
import Enrollment.Text.Blank

/-!
# PEM sections

A section is a label, optional headers and octets in base64 between a BEGIN and an END line.
`Section.encode` writes one with 64 characters to the line. `sections?` reads all sections of a
run and fails if any of them is not well formed; what stands between sections does not matter.
-/

namespace Enrollment.Pem

/-- A section: its label, its headers and its octets. -/
structure Section where
  label : Octets
  headers : List (String × String) := []
  data : Octets
deriving DecidableEq, Repr, Inhabited

/-- Five hyphens. -/
def dashes : Octets := Octets.ofAscii "-----"

/-- What opens the BEGIN line before the label. -/
def beginMark : Octets := Octets.ofAscii "-----BEGIN "

/-- What opens the END line before the label. -/
def endMark : Octets := Octets.ofAscii "-----END "

/-- How many characters of base64 stand on a line. -/
def lineWidth : Nat := 64

/-- The BEGIN line of a label. -/
def beginLine (label : Octets) : Octets := beginMark ++ label ++ dashes

/-- The END line of a label. -/
def endLine (label : Octets) : Octets := endMark ++ label ++ dashes

/-- Lines, each with a line feed at its end. -/
def ofLines (lines : List Octets) : Octets := lines.flatMap (· ++ [10])

/-- Octets as a section without headers. -/
def encode (label data : Octets) : Octets :=
  ofLines (beginLine label :: (Base64.encode data).chunks lineWidth ++ [endLine label])

/-! ## Reading -/

/-- Looks for `marker` from left to right, where `pending` is what is left of it. An octet that
breaks a match off begins no new one. Gives what was passed over, marker included, and the
rest. -/
def seekFrom (marker : Octets) : Octets → Octets → Option (Octets × Octets)
  | [], rest => some ([], rest)
  | _ :: _, [] => none
  | p :: pending, b :: rest =>
    (seekFrom marker (if b == p then pending else marker) rest).map fun (passed, rest) =>
      (b :: passed, rest)

/-- What stands before `marker` and what stands after it. -/
def seek (marker bytes : Octets) : Option (Octets × Octets) :=
  (seekFrom marker marker bytes).map fun (passed, rest) =>
    (passed.take (passed.length - marker.length), rest)

/-- Blanks and line ends. -/
def isFiller (b : UInt8) : Bool := b == 32 || b == 9 || b == 10 || b == 13

/-- Cuts the text between the two lines into headers and data, at the first empty line. -/
def splitBody (body : Octets) : Octets × Octets :=
  match seek [10, 10] body with
  | some parts => parts
  | none => (seek [13, 10, 13, 10] body).getD ([], body)

/-- The lines of a text, without the line ends. -/
def linesOf (text : List Char) : List (List Char) :=
  let pieces := text.splitBy (fun a _ => a != '\n')
  pieces.map fun line =>
    match line.reverse with
    | '\n' :: '\r' :: more => more.reverse
    | '\n' :: more => more.reverse
    | _ => line

/-- Reads a header: a name and a value with one colon between them. -/
def header? (line : List Char) : Option (String × String) :=
  match line.span (· != ':') with
  | (name, ':' :: value) =>
    if value.contains ':' then none
    else some (String.ofList (Text.trimBy Text.isWhiteSpace name),
      String.ofList (Text.trimBy Text.isWhiteSpace value))
  | _ => none

/-- The octets that the data of a section spell; white space may stand anywhere in it. -/
def data? (body : Octets) : Option Octets := do
  let text := (← Octets.utf8Chars? body).filter fun c => !Text.isWhiteSpace c
  if text.all (·.toNat < 128) then Base64.canonical? (text.map fun c => UInt8.ofNat c.toNat)
  else none

/-- A section from its parts: the labels at both ends agree. -/
def section? (opening body closing : Octets) : Option Section := do
  let _ ← Octets.utf8Chars? opening
  if opening.isEmpty || opening != closing then none
  let (headers, data) := splitBody body
  let data ← data? data
  let headers ← (linesOf (← Octets.utf8Chars? headers)).mapM header?
  some ⟨opening, headers, data⟩

/-- The parts of the first section of a run, and what comes after it. -/
def firstParts (bytes : Octets) : Option (Octets × Octets × Octets × Octets) := do
  let (_, rest) ← seek beginMark bytes
  let (opening, rest) ← seek dashes rest
  let (body, rest) ← seek endMark (rest.dropWhile isFiller)
  let (closing, rest) ← seek dashes rest
  some (opening, body, closing, rest.dropWhile isFiller)

/-- At most `fuel` sections of a run. -/
def sectionsFrom : Nat → Octets → Option (List Section)
  | 0, _ => some []
  | fuel + 1, bytes =>
    match firstParts bytes with
    | none => some []
    | some (opening, body, closing, rest) => do
      let s ← section? opening body closing
      let more ← sectionsFrom fuel rest
      some (s :: more)

/-- All sections of a run. -/
def sections? (bytes : Octets) : Option (List Section) := sectionsFrom bytes.length bytes

/-- The first section of a run whose label is one of `labels`. -/
def find? (labels : List Octets) (bytes : Octets) : Option Section := do
  (← sections? bytes).find? fun s => labels.contains s.label

end Enrollment.Pem
