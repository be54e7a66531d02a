import Enrollment.Octets.Utf8
import Enrollment.Der.Primitive

/-!
# Distinguished names

A name is a sequence of relative names, each of them a set of attributes. Reading a certificate
looks at the frame of its names only. What an attribute says is looked at when the name is
written as a text, by the rules of RFC 4514: the last relative name first, a comma between
relative names, a plus sign inside one, and a backslash before what would be read otherwise.
-/

namespace Enrollment.X509

open Enrollment.Der

/-- An attribute: what it is and its value. -/
structure Attribute where
  type : Oid
  value : Element
deriving DecidableEq, Repr, Inhabited

/-- A relative name. -/
abbrev RelativeName := List Attribute

/-- A distinguished name. -/
abbrev Name := List RelativeName

/-- Whether an octet is a character of a PrintableString. -/
def isPrintableOctet (b : UInt8) : Bool :=
  (65 ≤ b && b ≤ 90) || (97 ≤ b && b ≤ 122) || (48 ≤ b && b ≤ 57) ||
    (Octets.ofAscii " '()+,-./:=?").contains b

/-- Whether the string types with a fixed alphabet hold only what their alphabet has. -/
def isWellFormedValue (e : Element) : Bool :=
  if e.hasTag tagPrintableString then e.content.all isPrintableOctet
  else if e.hasTag tagUniversalString then (Octets.utf32Chars? e.content).isSome
  else if e.hasTag tagBmpString then (Octets.utf16Chars? e.content).isSome
  else true

namespace Attribute

/-- Reads an attribute. -/
def ofElement? (e : Element) : Option Attribute := do
  match ← e.partsOf? tagSequence with
  | [type, value] =>
    let type ← type.contentOf? tagOid
    if isOid type && isWellFormedValue value then some ⟨type, value⟩ else none
  | _ => none

/-- The attribute as an element. -/
def toElement (a : Attribute) : Element :=
  Element.make tagSequence (Der.oid a.type ++ a.value.encode)

end Attribute

/-- Whether the elements of a set stand in order. -/
def isSorted : List Octets → Bool
  | a :: b :: more => a.lexLe b && isSorted (b :: more)
  | _ => true

/-- Reads a relative name: a set in its order. -/
def relativeNameOfElement? (e : Element) : Option RelativeName := do
  let parts ← e.partsOf? tagSet
  if isSorted (parts.map Element.encode) then parts.mapM Attribute.ofElement? else none

/-- The relative name as an element. -/
def relativeNameToElement (r : RelativeName) : Element :=
  Element.make tagSet (r.flatMap fun a => a.toElement.encode)

namespace Name

/-- Reads a name. -/
def ofElement? (e : Element) : Option Name := do
  (← e.partsOf? tagSequence).mapM relativeNameOfElement?

/-- The name as an element. -/
def toElement (n : Name) : Element :=
  Element.make tagSequence (n.flatMap fun r => (relativeNameToElement r).encode)

end Name

/-! ## Text of a name -/

/-- Why a name has no text. -/
inductive NameFault where
  /-- A value that spells no text, an empty relative name, or an attribute that stands twice in
  one. -/
  | illFormed
  /-- A bit string where only a text may stand. -/
  | bitString
deriving DecidableEq, Repr

/-- The short names of attribute types. -/
def shortNames : List (Oid × String) := [
  ([0x55, 0x04, 0x03], "CN"), ([0x55, 0x04, 0x07], "L"), ([0x55, 0x04, 0x08], "ST"),
  ([0x55, 0x04, 0x0a], "O"), ([0x55, 0x04, 0x0b], "OU"), ([0x55, 0x04, 0x06], "C"),
  ([0x55, 0x04, 0x09], "STREET"),
  ([0x09, 0x92, 0x26, 0x89, 0x93, 0xf2, 0x2c, 0x64, 0x01, 0x19], "DC"),
  ([0x09, 0x92, 0x26, 0x89, 0x93, 0xf2, 0x2c, 0x64, 0x01, 0x01], "UID")]

/-- The attribute type whose values are bit strings. -/
def oidUniqueIdentifier : Oid := [0x55, 0x04, 0x2d]

/-- The tags of the value types that are read as UTF-8 text. -/
def textTags : List UInt8 := [4, 12, 18, 19, 20, 22, 23, 24, 26]

/-- The short name of an attribute type, or its object identifier. -/
def typeText (type : Oid) : String :=
  ((shortNames.find? fun (oid, _) => oid == type).map Prod.snd).getD (dotted type)

/-- What an attribute value says: octets or characters. -/
inductive AttributeText where
  | bits (content : Octets)
  | chars (text : List Char)
deriving DecidableEq, Repr

/-- Reads the value of an attribute. -/
def Attribute.text (a : Attribute) : Except NameFault AttributeText :=
  let ofChars : Option (List Char) → Except NameFault AttributeText
    | some text => .ok (.chars text)
    | none => .error .illFormed
  match a.value.identifier with
  | [tag] =>
    if tag = tagBitString then
      if a.type = oidUniqueIdentifier then .ok (.bits a.value.content) else .error .bitString
    else if tag = tagBmpString then ofChars (Octets.utf16Chars? a.value.content)
    else if tag = tagUniversalString then ofChars (Octets.utf32Chars? a.value.content)
    else if textTags.contains tag then ofChars (Octets.utf8Chars? a.value.content)
    else .error .illFormed
  | _ => .error .illFormed

/-- A character inside a value. -/
def escapeInner (c : Char) : List Char :=
  if (['\\', '"', '+', ',', ';', '<', '>'] : List Char).contains c then ['\\', c]
  else if c = '\x00' then ['\\', '0', '0']
  else [c]

/-- The characters of a value from the second on: a space at the end is escaped too. -/
def escapeRest : List Char → List Char
  | [] => []
  | [' '] => ['\\', ' ']
  | c :: more => escapeInner c ++ escapeRest more

/-- A value with its escapes: besides those of `escapeInner` a leading number sign and the
spaces at both ends. -/
def escapeValue : List Char → List Char
  | [] => []
  | c :: more =>
    (if c = '#' ∨ c = ' ' then ['\\', c] else escapeInner c) ++ escapeRest more

/-- The text of an attribute value. -/
def AttributeText.escaped : AttributeText → String
  | .bits [] => ""
  | .bits content => "#" ++ content.toHex
  | .chars text => String.ofList (escapeValue text)

/-- An attribute's type and what it says. -/
def Attribute.pair (a : Attribute) : Except NameFault (Oid × AttributeText) := do
  return (a.type, ← a.text)

/-- Whether no two members of a list are equal. -/
def allDistinct [DecidableEq α] : List α → Bool
  | [] => true
  | a :: more => !more.contains a && allDistinct more

/-- The text of a relative name, which has at least one attribute and none twice. -/
def relativeNameText (r : RelativeName) : Except NameFault String := do
  let pairs ← r.mapM Attribute.pair
  if pairs.isEmpty || !allDistinct pairs then throw .illFormed
  return String.intercalate "+"
    (pairs.map fun (type, value) => typeText type ++ "=" ++ value.escaped)

/-- The text of a name. -/
def Name.text (n : Name) : Except NameFault String := do
  let parts ← n.mapM relativeNameText
  return String.intercalate "," parts.reverse

end Enrollment.X509
