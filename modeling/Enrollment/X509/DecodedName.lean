import Enrollment.X509.Name

/-!
# Names taken apart

A name can be taken apart into what its attributes say: the type, the string type and the text of
each. `Name.decode` does so, with the faults that `Name.text` has, and `DecodedName.toName` puts the
name together again. The order in a relative name is that of its encoding, so it is put in order
anew.
-/

namespace Enrollment.X509

open Enrollment.Der

/-- What an attribute says: its type, the tag of its string type and its text. -/
structure DecodedAttribute where
  type : Oid
  tag : UInt8
  text : AttributeText
deriving DecidableEq, Repr

/-- The attributes of a relative name: at least one, and no type with the same text twice. -/
structure DecodedRelativeName where
  attributes : List DecodedAttribute
  nonempty : attributes ≠ []
  distinct : allDistinct (attributes.map fun a => (a.type, a.text)) = true
deriving DecidableEq, Repr

/-- A name taken apart. -/
abbrev DecodedName := List DecodedRelativeName

/-! ## Taking apart -/

/-- What an attribute says. -/
def Attribute.decode (a : Attribute) : Except NameFault DecodedAttribute := do
  let text ← a.text
  return ⟨a.type, a.value.identifier.headD 0, text⟩

/-- What a relative name says. -/
def RelativeName.decode (r : RelativeName) : Except NameFault DecodedRelativeName := do
  let attributes ← r.mapM Attribute.decode
  if h : attributes ≠ [] ∧ allDistinct (attributes.map fun a => (a.type, a.text)) = true then
    return ⟨attributes, h.1, h.2⟩
  else throw .illFormed

/-- What a name says. -/
def Name.decode (n : Name) : Except NameFault DecodedName := n.mapM RelativeName.decode

/-! ## Putting together -/

/-- The octets that say a text in the string type with a tag. -/
def AttributeText.toOctets (tag : UInt8) : AttributeText → Octets
  | .bits content => content
  | .chars text =>
    if tag = tagBmpString then Octets.utf16OfChars text
    else if tag = tagUniversalString then Octets.utf32OfChars text
    else Octets.ofChars text

/-- The attribute that says so. -/
def DecodedAttribute.toAttribute (a : DecodedAttribute) : Attribute :=
  ⟨a.type, .make a.tag (a.text.toOctets a.tag)⟩

/-- A relative name in order with one more attribute, which stands before the first that it may
stand before. -/
def RelativeName.insert (a : Attribute) : RelativeName → RelativeName
  | [] => [a]
  | b :: more =>
    if a.toElement.encode.lexLe b.toElement.encode then a :: b :: more
    else b :: RelativeName.insert a more

/-- The relative name that says so: a set in its order. -/
def DecodedRelativeName.toRelativeName (r : DecodedRelativeName) : RelativeName :=
  (r.attributes.map DecodedAttribute.toAttribute).foldr RelativeName.insert []

/-- The name that says so. -/
def DecodedName.toName (n : DecodedName) : Name := n.map DecodedRelativeName.toRelativeName

end Enrollment.X509
