import Enrollment.X509.DecodedName

/-!
# General names

A subject alternative name is a sequence of general names: mail addresses, hosts, locators,
directory names, addresses and networks of the internet protocol, registered identifiers, and names
of other kinds. They are read in two steps. `GeneralName.ofElement?` says whether an element is a
general name at all; `GeneralName.decode` takes it apart into what it says, and refuses the two
kinds that nothing is known of. `DecodedGeneralName.toElement` writes down what a name says.
-/

namespace Enrollment.X509

open Enrollment.Der

/-! ## Addresses -/

/-- A version of the internet protocol. -/
inductive IpVersion where
  | four
  | six
deriving DecidableEq, Repr

namespace IpVersion

/-- The octets of an address. -/
def width : IpVersion → Nat
  | four => 4
  | six => 16

/-- The version whose addresses have so many octets. -/
def ofWidth? (n : Nat) : Option IpVersion :=
  if n = 4 then some .four else if n = 16 then some .six else none

/-- The number of a mask that is some ones and then zeros. -/
def mask (version : IpVersion) (ones : Nat) : Nat :=
  Nat.pow 2 (8 * version.width) - Nat.pow 2 (8 * version.width - ones)

/-- The ones of a mask that has nothing but zeros after them. -/
def ones? (version : IpVersion) (mask : Nat) : Option Nat :=
  (List.range (8 * version.width + 1)).find? fun ones => version.mask ones == mask

end IpVersion

/-- An address, or a network: the address that it begins with and the ones of its mask. -/
inductive Address where
  | single (version : IpVersion) (number : Nat)
  | network (version : IpVersion) (base ones : Nat)
deriving DecidableEq, Repr

namespace Address

/-- Reads an address, or an address and a mask. No bit of a network's address is set where the mask
has a zero. -/
def ofOctets? (bytes : Octets) : Option Address :=
  match IpVersion.ofWidth? bytes.length with
  | some version => some (.single version (Octets.toNat bytes))
  | none => do
    let half := bytes.length / 2
    if bytes.length ≠ half + half then none
    let version ← IpVersion.ofWidth? half
    let base := Octets.toNat (bytes.take half)
    let ones ← version.ones? (Octets.toNat (bytes.drop half))
    if base % Nat.pow 2 (8 * version.width - ones) = 0 then some (.network version base ones)
    else none

/-- The octets of an address, or of an address and a mask. -/
def toOctets : Address → Octets
  | single version number => Octets.ofNatWidth version.width number
  | network version base ones =>
    Octets.ofNatWidth version.width base ++ Octets.ofNatWidth version.width (version.mask ones)

end Address

/-! ## General names -/

/-- The kinds of general names that are a text. -/
inductive TextName where
  | mail
  | host
  | locator
deriving DecidableEq, Repr

namespace TextName

/-- The tag of a kind. -/
def tag : TextName → UInt8
  | mail => tagContextPrimitive 1
  | host => tagContextPrimitive 2
  | locator => tagContextPrimitive 6

/-- The kind with a tag. -/
def ofTag? (t : UInt8) : Option TextName := [mail, host, locator].find? fun kind => kind.tag == t

end TextName

/-- A general name, as far as its element shows it. -/
inductive GeneralName where
  | other (type : Oid) (value : Element)
  | text (kind : TextName) (chars : List Char)
  | directory (name : Name)
  | address (bytes : Octets)
  | registered (oid : Oid)
  /-- An address of X.400 or a party of electronic data interchange. -/
  | unknown
deriving DecidableEq, Repr

/-- Reads a general name. The texts should be ASCII, and any UTF-8 is taken. -/
def GeneralName.ofElement? (e : Element) : Option GeneralName :=
  match e.identifier with
  | [tag] =>
    if tag = tagContext 0 then do
      match ← Element.readAll e.content with
      | [type, value] =>
        let type ← type.contentOf? tagOid
        let value ← Element.readOne (← value.contentOf? (tagContext 0))
        if isOid type then some (.other type value) else none
      | _ => none
    else if tag = tagContext 3 ∨ tag = tagContext 5 then some .unknown
    else if tag = tagContext 4 then do
      some (.directory (← Name.ofElement? (← Element.readOne e.content)))
    else if tag = tagContextPrimitive 7 then some (.address e.content)
    else if tag = tagContextPrimitive 8 then
      if isOid e.content then some (.registered e.content) else none
    else do some (.text (← TextName.ofTag? tag) (← Octets.utf8Chars? e.content))
  | _ => none

/-- What a general name says. -/
inductive DecodedGeneralName where
  | other (type : Oid) (value : Element)
  | text (kind : TextName) (chars : List Char)
  | directory (name : DecodedName)
  | address (address : Address)
  | registered (oid : Oid)
deriving DecidableEq, Repr

/-- Why an extension has nothing to say. -/
inductive ExtensionFault where
  | illFormed
  /-- A directory name that cannot be taken apart. -/
  | name (fault : NameFault)
  /-- A general name of an unknown kind. -/
  | unsupportedName
deriving DecidableEq, Repr

/-- Takes a general name apart. -/
def GeneralName.decode : GeneralName → Except ExtensionFault DecodedGeneralName
  | .other type value => .ok (.other type value)
  | .text kind chars => .ok (.text kind chars)
  | .directory name => (name.decode.mapError .name).map .directory
  | .address bytes =>
    match Address.ofOctets? bytes with
    | some a => .ok (.address a)
    | none => .error .illFormed
  | .registered oid => .ok (.registered oid)
  | .unknown => .error .unsupportedName

/-- The element that says so. -/
def DecodedGeneralName.toElement : DecodedGeneralName → Element
  | .other type value => .make (tagContext 0) (oid type ++ wrap (tagContext 0) value.encode)
  | .text kind chars => .make kind.tag (Octets.ofChars chars)
  | .directory name => .make (tagContext 4) name.toName.toElement.encode
  | .address a => .make (tagContextPrimitive 7) a.toOctets
  | .registered oid => .make (tagContextPrimitive 8) oid

/-! ## Subject alternative names -/

/-- Reads the value of a subject alternative name. All of it is read before any of it is taken
apart. -/
def decodeNames (value : Octets) : Except ExtensionFault (List DecodedGeneralName) :=
  match readNames? with
  | some names => names.mapM GeneralName.decode
  | none => .error .illFormed
where
  /-- The names in a sequence of them. -/
  readNames? : Option (List GeneralName) := do
    (← (← Element.readOne value).partsOf? tagSequence).mapM GeneralName.ofElement?

/-- The value of a subject alternative name. -/
def encodeNames (names : List DecodedGeneralName) : Octets :=
  Der.sequence (names.map fun name => name.toElement.encode)

end Enrollment.X509
