import Enrollment.Decimal.Radix
import Enrollment.Octets.Base64
import Enrollment.Octets.Utf8
import Enrollment.Yaml.Node

/-!
# The value of a document

What the parts of a document stand for, as plain values. Parts are looked at level by level, so
of two faults the one that is less deep is reported, and of two on one level the first. That is
why a check carries the level of its fault.
-/

namespace Enrollment.Yaml

/-- What the constructing stage refuses a document with. -/
def unconstructable : Fault := .refused .constructor

/-! ## Scalars -/

/-- The text without underscores. -/
def ungrouped (text : String) : List Char := text.toList.filter (· != '_')

/-- The integer that a text spells in a base. -/
def integerIn (radix : Nat) (text : List Char) : Except ScalarFault Int :=
  (Radix.read radix text).mapError fun
    | .notInteger => .notInteger radix (String.ofList text)
    | .tooLong digits => .longInteger digits

/-- What parts between colons are worth, each sixty times the next. -/
def sexagesimal (parts : List Int) : Int := parts.foldl (fun n part => n * 60 + part) 0

/-- The integer of a text: binary, hexadecimal, octal, sexagesimal or decimal. -/
def readInt (text : String) : Except ScalarFault Int :=
  match ungrouped text with
  | [] => .error .noDigit
  | chars =>
    let (negative, digits) := Numeral.splitSign chars
    let magnitude : Except ScalarFault Int :=
      match digits with
      | [] => .error .noDigit
      | ['0'] => .ok 0
      | '0' :: 'b' :: rest => integerIn 2 rest
      | '0' :: 'x' :: rest => integerIn 16 rest
      | '0' :: _ => integerIn 8 digits
      | digits =>
        if digits.contains ':' then
          sexagesimal <$> (Text.pieces ':' digits).mapM (integerIn 10)
        else integerIn 10 digits
    magnitude.map fun n => if negative then -n else n

/-- The floating point number of a text with blanks around it and digits of any script. -/
def floatingPart (text : List Char) : Except ScalarFault Binary64 :=
  let digits := (Text.trim text).map fun c =>
    match Text.decimalDigit? c with
    | some d => Char.ofNat (48 + d)
    | none => c
  match Numeral.floating? digits with
  | some x => .ok x
  | none => .error (.notNumber (String.ofList text))

/-- The floating point number of parts between colons, each sixty times the next; the last part
comes first. -/
def floatingSum : Nat → Binary64 → List Binary64 → Binary64
  | _, sum, [] => sum
  | base, sum, part :: more => floatingSum (base * 60) (sum.add (part.timesNat base)) more

/-- The floating point number of a text: infinite, not a number, sexagesimal or decimal. -/
def readFloat (text : String) : Except ScalarFault Binary64 :=
  match (ungrouped text).map Char.toLower with
  | [] => .error .noDigit
  | chars =>
    let (negative, digits) := Numeral.splitSign chars
    let magnitude : Except ScalarFault Binary64 :=
      if digits = ".inf".toList then .ok (.infinite false)
      else if digits = ".nan".toList then .ok .nan
      else if digits.contains ':' then do
        let parts ← (Text.pieces ':' digits).mapM floatingPart
        return floatingSum 1 (.ofInt 0) parts.reverse
      else floatingPart digits
    magnitude.map fun x => if negative then x.negate else x

/-- The truth value of a word. -/
def readBool (text : String) : Except ScalarFault Bool :=
  let word := String.ofList (text.toList.map Char.toLower)
  if ["yes", "true", "on"].contains word then .ok true
  else if ["no", "false", "off"].contains word then .ok false
  else .error (.notTruth word)

/-- The value of a timestamp. -/
def readTimestamp (text : String) : Except ScalarFault Value :=
  match Timestamp.read? (Tag.dropLineEnd text.toList) with
  | none => .error .notTimestamp
  | some t => t.toValue

/-- The octets that a text spells in base64. -/
def readOctets (text : String) : Except Fault Octets :=
  if text.toList.all (·.toNat < 128) then
    (Base64.readLenient (Octets.ofText text)).mapError fun _ => unconstructable
  else .error unconstructable

namespace Node

/-- The tag of a part. -/
def tag : Node → Tag
  | scalar tag _ | list tag _ | table tag _ => tag
  | sameList _ => .list
  | sameTable _ _ => .table

/-- The text of a part: of a scalar what it says, of a table what it is worth. -/
def text : Node → Except Fault String
  | scalar _ text => .ok text
  | table _ entries => worth entries
  | _ => .error unconstructable
where
  /-- The text of the first entry that tells what a table is worth. -/
  worth : List (Node × Node) → Except Fault String
    | [] => .error unconstructable
    | (key, value) :: more => if key.tag = .worth then text value else worth more

/-- The value of a part that has a tag for scalars. -/
def scalarValue (tag : Tag) (n : Node) : Except Fault Value := do
  let text ← n.text
  match tag with
  | .null => return .null
  | .bool => .bool <$> (readBool text).mapError .scalar
  | .int => .int <$> (readInt text).mapError .scalar
  | .float => .float <$> (readFloat text).mapError .scalar
  | .timestamp => (readTimestamp text).mapError .scalar
  | .octets => .octets <$> readOctets text
  | _ => return .text text

/-! ## Merging -/

mutual

/-- The entries of a table: those that are merged into it first, then its own. -/
def merged : List (Node × Node) → Except Fault (List (Node × Node) × List (Node × Node))
  | [] => .ok ([], [])
  | (key, value) :: more =>
    if key.tag = .merge then do
      let first ← mergedValue value
      let (rest, own) ← merged more
      return (first ++ rest, own)
    else do
      let (rest, own) ← merged more
      return (rest, (key, value) :: own)

/-- The entries that a part brings into a table: those of a table, or of the tables of a list,
the last one first. -/
def mergedValue : Node → Except Fault (List (Node × Node))
  | table _ entries => do
    let (first, own) ← merged entries
    return first ++ own
  | list _ items => mergedItems items
  | sameTable _ entries => do
    let (first, own) ← merged entries
    return first ++ own
  | sameList _ => .ok []
  | _ => .error unconstructable

/-- The entries of the tables of a list, the last one first. -/
def mergedItems : List Node → Except Fault (List (Node × Node))
  | [] => .ok []
  | table _ entries :: more => do
    let (first, own) ← merged entries
    let rest ← mergedItems more
    return rest ++ first ++ own
  | sameTable _ entries :: more => do
    let (first, own) ← merged entries
    let rest ← mergedItems more
    return rest ++ first ++ own
  | _ :: _ => .error unconstructable

end

/-- All entries of a table, those that are merged into it first. -/
def entries (own : List (Node × Node)) : Except Fault (List (Node × Node)) := do
  let (first, own) ← merged own
  return first ++ own

end Node

/-! ## Levels -/

/-- A value, or a fault and its level. -/
abbrev Leveled (α : Type) := Except (Nat × Fault) α

/-- Two checks, both made; of two faults the less deep one counts. -/
def Leveled.both (a : Leveled α) (b : Leveled β) : Leveled (α × β) :=
  match a, b with
  | .ok a, .ok b => .ok (a, b)
  | .error i, .ok _ => .error i
  | .ok _, .error k => .error k
  | .error i, .error k => .error (if k.1 < i.1 then k else i)

/-- A check on a level. -/
def atLevel (level : Nat) (a : Except Fault α) : Leveled α := a.mapError fun fault => (level, fault)

/-- A number as a quotient. Truth values count as zero and one. -/
def ratio? : Value → Option (Int × Nat)
  | .int n => some (n, 1)
  | .bool b => some (if b then 1 else 0, 1)
  | .float x => x.ratio?.map fun (negative, num, den) =>
    (if negative then -(num : Int) else num, den)
  | _ => none

/-- Whether two values are the same key. -/
def isSameKey (a b : Value) : Bool :=
  match ratio? a, ratio? b with
  | some (n, d), some (m, e) => n * e == m * d
  | none, none => a.kindName == b.kindName && a.wording == b.wording
  | _, _ => false

/-- Sets an entry; a key that is there keeps its place. -/
def setEntry : List (Value × Value) → Value × Value → List (Value × Value)
  | [], entry => [entry]
  | (k, v) :: more, (key, value) =>
    if isSameKey k key then (k, value) :: more else (k, v) :: setEntry more (key, value)

/-- Whether a value can be a key. -/
def isKey : Value → Bool
  | .list _ | .set _ | .table _ | .sameList | .sameTable _ => false
  | _ => true

namespace Node

mutual

/-- How many parts stand inside of each other. -/
def height : Node → Nat
  | scalar _ _ | sameList _ => 1
  | list _ items => heightOfItems items + 1
  | table _ entries | sameTable _ entries => heightOfEntries entries + 1

/-- The height of the highest item. -/
def heightOfItems : List Node → Nat
  | [] => 0
  | item :: more => max (height item) (heightOfItems more)

/-- The height of the highest key or value. -/
def heightOfEntries : List (Node × Node) → Nat
  | [] => 0
  | (key, value) :: more => max (max (height key) (height value)) (heightOfEntries more)

end

/-- The values of several parts. -/
def valuesBy (read : α → Leveled β) : List α → Leveled (List β)
  | [] => .ok []
  | a :: more => ((read a).both (valuesBy read more)).map fun (b, rest) => b :: rest

/-- The value of a part on a level; what is inside of it is one level deeper. `fuel` is not below
the height. -/
def valueAt : Nat → Nat → Node → Leveled Value
  | 0, level, _ => .error (level, unconstructable)
  | fuel + 1, level, n =>
    let refused : Leveled Value := .error (level + 1, unconstructable)
    let inner := valueAt fuel (level + 1)
    let entry (e : Node × Node) : Leveled (Value × Value) :=
      let key : Leveled Value :=
        (if e.1.tag = .worth then atLevel (level + 1) (scalarValue .text e.1)
        else inner e.1).bind fun key =>
          if isKey key then .ok key else .error (level + 1, unconstructable)
      key.both (inner e.2)
    let table (own : List (Node × Node)) : Leveled (List (Value × Value)) :=
      (atLevel (level + 1) (entries own)).bind fun all =>
        (valuesBy entry all).map fun es => es.foldl setEntry []
    let pair (item : Node) : Leveled Value :=
      match item with
      | .table _ [(key, value)] =>
        ((inner key).both (inner value)).map fun (k, v) => .tuple [k, v]
      | _ => .error (level + 1, unconstructable)
    match n.tag, n with
    | _, .sameList _ => .ok .sameList
    | _, .sameTable _ own => (table own).map .sameTable
    | .unknown, _ | .merge, _ | .worth, _ => .error (level, unconstructable)
    | .list, .list _ items => (valuesBy inner items).map .list
    | .list, _ => refused
    | .table, .table _ own => (table own).map .table
    | .table, _ => refused
    | .set, .table _ own => (table own).map fun es => .set (es.map Prod.fst)
    | .set, _ => refused
    | .ordered, .list _ items | .pairs, .list _ items => (valuesBy pair items).map .list
    | .ordered, _ | .pairs, _ => refused
    | tag, n => atLevel level (n.scalarValue tag)

/-- The value of a document. -/
def toValue (n : Node) : Except Fault Value := (valueAt (n.height + 1) 0 n).mapError Prod.snd

end Node

/-! ## Whole texts -/

/-- Whether a text may hold a character. -/
def isAdmissible (c : Char) : Bool :=
  let n := c.toNat
  n == 9 || n == 10 || n == 13 || (0x20 ≤ n && n ≤ 0x7e) || n == 0x85 ||
    (0xa0 ≤ n && n ≤ 0xd7ff) || (0xe000 ≤ n && n ≤ 0xfffd) || (0x10000 ≤ n && n ≤ 0x10ffff)

/-- The text with one form of line end. -/
def unifyLineEnds : List Char → List Char
  | [] => []
  | '\r' :: '\n' :: rest => '\n' :: unifyLineEnds rest
  | c :: rest => (if c = '\r' then '\n' else c) :: unifyLineEnds rest

/-- The value of a text in octets; null if it holds no document. -/
def read (bytes : Octets) : Except Fault Value :=
  match Octets.utf8Chars? bytes with
  | none => .error .notUtf8
  | some text =>
    let text := unifyLineEnds text
    if !text.all isAdmissible then .error (.refused .reader)
    else do
      match ← Node.ofText? text with
      | none => return .null
      | some n => n.toValue

end Enrollment.Yaml
