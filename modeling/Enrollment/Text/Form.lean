import Enrollment.Decimal.Rounded
import Enrollment.Text.Digit
import Enrollment.Value

/-!
# Forms

A form says how a value is laid out in running text: what fills the room beside it, on which side
it stands, whether a number shows its sign, how wide it is, how its digits are grouped, how many
places it has and how it is presented. `Form.read` reads the letters of a form and `layOut` lays a
value out in one.
-/

namespace Enrollment

/-- Where a value stands in its room. Only a number can have the room after its sign. -/
inductive Form.Side where
  | left
  | right
  | centre
  | afterSign
deriving DecidableEq, Repr

/-- How a value is laid out. What is not given is left to the kind of the value. -/
structure Form where
  fill : Char
  side : Form.Side
  sign : Option Char
  positiveZero : Bool
  alternate : Bool
  width : Option Nat
  separator : Option Char
  precision : Option Nat
  kind : Option Char
deriving DecidableEq, Repr

namespace Form

/-- What a form cannot ask for. -/
inductive Refusal where
  | space
  | sign
  | positiveZero
  | alternate
  | afterSign
deriving DecidableEq, Repr

/-- Why a value cannot be laid out in a form. -/
inductive Fault where
  | manyDigits
  | bothSeparators
  | noPrecision
  | invalid (form kind : String)
  | badSeparator (separator kind : Char)
  | unknownKind (kind : Char) (of : String)
  | refusedText (refusal : Refusal)
  | refusedInteger (refusal : Refusal)
  | integerPrecision
  | refusedCharacter (refusal : Refusal)
  | noCharacter
  | beyondWord
  | beyondFloat
  | longInteger
  | noForms (of : String)
deriving DecidableEq, Repr

/-- The name under which a fault is reported. -/
def Fault.name : Fault → String
  | .noForms _ => "TypeError"
  | .noCharacter | .beyondWord | .beyondFloat => "OverflowError"
  | _ => "ValueError"

/-- A number in hexadecimal. -/
def hexText (n : Nat) : String := String.ofList (Nat.toDigits 16 n)

/-- A character in a message: itself if it is visible ASCII, and otherwise its number. -/
def shownChar (c : Char) : String :=
  if 32 < c.toNat ∧ c.toNat < 128 then String.singleton c else "\\x" ++ hexText c.toNat

/-- The words for what is refused. -/
def Refusal.words : Refusal → String
  | .space => "Space"
  | .sign => "Sign"
  | .positiveZero => "Negative zero coercion (z)"
  | .alternate => "Alternate form (#)"
  | .afterSign => "'=' alignment"

/-- What is wrong with a form or its value. -/
def Fault.message : Fault → String
  | .manyDigits => "Too many decimal digits in format string"
  | .bothSeparators => "Cannot specify both ',' and '_'."
  | .noPrecision => "Format specifier missing precision"
  | .invalid form kind =>
    "Invalid format specifier '" ++ form ++ "' for object of type '" ++ kind ++ "'"
  | .badSeparator separator kind =>
    "Cannot specify '" ++ String.singleton separator ++ "' with '" ++ shownChar kind ++ "'."
  | .unknownKind kind of =>
    "Unknown format code '" ++ shownChar kind ++ "' for object of type '" ++ of ++ "'"
  | .refusedText r => r.words ++ " not allowed in string format specifier"
  | .refusedInteger r => r.words ++ " not allowed in integer format specifier"
  | .integerPrecision => "Precision not allowed in integer format specifier"
  | .refusedCharacter r => r.words ++ " not allowed with integer format specifier 'c'"
  | .noCharacter => "%c arg not in range(0x110000)"
  | .beyondWord => "Python int too large to convert to C long"
  | .beyondFloat => "int too large to convert to float"
  | .longInteger => Value.longIntegerText
  | .noForms of => "unsupported format string passed to " ++ of ++ ".__format__"

/-! ## Reading -/

/-- The side that a letter stands for. -/
def side? : Char → Option Side
  | '<' => some .left
  | '>' => some .right
  | '^' => some .centre
  | '=' => some .afterSign
  | _ => none

/-- The greatest number that a form or a template may hold. -/
def numberLimit : Nat := Nat.pow 2 63 - 1

/-- Takes the digits at the front of a text, of any script: their number, if there are any. -/
def takeNumber (text : List Char) : Except Fault (Option Nat × List Char) :=
  let digits := text.takeWhile fun c => (Text.decimalDigit? c).isSome
  let n := digits.foldl (fun n c => n * 10 + (Text.decimalDigit? c).getD 0) 0
  if digits.isEmpty then .ok (none, text)
  else if numberLimit < n then .error .manyDigits
  else .ok (some n, text.drop digits.length)

/-- Takes a letter at the front of a text, if it is there. -/
def takeLetter (c : Char) (text : List Char) : Bool × List Char :=
  if text.head? = some c then (true, text.tail) else (false, text)

/-- Takes the fill and the side at the front of a text. -/
def takeSide : List Char → Option Char × Option Side × List Char
  | a :: b :: rest =>
    match side? b, side? a with
    | some s, _ => (some a, some s, rest)
    | none, some s => (none, some s, b :: rest)
    | none, none => (none, none, a :: b :: rest)
  | [a] =>
    match side? a with
    | some s => (none, some s, [])
    | none => (none, none, [a])
  | [] => (none, none, [])

/-- Takes a sign at the front of a text. -/
def takeSign : List Char → Option Char × List Char
  | c :: rest => if c = '+' ∨ c = '-' ∨ c = ' ' then (some c, rest) else (none, c :: rest)
  | [] => (none, [])

/-- Takes a separator of digits at the front of a text. -/
def takeSeparator (text : List Char) : Except Fault (Option Char × List Char) :=
  let (comma, text) := takeLetter ',' text
  let (line, text) := takeLetter '_' text
  if line && (comma || text.head? = some ',') then .error .bothSeparators
  else .ok (if comma then some ',' else if line then some '_' else none, text)

/-- Takes a precision at the front of a text. -/
def takePrecision (text : List Char) : Except Fault (Option Nat × List Char) := do
  let (point, text) := takeLetter '.' text
  if !point then return (none, text)
  match ← takeNumber text with
  | (none, _) => throw .noPrecision
  | (some n, text) => return (some n, text)

/-- Whether digits of a kind can be grouped by a separator. -/
def groups (separator kind : Char) : Bool :=
  "defgEG%F".toList.contains kind || (separator = '_' && "boxX".toList.contains kind)

/-- Reads a form for values of a kind, which stand on the side `usual` and are presented as `plain`
unless the form says otherwise. -/
def read (of : String) (usual : Side) (plain : Option Char) (form : List Char) :
    Except Fault Form := do
  let (fill, side, text) := takeSide form
  let (sign, text) := takeSign text
  let (positiveZero, text) := takeLetter 'z' text
  let (alternate, text) := takeLetter '#' text
  let (zero, text) := if fill.isSome then (false, text) else takeLetter '0' text
  let (width, text) ← takeNumber text
  let (separator, text) ← takeSeparator text
  let (precision, text) ← takePrecision text
  let kind ← match text with
    | [] => pure plain
    | [c] => pure (some c)
    | _ => throw (.invalid (String.ofList form) of)
  match separator, kind with
  | some s, some k => if !groups s k then throw (.badSeparator s k)
  | _, _ => pure ()
  let side := side.getD (if zero && usual = .right then .afterSign else usual)
  return {
    fill := fill.getD (if zero then '0' else ' ')
    side, sign, positiveZero, alternate, width, separator, precision, kind }

/-! ## Texts -/

/-- A text in its room. -/
def inRoom (f : Form) (text : List Char) : List Char :=
  let room := f.width.getD 0 - text.length
  let before := match f.side with
    | .left => 0
    | .centre => room / 2
    | .right | .afterSign => room
  List.replicate before f.fill ++ text ++ List.replicate (room - before) f.fill

/-- Lays a text out. -/
def layOutText (form : List Char) (text : List Char) : Except Fault (List Char) := do
  let f ← read "str" .left (some 's') form
  match f.kind with
  | some 's' | none => pure ()
  | some k => throw (.unknownKind k "str")
  match f.sign with
  | some ' ' => throw (.refusedText .space)
  | some _ => throw (.refusedText .sign)
  | none => pure ()
  if f.positiveZero then throw (.refusedText .positiveZero)
  if f.alternate then throw (.refusedText .alternate)
  if f.side = .afterSign then throw (.refusedText .afterSign)
  return f.inRoom (match f.precision with
    | none => text
    | some n => text.take n)

/-! ## Numbers -/

/-- A number as it is put together: a sign, a mark of the base, digits, and the rest from the
decimal point on. -/
structure NumberText where
  negative : Bool
  mark : List Char := []
  digits : List Char
  rest : List Char := []

/-- Digits, last one first, in groups of `size`, with zeros up to the width `least`. -/
def groupedFrom (size : Nat) (separator : Char) : Nat → Nat → List Char → List Char
  | 0, _, digits => digits
  | fuel + 1, least, digits =>
    let count := min size (max (max digits.length least) 1)
    let group := digits.take count
    let front := group ++ List.replicate (count - group.length) '0'
    let digits := digits.drop count
    let least := least - count
    if digits.isEmpty && least = 0 then front
    else front ++ separator :: groupedFrom size separator fuel (least - 1) digits

/-- Digits with zeros up to the width `least`, in groups if there is a separator. -/
def grouped (separator : Option Char) (size least : Nat) (digits : List Char) : List Char :=
  match separator with
  | none => List.replicate (least - digits.length) '0' ++ digits
  | some s => (groupedFrom size s (digits.length + least) least digits.reverse).reverse

/-- A number in its room. -/
def layOutNumber (f : Form) (size : Nat) (n : NumberText) : List Char :=
  let sign :=
    if n.negative then ['-']
    else match f.sign with
      | some '+' => ['+']
      | some ' ' => [' ']
      | _ => []
  let around := sign.length + n.mark.length + n.rest.length
  let least := if f.fill = '0' ∧ f.side = .afterSign then f.width.getD 0 - around else 0
  let digits := if n.digits.isEmpty then [] else grouped f.separator size least n.digits
  let body := digits ++ n.rest
  if f.side = .afterSign then
    let room := f.width.getD 0 - (sign.length + n.mark.length + body.length)
    sign ++ n.mark ++ List.replicate room f.fill ++ body
  else f.inRoom (sign ++ n.mark ++ body)

/-- The base of a presentation of integers, with the mark of it. -/
def base : Char → Nat × List Char
  | 'b' => (2, ['0', 'b'])
  | 'o' => (8, ['0', 'o'])
  | 'x' => (16, ['0', 'x'])
  | 'X' => (16, ['0', 'X'])
  | _ => (10, [])

/-- An integer presented as a character. -/
def characterText (f : Form) (n : Int) : Except Fault NumberText := do
  if f.sign.isSome then throw (.refusedCharacter .sign)
  if f.alternate then throw (.refusedCharacter .alternate)
  if n < -(Nat.pow 2 63 : Nat) ∨ (Nat.pow 2 63 : Nat) ≤ n then throw .beyondWord
  if n < 0 ∨ 0x10ffff < n then throw .noCharacter
  return { negative := false, digits := [], rest := [Char.ofNat n.toNat] }

/-- Lays an integer out. -/
def layOutInteger (f : Form) (kind : Char) (n : Int) : Except Fault (List Char) := do
  if f.precision.isSome then throw .integerPrecision
  if f.positiveZero then throw (.refusedInteger .positiveZero)
  if kind = 'c' then return f.layOutNumber 3 (← characterText f n)
  let (base, mark) := base kind
  if base = 10 && !Value.isShort n then throw .longInteger
  let digits := Nat.toDigits base n.natAbs
  return f.layOutNumber (if base = 10 then 3 else 4)
    { negative := n < 0
      mark := if f.alternate then mark else []
      digits := if kind = 'X' then digits.map Char.toUpper else digits }

/-- An exponent: its letter, its sign and at least two digits. -/
def exponentText (upper : Bool) (e : Int) : List Char :=
  (if upper then 'E' else 'e') :: (if e < 0 then '-' else '+') ::
    Binary64.paddedDigits 2 e.natAbs

/-- What stands after the first digits: a point if anything follows it or if it is asked for. -/
def fraction (alternate : Bool) (digits : List Char) : List Char :=
  if digits.isEmpty && !alternate then [] else '.' :: digits

/-- Digits that read `0.digits · 10 ^ place`, with one digit before the point. -/
def scientific (f : Form) (upper : Bool) (digits : List Char) (place : Int) :
    List Char × List Char :=
  (digits.take 1, fraction f.alternate (digits.drop 1) ++ exponentText upper (place - 1))

/-- Digits that read `0.digits · 10 ^ place`, with the point where it is; at least one digit
follows it if `filled`. -/
def positional (f : Form) (filled : Bool) (digits : List Char) (place : Int) :
    List Char × List Char :=
  if place ≤ 0 then
    (['0'], fraction f.alternate (List.replicate (-place).toNat '0' ++ digits))
  else
    let before := place.toNat
    let zeros := List.replicate (before - digits.length) '0'
    let after := digits.drop before
    (digits.take before ++ zeros,
      fraction f.alternate (if filled && after.isEmpty then ['0'] else after))

/-- Digits without the zeros at their end. -/
def dropZeros (digits : List Char) : List Char :=
  (digits.reverse.dropWhile (· == '0')).reverse

/-- A finite number in general notation with `precision` digits; `filled` as in `positional`. -/
def general (f : Form) (upper filled : Bool) (num den precision : Nat) : List Char × List Char :=
  let (digits, place) := Binary64.leading num den (max precision 1)
  let digits := if f.alternate then digits else dropZeros digits
  let limit : Int := max precision 1
  if place ≤ -4 ∨ (if filled then limit - 1 else limit) < place then
    scientific f upper (if digits.isEmpty then ['0'] else digits) place
  else positional f filled digits place

/-- A finite number with the fewest digits that read back. -/
def plainest (f : Form) (mantissa : Nat) (exponent : Int) : List Char × List Char :=
  let (digits, place) :=
    if mantissa = 0 then (['0'], 1) else Binary64.shortest mantissa exponent
  if place ≤ -4 ∨ 16 < place then scientific f false digits place
  else positional f true digits place

/-- The digits of a finite number and what stands after them, before a per cent sign. -/
def finiteText (f : Form) (x : Binary64) (mantissa : Nat) (exponent : Int) :
    List Char × List Char :=
  let (num, den) := match x.ratio? with
    | some (_, num, den) => (num, den)
    | none => (0, 1)
  let precision := f.precision.getD 6
  match f.kind with
  | some 'f' | some 'F' | some '%' =>
    let (digits, after) := Binary64.places num den precision
    (digits, fraction f.alternate after)
  | some 'e' =>
    let (digits, place) := Binary64.leading num den (precision + 1)
    scientific f false digits place
  | some 'E' =>
    let (digits, place) := Binary64.leading num den (precision + 1)
    scientific f true digits place
  | some 'G' => general f true false num den precision
  | none =>
    match f.precision with
    | none => plainest f mantissa exponent
    | some p => general f false true num den p
  | _ => general f false false num den precision

/-- The presentations of floating point numbers. -/
def floatKinds : List Char := "eEfFgGn%".toList

/-- Lays a floating point number out. -/
def layOutFloat (f : Form) (x : Binary64) : List Char :=
  let percent := f.kind = some '%'
  let x := if percent then x.timesNat 100 else x
  let upper := f.kind = some 'E' ∨ f.kind = some 'F' ∨ f.kind = some 'G'
  let suffix := if percent then ['%'] else []
  let word (text : String) : List Char := text.toList.map fun c => if upper then c.toUpper else c
  f.layOutNumber 3 <| match x with
    | .nan => { negative := false, digits := [], rest := word "nan" ++ suffix }
    | .infinite negative => { negative, digits := [], rest := word "inf" ++ suffix }
    | .finite negative mantissa exponent =>
      let (digits, rest) := finiteText f x mantissa exponent
      let isZero := (digits ++ rest.takeWhile fun c => c ≠ 'e' ∧ c ≠ 'E').all fun c =>
        c = '0' ∨ c = '.'
      { negative := negative && !(f.positiveZero && isZero), digits, rest := rest ++ suffix }

/-- Lays an integer out in any presentation of numbers. -/
def layOutWhole (of : String) (form : List Char) (n : Int) : Except Fault (List Char) := do
  let f ← read of .right (some 'd') form
  let kind := f.kind.getD 'd'
  if "bcdoxXn".toList.contains kind then layOutInteger f kind n
  else if floatKinds.contains kind then
    match Binary64.ofInt n with
    | .infinite _ => throw .beyondFloat
    | x => return f.layOutFloat x
  else throw (.unknownKind kind of)

end Form

/-- A value laid out in a form; a form without letters shows the value as running text. -/
def Value.layOut (form : List Char) (v : Value) : Except Form.Fault (List Char) :=
  if form.isEmpty then
    if v.isWritable then .ok v.asText.toList else .error .longInteger
  else match v with
    | .text s => Form.layOutText form s.toList
    | .int n => Form.layOutWhole v.kindName form n
    | .bool b => Form.layOutWhole v.kindName form (if b then 1 else 0)
    | .float x => do
      let f ← Form.read v.kindName .right none form
      match f.kind with
      | none => return f.layOutFloat x
      | some k =>
        if Form.floatKinds.contains k then return f.layOutFloat x
        else throw (.unknownKind k v.kindName)
    | v => .error (.noForms v.kindName)

end Enrollment
