import Enrollment.Text.Form

/-!
# Templates

A template is a text with places in braces: `{}` takes the next value, `{2}` the value with that
number, and a doubled brace stands for one. After the number a place may go into the value, with
`.name` for an attribute and `[key]` for a part; after `!` it may ask for the value written down,
and after `:` for a form, which may hold places itself. `fill` puts values into a template and
stops at the first place that has none; `fillNamed` puts one value, which has a name.
-/

namespace Enrollment.Template

/-- Why a template cannot be filled. -/
inductive Fault where
  | singleBrace (brace : Char)
  | unclosed
  | braceInName
  | noConversion
  | noColon
  | unclosedForm
  | manyDigits
  | noValue (index : Nat)
  | noName (name : String)
  | autoToManual
  | manualToAuto
  | positional
  | emptyPart
  | afterPart
  | noAttribute (kind name : String)
  | noParts (kind : String)
  | notNumber (kind : String)
  | noPart (kind : String)
  | noKey (key : Value)
  | unknownConversion (c : Char)
  | tooDeep
  | form (fault : Form.Fault)
  /-- Whatever a value of its own kind says. -/
  | thrown (name text : String)
deriving Repr

/-- The name under which a fault is reported. -/
def Fault.name : Fault → String
  | .noValue _ | .noPart _ => "IndexError"
  | .noName _ | .noKey _ => "KeyError"
  | .noAttribute _ _ => "AttributeError"
  | .noParts _ | .notNumber _ => "TypeError"
  | .form fault => fault.name
  | .thrown name _ => name
  | _ => "ValueError"

/-- What is wrong with the template or its values. -/
def Fault.message : Fault → String
  | .singleBrace brace => "Single '" ++ String.singleton brace ++ "' encountered in format string"
  | .unclosed => "expected '\x7d' before end of string"
  | .braceInName => "unexpected '\x7b' in field name"
  | .noConversion => "end of string while looking for conversion specifier"
  | .noColon => "expected ':' after conversion specifier"
  | .unclosedForm => "unmatched '\x7b' in format spec"
  | .manyDigits => Form.Fault.manyDigits.message
  | .noValue index =>
    "Replacement index " ++ toString index ++ " out of range for positional args tuple"
  | .noName name => Text.quote name
  | .autoToManual =>
    "cannot switch from automatic field numbering to manual field specification"
  | .manualToAuto =>
    "cannot switch from manual field specification to automatic field numbering"
  | .positional => "Format string contains positional fields"
  | .emptyPart => "Empty attribute in format string"
  | .afterPart => "Only '.' or '[' may follow ']' in format field specifier"
  | .noAttribute kind name => "'" ++ kind ++ "' object has no attribute '" ++ name ++ "'"
  | .noParts kind => "'" ++ kind ++ "' object is not subscriptable"
  | .notNumber kind =>
    if kind = "str" then "string indices must be integers, not 'str'"
    else kind ++ " indices must be integers or slices, not str"
  | .noPart kind => (if kind = "str" then "string" else kind) ++ " index out of range"
  | .noKey key => key.wording
  | .unknownConversion c =>
    "Unknown conversion specifier " ++
      (if 32 < c.toNat ∧ c.toNat < 127 then String.singleton c
        else "\\x" ++ Form.hexText c.toNat)
  | .tooDeep => "Max string recursion exceeded"
  | .form fault => fault.message
  | .thrown _ text => text

/-! ## Reading places -/

/-- A place: what it names, how the value is converted, and the letters of its form. -/
structure Place where
  field : List Char
  conversion : Option Char
  form : List Char
deriving DecidableEq, Repr

/-- The field at the front of a text, the character that ends it and what follows. A key in
brackets may hold any character but a closing bracket. -/
def takeField : Bool → List Char → Except Fault (List Char × Char × List Char)
  | _, [] => .error .unclosed
  | true, c :: rest =>
    (takeField (c ≠ ']') rest).map fun (field, ending) => (c :: field, ending)
  | false, c :: rest =>
    if c = '\x7b' then .error .braceInName
    else if c = '\x7d' ∨ c = ':' ∨ c = '!' then .ok ([], c, rest)
    else (takeField (c = '[') rest).map fun (field, ending) => (c :: field, ending)

/-- The form at the front of a text up to the brace that closes its place, and what follows;
`depth` counts the braces that are open inside. -/
def takeForm : Nat → List Char → Except Fault (List Char × List Char)
  | _, [] => .error .unclosedForm
  | depth, c :: rest =>
    if c = '\x7d' ∧ depth = 0 then .ok ([], rest)
    else
      let depth := if c = '\x7b' then depth + 1 else if c = '\x7d' then depth - 1 else depth
      (takeForm depth rest).map fun (form, rest) => (c :: form, rest)

/-- The place at the front of a text, without its first brace, and what follows it. -/
def takePlace (text : List Char) : Except Fault (Place × List Char) := do
  let (field, ending, rest) ← takeField false text
  if ending = '\x7d' then return (⟨field, none, []⟩, rest)
  if ending = ':' then
    let (form, rest) ← takeForm 0 rest
    return (⟨field, none, form⟩, rest)
  match rest with
  | [] => throw .noConversion
  | c :: '\x7d' :: rest => return (⟨field, some c, []⟩, rest)
  | c :: ':' :: rest =>
    let (form, rest) ← takeForm 0 rest
    return (⟨field, some c, form⟩, rest)
  | [_] => throw .unclosedForm
  | _ => throw .noColon

/-! ## Finding values -/

/-- How the places so far were numbered: by themselves, up to the number given, or by the
template; at first not at all. -/
inductive Numbering where
  | fresh
  | automatic (next : Nat)
  | manual
deriving DecidableEq, Repr

/-- The number that a text of digits spells; none for any other text. -/
def number? (text : List Char) : Except Fault (Option Nat) :=
  match Form.takeNumber text with
  | .error _ => .error .manyDigits
  | .ok (n, rest) => .ok (if rest.isEmpty then n else none)

/-- The number of the value for a place with a name, and the numbering after it. -/
def Numbering.next (numbering : Numbering) (name : List Char) :
    Except Fault (Nat × Numbering) := do
  if name.isEmpty then
    match numbering with
    | .fresh => return (0, .automatic 1)
    | .automatic n => return (n, .automatic (n + 1))
    | .manual => throw .manualToAuto
  else
    match ← number? name, numbering with
    | none, _ => throw (.noName (String.ofList name))
    | some _, .automatic _ => throw .autoToManual
    | some n, _ => return (n, .manual)

/-- The attribute of a value; numbers have parts, and nothing else has any. -/
def attributeOf (v : Value) (name : String) : Except Fault Value :=
  let whole (n : Int) : Option Value := match name with
    | "real" | "numerator" => some (.int n)
    | "imag" => some (.int 0)
    | "denominator" => some (.int 1)
    | _ => none
  let found := match v with
    | .int n => whole n
    | .bool b => whole (if b then 1 else 0)
    | .float x => match name with
      | "real" => some (.float x)
      | "imag" => some (.float (.ofInt 0))
      | _ => none
    | _ => none
  match found with
  | some w => .ok w
  | none => .error (.noAttribute v.kindName name)

/-- The part of a value under a key. -/
def part (v : Value) (key : List Char) : Except Fault Value := do
  let n ← number? key
  let at_ (parts : List Value) : Except Fault Value :=
    match n with
    | none => .error (.notNumber v.kindName)
    | some n => match parts[n]? with
      | some w => .ok w
      | none => .error (.noPart v.kindName)
  match v with
  | .text s => at_ (s.toList.map fun c => .text (String.singleton c))
  | .list items | .tuple items => at_ items
  | .table entries =>
    match n with
    | some n => throw (.noKey (.int n))
    | none => match Value.entry? (String.ofList key) entries with
      | some w => return w
      | none => throw (.noKey (String.ofList key))
  | v => throw (.noParts v.kindName)

/-- Goes into a value along the rest of a field, at most `fuel` steps. -/
def follow : Nat → Value → List Char → Except Fault Value
  | _, v, [] => .ok v
  | 0, v, _ :: _ => .ok v
  | fuel + 1, v, c :: rest =>
    if c = '.' then do
      let (name, rest) := rest.span fun c => c != '.' && c != '['
      if name.isEmpty then throw .emptyPart
      follow fuel (← attributeOf v (String.ofList name)) rest
    else if c = '[' then do
      let (key, rest) := rest.span (· != ']')
      if key.isEmpty then throw .emptyPart
      follow fuel (← part v key) rest.tail
    else .error .afterPart

/-- The value that a field names, and the numbering after it. -/
def find (values : List Value) (numbering : Numbering) (field : List Char) :
    Except Fault (Value × Numbering) := do
  let (name, path) := field.span fun c => c != '.' && c != '['
  let (index, numbering) ← numbering.next name
  match values[index]? with
  | none => throw (.noValue index)
  | some v => return (← follow path.length v path, numbering)

/-! ## Filling -/

/-- A text with the characters outside ASCII written as in a quoted text. -/
def asciiText (text : List Char) : List Char :=
  text.flatMap fun c =>
    let n := c.toNat
    if n < 128 then [c]
    else if n < 0x100 then '\\' :: 'x' :: Text.hexDigits 2 n
    else if n < 0x10000 then '\\' :: 'u' :: Text.hexDigits 4 n
    else '\\' :: 'U' :: Text.hexDigits 8 n

/-- A value as a place asks for it. -/
def convert (v : Value) : Option Char → Except Fault Value
  | none => .ok v
  | some 'r' => written v.wording
  | some 's' => written v.asText
  | some 'a' => written (String.ofList (asciiText v.wording.toList))
  | some c => .error (.unknownConversion c)
where
  /-- The words for the value, if it can be written down. -/
  written (words : String) : Except Fault Value :=
    if v.isWritable then .ok words else .error (.form .longInteger)

/-- What turns a text with places into one without. The state goes from one place to the next. -/
abbrev Filler (ν : Type) := ν → List Char → Except Fault (List Char × ν)

/-- What turns one place into text. -/
abbrev Putter (ν : Type) := ν → Place → Except Fault (List Char × ν)

/-- Fills the places of a form, if it has any. -/
def fillInside (inside : Filler ν) (state : ν) (p : Place) : Except Fault (List Char × ν) :=
  if p.form.contains '\x7b' then inside state p.form else .ok (p.form, state)

/-- The text of a place for a value with a number, and the numbering after it. -/
def putNumbered (values : List Value) (inside : Filler Numbering) : Putter Numbering :=
  fun numbering p => do
    let (v, numbering) ← find values numbering p.field
    let v ← convert v p.conversion
    let (form, numbering) ← fillInside inside numbering p
    match v.layOut form with
    | .error fault => throw (.form fault)
    | .ok text => return (text, numbering)

/-- Fills the rest of a template, at most `fuel` characters of it. -/
def fillFrom (put : Putter ν) : Nat → Filler ν
  | _, state, [] => .ok ([], state)
  | 0, state, _ :: _ => .ok ([], state)
  | fuel + 1, state, c :: rest => do
    if c ≠ '\x7b' ∧ c ≠ '\x7d' then
      let (text, state) ← fillFrom put fuel state rest
      return (c :: text, state)
    else if rest.head? = some c then
      let (text, state) ← fillFrom put fuel state rest.tail
      return (c :: text, state)
    else if rest.isEmpty ∨ c = '\x7d' then throw (.singleBrace c)
    else
      let (place, rest) ← takePlace rest
      let (front, state) ← put state place
      let (text, state) ← fillFrom put fuel state rest
      return (front ++ text, state)

/-- Fills a template. The places inside its forms are filled alike, but their forms have none. -/
def fillWith (put : Filler ν → Putter ν) (state : ν) (text : List Char) :
    Except Fault (List Char) :=
  let deepest : Filler ν := fun _ _ => .error .tooDeep
  let inside : Filler ν := fun state form => fillFrom (put deepest) form.length state form
  (fillFrom (put inside) text.length state text).map Prod.fst

/-- Fills a template with values. -/
def fill (template : String) (values : List Value) : Except Fault String :=
  (fillWith (putNumbered values) .fresh template.toList).map String.ofList

/-! ## A value with a name -/

/-- A value of its own kind: what comes after its name in a field and the conversion lead to a way
of laying out in forms. -/
abbrev Custom := List Char → Option Char → Except Fault (List Char → Except Fault (List Char))

/-- The text of a place where one value is known, and that by its name. -/
def putNamed (name : String) (v : Custom) (inside : Filler Unit) : Putter Unit := fun _ p => do
  let (first, path) := p.field.span fun c => c != '.' && c != '['
  if first.isEmpty || (← number? first).isSome then throw .positional
  if String.ofList first ≠ name then throw (.noName (String.ofList first))
  let layOut ← v path p.conversion
  let (form, _) ← fillInside inside () p
  return (← layOut form, ())

/-- Whether a text is a template; if not, what is wrong with it. What its places name does not
matter. -/
def check (text : List Char) : Except Fault Unit :=
  (fillFrom (fun _ _ => .ok ([], ())) text.length () text).map fun _ => ()

/-- Fills a template with a value that has a name. The whole of it is checked before. -/
def fillNamed (template name : String) (v : Custom) : Except Fault String := do
  check template.toList
  return String.ofList (← fillWith (putNamed name v) () template.toList)

end Enrollment.Template
