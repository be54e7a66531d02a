import Enrollment.Text.Digit
import Enrollment.Text.Quoted

/-!
# Words of a command line

A command line is a list of words. Switches begin with a hyphen; they may be abbreviated as long
as that is unambiguous, and their value may stand in the same word. The first word that is no
switch and no value of one is a command, and all words after it are for the command. A grammar
says which switches there are, and `Grammar.read` goes through the words once.
-/

namespace Enrollment.CommandLine

/-- Why reading ends early. -/
inductive Stop where
  /-- Something is asked for that is no run of the program: its answer goes to the reader. -/
  | answer (text : String)
  /-- A fault in the words, as a program or one of its commands reports it. -/
  | misuse (program message : String)
deriving DecidableEq, Repr

/-- What a switch does. -/
inductive Action (σ : Type) where
  /-- Takes a value. -/
  | value (read : String → σ → Except String σ)
  | flag (set : σ → σ)
  /-- Ends reading with an answer. -/
  | answer (text : String)

/-- A switch: its names, the short one first, and what it does. -/
structure Switch (σ : Type) where
  names : List String
  action : Action σ

namespace Switch

/-- The names of a switch in one word. -/
def label (s : Switch σ) : String := String.intercalate "/" s.names

/-- Whether a switch takes a value. -/
def takesValue (s : Switch σ) : Bool :=
  match s.action with
  | .value _ => true
  | _ => false

end Switch

/-- Which words a program or a command knows. -/
structure Grammar (σ : Type) where
  program : String
  switches : List (Switch σ)
  /-- The command that a word begins: what it makes of the words after it, and which of those it
  does not know. -/
  command? : Option (String → List String → σ → Except Stop (σ × List String)) := none
  /-- The names of what is missing. -/
  missing : σ → List String

namespace Grammar

/-- A fault in the words. -/
def misuse (g : Grammar σ) (message : String) : Except Stop α := .error (.misuse g.program message)

/-- A fault in the use of a switch. -/
def misused (g : Grammar σ) (s : Switch σ) (message : String) : Except Stop α :=
  g.misuse ("argument " ++ s.label ++ ": " ++ message)

/-! ## Kinds of words -/

/-- What stands behind a switch in the same word. -/
inductive Attached where
  | nothing
  /-- Text behind an equals sign. -/
  | value (text : String)
  /-- Text right behind the letter of a short switch: its value, or the letters of more. -/
  | letters (text : String)

/-- What a word is. -/
inductive Kind (σ : Type) where
  | plain
  | separator
  | switch (s : Switch σ) (attached : Attached)
  | unknown

/-- The switch of a name. -/
def find? (g : Grammar σ) (name : String) : Option (Switch σ) :=
  g.switches.find? fun s => s.names.contains name

/-- All names with their switches. -/
def table (g : Grammar σ) : List (String × Switch σ) :=
  g.switches.flatMap fun s => s.names.map fun name => (name, s)

/-- A word before and after its first equals sign. -/
def splitValue (word : String) : Option (String × String) :=
  let (name, rest) := word.toList.span (· != '=')
  match rest with
  | [] => none
  | _ :: value => some (String.ofList name, String.ofList value)

/-- The switches that an abbreviated word can stand for. A short switch may have its value right
behind its letter. -/
def candidates (g : Grammar σ) (word : String) : List (String × Switch σ × Attached) :=
  if word.startsWith "--" then
    let (start, attached) := match splitValue word with
      | some (name, value) => (name, Attached.value value)
      | none => (word, Attached.nothing)
    (g.table.filter fun (name, _) => name.startsWith start).map fun (name, s) => (name, s, attached)
  else
    let letter := String.ofList (word.toList.take 2)
    let value := String.ofList (word.toList.drop 2)
    g.table.filterMap fun (name, s) =>
      if name = letter then some (name, s, .letters value)
      else if name.startsWith word then some (name, s, .nothing)
      else none

/-- Whether a word is a negative number, with digits of any script. -/
def isNegativeNumber (word : String) : Bool :=
  let areDigits (text : List Char) : Bool :=
    !text.isEmpty && text.all fun c => (Text.decimalDigit? c).isSome
  match word.toList with
  | '-' :: rest =>
    let (whole, fraction) := rest.span (· != '.')
    match fraction with
    | [] => areDigits whole
    | _ :: digits => (whole.isEmpty || areDigits whole) && areDigits digits
  | _ => false

/-- What a word is. -/
def kind (g : Grammar σ) (word : String) : Except Stop (Kind σ) :=
  if word = "--" then .ok .separator
  else if !word.startsWith "-" || word = "-" then .ok .plain
  else
    match g.find? word, (splitValue word).bind fun (name, value) =>
        (g.find? name).map fun s => (s, value) with
    | some s, _ => .ok (.switch s .nothing)
    | none, some (s, value) => .ok (.switch s (.value value))
    | none, none =>
      match g.candidates word with
      | [(_, s, attached)] => .ok (.switch s attached)
      | [] =>
        .ok (if isNegativeNumber word || word.toList.contains ' ' then .plain else .unknown)
      | several =>
        g.misuse ("ambiguous option: " ++ word ++ " could match " ++
          String.intercalate ", " (several.map Prod.fst))

/-- What each word is; all words after a separator are plain. -/
def kinds (g : Grammar σ) : List String → Except Stop (List (String × Kind σ))
  | [] => .ok []
  | word :: more => do
    match ← g.kind word with
    | .separator => return (word, .separator) :: more.map fun w => (w, .plain)
    | kind => return (word, kind) :: (← g.kinds more)

/-! ## Switches -/

/-- Uses of switches that one word makes, in order. -/
structure Uses (σ : Type) where
  uses : List (Switch σ × String)
  /-- Letters at the end of the word that are no switches, as a word of their own. -/
  unknown : List String := []
  /-- The words after the last value. -/
  rest : List (String × Kind σ)

/-- A switch that is used with the text in its word as its value. -/
def useWith (g : Grammar σ) (s : Switch σ) (value : String) (rest : List (String × Kind σ)) :
    Except Stop (Uses σ) :=
  if s.takesValue then .ok ⟨[(s, value)], [], rest⟩
  else g.misused s ("ignored explicit argument " ++ Text.quote value)

/-- What stands behind a letter of a word of short switches. -/
def attachedTo : List Char → Attached
  | [] => .nothing
  | '=' :: value => .value (String.ofList value)
  | letters => .letters (String.ofList letters)

/-- Uses of switches that one word makes: short switches without a value may be followed by
others. `fuel` is above the length of the word. -/
def uses (g : Grammar σ) : Nat → Switch σ → Attached → List (String × Kind σ) →
    Except Stop (Uses σ)
  | 0, s, _, _ => g.misused s "expected one argument"
  | fuel + 1, s, attached, rest =>
    match attached with
    | .value value => g.useWith s value rest
    | .letters text =>
      match s.takesValue, text.toList with
      | false, letter :: more =>
        if letter = '-' then g.useWith s text rest
        else
          match g.find? (String.ofList ['-', letter]) with
          | some t => do
            let later ← g.uses fuel t (attachedTo more) rest
            return { later with uses := (s, "") :: later.uses }
          | none => .ok ⟨[(s, "")], ["-" ++ text], rest⟩
      | _, _ => g.useWith s text rest
    | .nothing =>
      if !s.takesValue then .ok ⟨[(s, "")], [], rest⟩
      else
        match rest with
        | (value, .plain) :: rest => .ok ⟨[(s, value)], [], rest⟩
        | _ => g.misused s "expected one argument"

/-- Does what a switch does. -/
def apply (g : Grammar σ) (state : σ) (use : Switch σ × String) : Except Stop σ :=
  match use.1.action with
  | .value read =>
    match read use.2 state with
    | .ok state => .ok state
    | .error message => g.misused use.1 message
  | .flag set => .ok (set state)
  | .answer text => .error (.answer text)

/-! ## Reading -/

/-- Goes through words; the result has the words that are not known. `fuel` is not below the
number of words. -/
def walk (g : Grammar σ) : Nat → List (String × Kind σ) → σ → Except Stop (σ × List String)
  | _, [], state =>
    match g.missing state with
    | [] => .ok (state, [])
    | names =>
      g.misuse ("the following arguments are required: " ++ String.intercalate ", " names)
  | 0, words, state => .ok (state, words.map Prod.fst)
  | fuel + 1, (word, kind) :: rest, state =>
    let other : Except Stop (σ × List String) := do
      let (state, unknown) ← g.walk fuel rest state
      return (state, word :: unknown)
    let command (more : List String) : Except Stop (σ × List String) :=
      match g.command? with
      | none => other
      | some run => do
        let (state, unknown) ← run word more state
        let (state, _) ← g.walk fuel [] state
        return (state, unknown)
    match kind with
    | .switch s attached => do
      let made ← g.uses (word.length + 1) s attached rest
      let state ← made.uses.foldlM g.apply state
      let (state, unknown) ← g.walk fuel made.rest state
      return (state, made.unknown ++ unknown)
    | .unknown => other
    | .plain => command (rest.map Prod.fst)
    | .separator => if rest.isEmpty then other else command (rest.map Prod.fst)

/-- Reads words; the result has the words that are not known. -/
def read (g : Grammar σ) (words : List String) (state : σ) : Except Stop (σ × List String) := do
  g.walk words.length (← g.kinds words) state

end Grammar

end Enrollment.CommandLine
