import Enrollment.CommandLine.Grammar
import Enrollment.Decimal.Radix
import Enrollment.Files.Path
import Enrollment.Store
import Enrollment.Version

/-!
# Arguments

What the words of a command line ask for: one of three operations, and what they change in the
configuration. The grammars of the program and of its commands stand here, and `Arguments.read` is
the way from words to arguments.
-/

namespace Enrollment.CommandLine

/-- The files and choices of a command that asks for a certificate. -/
structure Submission where
  /-- The signing request, or the certificate to renew. -/
  subject : Option Path := none
  key : Option Path := none
  mode : Option AuthMode := none
  disablePop : Bool := false
deriving DecidableEq, Repr

/-- What is to be done. -/
inductive Operation where
  | fetch
  | enroll (request key : Path) (mode : Option AuthMode) (disablePop : Bool)
  | renew (certificate key : Path) (mode : Option AuthMode) (disablePop : Bool)
deriving DecidableEq, Repr

/-- What the words before the command say. -/
structure Preface where
  configuration : Option Path := none
  server : Option String := none
  port : Option Int := none
  out : Option Path := none
  operation : Option Operation := none
deriving DecidableEq, Repr

/-- What a command line asks for. -/
structure Arguments where
  configuration : Option Path
  server : Option String
  port : Option Int
  out : Option Path
  operation : Operation
deriving DecidableEq, Repr

/-- The files that the arguments name. -/
def Arguments.paths (a : Arguments) : List Path :=
  a.configuration.toList ++ a.out.toList ++
    match a.operation with
    | .fetch => []
    | .enroll file key _ _ | .renew file key _ _ => [file, key]

/-! ## Values -/

/-- A switch whose value is a path. -/
def pathSwitch (names : List String) (set : Path → σ → σ) : Switch σ :=
  ⟨names, .value fun word state => .ok (set (.ofText word) state)⟩

/-- The complaint about a word that is none of some choices. -/
def invalidChoice (word : String) (choices : List String) : String :=
  "invalid choice: " ++ Text.quote word ++ " (choose from " ++
    String.intercalate ", " (choices.map Text.quote) ++ ")"

/-- A switch whose value is an integer. -/
def integerSwitch (names : List String) (set : Int → σ → σ) : Switch σ :=
  ⟨names, .value fun word state =>
    match Radix.read 10 word.toList with
    | .ok n => .ok (set n state)
    | .error _ => .error ("invalid int value: " ++ Text.quote word)⟩

/-- A switch whose value is a mode. -/
def modeSwitch (names : List String) (set : AuthMode → σ → σ) : Switch σ :=
  ⟨names, .value fun word state =>
    match AuthMode.ofText? word with
    | some mode => .ok (set mode state)
    | none => .error (invalidChoice word (AuthMode.all.map AuthMode.text))⟩

/-- How a program is used. -/
def usage (program : String) (words : List String) : String :=
  "usage: " ++ String.intercalate " " (program :: "[-h]" :: words) ++ "\n"

/-- The switch that asks how a program is used. -/
def helpSwitch (text : String) : Switch σ := ⟨["-h", "--help"], .answer text⟩

/-! ## Commands -/

/-- The name of a command for a reader. -/
def commandName (word : String) : String := programName ++ " " ++ word

/-- The grammar of the command that fetches the certificates of the authority. -/
def fetchGrammar : Grammar Unit where
  program := commandName "cacerts"
  switches := [helpSwitch (usage (commandName "cacerts") [])]
  missing := fun _ => []

/-- The grammar of a command that asks for a certificate; `subject` is the switch for what it is
asked with. -/
def submissionGrammar (word subject : String) : Grammar Submission where
  program := commandName word
  switches := [
    helpSwitch (usage (commandName word)
      [subject, "FILE", "--key", "FILE", "[--mode http|srp|tls]", "[--disable-pop]"]),
    pathSwitch [subject] fun p s => { s with subject := some p },
    pathSwitch ["--key"] fun p s => { s with key := some p },
    modeSwitch ["--mode"] fun m s => { s with mode := some m },
    ⟨["--disable-pop"], .flag fun s => { s with disablePop := true }⟩]
  missing := fun s =>
    (if s.subject.isNone then [subject] else []) ++ (if s.key.isNone then ["--key"] else [])

/-- The words for commands. -/
def commands : List String := ["cacerts", "enroll", "reenroll"]

/-- Reads the words of a command that asks for a certificate. -/
def readSubmission (word subject : String)
    (operation : Path → Path → Option AuthMode → Bool → Operation) (words : List String)
    (p : Preface) : Except Stop (Preface × List String) := do
  let (s, unknown) ← (submissionGrammar word subject).read words {}
  match s.subject, s.key with
  | some file, some key =>
    return ({ p with operation := some (operation file key s.mode s.disablePop) }, unknown)
  | _, _ => return (p, unknown)

/-- Reads the words of a command. -/
def readCommand (word : String) (words : List String) (p : Preface) :
    Except Stop (Preface × List String) :=
  if word = "cacerts" then do
    let (_, unknown) ← fetchGrammar.read words ()
    return ({ p with operation := some .fetch }, unknown)
  else if word = "enroll" then readSubmission word "--csr" .enroll words p
  else if word = "reenroll" then readSubmission word "--cert" .renew words p
  else .error (.misuse programName ("argument command: " ++ invalidChoice word commands))

/-! ## The program -/

/-- How the program is used. -/
def programUsage : String :=
  usage programName ["[--version]", "[-c FILE]", "[--server HOST]", "[--port PORT]", "[-o FILE]",
    "cacerts|enroll|reenroll"]

/-- The grammar of the program. -/
def grammar : Grammar Preface where
  program := programName
  switches := [
    helpSwitch programUsage,
    ⟨["--version"], .answer (versionText ++ "\n")⟩,
    pathSwitch ["-c", "--config"] fun p s => { s with configuration := some p },
    ⟨["--server"], .value fun word s => .ok { s with server := some word }⟩,
    integerSwitch ["--port"] fun n s => { s with port := some n },
    pathSwitch ["-o", "--out"] fun p s => { s with out := some p }]
  command? := some readCommand
  missing := fun p => if p.operation.isNone then ["command"] else []

/-- Reads the words of a command line. -/
def Arguments.read (words : List String) : Except Stop Arguments := do
  let (p, unknown) ← grammar.read words {}
  match unknown, p.operation with
  | [], some operation => return ⟨p.configuration, p.server, p.port, p.out, operation⟩
  | unknown, _ =>
    grammar.misuse ("unrecognized arguments: " ++ String.intercalate " " unknown)

end Enrollment.CommandLine
