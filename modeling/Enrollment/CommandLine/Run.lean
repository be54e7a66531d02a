import Enrollment.Audit.Destination
import Enrollment.Client.Session
import Enrollment.CommandLine.Arguments
import Enrollment.Configuration.File

/-!
# A run of the program

A run reads its words and its configuration, asks the server for what is wanted, and writes the
certificates that come back. The exit status tells a script what to do: all is well, something
failed, or the request is to be made again later. `run` is the whole of it, for any engine; what
surrounds the program comes in with `Setting`, and what the run did comes out with `Report`.
-/

namespace Enrollment.CommandLine

/-- What surrounds a run. -/
structure Setting where
  words : List String
  environment : Environment
  files : FileTree
  /-- The time as the name of the log file may show it. -/
  clock : Template.Custom
  /-- What log lines take from outside. -/
  imprint : Imprint

/-- A fault that nothing in the program handles. -/
inductive Escape where
  | configuration (fault : Configuration.LoadFault)
  | failure (failure : Failure)
deriving Repr

/-- A fault for a reader. -/
def Escape.text : Escape → String
  | .configuration (.unreadable fault) => fault.name ++ ": " ++ fault.message
  | .configuration (.yaml (.scalar fault)) => fault.name ++ ": " ++ fault.message
  | .configuration (.yaml fault) => fault.name
  | .configuration (.invalid issues) => Configuration.issuesText issues
  | .failure f => f.name ++ ": " ++ f.message

/-- How a run ended. -/
inductive Ending where
  | exit (status : Nat)
  | escaped (e : Escape)
deriving Repr

/-- What a run did. -/
structure Report (σ : Type) where
  ending : Ending
  printed : String := ""
  output : Output
  /-- The configuration and the engine, if the run came so far. -/
  reached : Option (Configuration × σ) := none

namespace Ending

/-- All is well. -/
def success : Ending := .exit 0

/-- Something failed. -/
def failed : Ending := .exit 1

/-- The request is to be made again later; or the words make no sense. -/
def later : Ending := .exit 2

end Ending

/-- A line that the program writes. -/
def sayLine (text : String) : String := programName ++ ": " ++ text ++ "\n"

/-! ## Configuration -/

/-- What is wrong with a configuration file, unless nothing handles that. -/
def complaint? : Configuration.LoadFault → Option String
  | .unreadable (.file fault) => some fault.message
  | .yaml (.refused _) => some cryptographicText
  | .invalid issues => some (Configuration.issuesText issues)
  | _ => none

/-- The configuration of a run: of the file that the words name, or of the usual places. -/
def configuration (s : Setting) (a : Arguments) : Except Configuration.LoadFault Configuration :=
  match a.configuration with
  | some path => Configuration.load s.files path
  | none =>
    Configuration.loadFromEnvironment s.files s.environment Configuration.usualVariable none

/-! ## Operations -/

/-- The client of a configuration, with what the words change in it. -/
def client (E : Engine σ) (s : Setting) (c : Configuration) (a : Arguments) (w : World σ) :
    Except Failure Client × World σ :=
  let (made, w) := Client.ofConfiguration E s.files c w
  let changed : Except Failure Client := do
    let client ← made
    let store ← match a.server with
      | none | some "" => pure client.store
      | some host => client.store.setServerName host
    let store ← match a.port with
      | none => pure store
      | some port => store.setServerPort (.int port)
    return client.withStore store
  (changed, w)

/-- The mode of a request: that of the words, or of the configuration, or HTTP. -/
def modeOf (c : Configuration) (asked : Option AuthMode) : AuthMode :=
  (asked <|> c.auth.map (·.mode)).getD .http

/-- The step that the words ask for; its files are read for it. -/
def stepOf (s : Setting) (c : Configuration) : Operation → Except Failure Step
  | .fetch => .ok .fetch
  | .enroll request key mode disablePop => do
    let key ← loadPrivateKey s.files key
    match readFile s.files request with
    | .ok bytes =>
      return .enroll (.plain (.octets bytes)) (.secret key) (.mode (modeOf c mode)) disablePop
    | .error (.file fault) => throw (invalidFile request fault.message)
    | .error fault => throw (.fault fault)
  | .renew certificate key mode disablePop => do
    let key ← loadPrivateKey s.files key
    match ← loadCertificates s.files certificate with
    | [] => throw (invalidFile certificate "no certificates found")
    | old :: _ =>
      return .reenroll (.certificate old) (.secret key) (.mode (modeOf c mode)) disablePop

/-- Does what the words ask for: the certificates that came back, or nothing. -/
def operate (E : Engine σ) (s : Setting) (c : Configuration) (a : Arguments) (w : World σ) :
    Except Failure (Option (List Certificate)) × World σ :=
  match client E s c a w with
  | (.error failure, w) => (.error failure, w)
  | (.ok client, w) =>
    match stepOf s c a.operation with
    | .error failure => (.error failure, w)
    | .ok step =>
      let (result, _, w) := client.step E step w
      let certificates (r : StepResult) : Option (List Certificate) :=
        match r with
        | .certificates cs => some cs
        | .certificate c => c.map fun c => [c]
        | _ => none
      (result.map certificates, w)

/-! ## Results -/

/-- Writes certificates to a file, or prints them. -/
def deliver (out : Option Path) (certificates : List Certificate) (r : Report σ) : Report σ :=
  let text : Octets := certificates.flatMap Certificate.toPem
  match out with
  | none => { r with printed := String.ofList text.toLatin }
  | some path =>
    if path.hasNul then { r with ending := .escaped (.failure (.fault .nulInPath)) }
    else match r.output.files.write path text with
      | .ok files => { r with output := { r.output with files } }
      | .error fault => { r with ending := .escaped (.failure (.fault (.file fault))) }

/-- What the program says when it is asked to come back later. -/
def laterText (e : ClientError) : String :=
  e.message ++ "; keep the CSR and key and retry" ++
    (if e.retryAfter.isNull then " later" else " after " ++ e.retryAfter.asText ++ " seconds")

/-- The end of a run whose operation came out with a result. -/
def conclude (out : Option Path) (result : Except Failure (Option (List Certificate)))
    (r : Report σ) : Report σ :=
  let ended (ending : Ending) (text : String) : Report σ :=
    { r with ending, output := r.output.say (sayLine text) }
  match result with
  | .ok (some certificates) => deliver out certificates r
  | .ok none => ended .failed "server returned no certificate"
  | .error (.client e) =>
    if e.kind = .retryAfter then
      if e.retryAfter.isWritable then ended .later (laterText e)
      else { r with ending := .escaped (.failure (.fault .longInteger)) }
    else ended .failed e.message
  | .error failure => { r with ending := .escaped (.failure failure) }

/-- The end of a run whose words are no request. -/
def stopped (o : Output) : Stop → Report σ
  | .answer text => { ending := .success, printed := text, output := o }
  | .misuse program message =>
    { ending := .later, output := o.say (program ++ ": error: " ++ message ++ "\n") }

/-- A run of the program. `start` makes the engine of a configuration, and its state. -/
def run (start : Configuration.Engine → Engine σ × σ) (s : Setting) : Report σ :=
  let o : Output := { files := s.files }
  match Arguments.read s.words with
  | .error stop => stopped o stop
  | .ok a =>
    match configuration s a with
    | .error fault =>
      match complaint? fault with
      | some text =>
        { ending := .failed, output := o.say (sayLine ("invalid configuration: " ++ text)) }
      | none => { ending := .escaped (.configuration fault), output := o }
    | .ok c =>
      match o.configure s.clock c.audit with
      | (.error fault, o) => { ending := .escaped (.failure (.fault fault)), output := o }
      | (.ok (), o) =>
        let (E, engine) := start c.engine
        match Settings.ofConfiguration c.engine with
        | .error failure => conclude a.out (.error failure) { ending := .success, output := o }
        | .ok settings =>
          let (result, w) := operate E { s with files := o.files } c a { settings, engine }
          conclude a.out result
            { ending := .success, output := o.writeAll s.imprint w.journal.records,
              reached := some (c, w.engine) }

end Enrollment.CommandLine
