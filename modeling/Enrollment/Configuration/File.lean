import Enrollment.Configuration.Basic
import Enrollment.Files.Tree
import Enrollment.Yaml.Document

/-!
# Configuration files

A configuration is a YAML document; a document that holds nothing stands for the defaults. Which
file is read is said by a variable of the environment, or else the first of some places where a
file stands.
-/

namespace Enrollment

/-- Named texts that surround a program. -/
abbrev Environment := List (String × String)

namespace Configuration

/-- Why a configuration file is no configuration. -/
inductive LoadFault where
  | unreadable (fault : Fault)
  | yaml (fault : Yaml.Fault)
  | invalid (issues : List Issue)
deriving Repr

/-- Reads a configuration file. -/
def load (t : FileTree) (path : Path) : Except LoadFault Configuration := do
  let bytes ← (readFile t path).mapError .unreadable
  let value ← (Yaml.read bytes).mapError .yaml
  let value := if value.isTruthy then value else .table []
  (ofValue value).mapError .invalid

/-- The variable of the environment that names the configuration file. -/
def usualVariable : String := "EST_CLIENT_CONFIG"

/-- The home directory. -/
def home (e : Environment) : Except LoadFault Path :=
  match e.lookup "HOME" with
  | none => .ok (.ofText "/")
  | some text =>
    if text = "" then .ok (.ofText "/")
    else if text.startsWith "~" then .error (.unreadable .noHome)
    else .ok (.ofText text)

/-- The places where a configuration file is looked for. -/
def defaultPlaces (e : Environment) : Except LoadFault (List Path) := do
  let home ← home e
  return [.ofText "est-client.yaml", .ofText "est-client.yml",
    home.append (.ofText ".config/est-client/config.yaml")]

/-- All places where the configuration file can be. -/
def places (e : Environment) : List Path :=
  ((e.lookup usualVariable).map Path.ofText).toList ++ (defaultPlaces e).toOption.getD []

/-- The files that a configuration names. -/
def paths (c : Configuration) : List Path :=
  c.trust.anchorsFile.toList ++ c.audit.logFile.toList ++
    match c.auth.bind (·.tls) with
    | none => []
    | some files => [files.certFile, files.keyFile]

/-- Reads the configuration file that a variable names, or the first of some places, or of the
usual ones. -/
def loadFromEnvironment (t : FileTree) (e : Environment) (name : String)
    (places : Option (List Path)) : Except LoadFault Configuration := do
  match (e.lookup name).filter (· != "") with
  | some text => load t (.ofText text)
  | none =>
    let places ← match places with
      | some places => pure places
      | none => defaultPlaces e
    match places.find? t.exists? with
    | some path => load t path
    | none => return {}

end Configuration

end Enrollment
