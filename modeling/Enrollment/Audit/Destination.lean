import Enrollment.Audit.Journal
import Enrollment.Configuration.Basic
import Enrollment.Files.Tree

/-!
# Where the audit trail goes

Once the trail is configured, its records go to the terminal and to a file, each on a line of its
own. Records below a level, and records that do not belong to the trail, are left out; a record that
cannot be written down gets a report on the terminal in place of its line. The name of the file is a
template for the time. `Output` is what became of terminal and files so far.
-/

namespace Enrollment

/-- Whether a record belongs to the audit trail; a field may say that it does not. -/
def Record.isAudited (r : Record) : Bool :=
  match r.fields.get? "audit" with
  | some v => v.isTruthy
  | none => false

/-- A field as running text. -/
def Record.fieldText (r : Record) (name : String) : String :=
  ((r.fields.get? name).map Value.asText).getD ""

/-- What lines take from outside: the time stamp, and the traceback of a failure to write them. -/
structure Imprint where
  stamp : String
  traceback : String := ""
deriving Repr, Inhabited

/-- Whether a record can be written down. -/
def Record.isWritable (r : Record) : Bool := r.fields.all fun (_, v) => v.isWritable

/-- A record on a line, with a time stamp in front. -/
def Record.line (stamp : String) (r : Record) : String :=
  stamp ++ " [" ++ r.level.name ++ "] [" ++ r.fieldText "correlation_id" ++ "] <" ++
    r.fieldText "event" ++ "> " ++ r.message ++ " | " ++
    (Value.table (r.fields.map fun (name, v) => (.text name, v))).wording ++ "\n"

/-- Where lines go. -/
inductive Target where
  | terminal
  | file (path : Path)
deriving DecidableEq, Repr

/-- The number of a target among those that records go to. -/
def Target.number : Target → Nat
  | .terminal => 1
  | .file _ => 2

/-- What the terminal gets in place of a line that cannot be written. -/
def Target.report (traceback : String) (t : Target) : String :=
  "--- Logging error in Loguru Handler #" ++ toString t.number ++ " ---\n" ++
    "Record was: /!\\ Unprintable record /!\\\n" ++ traceback ++
    "--- End of logging error ---\n"

/-- A target, and the level that records for it have to have. -/
structure Destination where
  threshold : Level
  target : Target
deriving Repr

/-- Whether a record goes to a destination. -/
def Destination.admits (d : Destination) (r : Record) : Bool :=
  r.isAudited && d.threshold.weight ≤ r.level.weight

/-- Where records go, what was written to the terminal, and the files. -/
structure Output where
  destinations : List Destination := []
  terminal : String := ""
  files : FileTree := {}

namespace Output

/-- Writes a text to the terminal. -/
def say (o : Output) (text : String) : Output := { o with terminal := o.terminal ++ text }

/-- Writes a text to a target. The file of a target was made when it was configured. -/
def send (o : Output) (text : String) : Target → Output
  | .terminal => o.say text
  | .file path =>
    match o.files.append path (Octets.ofText text) with
    | .ok files => { o with files }
    | .error _ => o

/-- Writes a record to a target. -/
def record (m : Imprint) (o : Output) (r : Record) (t : Target) : Output :=
  if r.isWritable then o.send (r.line m.stamp) t else o.say (t.report m.traceback)

/-- Writes a record to all destinations that admit it. -/
def write (m : Imprint) (o : Output) (r : Record) : Output :=
  (o.destinations.filter (·.admits r)).foldl (fun o d => o.record m r d.target) o

/-- Writes records one after the other. -/
def writeAll (m : Imprint) (o : Output) (rs : List Record) : Output := rs.foldl (write m) o

/-- The path that the name of a trail comes to. The name may show the time, and nothing else. -/
def trailPath (clock : Template.Custom) (t : FileTree) (path : Path) : Except Fault Path :=
  match Template.fillNamed path.text "time" clock with
  | .error fault => .error (.template fault)
  | .ok name => .ok (t.absolute (.ofText name))

/-- Makes the file of a trail. The directories above its path are made as it is written, with the
time not filled in, and then once more. -/
def openTrail (clock : Template.Custom) (t : FileTree) (path : Path) :
    Except Fault Path × FileTree :=
  if path.parent.hasNul then (.error .nulInPath, t)
  else match t.ensureDirectory path.parent with
    | (.error fault, t) => (.error (.file fault), t)
    | (.ok (), t) =>
      match trailPath clock t path with
      | .error fault => (.error fault, t)
      | .ok file =>
        let (opened, t) := openFile t file
        (opened.map fun () => file, t)

/-- Sends all further records where a configuration says: to the terminal, and to a file unless
there is a fault with it. -/
def configure (clock : Template.Custom) (o : Output) (c : Configuration.Audit) :
    Except Fault Unit × Output :=
  let o := { o with destinations := [⟨c.level, .terminal⟩] }
  match c.logFile with
  | none => (.ok (), o)
  | some path =>
    match openTrail clock o.files path with
    | (.error fault, files) => (.error fault, { o with files })
    | (.ok file, files) =>
      (.ok (), { o with destinations := o.destinations ++ [⟨c.level, .file file⟩], files })

end Output

end Enrollment
