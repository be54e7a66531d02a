import Enrollment.CommandLine.Run
import Enrollment.Engine.Https
import Std.Time.Zoned

/-!
# The program

Reads what surrounds a run, does the run, and puts into effect what it did: files, what is
printed, and the exit status. The program brings no transport along, so every request to a server
ends as one that did not reach it.
-/

namespace Enrollment.CommandLine

/-- What stands at a path, as far as it can be read. -/
def nodeAt (path : String) : IO (Option Node) := do
  try
    let bytes ← IO.FS.readBinFile path
    return some (.file bytes.toList)
  catch e =>
    match e with
    | .inappropriateType .. => return some .directory
    | _ => return none

/-- The tree with what stands at a path and on the way to it. -/
def explore (t : FileTree) (path : Path) : IO FileTree := do
  let mut t := t
  for n in List.range path.names.length do
    let part : Path := ⟨path.root, path.names.take (n + 1)⟩
    match ← nodeAt part.text with
    | some node => t := t.add part node
    | none => break
  return t

/-- A form of the time with its letters replaced, by the first of the tokens that stands there. -/
def fillTime (tokens : List (String × String)) : List Char → List Char
  | [] => []
  | c :: rest =>
    match tokens.find? fun (token, _) => token.toList.isPrefixOf (c :: rest) with
    | some (token, text) => text.toList ++ fillTime tokens (rest.drop (token.length - 1))
    | none => c :: fillTime tokens rest
termination_by text => text.length
decreasing_by all_goals simp; try omega

/-- The letters that forms of the time are made of, the more of them the earlier. -/
def timeTokens : IO (List (String × String)) := do
  let now ← Std.Time.PlainDateTime.now
  let date := now.date
  let time := now.time
  let micros := padded 6 (time.nanosecond.val.toNat / 1000)
  return [("YYYY", padded 4 date.year.toInt.toNat), ("MM", padded 2 date.month.val.toNat),
    ("DD", padded 2 date.day.val.toNat), ("HH", padded 2 time.hour.val.toNat),
    ("mm", padded 2 time.minute.val.toNat), ("ss", padded 2 time.second.val.toNat),
    ("SSSSSS", micros), ("SSS", String.ofList (micros.toList.take 3))]

/-- The form of the time in the name of a file. -/
def usualForm : String := "YYYY-MM-DD_HH-mm-ss_SSSSSS"

/-- The time in the name of a file. It has forms and nothing else. -/
def clock (tokens : List (String × String)) : Template.Custom
  | [], none => .ok fun form =>
    .ok (fillTime tokens (if form.isEmpty then usualForm.toList else form))
  | _, _ => .error (.thrown "AttributeError" "the time has nothing but forms")

/-- What log lines take from outside. -/
def imprint (tokens : List (String × String)) : Imprint :=
  { stamp := String.ofList (fillTime tokens "YYYY-MM-DD HH:mm:ss.SSS".toList) }

/-- What surrounds a run with the given words: the variables of the environment and the files that
the run can read or write. -/
def surroundings (words : List String) : IO Setting := do
  let tokens ← timeTokens
  let setting (environment : Environment) (files : FileTree) : Setting :=
    { words, environment, files, clock := clock tokens, imprint := imprint tokens }
  let mut environment : Environment := []
  for name in [Configuration.usualVariable, "HOME"] do
    if let some text ← IO.getEnv name then environment := environment ++ [(name, text)]
  let mut files : FileTree := { home := (Path.ofText (toString (← IO.currentDir))).names }
  if let .ok a := Arguments.read words then
    for path in a.paths ++ Configuration.places environment do
      files ← explore files path
    if let .ok c := configuration (setting environment files) a then
      for path in c.paths do
        files ← explore files path
      if let some path := c.audit.logFile then
        if let .ok path := Output.trailPath (clock tokens) files path then
          files ← explore files path
  return setting environment files

/-- The engine of a run. -/
def startEngine (flag : Except FileFault String) (_ : Configuration.Engine) :
    Engine Https.Transport × Https.Transport :=
  (Https.engine ⟨none, flag⟩, ⟨[.failed "no transport to the server"], []⟩)

/-- The flag of the host that restricts its cryptography. -/
def readFlag : IO (Except FileFault String) := do
  match ← nodeAt Https.flagPath with
  | some (.file bytes) => return .ok (String.ofList (Octets.utf8Lenient bytes))
  | _ => return .error (.notFound Https.flagPath)

/-- Writes what is not as it was before. -/
def store (before after : FileTree) : IO Unit := do
  for (place, node) in after.nodes do
    if before.nodes.lookup place != some node then
      let path := "/" ++ String.intercalate "/" place
      match node with
      | .directory => IO.FS.createDirAll path
      | .file bytes => IO.FS.writeBinFile path ⟨bytes.toArray⟩

end Enrollment.CommandLine

open Enrollment CommandLine

def main (words : List String) : IO UInt32 := do
  let setting ← surroundings words
  let flag ← readFlag
  let report := run (startEngine flag) setting
  store setting.files report.output.files
  IO.print report.printed
  IO.eprint report.output.terminal
  match report.ending with
  | .exit status => return UInt32.ofNat status
  | .escaped e => do
    IO.eprint (sayLine e.text)
    return 1
