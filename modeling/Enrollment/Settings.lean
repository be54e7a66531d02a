import Enrollment.Error

/-!
# Engine settings

Settings belong to an engine and hold for all sessions that share it: the longest response it
takes, how much it writes into the audit trail, and whether its cryptography is restricted to the
approved algorithms. That last one is switched on once and never off.
-/

namespace Enrollment

/-- How much an engine writes. -/
inductive Verbosity where
  | errors
  | warnings
  | full
deriving DecidableEq, Repr, Inhabited

namespace Verbosity

/-- All verbosities. -/
def all : List Verbosity := [errors, warnings, full]

/-- The word for a verbosity. -/
def text : Verbosity → String
  | errors => "errors"
  | warnings => "warnings"
  | full => "full"

/-- The verbosity with a word. -/
def ofText? (s : String) : Option Verbosity := all.find? fun v => v.text = s

/-- The verbosity that a value is the word for. -/
def ofValue? : Value → Option Verbosity
  | .text s => ofText? s
  | _ => none

/-- The verbosity that a value names. -/
def ofValue (v : Value) : Except Fault Verbosity :=
  match ofValue? v with
  | some level => .ok level
  | none => .error (if v.isWritable then .notVerbosity v.wording else .longInteger)

/-- The levels of the records that a verbosity lets through. -/
def levels : Verbosity → List String
  | errors => ["ERROR"]
  | warnings => ["ERROR", "WARNING"]
  | full => ["ERROR", "WARNING", "INFO", "DEBUG"]

/-- Whether a verbosity lets records of a level through. -/
def admits (v : Verbosity) (level : String) : Bool := v.levels.contains level

end Verbosity

/-- The longest response that is taken unless something else is said. -/
def defaultMaxLength : Nat := 8192

/-- The settings of an engine. -/
structure Settings where
  maxLength : Nat := defaultMaxLength
  verbosity : Verbosity := .errors
  fips : Bool := false
deriving DecidableEq, Repr, Inhabited

/-- The failure of a setting that a value cannot be: the value is shown after the reason, which
fails itself if the value cannot be written down. -/
def unsuitable (field reason : String) (v : Value) : Failure :=
  if v.isWritable then .ofCause .invalidArgument (.missingValue field (reason ++ v.wording))
  else .fault .longInteger

namespace Settings

/-- The length that a value is, if responses may have it: an integer above zero. -/
def lengthOf? : Value → Option Nat
  | .int (.ofNat (n + 1)) => some (n + 1)
  | _ => none

/-- A length that responses may have. -/
def lengthOfValue (v : Value) : Except Failure Nat :=
  match lengthOf? v with
  | some n => .ok n
  | none => .error (unsuitable "max_cert_length"
      "Maximum certificate length must be a positive integer, got " v)

/-- Sets the longest response. -/
def setMaxLength (s : Settings) (v : Value) : Except Failure Settings := do
  return { s with maxLength := ← lengthOfValue v }

/-- Sets the verbosity. -/
def setVerbosity (s : Settings) (v : Value) : Except Failure Settings :=
  match Verbosity.ofValue v with
  | .ok verbosity => .ok { s with verbosity }
  | .error fault => .error (.fault fault)

/-- Switches to the approved algorithms. -/
def markFips (s : Settings) : Settings := { s with fips := true }

/-- Settings from a length and a verbosity, each of which may be left out. -/
def create (maxLength verbosity : Option Value) : Except Failure Settings := do
  let s ← match maxLength with
    | some v => ({} : Settings).setMaxLength v
    | none => .ok {}
  match verbosity with
  | some v => s.setVerbosity v
  | none => return s

end Settings

end Enrollment
