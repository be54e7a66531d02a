import Enrollment.Client.Basic

/-!
# Changes of settings

Every client can change the settings of its engine, for all clients of that engine. A change that
is accepted is recorded, unless its value cannot be written down; one that is refused leaves
settings and journal as they are, except that a refusal by the engine is recorded as an error. Who
holds the settings themselves can also assign them, past all clients and without a record.
-/

namespace Enrollment

/-- What is passed for a verbosity. -/
inductive VerbosityValue where
  | verbosity (v : Verbosity)
  | plain (v : Value)

/-- Changes the settings and records the change. A value that cannot be written down has changed
them by the time that the record fails. -/
def World.changed (w : World σ) (settings : Settings) (setting : String) (value : Value) :
    Except Failure Unit × World σ :=
  match w.journal.settingsChanged setting value with
  | .ok journal => (.ok (), { w with settings, journal })
  | .error fault => (.error (.fault fault), { w with settings })

/-- Sets the longest response. -/
def World.setMaxLength (w : World σ) (v : Value) : Except Failure Unit × World σ :=
  match w.settings.setMaxLength v with
  | .ok settings => w.changed settings "max_cert_length" v
  | .error failure => (.error failure, w)

/-- Sets the verbosity. -/
def World.setVerbosity (w : World σ) (v : VerbosityValue) : Except Failure Unit × World σ :=
  let set (x : Verbosity) : Except Failure Unit × World σ :=
    w.changed { w.settings with verbosity := x } "log_level" x.text
  match v with
  | .verbosity x => set x
  | .plain v =>
    match Verbosity.ofValue? v with
    | some x => set x
    | none => (.error (unsuitable "log_level" "Invalid log level: " v), w)

/-- Whether a failure is one that engines report. -/
def Failure.isOfEngine : Failure → Bool
  | .client e => e.kind.isA .engine
  | .fault _ => false

/-- Restricts the cryptography of the engine. -/
def World.enableFips (E : Engine σ) (w : World σ) : Except Failure Unit × World σ :=
  match E.restrict w.engine with
  | .ok () => w.changed w.settings.markFips "fips" (.bool true)
  | .error failure =>
    if failure.isOfEngine then
      match w.recordFailure failure "enable_fips" with
      | .ok w => (.error failure, w)
      | .error failure => (.error failure, w)
    else (.error failure, w)

/-! ## Assignments -/

/-- What is done to settings themselves. -/
inductive Assignment where
  | maxLength (v : Value)
  | verbosity (v : VerbosityValue)
  | fips (v : Value)
  | markFips

/-- Assigns a setting. The restriction of the cryptography can be marked, but not assigned. -/
def Settings.assign (s : Settings) : Assignment → Except Failure Settings
  | .maxLength v => s.setMaxLength v
  | .verbosity (.verbosity x) => .ok { s with verbosity := x }
  | .verbosity (.plain v) => s.setVerbosity v
  | .fips _ => .error (.fault .readOnlySetting)
  | .markFips => .ok s.markFips

end Enrollment
