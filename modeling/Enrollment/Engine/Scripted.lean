import Enrollment.Engine.Basic

/-!
# A scripted engine

An engine that answers from a list, one answer for each call and the last one again and again,
and remembers what it was called with.
-/

namespace Enrollment.Scripted

/-- The answers that are left, and the calls so far, oldest first. -/
structure State where
  script : List (Except Failure (Option Octets))
  calls : List EngineCall := []

/-- The next answer of a script, and what is left of it. -/
def next (default : α) : List α → α × List α
  | [] => (default, [])
  | [a] => (a, [a])
  | a :: more => (a, more)

/-- The engine. Restricting its cryptography fails with a reason, if one is given. -/
def engine (refusal : Option String) : Engine State where
  answer _ call s :=
    let (result, script) := next (.ok (some [])) s.script
    ({ result }, { script, calls := s.calls ++ [call] })
  restrict _ :=
    match refusal with
    | none => .ok ()
    | some reason => .error (.ofCause .engine (.fipsFailed reason))

end Enrollment.Scripted
