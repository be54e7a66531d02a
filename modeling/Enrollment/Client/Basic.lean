import Enrollment.Engine.Basic

/-!
# Client sessions

A client holds a store and knows how far its latest request for a certificate came. Operations
take a client and the world and give both back together with a result.
-/

namespace Enrollment

/-- How far a request for a certificate came. -/
inductive Progress where
  | idle
  | modeSelected
  | prepared
  | awaiting
  | issued
  | deferred
  | faulted
deriving DecidableEq, Repr, Inhabited

/-- The word for a progress. -/
def Progress.text : Progress → String
  | idle => "idle"
  | modeSelected => "auth_mode_selected"
  | prepared => "encoding_prepared"
  | awaiting => "awaiting_response"
  | issued => "issued"
  | deferred => "deferred"
  | faulted => "faulted"

/-- A session of a client. -/
structure Client where
  store : Store := {}
  progress : Progress := .idle

/-- What comes of an operation. -/
structure Outcome (σ α : Type) where
  result : Except Failure α
  progress : Progress
  world : World σ

/-- The arguments of a mode for an engine. -/
def Store.modeArguments (s : Store) : AuthMode → Except Failure ModeArguments
  | .http => .ok (.http s.http)
  | .srp => .ok (.srp s.srp s.http)
  | .tls =>
    match s.tls with
    | none => .error (Store.unusable (.missingCredentials AuthMode.tls.text AuthMode.tls.setter))
    | some t => do
      let certificate ← t.certificate.toDer
      return .tls certificate t.key.toPkcs8 s.http

/-- The world with a failure in its journal; writing it may fail, and then that failure comes
instead, as it does with the other one underway. -/
def World.recordFailure (w : World σ) (failure : Failure) (context : String) :
    Except Failure (World σ) :=
  match w.journal.failed failure context with
  | .ok journal => .ok { w with journal }
  | .error fault => .error (.fault fault.underway)

end Enrollment
