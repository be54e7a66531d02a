import Enrollment.Audit.Journal
import Enrollment.Store

/-!
# Engines

An engine carries one operation to the server. It is called with everything the operation needs
and answers with octets, with nothing, or with a failure; on the way it leaves notes. It never
sees the store, and it changes neither settings nor journal: its notes are written for it, as far
as the verbosity lets them through.
-/

namespace Enrollment

/-- The two ways to a certificate. -/
inductive Action where
  | enroll
  | reenroll
deriving DecidableEq, Repr, Inhabited

namespace Action

/-- The kind of an error that an engine makes of a failure. -/
def errorKind : Action → ErrorKind
  | enroll => .enroll
  | reenroll => .reenroll

/-- The operation of an action. -/
def operation (a : Action) : String := a.errorKind.operation

/-- The word for an action in the name of an engine method. -/
def word : Action → String
  | enroll => "enroll"
  | reenroll => "reenroll"

end Action

/-- What every call for a certificate is made with. -/
structure EngineRequest where
  anchors : Bundle
  privateKey : Octets
  endpoint : Endpoint
  disablePop : Bool
  payload : Octets
  maxLength : Int
deriving DecidableEq, Repr, Inhabited

/-- The credentials of a call, as its mode has them. -/
inductive ModeArguments where
  | http (http : Option Login)
  | srp (srp http : Option Login)
  | tls (certificate key : Octets) (http : Option Login)
deriving Repr, Inhabited

namespace ModeArguments

/-- The mode of the credentials. -/
def mode : ModeArguments → AuthMode
  | http _ => .http
  | srp _ _ => .srp
  | tls _ _ _ => .tls

/-- The login for HTTP among the credentials. -/
def httpLogin : ModeArguments → Option Login
  | http l => l
  | srp _ l => l
  | tls _ _ l => l

end ModeArguments

/-- A call of an engine. -/
inductive EngineCall where
  | certificate (action : Action) (request : EngineRequest) (arguments : ModeArguments)
  | caCertificates (anchors : Bundle) (endpoint : Endpoint) (srp : Option Login) (maxLength : Int)
deriving Repr, Inhabited

namespace EngineCall

/-- The name of the method that is called. -/
def method : EngineCall → String
  | certificate action _ arguments => arguments.mode.text ++ "_" ++ action.word
  | caCertificates _ _ _ _ => "get_cacerts"

/-- The longest response that the call takes. -/
def maxLength : EngineCall → Int
  | certificate _ request _ => request.maxLength
  | caCertificates _ _ _ maxLength => maxLength

/-- The kind of an error that an engine makes of a failure of the call. -/
def errorKind : EngineCall → ErrorKind
  | certificate action _ _ => action.errorKind
  | caCertificates _ _ _ _ => .caCerts

end EngineCall

/-- A note that an engine leaves. -/
structure EngineNote where
  level : Level
  message : String
deriving Repr, Inhabited

/-- What comes back from a call: the notes, and octets, nothing or a failure. -/
structure EngineAnswer where
  notes : List EngineNote := []
  result : Except Failure (Option Octets)

/-- An engine with a state of its own. A call is told whether cryptography is restricted. -/
structure Engine (σ : Type) where
  answer : Bool → EngineCall → σ → EngineAnswer × σ
  /-- Restricts the cryptography; the failure is that of the cryptographic module. -/
  restrict : σ → Except Failure Unit

/-- The journal with the notes of an engine that the verbosity lets through. -/
def Journal.addNotes (j : Journal) (v : Verbosity) (notes : List EngineNote) : Journal :=
  (notes.filter fun n => v.admits n.level.name).foldl
    (fun j n => j.write n.level "engine" n.message []) j

/-- What the sessions of an engine share: its settings, its state and the journal. -/
structure World (σ : Type) where
  settings : Settings := {}
  engine : σ
  journal : Journal := {}

/-- Calls the engine: its answer, and the world with its notes written. -/
def World.call (E : Engine σ) (w : World σ) (call : EngineCall) :
    Except Failure (Option Octets) × World σ :=
  let (answer, engine) := E.answer w.settings.fips call w.engine
  (answer.result,
    { w with engine, journal := w.journal.addNotes w.settings.verbosity answer.notes })

end Enrollment
