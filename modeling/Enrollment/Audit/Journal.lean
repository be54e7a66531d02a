import Enrollment.Settings

/-!
# The audit trail

Every record has a level, a message and fields. The fields begin with three that all records
have: that it belongs to the audit trail, the correlation id of the operation it was written in,
and the event. `Journal` is the trail of a process together with the current correlation id.
-/

namespace Enrollment

/-- The weight of a record. -/
inductive Level where
  | trace
  | debug
  | info
  | success
  | warning
  | error
  | critical
deriving DecidableEq, Repr, Inhabited

namespace Level

/-- All levels. -/
def all : List Level := [trace, debug, info, success, warning, error, critical]

/-- The word for a level. -/
def name : Level → String
  | trace => "TRACE"
  | debug => "DEBUG"
  | info => "INFO"
  | success => "SUCCESS"
  | warning => "WARNING"
  | error => "ERROR"
  | critical => "CRITICAL"

/-- The level with a word. -/
def ofName? (s : String) : Option Level := all.find? fun l => l.name = s

/-- The number that levels are compared by. -/
def weight : Level → Nat
  | trace => 5
  | debug => 10
  | info => 20
  | success => 25
  | warning => 30
  | error => 40
  | critical => 50

end Level

/-- A record. -/
structure Record where
  level : Level
  message : String
  fields : Details
deriving Repr, Inhabited

/-- The correlation id of the operation at hand, empty outside of operations; how many ids were
drawn; and the records, oldest first. -/
structure Journal where
  correlation : String := ""
  drawn : Nat := 0
  records : List Record := []
deriving Repr, Inhabited

namespace Journal

/-- The hexadecimal digits of a number, filled with zeros up to twelve. -/
def twelveDigits (n : Nat) : String :=
  let digits := (Nat.toDigits 16 n)
  String.ofList (List.replicate (12 - digits.length) '0' ++ digits)

/-- The id with a number. -/
def correlationId (n : Nat) : String := "00000000-0000-0000-0000-" ++ twelveDigits n

/-- Sets the correlation id; without one a fresh id is drawn. -/
def setCorrelation (j : Journal) (id : Option String) : String × Journal :=
  match id with
  | some id => (id, { j with correlation := id })
  | none =>
    let fresh := correlationId (j.drawn + 1)
    (fresh, { j with correlation := fresh, drawn := j.drawn + 1 })

/-- The journal at the start of an operation, under a fresh correlation id. -/
def openOperation (j : Journal) : Journal := (j.setCorrelation none).2

/-- The journal with no correlation id. -/
def clearCorrelation (j : Journal) : Journal := { j with correlation := "" }

/-- The id that records carry: a hyphen stands for none. -/
def shownCorrelation (j : Journal) : String :=
  if j.correlation = "" then "-" else j.correlation

/-- The fields that every record of an event begins with. -/
def frame (j : Journal) (event : String) : Details :=
  [("audit", .bool true), ("correlation_id", j.shownCorrelation), ("event", event)]

/-- The journal with one more record. -/
def add (j : Journal) (r : Record) : Journal := { j with records := j.records ++ [r] }

/-- Writes a record of an event with further fields. -/
def write (j : Journal) (level : Level) (event message : String) (fields : Details) : Journal :=
  j.add ⟨level, message, Details.merge (j.frame event) fields⟩

/-! ## The events of the trail -/

/-- A request that is about to be sent. -/
def enrollRequested (j : Journal) (operation mode server subject : String) (disablePop : Bool) :
    Journal :=
  j.write .info "enroll_requested"
    ("/" ++ operation ++ " requested for " ++ subject ++ " via " ++ mode)
    [("operation", operation), ("auth_mode", mode), ("server", server), ("subject", subject),
      ("disable_pop", .bool disablePop)]

/-- A certificate that the server issued. A time without an offset is universal time. -/
def certificateReceived (j : Journal) (operation subject : String) (serial : Value)
    (notBefore notAfter : Moment) : Journal :=
  j.write .info "cert_received" ("Certificate received: " ++ subject)
    [("operation", operation), ("cert_subject", subject), ("serial_number", serial),
      ("not_before", notBefore.orUniversal.iso), ("not_after", notAfter.orUniversal.iso)]

/-- An operation that ended without a certificate. -/
def noCertificate (j : Journal) (operation server : String) : Journal :=
  j.write .warning "no_certificate" ("/" ++ operation ++ " returned no certificate")
    [("operation", operation), ("server", server)]

/-- A request that the server put off, unless the delay cannot be written down. -/
def enrollDeferred (j : Journal) (operation : String) (retryAfter : Value) :
    Except Fault Journal :=
  if retryAfter.isWritable then
    .ok (j.write .warning "enroll_deferred"
      ("/" ++ operation ++ " deferred by server, retry after " ++ retryAfter.asText ++ "s")
      [("operation", operation), ("retry_after", retryAfter)])
  else .error .longInteger

/-- The certificates of the server's authority. -/
def caCertificatesReceived (j : Journal) (server : String) (count : Nat) : Journal :=
  j.write .info "cacerts_received"
    ("Received " ++ toString count ++ " CA certificate(s) from " ++ server)
    [("server", server), ("count", .int count)]

/-- An operation that was refused before the server was contacted. -/
def configurationRejected (j : Journal) (operation reason : String) : Journal :=
  j.write .warning "config_rejected" ("/" ++ operation ++ " rejected: " ++ reason)
    [("operation", operation), ("reason", reason)]

/-- A change of the engine settings, unless the value cannot be written down. -/
def settingsChanged (j : Journal) (setting : String) (value : Value) : Except Fault Journal :=
  if value.isWritable then
    .ok (j.write .info "engine_settings"
      ("Engine setting " ++ setting ++ " changed to " ++ value.asText)
      [("setting", setting), ("value", value)])
  else .error .longInteger

/-- The names of the fields that the record of an error gives itself. -/
def givenFields : List String := ["event", "context"]

/-- The name of what a record is written to, which is passed along with its fields. -/
def receiverField : String := "_Logger__self"

/-- The names that an error's details may not use. -/
def reservedFields : List String := receiverField :: givenFields

/-- What is wrong with fields among which there is a reserved name. A name that the record gives
itself is found first. -/
def reserved? (fields : Details) : Option Fault :=
  let names := fields.map Prod.fst
  match names.find? givenFields.contains with
  | some name => some (.fieldTwice name)
  | none => if names.contains receiverField then some (.receiverTwice receiverField) else none

/-- A failure. Its details join the fields; a detail with a reserved name makes the writing
itself fail. -/
def failed (j : Journal) (failure : Failure) (context : String) : Except Fault Journal :=
  let fields := failure.auditFields
  match reserved? fields with
  | some fault => .error fault
  | none =>
    .ok (j.write .error "error" ("Error during " ++ context ++ ": " ++ failure.message)
      (("context", .text context) :: fields))

end Journal

/-! ## Records of the engine -/

/-- A note of an engine: a level, a template and values for it. -/
structure Note where
  level : String
  template : String
  values : List Value := []
deriving Repr, Inhabited

/-- The text of a note; a template without values is taken as it is. -/
def Note.message (n : Note) : Except Template.Fault String :=
  if n.values.isEmpty then .ok n.template else Template.fill n.template n.values

/-- Writes a note of the engine, if the settings let its level through. -/
def Journal.note (j : Journal) (s : Settings) (n : Note) : Except Fault Journal :=
  if s.verbosity.admits n.level then
    match Level.ofName? n.level, n.message with
    | _, .error fault => .error (.template fault)
    | some level, .ok text => .ok (j.write level "engine" text [])
    | none, .ok _ => .ok j
  else .ok j

end Enrollment
