import Enrollment.Text.Template

/-!
# Errors

`ClientError` holds the errors of enrolment itself: a kind, which says what a caller may do about
it, and a cause, from which message and details follow. `Fault` holds everything else that can go
wrong in a call: a value of the wrong kind or one that cannot be written down, a file that is not
there, an exception that an engine threw. `Failure` is either of them.
-/

namespace Enrollment

/-! ## Details -/

/-- Named values in order. -/
abbrev Details := List (String × Value)

namespace Details

/-- Sets a value. A name that is there keeps its place. -/
def put (name : String) (value : Value) : Details → Details
  | [] => [(name, value)]
  | (n, v) :: more => if n = name then (n, value) :: more else (n, v) :: put name value more

/-- Sets the values of `later` one after the other. -/
def merge (earlier later : Details) : Details :=
  later.foldl (fun d (name, value) => put name value d) earlier

/-- The value under a name. -/
def get? (name : String) (d : Details) : Option Value := d.lookup name

end Details

/-! ## Errors of enrolment -/

/-- What an error means for the caller. -/
inductive ErrorKind where
  | client
  | configuration
  | invalidArgument
  | encoding
  | certificateParse
  | bufferSize
  | retryAfter
  | engine
  | enroll
  | reenroll
  | caCerts
deriving DecidableEq, Repr, Inhabited

namespace ErrorKind

/-- The name under which a kind is reported. -/
def name : ErrorKind → String
  | client => "ESTClientError"
  | configuration => "ConfigurationError"
  | invalidArgument => "InvalidArgumentError"
  | encoding => "EncodingError"
  | certificateParse => "CertificateParseError"
  | bufferSize => "BufferSizeError"
  | retryAfter => "EnrollRetryAfterError"
  | engine => "EngineError"
  | enroll => "EnrollError"
  | reenroll => "ReenrollError"
  | caCerts => "CACertsError"

/-- The kind that a kind is a special case of. -/
def parent? : ErrorKind → Option ErrorKind
  | client => none
  | invalidArgument => some configuration
  | enroll | reenroll | caCerts => some engine
  | _ => some client

/-- A kind and all that it is a special case of. -/
def lineage (k : ErrorKind) : List ErrorKind :=
  match k.parent? with
  | none => [k]
  | some p =>
    match p.parent? with
    | none => [k, p]
    | some q => [k, p, q]

/-- Whether an error of the kind `k` counts as one of the kind `of`. -/
def isA (k of : ErrorKind) : Bool := k.lineage.contains of

/-- The operation that errors of the kind speak of. -/
def operation : ErrorKind → String
  | enroll => "simpleenroll"
  | reenroll => "simplereenroll"
  | caCerts => "cacerts"
  | _ => "engine"

end ErrorKind

/-- Why an operation failed. -/
inductive Cause where
  | missingCredentials (mode setter : String)
  | missingEndpoint (field : String)
  /-- The mode written down, and as running text. -/
  | invalidAuthMode (mode text : String)
  | invalidConfig (field reason : String)
  | invalidPort (port : Value)
  | missingValue (field reason : String)
  | certificateEncoding (reason : String)
  | privateKeyEncoding (reason : String)
  | requestEncoding (reason : String)
  | malformedBlock (index : Int) (reason : String)
  | noCertificate (length : Int)
  | tooLong (length limit : Int)
  | deferred (operation : String) (retryAfter : Option Int)
  | engineFailed (reason : String) (status : Option Int)
  | fipsFailed (reason : String)
  /-- Whatever an engine of its own says. -/
  | stated (message : String) (retryAfter : Value) (details : Details)
deriving Repr, Inhabited

/-- An error of enrolment. -/
structure ClientError where
  kind : ErrorKind
  cause : Cause
deriving Repr, Inhabited

/-- A number of seconds, or nothing. -/
def secondsValue : Option Int → Value
  | none => .null
  | some n => .int n

namespace ClientError

/-- What went wrong, for a reader. -/
def message (e : ClientError) : String :=
  match e.cause with
  | .missingCredentials mode setter =>
    "Credentials for auth mode '" ++ mode ++ "' are not configured, invoke " ++ setter ++
      "() to resolve"
  | .missingEndpoint field => "EST server " ++ field ++ " is not configured"
  | .invalidAuthMode mode _ => "Invalid auth mode: " ++ mode
  | .invalidConfig field reason => "Invalid configuration for '" ++ field ++ "': " ++ reason
  | .invalidPort _ => "Invalid TCP port number"
  | .missingValue _ reason => reason
  | .certificateEncoding reason => "Certificate encoding failed: " ++ reason
  | .privateKeyEncoding reason => "Private key encoding failed: " ++ reason
  | .requestEncoding reason => "CSR encoding failed: " ++ reason
  | .malformedBlock index reason =>
    "Failed to parse certificate #" ++ toString index ++ " in server response: " ++ reason
  | .noCertificate _ => "Server response contains no PEM certificate"
  | .tooLong length limit =>
    "Certificate response of " ++ toString length ++ " bytes exceeds maximum of " ++
      toString limit ++ " bytes"
  | .deferred operation _ =>
    "EST server deferred /" ++ operation ++ ", retry the request later"
  | .engineFailed reason _ => "EST /" ++ e.kind.operation ++ " failed: " ++ reason
  | .fipsFailed reason =>
    "FIPS mode failed, crypto module is not operating in FIPS mode: " ++ reason
  | .stated message _ _ => message

/-- What went wrong, for the audit trail. Every deferral carries its delay first. -/
def details (e : ClientError) : Details :=
  match e.cause with
  | .missingCredentials mode setter => [("auth_mode", mode), ("setter", setter)]
  | .missingEndpoint field => [("field", field)]
  | .invalidAuthMode _ text => [("auth_mode", text)]
  | .invalidConfig field reason => [("field", field), ("reason", reason)]
  | .invalidPort port => [("field", "port"), ("port", port)]
  | .missingValue field _ => [("field", field)]
  | .certificateEncoding reason => [("object", "certificate"), ("reason", reason)]
  | .privateKeyEncoding reason => [("object", "private_key"), ("reason", reason)]
  | .requestEncoding reason => [("object", "csr"), ("reason", reason)]
  | .malformedBlock index reason => [("block_index", .int index), ("reason", reason)]
  | .noCertificate length => [("response_length", .int length)]
  | .tooLong length limit => [("length", .int length), ("max_length", .int limit)]
  | .deferred operation delay =>
    [("retry_after", secondsValue delay), ("operation", operation)]
  | .engineFailed reason status =>
    ("operation", e.kind.operation) :: ("reason", reason) ::
      match status with
        | none => []
        | some n => [("http_status", .int n)]
  | .fipsFailed reason => [("operation", "enable_fips"), ("reason", reason)]
  | .stated _ delay details =>
    if e.kind = .retryAfter then Details.merge [("retry_after", delay)] details else details

/-- How long the server asks the client to wait. -/
def retryAfter (e : ClientError) : Value :=
  match e.cause with
  | .deferred _ delay => secondsValue delay
  | .stated _ delay _ => delay
  | _ => .null

/-- The error as fields of an audit record. The details may override the first two. -/
def auditFields (e : ClientError) : Details :=
  Details.merge [("exception_type", e.kind.name), ("message", e.message)] e.details

end ClientError

/-! ## Everything else -/

/-- What a file operation can run into. -/
inductive FileFault where
  | notFound (path : String)
  | alreadyThere (path : String)
  | notDirectory (path : String)
  | isDirectory (path : String)
  | nameTooLong (path : String)
deriving DecidableEq, Repr

namespace FileFault

/-- The name under which a fault is reported. -/
def name : FileFault → String
  | notFound _ => "FileNotFoundError"
  | alreadyThere _ => "FileExistsError"
  | notDirectory _ => "NotADirectoryError"
  | isDirectory _ => "IsADirectoryError"
  | nameTooLong _ => "OSError"

/-- The number, the words and the path of a fault. -/
def message (f : FileFault) : String :=
  let text (number words path : String) : String :=
    "[Errno " ++ number ++ "] " ++ words ++ ": " ++ Text.quote path
  match f with
  | notFound path => text "2" "No such file or directory" path
  | alreadyThere path => text "17" "File exists" path
  | notDirectory path => text "20" "Not a directory" path
  | isDirectory path => text "21" "Is a directory" path
  | nameTooLong path => text "36" "File name too long" path

end FileFault

/-- The wording of every fault that is found inside a cryptographic object. -/
def cryptographicText : String := "<library>"

/-- What the inside of a cryptographic object can be refused for. -/
inductive CryptographicFault where
  | malformed
  | wrongType
  | unknownVersion
  | duplicateExtension
  | unsupportedName
  | unsupported
deriving DecidableEq, Repr

/-- The name under which a fault is reported. -/
def CryptographicFault.name : CryptographicFault → String
  | malformed => "ValueError"
  | wrongType => "TypeError"
  | unknownVersion => "InvalidVersion"
  | duplicateExtension => "DuplicateExtension"
  | unsupportedName => "UnsupportedGeneralNameType"
  | unsupported => "UnsupportedAlgorithm"

/-- A fault that is not an error of enrolment. -/
inductive Fault where
  | cryptographic (fault : CryptographicFault)
  | file (fault : FileFault)
  | nulInPath
  /-- The home directory is not known. -/
  | noHome
  /-- A value without the operation that was asked of it. -/
  | lacking (kind operation : String)
  /-- A value that is not made of parts. -/
  | notIterable (kind : String)
  /-- A record field that is given twice. -/
  | fieldTwice (field : String)
  /-- A key, without a word on what is wrong with it. -/
  | bareKey (key : String)
  /-- A record field with the name of what the record is written to. -/
  | receiverTwice (name : String)
  | template (fault : Template.Fault)
  /-- A value that is no verbosity, written down. -/
  | notVerbosity (v : String)
  /-- A setting that only the engine changes. -/
  | readOnlySetting
  /-- A text that is not a number. -/
  | notNumeral (text : String)
  /-- A number too long to be read. -/
  | longNumeral (digits : Nat)
  /-- An integer too long to be written. -/
  | longInteger
  /-- Whatever an engine throws: a name and a text. -/
  | thrown (name text : String)
deriving Repr

namespace Fault

/-- The name under which a fault is reported. -/
def name : Fault → String
  | cryptographic fault => fault.name
  | file fault => fault.name
  | template fault => fault.name
  | lacking _ _ | readOnlySetting => "AttributeError"
  | notIterable _ | fieldTwice _ | receiverTwice _ => "TypeError"
  | bareKey _ => "KeyError"
  | notNumeral _ | longNumeral _ | longInteger | nulInPath | notVerbosity _ => "ValueError"
  | noHome => "RuntimeError"
  | thrown name _ => name

/-- What went wrong, for a reader. -/
def message : Fault → String
  | cryptographic _ => cryptographicText
  | file fault => fault.message
  | nulInPath => "embedded null byte"
  | noHome => "Could not determine home directory."
  | lacking kind operation => "'" ++ kind ++ "' object has no attribute '" ++ operation ++ "'"
  | notIterable kind => "'" ++ kind ++ "' object is not iterable"
  | fieldTwice field =>
    "loguru._logger.Logger.bind() got multiple values for keyword argument '" ++ field ++ "'"
  | receiverTwice name => "Logger.bind() got multiple values for argument '" ++ name ++ "'"
  | bareKey key => Text.quote key
  | template fault => fault.message
  | notVerbosity v => v ++ " is not a valid NativeLogLevel"
  | readOnlySetting => "property 'fips_enabled' of 'EngineSettings' object has no setter"
  | notNumeral text => "invalid literal for int() with base 10: " ++ Text.quote text
  | longNumeral digits =>
    "Exceeds the limit (4300 digits) for integer string conversion: value has " ++
      toString digits ++ " digits; use sys.set_int_max_str_digits() to increase the limit"
  | longInteger => Value.longIntegerText
  | thrown _ text => text

/-- A fault as it comes out where another failure is handled at the time: of a field that is given
twice there is only the name left. -/
def underway : Fault → Fault
  | fieldTwice field => bareKey field
  | fault => fault

end Fault

/-- How a call fails. -/
inductive Failure where
  | client (e : ClientError)
  | fault (f : Fault)
deriving Repr

namespace Failure

/-- The name under which a failure is reported. -/
def name : Failure → String
  | client e => e.kind.name
  | fault f => f.name

/-- What went wrong, for a reader. -/
def message : Failure → String
  | client e => e.message
  | fault f => f.message

/-- A failure of a kind and cause. -/
def ofCause (kind : ErrorKind) (cause : Cause) : Failure := client ⟨kind, cause⟩

/-- The failure as fields of an audit record. -/
def auditFields : Failure → Details
  | client e => e.auditFields
  | fault f => [("exception_type", f.name), ("message", f.message)]

end Failure

end Enrollment
