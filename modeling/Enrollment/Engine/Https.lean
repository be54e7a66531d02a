import Enrollment.Decimal.Radix
import Enrollment.Engine.Scripted
import Enrollment.Engine.Wire
import Enrollment.Pkcs7

/-!
# The HTTPS engine

Speaks the protocol of RFC 7030: signing requests go out in base64, and certificates come back as
a PKCS #7 collection. A server that needs more time says so with the status 202. Every other
outcome is octets or an error of the operation. Logins over SRP are not possible.
-/

namespace Enrollment.Https

/-- The replies that are left, and the requests so far, oldest first. -/
structure Transport where
  script : List WireReply
  requests : List WireRequest := []

/-- The path of the flag that tells whether the host restricts its cryptography. -/
def flagPath : String := "/proc/sys/crypto/fips_enabled"

/-- What an engine is made with: an optional segment of its paths, and the text of the flag of the
host, or the fault of reading it. -/
structure Options where
  segment : Option String := none
  flag : Except FileFault String := .error (.notFound flagPath)

/-- The content type of certificate collections. -/
def collectionType : String := "application/pkcs7-mime"

/-- The content type of signing requests. -/
def requestType : String := "application/pkcs10"

/-- The path that all operations are under. -/
def pathPrefix : String := "/.well-known/est"

/-- A host as the authority of a URL has it: an address with colons in brackets. -/
def bracketed (host : String) : String :=
  if host.toList.contains ':' && host.toList.head? != some '[' then "[" ++ host ++ "]" else host

/-- The URL of an operation. -/
def url (segment : Option String) (e : Endpoint) (operation : String) : String :=
  let path := match segment with
    | none | some "" => pathPrefix
    | some s => pathPrefix ++ "/" ++ s
  "https://" ++ bracketed (e.host.getD "") ++ ":" ++ (e.port.map toString).getD "None" ++ path ++
    "/" ++ operation

/-! ## Requests -/

/-- The anchors that a server is verified with. -/
def anchorsText (b : Bundle) : Option Octets := if b.count = 0 then none else some b.pem

/-- The texts of a client certificate and its key, from their DER octets. -/
def clientAuth (certificate key : Octets) : Except Failure (Octets × Octets) :=
  let refused (f : CryptographicFault) : Failure := .fault (.cryptographic f)
  match Certificate.ofDer certificate, PrivateKey.ofDer key with
  | .error fault, _ => .error (refused fault.toFault)
  | .ok _, .error fault => .error (refused fault.toFault)
  | .ok c, .ok k => .ok (c.toPem, k.toPem)

/-- The question for the certificates of the authority. -/
def question (o : Options) (anchors : Bundle) (e : Endpoint) : WireRequest where
  url := url o.segment e "cacerts"
  headers := [("Accept", collectionType)]
  anchors := anchorsText anchors
  submission := none

/-- The body of a request for a certificate. -/
def body (action : Action) (r : EngineRequest) : Except Failure WireBody :=
  match action with
  | .enroll => .ok (.request r.payload)
  | .reenroll =>
    match RenewalRequest.ofOctets r.payload r.privateKey with
    | .ok renewal => .ok (.renewal renewal)
    | .error fault => .error (.fault (.cryptographic fault))

/-- The length of a body, for a reader. That of a renewal hangs on its signature. -/
def lengthText : WireBody → String
  | .request der => toString der.length
  | .renewal _ => "N"

/-- The client certificate of a call, which only the mode TLS has. -/
def certificateOf : ModeArguments → Except Failure (Option (Octets × Octets))
  | .tls certificate key _ => (clientAuth certificate key).map some
  | _ => .ok none

/-- The request for a certificate. -/
def submit (o : Options) (action : Action) (r : EngineRequest) (b : WireBody)
    (login : Option Login) (certificate : Option (Octets × Octets)) : WireRequest where
  url := url o.segment r.endpoint action.operation
  headers := [("Content-Type", requestType), ("Content-Transfer-Encoding", "base64"),
    ("Accept", collectionType)]
  anchors := anchorsText r.anchors
  submission := some ⟨b, login, certificate⟩

/-! ## Replies -/

/-- How many characters of a server's text an error shows. -/
def reasonLength : Nat := 200

/-- The integer that a text of digits spells. Digits that have no place in a numeral make it
unreadable, and so does their number. -/
def readInteger (digits : List Char) : Except Fault Int :=
  (Radix.read 10 digits).mapError fun
    | .notInteger => .notNumeral (String.ofList digits)
    | .tooLong n => .longNumeral n

/-- The delay that a header asks for: an integer, if it holds digits and blanks only. -/
def retryAfter : Option String → Except Fault (Option Int)
  | none => .ok none
  | some text =>
    let digits := Text.trim text.toList
    if digits.isEmpty || !digits.all Text.isDigit then .ok none
    else (readInteger digits).map some

/-- The failure of an operation that a reply with a status ended. -/
def failed (kind : ErrorKind) (reason : String) (status : Option Int) : Failure :=
  .ofCause kind (.engineFailed reason status)

/-- What a server says with a status that means failure, if that can be read. -/
def reason (r : Response) : Except Fault String := do
  let text := (Text.trim (← r.text)).take reasonLength
  return if text.isEmpty then "HTTP " ++ toString r.status else String.ofList text

/-- The certificates of a body, or why there are none. -/
def collection (body : Octets) : Except Failure (Except String (List Certificate)) :=
  match Base64.readLenient body.dropSpaces with
  | .error fault => .ok (.error fault.message)
  | .ok der =>
    match Pkcs7.certificates der with
    | .ok certificates => .ok (.ok certificates)
    | .error .malformed => .ok (.error cryptographicText)
    | .error fault => .error (.fault (.cryptographic fault))

/-- Whether a text stands somewhere in another. -/
def occursIn (text : List Char) : List Char → Bool
  | [] => text.isEmpty
  | c :: more => text.isPrefixOf (c :: more) || occursIn text more

/-- Reads the certificates of a reply. -/
def interpretCollection (kind : ErrorKind) (maxLength : Int) (r : Response) : EngineAnswer :=
  let contentType := (r.header? "Content-Type").getD ""
  if !occursIn collectionType.toList contentType.toList then
    ⟨[], .error (failed kind ("unexpected content type: " ++ contentType) (some r.status))⟩
  else match collection r.body with
    | .error failure => ⟨[], .error failure⟩
    | .ok (.error text) =>
      ⟨[], .error (failed kind ("malformed PKCS#7 response: " ++ text) (some r.status))⟩
    | .ok (.ok certificates) =>
      let pem := certificates.flatMap Certificate.toPem
      if maxLength < (pem.length : Int) then
        ⟨[], .error (.ofCause .bufferSize (.tooLong pem.length maxLength))⟩
      else
        ⟨[⟨.debug, "/" ++ kind.operation ++ " returned " ++ toString certificates.length ++
          " certificate(s)"⟩], .ok (some pem)⟩

/-- What a reply means for an operation. -/
def interpret (kind : ErrorKind) (maxLength : Int) (r : Response) : EngineAnswer :=
  if r.status = 202 then
    match retryAfter (r.header? "Retry-After") with
    | .ok delay => ⟨[], .error (.ofCause .retryAfter (.deferred kind.operation delay))⟩
    | .error fault => ⟨[], .error (.fault fault)⟩
  else if r.status = 204 ∨ (r.status = 200 ∧ r.body.isBlank) then ⟨[], .ok (some [])⟩
  else if r.status ≠ 200 then
    let failure := match reason r with
      | .ok text => failed kind text (some r.status)
      | .error fault => .fault fault
    ⟨[⟨.error, "/" ++ kind.operation ++ " returned HTTP " ++ toString r.status⟩], .error failure⟩
  else interpretCollection kind maxLength r

/-- What the outcome of a request means for an operation. -/
def interpretReply (kind : ErrorKind) (maxLength : Int) (request : WireRequest) :
    WireReply → EngineAnswer
  | .response r => interpret kind maxLength r
  | .failed text =>
    ⟨[⟨.error, request.method ++ " " ++ request.url ++ " failed: " ++ text⟩],
      .error (failed kind text none)⟩
  | .thrown fault => ⟨[], .error (.fault fault)⟩

/-! ## The engine -/

/-- Sends a request and takes what comes of it. -/
def Transport.send (t : Transport) (request : WireRequest) : WireReply × Transport :=
  let (reply, script) := Scripted.next (.response { status := 204 }) t.script
  (reply, { script, requests := t.requests ++ [request] })

/-- The answer to a call with notes in front. -/
def EngineAnswer.after (notes : List EngineNote) (a : EngineAnswer) : EngineAnswer :=
  { a with notes := notes ++ a.notes }

/-- Sends a request and interprets what comes of it. -/
def exchange (kind : ErrorKind) (maxLength : Int) (notes : List EngineNote)
    (request : WireRequest) (t : Transport) : EngineAnswer × Transport :=
  let (reply, t) := t.send request
  (EngineAnswer.after notes (interpretReply kind maxLength request reply), t)

/-- The answer to a call that needs SRP. -/
def srpRefused (restricted : Bool) (kind : ErrorKind) : EngineAnswer :=
  let reason :=
    if restricted then "SRP is not allowed in FIPS mode"
    else "TLS-SRP is not available in the Python TLS stack"
  ⟨[⟨.error, reason⟩], .error (failed kind reason none)⟩

/-- The note of a submission without a link to the connection. -/
def unlinkedNote : EngineNote :=
  ⟨.warning, "Proof-of-Possession linking is unavailable, sending CSR without tls-unique binding"⟩

/-- The answer to a call for a certificate with logins over HTTP or TLS. -/
def enroll (o : Options) (action : Action) (r : EngineRequest) (arguments : ModeArguments)
    (t : Transport) : EngineAnswer × Transport :=
  match body action r with
  | .error failure => (⟨[], .error failure⟩, t)
  | .ok b =>
    let address := url o.segment r.endpoint action.operation
    let notes := (if r.disablePop then [] else [unlinkedNote]) ++
      [⟨.info, "POST " ++ address ++ " (" ++ lengthText b ++ " byte CSR)"⟩]
    match certificateOf arguments with
    | .error failure => (⟨notes, .error failure⟩, t)
    | .ok certificate =>
      exchange action.errorKind r.maxLength notes
        (submit o action r b arguments.httpLogin certificate) t

/-- The answer to a call for the certificates of the authority. -/
def fetch (o : Options) (anchors : Bundle) (e : Endpoint) (maxLength : Int) (t : Transport) :
    EngineAnswer × Transport :=
  let request := question o anchors e
  let notes := ⟨.info, "GET " ++ request.url⟩ ::
    (if request.anchors.isSome then []
      else [⟨.warning, "No trust anchors configured, server identity is not verified"⟩])
  exchange .caCerts maxLength notes request t

/-- The answer to a call. -/
def answer (o : Options) (restricted : Bool) (call : EngineCall) (t : Transport) :
    EngineAnswer × Transport :=
  match call with
  | .certificate action _ (.srp _ _) => (srpRefused restricted action.errorKind, t)
  | .certificate action request arguments => enroll o action request arguments t
  | .caCertificates _ _ (some _) _ => (srpRefused restricted .caCerts, t)
  | .caCertificates anchors endpoint none maxLength => fetch o anchors endpoint maxLength t

/-- Whether the host restricts its cryptography, which the flag tells. -/
def restrict (o : Options) : Except Failure Unit :=
  let refused (reason : String) : Failure := .ofCause .engine (.fipsFailed reason)
  match o.flag with
  | .error fault => .error (refused fault.message)
  | .ok text =>
    if Text.trim text.toList = ['1'] then .ok ()
    else .error (refused "host crypto policy is not in FIPS mode")

/-- The engine. -/
def engine (o : Options) : Engine Transport where
  answer := answer o
  restrict _ := restrict o

end Enrollment.Https
