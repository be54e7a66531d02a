import Enrollment.Decimal.Shortest
import Enrollment.Renewal
import Enrollment.Store

/-!
# Requests and replies on the wire

What an engine sends over HTTPS and what comes back. The body of a request is a signing request
in base64, which for a renewal is known up to its signature.
-/

namespace Enrollment

/-- What a request carries. -/
inductive WireBody where
  | request (der : Octets)
  | renewal (request : RenewalRequest)
deriving DecidableEq, Repr

/-- The body as text, if it is known. -/
def WireBody.text? : WireBody → Option Octets
  | .request der => some (Base64.encode der)
  | .renewal _ => none

/-- What only a request for a certificate has: a body, a login, and the texts of a client
certificate and its key. -/
structure Submission where
  body : WireBody
  login : Option Login
  certificate : Option (Octets × Octets)
deriving Repr

/-- A request: a submission, or else a question. Without anchors the server is not verified. -/
structure WireRequest where
  url : String
  headers : List (String × String)
  anchors : Option Octets
  submission : Option Submission
deriving Repr

/-- The method of a request. -/
def WireRequest.method (r : WireRequest) : String := if r.submission.isSome then "POST" else "GET"

/-- How the octets of a reply are read as text. -/
inductive TextEncoding where
  | utf8
  | latin1
  | ascii
  /-- Any other codec. Nearly all of them replace what they cannot read; a few fail. -/
  | codec (read : Octets → Except Fault (List Char))

/-- A codec that cannot replace anything and reads nothing, with the reason that it gives. -/
def TextEncoding.refusing (name reason : String) : TextEncoding :=
  .codec fun _ => .error <| .thrown "UnicodeError" <|
    "decoding with '" ++ name ++ "' codec failed (UnicodeError: " ++ reason ++ ")"

/-- The codec of international host names. -/
def TextEncoding.idna : TextEncoding := refusing "idna" "Unsupported error handling replace"

/-- A reply of the server. The status is a number of three digits. -/
structure Response where
  status : Int
  headers : List (String × String) := []
  body : Octets := []
  encoding : TextEncoding := .utf8

/-- The ASCII letters of a text in lower case. -/
def lowered (s : String) : String := String.ofList (s.toList.map Char.toLower)

/-- The value of a header, whatever the case of its name. -/
def Response.header? (r : Response) (name : String) : Option String :=
  (r.headers.map fun (n, v) => (lowered n, v)).lookup (lowered name)

/-- The text of a reply, if its codec reads it. Where there is no body there is nothing to read. -/
def Response.text (r : Response) : Except Fault (List Char) :=
  if r.body.isEmpty then .ok []
  else match r.encoding with
    | .utf8 => .ok (Octets.utf8Lenient r.body)
    | .latin1 => .ok r.body.toLatin
    | .ascii => .ok (Octets.asciiLenient r.body)
    | .codec read => read r.body

/-- What comes of a request: a reply, a failure of the transport, or an exception. -/
inductive WireReply where
  | response (r : Response)
  | failed (text : String)
  | thrown (fault : Fault)

end Enrollment
