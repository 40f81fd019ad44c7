import BuildTrial.Api.Request
import BuildTrial.Api.Shape
import BuildTrial.Error
import BuildTrial.Text.Cut

/-!
# Failed requests

Everything that may go wrong with a request: it cannot be built or sent, it is refused, or its reply
cannot be read. `Refusal.ofReply` says what a refusing reply means, `ClientError.message` words
every failure, and `ClientError.toError` sorts it by what a caller can do about it.
-/

namespace BuildTrial.Api

/-- The error that the API server replied with. -/
structure Refusal where
  status : String
  message : String
  reason : String
  code : Nat
deriving DecidableEq, Repr

/-- The name of a status, if it has one. -/
def statusName? (status : Nat) : Option String :=
  [(100, "Continue"), (101, "Switching Protocols"), (102, "Processing"), (103, "Early Hints"),
    (200, "OK"), (201, "Created"), (202, "Accepted"), (203, "Non Authoritative Information"),
    (204, "No Content"), (205, "Reset Content"), (206, "Partial Content"), (207, "Multi-Status"),
    (208, "Already Reported"), (226, "IM Used"), (300, "Multiple Choices"),
    (301, "Moved Permanently"), (302, "Found"), (303, "See Other"), (304, "Not Modified"),
    (305, "Use Proxy"), (307, "Temporary Redirect"), (308, "Permanent Redirect"),
    (400, "Bad Request"), (401, "Unauthorized"), (402, "Payment Required"), (403, "Forbidden"),
    (404, "Not Found"), (405, "Method Not Allowed"), (406, "Not Acceptable"),
    (407, "Proxy Authentication Required"), (408, "Request Timeout"), (409, "Conflict"),
    (410, "Gone"), (411, "Length Required"), (412, "Precondition Failed"),
    (413, "Payload Too Large"), (414, "URI Too Long"), (415, "Unsupported Media Type"),
    (416, "Range Not Satisfiable"), (417, "Expectation Failed"), (418, "I'm a teapot"),
    (421, "Misdirected Request"), (422, "Unprocessable Entity"), (423, "Locked"),
    (424, "Failed Dependency"), (425, "Too Early"), (426, "Upgrade Required"),
    (428, "Precondition Required"), (429, "Too Many Requests"),
    (431, "Request Header Fields Too Large"), (451, "Unavailable For Legal Reasons"),
    (500, "Internal Server Error"), (501, "Not Implemented"), (502, "Bad Gateway"),
    (503, "Service Unavailable"), (504, "Gateway Timeout"), (505, "HTTP Version Not Supported"),
    (506, "Variant Also Negotiates"), (507, "Insufficient Storage"), (508, "Loop Detected"),
    (510, "Not Extended"), (511, "Network Authentication Required")].lookup status

def statusText (status : Nat) : String :=
  let name := (statusName? status).getD "<unknown status code>"
  s!"{status} {name}"

/-- The status with which a connection is opened for a session. -/
def switchingProtocols : Nat := 101

namespace Refusal

def text (r : Refusal) : String :=
  s!"ErrorResponse \x7b status: {Text.quoted r.status}, message: {Text.quoted r.message}, " ++
    s!"reason: {Text.quoted r.reason}, code: {r.code} \x7d"

/-- A refusal as a document. It needs a status and a code. -/
def shape : Shape :=
  .tuple
    [{ key := "status", shape := .text },
      { key := "message", shape := .text, default := some (.string "") },
      { key := "reason", shape := .text, default := some (.string "") },
      { key := "code", shape := .unsigned 16 }]

def ofJson (json : Json) : Refusal :=
  let textOf (key : String) : String := ((json.field? key).bind Json.string?).getD ""
  { status := textOf "status", message := textOf "message", reason := textOf "reason"
    code := (((json.field? "code").bind Json.int?).getD 0).toNat }

/-- What a refusing reply says, or that it makes no sense. -/
def ofReply (status : Nat) (body : String) : Refusal :=
  match (Written.ofText? body).bind (shape Json.maxDepth) with
  | some document => ofJson document
  | none =>
    { status := statusText status, message := Text.quoted body
      reason := "Failed to parse error data", code := status }

end Refusal

/-- Why a request got no usable reply. -/
inductive ClientError where
  | unsendable (fault : RequestFault)
  | failed (reason : String)
  | refused (refusal : Refusal)
  | unreadable
  /-- A session was asked for, and something else came back. -/
  | notUpgraded (status : Nat)
deriving Repr

namespace ClientError

def message : ClientError → String
  | .unsendable fault => s!"Failed to build request: {fault.message}"
  | .failed reason => s!"ServiceError: {reason}"
  | .refused refusal => s!"ApiError: {refusal.message}: {refusal.reason} ({refusal.text})"
  | .unreadable => "Error deserializing response: not the expected document"
  | .notUpgraded status =>
    "failed to upgrade to a WebSocket connection: " ++
      (if status = switchingProtocols then "upgrade header was not set to websocket"
        else s!"failed to switch protocol: {statusText status}")

/-- A failed request as an error of the control plane. Missing objects and lost races have errors of
their own; a refusal of any other request that was at fault itself will not cure itself. -/
def toError (kindName name verb : String) (e : ClientError) : Error :=
  let other (retryable : Bool) : Error :=
    .controlPlane s!"{verb} {kindName} {name}" e.message retryable
  match e with
  | .refused refusal =>
    if refusal.code = 404 then .notFound kindName name
    else if refusal.code = 409 then
      if refusal.reason = "AlreadyExists" then .alreadyExists kindName name
      else .conflict kindName name refusal.message
    else other (!(400 ≤ refusal.code && refusal.code < 500))
  | _ => other true

end ClientError

end BuildTrial.Api
