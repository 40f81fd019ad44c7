import BuildTrial.Api.Uri
import BuildTrial.Json.Written
import BuildTrial.Text.Utf8
import BuildTrial.Timed

/-!
# Requests to the API server

What is asked of the API server and what it replies, as an interface of programs, and which targets
a request can have at all.
-/

namespace BuildTrial.Api

inductive Method where
  | get
  | post
  | put
  | delete
deriving DecidableEq, Repr

def Method.text : Method → String
  | .get => "GET"
  | .post => "POST"
  | .put => "PUT"
  | .delete => "DELETE"

structure Request where
  method : Method
  /-- The path and the query. -/
  path : String
  /-- The document that is sent along. -/
  body : Option Json := none
deriving Repr

/-- One message of an open session: the channel it belongs to and its bytes. -/
structure Frame where
  channel : Nat
  bytes : List UInt8
deriving Repr

inductive Reply where
  /-- A status and a text, which may or may not be a document. -/
  | answered (status : Nat) (body : String)
  /-- The connection was opened for a session, which consists of these messages. -/
  | upgraded (frames : List Frame)
  /-- The request was not delivered, or no reply came back. -/
  | failed (reason : String)
deriving Repr

@[reducible] def httpInterface : Interface where
  Query := Request
  Reply _ := Reply

abbrev HttpProgram (α : Type) : Type := Program httpInterface.timed α

/-! ## Requests that cannot be built -/

inductive RequestFault where
  | emptyName
  | badTarget (fault : UriFault)
deriving DecidableEq, Repr

def RequestFault.message : RequestFault → String
  | .emptyName => "failed to validate request: A non-empty name is required"
  | .badTarget fault => s!"failed to build request: {fault.message}"

/-- What is sent of a target: an anchor is cut off. -/
def sentTarget (target : String) : Except RequestFault String :=
  ((Uri.parse target).map Uri.text).mapError .badTarget

end BuildTrial.Api
