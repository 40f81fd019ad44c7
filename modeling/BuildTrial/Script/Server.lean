import BuildTrial.Api.Request
import BuildTrial.Script.Resource

/-!
# Rehearsal API servers

A server that replies from a list, whatever it is asked, and keeps what it was asked; and the JSON form
of its replies and of the requests that it got.
-/

namespace BuildTrial.Rehearsal

open Api

structure Server where
  /-- The replies still to come. -/
  replies : List Reply
  /-- The requests so far, the latest first. -/
  requests : List Request := []

namespace Server

/-- Take the next reply; without one, the request fails. -/
def serve (request : Request) (server : Server) : Reply × Server :=
  match server.replies with
  | [] => (.failed "no scripted response", { server with requests := request :: server.requests })
  | reply :: replies => (reply, { replies, requests := request :: server.requests })

end Server

end BuildTrial.Rehearsal

namespace BuildTrial.Script

open Json Rehearsal

/-- A message of a session: its bytes are given in hexadecimal, as a text, or as a document. -/
def frame (json : Json) : Api.Frame :=
  { channel := json.getNat "channel"
    bytes := match json.getText? "hex", json.get "data" with
      | some digits, _ => bytesOf digits
      | none, .string text => Text.utf8Bytes text
      | none, .null => []
      | none, document => Text.utf8Bytes document.render }

/-- The body of a reply: a text stands for itself, and nothing for an empty body. -/
def replyBody : Json → String
  | .null => ""
  | .string text => text
  | document => document.render

def reply (json : Json) : Api.Reply :=
  match json.field? "fail", json.field? "frames" with
  | some reason, _ => .failed (reason.string?.getD "")
  | none, some _ => .upgraded ((json.getItems "frames").map frame)
  | none, none => .answered (json.getNat "status") (replyBody (json.get "body"))

/-- A request that was sent. Its document is shown as one reads it off the text that is sent. -/
def showRequest (request : Api.Request) : Json :=
  .ofFields
    [("method", .string request.method.text), ("path", .string request.path),
      ("body", (request.body.bind fun document => Json.parse? document.render).getD .null)]

end BuildTrial.Script
