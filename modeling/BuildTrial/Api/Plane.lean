import BuildTrial.Api.Address
import BuildTrial.Api.Client
import BuildTrial.Api.Pod
import BuildTrial.Api.Store
import BuildTrial.Text.Bytes
import BuildTrial.Text.Cut

/-!
# The control plane of a live cluster

Every call on the control plane is some requests to the API server of the cluster. A command runs in the
container of the configuration daemon that is scheduled on the node: the pod is looked up first, then a
session is opened in it. The messages of the session carry the output, the error output, and at its end
the status of the command.
-/

namespace BuildTrial.Api

/-! ## Commands on nodes -/

/-- The label of the daemon pods. -/
def daemonSelector : String := "k8s-app=machine-config-daemon"

/-- The container in which commands run. -/
def daemonContainer : String := "machine-config-daemon"

/-- How a command ended, as far as the session says. -/
structure ExitStatus where
  status : Option String
  message : Option String
deriving DecidableEq, Repr

/-- The status of a command that did what it should. -/
def successStatus : String := "Success"

namespace ExitStatus

def causes : Shape := .listOf (.fields [("field", .text), ("message", .text), ("reason", .text)])

def details : Shape :=
  .fields
    [("causes", causes), ("group", .text), ("kind", .text), ("name", .text),
      ("retryAfterSeconds", .signed 32), ("uid", .text)]

def shape : Shape :=
  .record
    [{ key := "apiVersion", shape := .exactly "v1", mayBeNull := false },
      { key := "code", shape := .signed 32 }, { key := "details", shape := details },
      { key := "kind", shape := .exactly "Status", mayBeNull := false },
      { key := "message", shape := .text }, { key := "metadata", shape := listMetadata },
      { key := "reason", shape := .text }, { key := "status", shape := .text }]

def ofJson (json : Json) : ExitStatus :=
  { status := (json.field? "status").bind Json.string?
    message := (json.field? "message").bind Json.string? }

def ofBytes? (bytes : List UInt8) : Option ExitStatus :=
  ((Written.ofBytes? bytes).bind (shape Json.maxDepth)).map ofJson

end ExitStatus

/-- What a session left behind. -/
structure Transcript where
  output : List UInt8
  errorOutput : List UInt8
  /-- The message with the status, if one came. -/
  ending : Option (List UInt8)
deriving DecidableEq, Repr

namespace Transcript

/-- Whether a message ends the session. -/
def isEnding (frame : Frame) : Bool := frame.channel = 3 && !frame.bytes.isEmpty

/-- The transcript of a session; nothing counts that comes after its end. -/
def ofFrames (frames : List Frame) : Transcript :=
  let spoken := frames.takeWhile (!isEnding ·)
  let channel (n : Nat) : List UInt8 :=
    (spoken.filter fun frame => frame.channel = n).flatMap Frame.bytes
  { output := channel 1, errorOutput := channel 2
    ending := (frames.find? isEnding).map Frame.bytes }

/-- The output of the command, or why it failed. -/
def result (t : Transcript) (command : List String) : Except String String := do
  let status ← match t.ending with
    | none => pure none
    | some bytes =>
      match ExitStatus.ofBytes? bytes with
      | some status => pure (some status)
      | none => throw "exec session failed: failed to deserialize status object"
  let output ← (Text.ofUtf8 t.output).mapError fun fault =>
    s!"failed to read output: {fault.message}"
  match status with
  | none => return output
  | some status =>
    if status.status = some successStatus then return output
    let message := status.message.getD ""
    let errorOutput := Text.trim ((Text.ofUtf8 t.errorOutput).toOption.getD "")
    throw s!"command {Text.quotedList command} failed: {message} (stderr: {errorOutput})"

end Transcript

namespace Exec

def podsPath : String := (ServedType.of "v1" "Pod").path (some operatorNamespace)

def listTarget (node : String) : String :=
  podsPath ++ "?" ++
    Text.formPairs [("fieldSelector", s!"spec.nodeName={node}"), ("labelSelector", daemonSelector)]

/-- The target that opens a session for a command in a pod. -/
def sessionTarget (pod : String) (command : List String) : Except ClientError String := do
  let target ← objectTarget podsPath pod
  return target ++ "/exec?" ++
    Text.formPairs ([("stdout", "true"), ("stderr", "true"), ("container", daemonContainer)] ++
      command.map fun argument => ("command", argument))

def openSession (pod : String) (command : List String) :
    HttpProgram (Except ClientError (List Frame)) :=
  match sessionTarget pod command with
  | .error e => .done (.error e)
  | .ok target =>
    (send .get target).bind fun reply => .done do
      match ← reply with
      | .upgraded frames => return frames
      | .answered status _ => throw (.notUpgraded status)
      | .failed reason => throw (.failed reason)

def run (node : String) (command : List String) : HttpTask String := do
  let pods ← ExceptT.mk ((request .get (listTarget node) none (itemsOf? Pod.name?)).bind fun r =>
    .done (r.mapError fun e => Error.exec node s!"failed to list daemon pods: {e.message}"))
  let pod ← ApiStore.ofResult <| match pods.findSome? id with
    | some pod => .ok pod
    | none => .error (Error.exec node "no machine-config-daemon pod scheduled on node")
  let frames ← ExceptT.mk ((openSession pod command).bind fun r =>
    .done (r.mapError fun e => Error.exec node s!"exec in pod {pod} failed: {e.message}"))
  ApiStore.ofResult (((Transcript.ofFrames frames).result command).mapError (.exec node))

end Exec

/-! ## The calls -/

namespace ApiPlane

def pullSecret : HttpTask Secret := do
  let collection := Kind.secret.servedType.path (some pullSecretNamespace)
  let object ← ApiStore.fetch .secret collection pullSecretName
  ApiStore.ofResult (Kind.secret.read object)

/-- A call on the control plane as a program over requests. -/
def serve : (call : PlaneCall) → HttpProgram (Attempted call.Answer)
  | .store kind call => ApiStore.serve kind call
  | .exec node command => (Exec.run node command).run.attempt
  | .pullSecret => pullSecret.run.attempt

/-- A program for a control plane, run on a live cluster. -/
def run {α : Type} (p : PlaneProgram α) : HttpProgram α := p.within serve

end ApiPlane

end BuildTrial.Api
