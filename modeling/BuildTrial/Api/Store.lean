import BuildTrial.Api.Client
import BuildTrial.Api.Representation
import BuildTrial.Store

/-!
# Stores on an API server

The calls on a store of one kind of resource, answered by requests to the API server. The version of
a snapshot is the resource version of its object. An update reads the live object again, refuses to
go on unless that still has the expected version, and replaces it with that version pinned, so that
the API server rejects the replacement if anyone committed in between.
-/

namespace BuildTrial.Api

/-- A program that talks to an API server and may fail. -/
abbrev HttpTask (α : Type) : Type := ExceptT Error (Program httpInterface.timed) α

namespace ApiStore

variable (kind : Kind)

/-- Go on with the answer to a request, or fail with the error that it means. -/
def orFail {α : Type} (verb name : String) (answer : HttpProgram (Except ClientError α)) :
    HttpTask α :=
  ExceptT.mk (answer.bind fun r => .done (r.mapError (ClientError.toError kind.text name verb)))

/-- Fail with an error, if there is one. -/
def ofResult {α : Type} (r : Except Error α) : HttpTask α := ExceptT.mk (.done r)

/-- The resource in an object, with the version of the object. -/
def snapshot (object : Object) : Except Error (Versioned kind.Model) := do
  return ⟨← kind.read object, object.version⟩

/-- A request about one object of a collection, whose reply is read by `read`. -/
def objectRequest {α : Type} (method : Method) (collection name query : String)
    (body : Option Json) (read : Reading α) : HttpProgram (Except ClientError α) :=
  match objectTarget collection name with
  | .error e => .done (.error e)
  | .ok target => request method (target ++ query) body read

/-- Read the live object with the given name from a collection. -/
def fetch (collection name : String) : HttpTask Object :=
  orFail kind "get" name (objectRequest .get collection name "" none Object.read?)

def get (name : String) : HttpTask (Versioned kind.Model) := do
  ofResult (snapshot kind (← fetch kind kind.path name))

def list : HttpTask (List (Versioned kind.Model)) := do
  let objects ← orFail kind "list" "*"
    (request .get (kind.path ++ "?") none (itemsOf? Object.read?))
  ofResult (objects.mapM (snapshot kind))

def create (resource : kind.Model) : HttpTask (Versioned kind.Model) := do
  let object ← orFail kind "create" (Resource.name resource)
    (request .post (kind.path ++ "?") (some (kind.toObject resource).toJson) Object.read?)
  ofResult (snapshot kind object)

/-- Why an update from a version that is no longer current is refused. -/
def staleUpdate (name live expected : String) : Error :=
  .conflict kind.text name s!"resourceVersion is {live} but update was based on {expected}"

/-- The object to replace the live one with: the parts that the resource owns are overwritten, and
the expected version is pinned. -/
def replacement (name : String) (desired : kind.Model) (expected : String) (live : Object) :
    Except Error Object := do
  if live.version ≠ expected then throw (staleUpdate kind name live.version expected)
  let object ← kind.writeTo desired live
  return { object with metadata := { object.metadata with resourceVersion := some expected } }

def update (name : String) (desired : kind.Model) (expected : String) :
    HttpTask (Versioned kind.Model) := do
  let live ← fetch kind kind.path name
  let object ← ofResult (replacement kind name desired expected live)
  let replaced ← orFail kind "replace" name
    (objectRequest .put kind.path name "?" (some object.toJson) Object.read?)
  ofResult (snapshot kind replaced)

def delete (name : String) : HttpTask Unit :=
  orFail kind "delete" name (objectRequest .delete kind.path name "?" (some (.object [])) deletion?)

/-- The requests that a call on the store makes. -/
def answer : (call : StoreCall kind.Model) → HttpTask call.Answer
  | .get name => get kind name
  | .list => list kind
  | .create resource => create kind resource
  | .update name desired expected => update kind name desired expected
  | .delete name => delete kind name

/-- A call on the store as a program over requests. -/
def serve (call : StoreCall kind.Model) : HttpProgram (Attempted call.Answer) :=
  (answer kind call).run.attempt

/-- A program for a store, run on the store of an API server. -/
def run {α : Type} (p : StoreProgram kind.Model α) : HttpProgram α := p.within (serve kind)

end ApiStore

end BuildTrial.Api
