import BuildTrial.Resource
import BuildTrial.Text.Bytes

/-!
# Scripted edits

What a scripted controller or a scripted mutation does to a resource, as data. An edit that makes no
sense for the kind of the resource leaves it as it is.
-/

namespace BuildTrial.Rehearsal

inductive Edit where
  | rename (name : String)
  | panic (message : String)
  | setLabel (key value : String)
  | unsetLabel (key : String)
  /-- Add a label that is numbered by the labels there were before. -/
  | countLabel (start : String)
  | state (text : Option String)
  | image (reference : Option String)
  | rendered (config : Option RenderedConfig)
  | machine (name : Option String)
  /-- Set an entry of the data; the value of an entry of a secret is in hexadecimal. -/
  | setEntry (key value : String)
  | unsetEntry (key : String)
  | secretType (type : String)
  | repository (reference : Option String)
deriving DecidableEq, Repr

namespace Edit

/-- The build state with the given name; any other text is idle. -/
def buildState (text : Option String) : BuildState := (text.bind BuildState.ofText?).getD .idle

def onLabels (labels : StringMap String) : Edit → StringMap String
  | .setLabel key value => labels.insert key value
  | .unsetLabel key => labels.erase key
  | .countLabel start => labels.insert s!"{start}-{labels.size}" ""
  | _ => labels

def onPool (pool : Pool) : Edit → Pool
  | .rename name => { pool with name }
  | .state text => { pool with state := buildState text }
  | .image reference => { pool with image := reference }
  | .rendered config => { pool with rendered := config }
  | edit => { pool with labels := onLabels pool.labels edit }

def onNode (node : Node) : Edit → Node
  | .rename name => { node with name }
  | .state text => { node with state := text }
  | .image reference => { node with image := reference }
  | .machine name => { node with machine := name }
  | edit => { node with labels := onLabels node.labels edit }

def onConfigMap (map : ConfigMap) : Edit → ConfigMap
  | .rename name => { map with name }
  | .setEntry key value => { map with data := map.data.insert key value }
  | .unsetEntry key => { map with data := map.data.erase key }
  | _ => map

def onSecret (secret : Secret) : Edit → Secret
  | .rename name => { secret with name }
  | .secretType type => { secret with type }
  | .setEntry key value =>
    { secret with data := secret.data.insert key ((Text.bytesOfHex? value.toList).getD []) }
  | _ => secret

def onImageRepository (repository : ImageRepository) : Edit → ImageRepository
  | .rename name => { repository with name }
  | .repository reference => { repository with repository := reference }
  | _ => repository

def onMachine (machine : Machine) : Edit → Machine
  | .rename name => { machine with name }
  | _ => machine

def on : (kind : Kind) → kind.Model → Edit → kind.Model
  | .pool => onPool
  | .configMap => onConfigMap
  | .secret => onSecret
  | .imageRepository => onImageRepository
  | .node => onNode
  | .machine => onMachine

/-- Carry out edits in order. A panic ends them, and what they did before stays. -/
def onAll (kind : Kind) (object : kind.Model) : List Edit → kind.Model × Outcome Unit
  | [] => (object, .returned ())
  | .panic message :: _ => (object, .panicked (.text message))
  | edit :: rest => onAll kind (on kind object edit) rest

def mutation (kind : Kind) (edits : List Edit) (object : kind.Model) : Outcome kind.Model :=
  match onAll kind object edits with
  | (object, .returned ()) => .returned object
  | (_, .panicked payload) => .panicked payload

end Edit

end BuildTrial.Rehearsal
