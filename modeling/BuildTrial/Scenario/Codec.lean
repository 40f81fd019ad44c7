import BuildTrial.Json
import BuildTrial.Suite

/-!
# The written form of options

Options are written as nested records with camel-case keys. Reading is the same for every notation
that has texts, counts, lists, maps and records; what the notation accepts for each of them is a
`DataForm`. Keys with a default may be missing, unknown keys are refused, and so is a missing key
without a default.
-/

namespace BuildTrial

/-- How a notation with values in `V` reads the parts of a record. -/
structure DataForm (V : Type) where
  text? : V → Option String
  flag? : V → Option Bool
  /-- A whole number below `2 ^ 64`. -/
  count? : V → Option Nat
  items? : V → Option (List V)
  /-- The entries of a map; of two with one key the later counts. -/
  entries? : V → Option (List (String × V))
  /-- The fields of a record of which all keys are known and none occurs twice. -/
  fields? (keys : List String) : V → Option (List (String × V))
  /-- A value that may be missing. -/
  optional : V → Option V
  /-- One of several names. -/
  choice? : V → Option String

namespace DataForm

variable {V α : Type}

/-- The field with the key, or the default if there is none. -/
def withDefault (fields : List (String × V)) (key : String) (default : α)
    (read : V → Option α) : Option α :=
  match fields.lookup key with
  | some value => read value
  | none => some default

/-- The field with the key, which has to be there. -/
def required (fields : List (String × V)) (key : String) (read : V → Option α) : Option α :=
  (fields.lookup key).bind read

/-- A list of texts. -/
def texts? (n : DataForm V) (value : V) : Option (List String) :=
  (n.items? value).bind fun items => items.mapM n.text?

/-- A map of texts. -/
def textMap? (n : DataForm V) (value : V) : Option (StringMap String) := do
  let entries ← n.entries? value
  let pairs ← entries.mapM fun (key, value) => (n.text? value).map fun text => (key, text)
  return .ofList pairs

end DataForm

open DataForm

namespace Timeouts

/-- The keys, in the order of declaration. -/
def keys : List String :=
  ["imageRepositorySecs", "renderedConfigSecs", "buildStartSecs", "buildCompletionSecs",
    "nodeImageSecs", "scenarioSecs", "pollIntervalSecs"]

def read? {V : Type} (n : DataForm V) (value : V) : Option Timeouts := do
  let fields ← n.fields? keys value
  let preset : Timeouts := {}
  return {
    imageRepository :=
      ← withDefault fields "imageRepositorySecs" preset.imageRepository n.count?
    renderedConfig := ← withDefault fields "renderedConfigSecs" preset.renderedConfig n.count?
    buildStart := ← withDefault fields "buildStartSecs" preset.buildStart n.count?
    buildCompletion :=
      ← withDefault fields "buildCompletionSecs" preset.buildCompletion n.count?
    nodeImage := ← withDefault fields "nodeImageSecs" preset.nodeImage n.count?
    scenario := ← withDefault fields "scenarioSecs" preset.scenario n.count?
    pollInterval := ← withDefault fields "pollIntervalSecs" preset.pollInterval n.count? }

def toJson (t : Timeouts) : Json :=
  .ofFields
    [("imageRepositorySecs", .ofNat t.imageRepository),
      ("renderedConfigSecs", .ofNat t.renderedConfig),
      ("buildStartSecs", .ofNat t.buildStart),
      ("buildCompletionSecs", .ofNat t.buildCompletion),
      ("nodeImageSecs", .ofNat t.nodeImage),
      ("scenarioSecs", .ofNat t.scenario),
      ("pollIntervalSecs", .ofNat t.pollInterval)]

end Timeouts

namespace RolloutOptions

def keys : List String := ["verifyCommand", "nodeRole", "deleteNodeOnCleanup"]

def read? {V : Type} (n : DataForm V) (value : V) : Option RolloutOptions := do
  let fields ← n.fields? keys value
  return {
    verifyCommand := ← required fields "verifyCommand" n.texts?
    nodeRole := ← withDefault fields "nodeRole" "worker" n.text?
    deleteNode := ← withDefault fields "deleteNodeOnCleanup" true n.flag? }

def toJson (r : RolloutOptions) : Json :=
  .ofFields
    [("verifyCommand", .strings r.verifyCommand), ("nodeRole", .string r.nodeRole),
      ("deleteNodeOnCleanup", .bool r.deleteNode)]

end RolloutOptions

namespace ScenarioOptions

def keys : List String :=
  ["name", "builderType", "poolName", "dockerfileOverrides", "targetNodes", "skipCleanup",
    "rollout", "timeouts"]

def readRollout? {V : Type} (n : DataForm V) (value : V) : Option (Option RolloutOptions) :=
  match n.optional value with
  | some value => (RolloutOptions.read? n value).map some
  | none => some none

def read? {V : Type} (n : DataForm V) (value : V) : Option ScenarioOptions := do
  let fields ← n.fields? keys value
  return {
    name := ← required fields "name" n.text?
    builderType :=
      ← required fields "builderType" fun value => (n.choice? value).bind BuilderType.ofText?
    poolName := ← withDefault fields "poolName" defaultPoolName n.text?
    dockerfiles := ← withDefault fields "dockerfileOverrides" ∅ n.textMap?
    targetNodes := ← withDefault fields "targetNodes" [] n.texts?
    skipCleanup := ← withDefault fields "skipCleanup" false n.flag?
    rollout := ← withDefault fields "rollout" none (readRollout? n)
    timeouts := ← withDefault fields "timeouts" {} (Timeouts.read? n) }

def toJson (o : ScenarioOptions) : Json :=
  .ofFields
    [("name", .string o.name), ("builderType", .string o.builderType.text),
      ("poolName", .string o.poolName), ("dockerfileOverrides", .ofStringMap o.dockerfiles),
      ("targetNodes", .strings o.targetNodes), ("skipCleanup", .bool o.skipCleanup),
      ("rollout", .ofOption RolloutOptions.toJson o.rollout), ("timeouts", o.timeouts.toJson)]

end ScenarioOptions

namespace Suite

def read? {V : Type} (n : DataForm V) (value : V) : Option Suite := do
  let fields ← n.fields? ["scenarios"] value
  let items ← required fields "scenarios" n.items?
  return ⟨← items.mapM (ScenarioOptions.read? n)⟩

end Suite

namespace Json

/-- A record: an object, or an array of its values in the order of declaration. -/
def recordFields? (keys : List String) : Json → Option Fields
  | .object fields => if fields.all (keys.contains ·.1) then some fields else none
  | .array items => if items.length ≤ keys.length then some (keys.zip items) else none
  | _ => none

/-- A whole number of 64 bits without a sign. -/
def count? : Json → Option Nat
  | .int value => if 0 ≤ value ∧ value < 2 ^ 64 then some value.toNat else none
  | _ => none

/-- A name, alone or as the key of nothing. -/
def choice? : Json → Option String
  | .string value => some value
  | .object [(key, .null)] => some key
  | _ => none

/-- How JSON writes the parts of a record. -/
def dataForm : DataForm Json where
  text? := string?
  flag? := bool?
  count? := count?
  items? := items?
  entries? := fields?
  fields? := recordFields?
  optional value := if value.isNull then none else some value
  choice? := choice?

end Json

end BuildTrial
