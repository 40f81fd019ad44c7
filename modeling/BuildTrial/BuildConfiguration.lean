import BuildTrial.Resource
import BuildTrial.Text.Cut

/-!
# The build configuration

The settings with which the controller builds images, and the configuration map that holds them.
`toConfigMap` writes exactly the four known keys; `ofConfigMap` needs all four with a value, and
names the first offending one.
-/

namespace BuildTrial

/-- What builds the image. -/
inductive BuilderType where
  /-- The build objects of the cluster. -/
  | openshiftImageBuilder
  /-- A pod that runs a builder image. -/
  | customPodBuilder
deriving DecidableEq, Repr, Inhabited

def BuilderType.text : BuilderType → String
  | .openshiftImageBuilder => "openshift-image-builder"
  | .customPodBuilder => "custom-pod-builder"

/-- The builder with the given name, if there is one. -/
def BuilderType.ofText? (s : String) : Option BuilderType :=
  [BuilderType.openshiftImageBuilder, .customPodBuilder].find? (·.text = s)

namespace BuildConfiguration

def mapName : String := "on-cluster-build-config"

def builderTypeKey : String := "image-builder-type"

def basePullSecretKey : String := "base-image-pull-secret-name"

def finalPushSecretKey : String := "final-image-push-secret-name"

def finalPullspecKey : String := "final-image-pullspec"

end BuildConfiguration

/-- The builder with the given name, or the error that it is unknown. -/
def BuilderType.ofText (s : String) : Except Error BuilderType :=
  match ofText? s with
  | some builder => .ok builder
  | none =>
    .error (.invalid BuildConfiguration.builderTypeKey s!"unknown builder type {Text.quoted s}")

structure BuildConfiguration where
  builderType : BuilderType
  /-- The secret that pulls the base image. -/
  basePullSecret : String
  /-- The secret that pushes the final image. -/
  finalPushSecret : String
  /-- Where the final image goes. -/
  finalPullspec : String
deriving DecidableEq, Repr

namespace BuildConfiguration

/-- The configuration map that the controller reads. -/
def toConfigMap (c : BuildConfiguration) : ConfigMap where
  name := mapName
  data := Std.ExtTreeMap.ofList
    [(builderTypeKey, c.builderType.text), (basePullSecretKey, c.basePullSecret),
      (finalPushSecretKey, c.finalPushSecret), (finalPullspecKey, c.finalPullspec)]

/-- The value of a key that has to be there and not be empty. -/
def requiredValue (map : ConfigMap) (key : String) : Except Error String :=
  match map.data[key]? with
  | some value =>
    if value = "" then .error (.invalid key s!"ConfigMap {map.name} is missing required key {key}")
    else .ok value
  | none => .error (.invalid key s!"ConfigMap {map.name} is missing required key {key}")

def ofConfigMap (map : ConfigMap) : Except Error BuildConfiguration := do
  let builderType ← BuilderType.ofText (← requiredValue map builderTypeKey)
  let basePullSecret ← requiredValue map basePullSecretKey
  let finalPushSecret ← requiredValue map finalPushSecretKey
  let finalPullspec ← requiredValue map finalPullspecKey
  return { builderType, basePullSecret, finalPushSecret, finalPullspec }

end BuildConfiguration

namespace Dockerfiles

def mapName : String := "on-cluster-build-custom-dockerfile"

/-- The configuration map that holds a Dockerfile for each pool. -/
def toConfigMap (entries : StringMap String) : ConfigMap := ⟨mapName, entries⟩

end Dockerfiles

end BuildTrial
