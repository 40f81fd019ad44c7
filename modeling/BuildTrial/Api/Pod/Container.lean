import BuildTrial.Api.Pod.Parts

/-!
# Containers of pods

What a pod says about a container, and what its status tells of one.
-/

namespace BuildTrial.Api.Pod

open Shape

/-! ## Actions and probes -/

def execAction : Shape := fields [("command", listOf text)]

def httpAction : Shape :=
  fields
    [("host", text), ("httpHeaders", listOf (fields [("name", text), ("value", text)])),
      ("path", text), ("port", textOrNumber), ("scheme", text)]

def socketAction : Shape := fields [("host", text), ("port", textOrNumber)]

def lifecycleHandler : Shape :=
  fields
    [("exec", execAction), ("httpGet", httpAction), ("sleep", fields [("seconds", signed 64)]),
      ("tcpSocket", socketAction)]

def lifecycle : Shape :=
  fields
    [("postStart", lifecycleHandler), ("preStop", lifecycleHandler), ("stopSignal", text)]

def probe : Shape :=
  fields
    [("exec", execAction), ("failureThreshold", signed 32),
      ("grpc", fields [("port", signed 32), ("service", text)]), ("httpGet", httpAction),
      ("initialDelaySeconds", signed 32), ("periodSeconds", signed 32),
      ("successThreshold", signed 32), ("tcpSocket", socketAction),
      ("terminationGracePeriodSeconds", signed 64), ("timeoutSeconds", signed 32)]

/-! ## Surroundings -/

def entrySource : Shape :=
  fields
    [("configMapKeyRef", keyReference), ("fieldRef", fieldReference),
      ("resourceFieldRef", resourceReference), ("secretKeyRef", keyReference)]

def environmentEntry : Shape := fields [("name", text), ("value", text), ("valueFrom", entrySource)]

def environmentSource : Shape :=
  fields
    [("configMapRef", optionalReference), ("prefix", text), ("secretRef", optionalReference)]

def port : Shape :=
  fields
    [("containerPort", signed 32), ("hostIP", text), ("hostPort", signed 32), ("name", text),
      ("protocol", text)]

def volumeMount : Shape :=
  fields
    [("mountPath", text), ("mountPropagation", text), ("name", text), ("readOnly", flag),
      ("recursiveReadOnly", text), ("subPath", text), ("subPathExpr", text)]

def securityContext : Shape :=
  fields
    [("allowPrivilegeEscalation", flag), ("appArmorProfile", profile),
      ("capabilities", fields [("add", listOf text), ("drop", listOf text)]), ("privileged", flag),
      ("procMount", text), ("readOnlyRootFilesystem", flag), ("runAsGroup", signed 64),
      ("runAsNonRoot", flag), ("runAsUser", signed 64), ("seLinuxOptions", selinuxOptions),
      ("seccompProfile", profile), ("windowsOptions", windowsOptions)]

/-! ## Containers -/

/-- The fields of a container, in the order of their keys up to `targetContainerName`. -/
def containerFields : List (String × Shape) :=
  [("args", listOf text), ("command", listOf text), ("env", listOf environmentEntry),
    ("envFrom", listOf environmentSource), ("image", text), ("imagePullPolicy", text),
    ("lifecycle", lifecycle), ("livenessProbe", probe), ("name", text), ("ports", listOf port),
    ("readinessProbe", probe),
    ("resizePolicy", listOf (fields [("resourceName", text), ("restartPolicy", text)])),
    ("resources", resources), ("restartPolicy", text), ("securityContext", securityContext),
    ("startupProbe", probe), ("stdin", flag), ("stdinOnce", flag)]

/-- The fields after them. -/
def laterContainerFields : List (String × Shape) :=
  [("terminationMessagePath", text), ("terminationMessagePolicy", text), ("tty", flag),
    ("volumeDevices", listOf (fields [("devicePath", text), ("name", text)])),
    ("volumeMounts", listOf volumeMount), ("workingDir", text)]

def container : Shape := fields (containerFields ++ laterContainerFields)

/-- A container that was added to a running pod. -/
def ephemeralContainer : Shape :=
  fields (containerFields ++ ("targetContainerName", text) :: laterContainerFields)

/-! ## Status -/

def containerState : Shape :=
  fields
    [("running", fields [("startedAt", moment)]),
      ("terminated", fields
        [("containerID", text), ("exitCode", signed 32), ("finishedAt", moment),
          ("message", text), ("reason", text), ("signal", signed 32), ("startedAt", moment)]),
      ("waiting", fields [("message", text), ("reason", text)])]

def resourceHealth : Shape :=
  fields
    [("name", text),
      ("resources", listOf (fields [("health", text), ("resourceID", text)]))]

def user : Shape :=
  fields
    [("linux", fields
      [("gid", signed 64), ("supplementalGroups", listOf (signed 64)), ("uid", signed 64)])]

def mountStatus : Shape :=
  fields
    [("mountPath", text), ("name", text), ("readOnly", flag), ("recursiveReadOnly", text)]

def containerStatus : Shape :=
  fields
    [("allocatedResources", amounts), ("allocatedResourcesStatus", listOf resourceHealth),
      ("containerID", text), ("image", text), ("imageID", text), ("lastState", containerState),
      ("name", text), ("ready", flag), ("resources", resources), ("restartCount", signed 32),
      ("started", flag), ("state", containerState), ("stopSignal", text), ("user", user),
      ("volumeMounts", listOf mountStatus)]

end BuildTrial.Api.Pod
