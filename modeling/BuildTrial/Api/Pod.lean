import BuildTrial.Api.Pod.Container
import BuildTrial.Api.Pod.Volume

/-!
# Pods

Of a pod only the name is looked at, but a list of pods is understood only if every known part of
every pod has its shape.
-/

namespace BuildTrial.Api.Pod

open Shape

/-! ## Placement -/

def nodeTerm : Shape :=
  fields [("matchExpressions", listOf requirement), ("matchFields", listOf requirement)]

def podTerm : Shape :=
  fields
    [("labelSelector", labelSelector), ("matchLabelKeys", listOf text),
      ("mismatchLabelKeys", listOf text), ("namespaceSelector", labelSelector),
      ("namespaces", listOf text), ("topologyKey", text)]

def preferredKey : String := "preferredDuringSchedulingIgnoredDuringExecution"

def requiredKey : String := "requiredDuringSchedulingIgnoredDuringExecution"

/-- Other pods to be near to, or not. -/
def podAffinity : Shape :=
  fields
    [(preferredKey, listOf (fields [("podAffinityTerm", podTerm), ("weight", signed 32)])),
      (requiredKey, listOf podTerm)]

def nodeAffinity : Shape :=
  fields
    [(preferredKey, listOf (fields [("preference", nodeTerm), ("weight", signed 32)])),
      (requiredKey, fields [("nodeSelectorTerms", listOf nodeTerm)])]

def affinity : Shape :=
  fields
    [("nodeAffinity", nodeAffinity), ("podAffinity", podAffinity),
      ("podAntiAffinity", podAffinity)]

def toleration : Shape :=
  fields
    [("effect", text), ("key", text), ("operator", text), ("tolerationSeconds", signed 64),
      ("value", text)]

def spreadConstraint : Shape :=
  fields
    [("labelSelector", labelSelector), ("matchLabelKeys", listOf text), ("maxSkew", signed 32),
      ("minDomains", signed 32), ("nodeAffinityPolicy", text), ("nodeTaintsPolicy", text),
      ("topologyKey", text), ("whenUnsatisfiable", text)]

/-! ## Specification -/

def podSecurityContext : Shape :=
  fields
    [("appArmorProfile", profile), ("fsGroup", signed 64), ("fsGroupChangePolicy", text),
      ("runAsGroup", signed 64), ("runAsNonRoot", flag), ("runAsUser", signed 64),
      ("seLinuxChangePolicy", text), ("seLinuxOptions", selinuxOptions),
      ("seccompProfile", profile), ("supplementalGroups", listOf (signed 64)),
      ("supplementalGroupsPolicy", text),
      ("sysctls", listOf (fields [("name", text), ("value", text)])),
      ("windowsOptions", windowsOptions)]

def nameServers : Shape :=
  fields
    [("nameservers", listOf text),
      ("options", listOf (fields [("name", text), ("value", text)])), ("searches", listOf text)]

def resourceClaim : Shape :=
  fields [("name", text), ("resourceClaimName", text), ("resourceClaimTemplateName", text)]

def specification : Shape :=
  fields
    [("activeDeadlineSeconds", signed 64), ("affinity", affinity),
      ("automountServiceAccountToken", flag), ("containers", listOf container),
      ("dnsConfig", nameServers), ("dnsPolicy", text), ("enableServiceLinks", flag),
      ("ephemeralContainers", listOf ephemeralContainer),
      ("hostAliases", listOf (fields [("hostnames", listOf text), ("ip", text)])),
      ("hostIPC", flag), ("hostNetwork", flag), ("hostPID", flag), ("hostUsers", flag),
      ("hostname", text), ("imagePullSecrets", listOf localReference),
      ("initContainers", listOf container), ("nodeName", text), ("nodeSelector", mapOf text),
      ("os", fields [("name", text)]), ("overhead", amounts), ("preemptionPolicy", text),
      ("priority", signed 32), ("priorityClassName", text),
      ("readinessGates", listOf (fields [("conditionType", text)])),
      ("resourceClaims", listOf resourceClaim), ("resources", resources),
      ("restartPolicy", text), ("runtimeClassName", text), ("schedulerName", text),
      ("schedulingGates", listOf (fields [("name", text)])),
      ("securityContext", podSecurityContext), ("serviceAccount", text),
      ("serviceAccountName", text), ("setHostnameAsFQDN", flag), ("shareProcessNamespace", flag),
      ("subdomain", text), ("terminationGracePeriodSeconds", signed 64),
      ("tolerations", listOf toleration), ("topologySpreadConstraints", listOf spreadConstraint),
      ("volumes", listOf volume)]

/-! ## Status -/

def condition : Shape :=
  fields
    [("lastProbeTime", moment), ("lastTransitionTime", moment), ("message", text),
      ("observedGeneration", signed 64), ("reason", text), ("status", text), ("type", text)]

def addresses : Shape := listOf (fields [("ip", text)])

def status : Shape :=
  fields
    [("conditions", listOf condition), ("containerStatuses", listOf containerStatus),
      ("ephemeralContainerStatuses", listOf containerStatus), ("hostIP", text),
      ("hostIPs", addresses), ("initContainerStatuses", listOf containerStatus),
      ("message", text), ("nominatedNodeName", text), ("observedGeneration", signed 64),
      ("phase", text), ("podIP", text), ("podIPs", addresses), ("qosClass", text),
      ("reason", text), ("resize", text),
      ("resourceClaimStatuses", listOf (fields [("name", text), ("resourceClaimName", text)])),
      ("startTime", moment)]

/-! ## Pods -/

def shape : Shape :=
  record
    [{ key := "apiVersion", shape := exactly "v1", mayBeNull := false },
      { key := "kind", shape := exactly "Pod", mayBeNull := false },
      { key := "metadata", shape := Metadata.shape }, { key := "spec", shape := specification },
      { key := "status", shape := status }]

/-- The name of the pod in a document, if it has one. -/
def name? (room : Nat) (written : Written) : Option (Option String) := do
  let pod ← shape room written
  return (pod.field? "metadata").bind fun metadata => (metadata.field? "name").bind Json.string?

end BuildTrial.Api.Pod
