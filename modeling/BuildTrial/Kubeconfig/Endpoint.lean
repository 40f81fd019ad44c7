import BuildTrial.Api.Uri
import BuildTrial.Kubeconfig
import BuildTrial.Text.Pem

/-!
# Where a cluster is reached

The current context of a kubeconfig selects a cluster and a user. What is said of them makes an
endpoint, once the certificates that the cluster is recognized by are there.
-/

namespace BuildTrial

/-- Where a cluster is reached. -/
structure Endpoint where
  server : Api.Uri
  /-- The certificates that the cluster is recognized by, if they are its own. -/
  certificates : Option (List (List UInt8)) := none
  proxy : Option Api.Uri := none
deriving Repr

namespace Kubeconfig

inductive EndpointFault where
  | noContext
  | unknownContext (name : String)
  | unknownCluster (name : String)
  | noServer
  | badServer (fault : Api.UriFault)
  /-- The certificates are not there. -/
  | noCertificates
  | badCertificates (fault : Text.PemFault)
  | badProxy (fault : Api.UriFault)
deriving DecidableEq, Repr

def EndpointFault.message : EndpointFault → String
  | .noContext => "failed to determine current context"
  | .unknownContext name => s!"failed to load current context: {name}"
  | .unknownCluster name => s!"failed to load the cluster of context: {name}"
  | .noServer => "cluster url is missing on selected cluster"
  | .badServer fault => s!"failed to parse cluster url: {fault.message}"
  | .noCertificates => "failed to load certificate authority"
  | .badCertificates fault => s!"failed to parse PEM-encoded certificates: {fault.message}"
  | .badProxy fault => s!"failed to parse proxy url: {fault.message}"

/-- A cluster and the user to reach it as. -/
structure Selection where
  cluster : Cluster
  user : User := {}
deriving DecidableEq, Repr

/-- What the current context selects. A user that is not there is one of whom nothing is said. -/
def selected (k : Kubeconfig) : Except EndpointFault Selection :=
  match k.currentContext with
  | none => .error .noContext
  | some name =>
    match k.contexts.get? name with
    | none => .error (.unknownContext name)
    | some context =>
      match k.clusters.get? context.cluster with
      | none => .error (.unknownCluster context.cluster)
      | some cluster => .ok { cluster, user := (context.user.bind k.users.get?).getD {} }

namespace Selection

/-- The address of the server. -/
def server (s : Selection) : Except EndpointFault Api.Uri :=
  match s.cluster.server with
  | none => .error .noServer
  | some server => (Api.Uri.parse server).mapError .badServer

/-- The address of the proxy, if there is one. -/
def proxy (s : Selection) : Except EndpointFault (Option Api.Uri) :=
  match s.cluster.proxy.filter (!·.isEmpty) with
  | none => .ok none
  | some proxy => ((Api.Uri.parse proxy).mapError .badProxy).map some

/-- The endpoint of a selection, given the bytes with the certificates, if there are to be any. They
come first if the user is to be told about them. -/
def endpoint (s : Selection) (authority : Except EndpointFault (Option (List UInt8))) :
    Except EndpointFault Endpoint := do
  if s.user.isToldCluster then
    let _ ← authority
  let server ← s.server
  let certificates ← (← authority).mapM fun bytes =>
    (Text.Pem.certificates bytes).mapError EndpointFault.badCertificates
  return { server, certificates, proxy := ← s.proxy }

end Selection

end Kubeconfig

/-! ## Proxies -/

/-- Why a proxy cannot be used. -/
inductive ProxyFault where
  /-- Its protocol needs a part of the program that is left out. -/
  | disabled (proxy : Api.Uri) (part : String)
  | unsupported (proxy : Api.Uri)
deriving DecidableEq, Repr

def ProxyFault.message : ProxyFault → String
  | .disabled proxy part =>
    s!"configured proxy {proxy.text} requires the disabled feature {Text.quoted part}"
  | .unsupported proxy => s!"configured proxy {proxy.text} uses an unsupported protocol"

/-- The protocols of proxies with the parts that they need. -/
def proxyParts : List (String × String) :=
  [("socks5", "kube/socks5"), ("http", "kube/http-proxy")]

/-- Why an endpoint cannot be used, if it cannot: no proxy is supported. -/
def Endpoint.proxyFault? (e : Endpoint) : Option ProxyFault :=
  e.proxy.map fun proxy =>
    match proxy.scheme.bind (List.lookup · proxyParts) with
    | some part => .disabled proxy part
    | none => .unsupported proxy

end BuildTrial
