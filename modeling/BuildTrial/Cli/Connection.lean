import BuildTrial.Cli.Shell
import BuildTrial.Retry
import BuildTrial.Text.Encoding

/-!
# Connecting to a cluster

The cluster to connect to is the one that a kubeconfig leads to, or one that is found without it.
What a file says does not change, so only the connection itself is worth another attempt.
-/

namespace BuildTrial.Cli

inductive KubeconfigFault where
  | unreadable (path : String) (fault : FileFault)
  | notText (path : String) (encoding : Text.Encoding)
  | malformed (fault : Kubeconfig.TextFault)

def KubeconfigFault.message : KubeconfigFault → String
  | .unreadable path fault =>
    s!"failed to read kubeconfig from '{Text.quoted path}': {fault.message}"
  | .notText path encoding =>
    s!"failed to read kubeconfig from '{Text.quoted path}': Invalid {encoding.name}"
  | .malformed fault => fault.message

/-- Why there is no connection to a cluster. -/
inductive ConnectFault where
  | noKubeconfig (path : String) (fault : KubeconfigFault)
  /-- The kubeconfig leads to no cluster. -/
  | noEndpoint (fault : Kubeconfig.EndpointFault)
  /-- There is no kubeconfig, and no cluster is found without it. -/
  | notFound (reason : String)
  /-- The cluster cannot be connected to. -/
  | notConnected (reason : String)

namespace ConnectFault

def message : ConnectFault → String
  | .noKubeconfig path fault => s!"failed to read kubeconfig {path}: {fault.message}"
  | .noEndpoint fault => s!"failed to load kubeconfig: {fault.message}"
  | .notFound reason => s!"failed to infer config: {reason}"
  | .notConnected reason => s!"failed to create client: {reason}"

/-- Whether the fault may be gone at another attempt. -/
def isTransient : ConnectFault → Bool
  | .noKubeconfig _ _ => false
  | .noEndpoint _ => false
  | .notFound _ => true
  | .notConnected _ => true

def toError (fault : ConnectFault) : Error :=
  .controlPlane "create_client" fault.message fault.isTransient

end ConnectFault

/-! ## Kubeconfigs in files -/

/-- What happens when bytes end in the middle of a unit of two. -/
def halfUnitPanic : Panic := .text "index out of bounds: the len is 1 but the index is 1"

def readKubeconfig (path : String) : ShellProgram (Except KubeconfigFault Kubeconfig) := do
  match ← ShellProgram.read path with
  | .error fault => return .error (.unreadable path fault)
  | .ok bytes =>
    match Text.decode bytes with
    | .error .halfUnit => .panic halfUnitPanic
    | .error (.invalid encoding) => return .error (.notText path encoding)
    | .ok text => return (Kubeconfig.parse text).mapError .malformed

/-- A path that a file names, seen from where the file is; an absolute path is itself. -/
def pathBeside (file path : String) : String :=
  if path.toList.head? = some '/' then path
  else
    let directory := (file.toList.reverse.dropWhile (· ≠ '/')).reverse
    String.ofList directory ++ path

/-- The bytes with the certificates of a cluster that the given file describes, if there are to be
any. -/
def readAuthority (file : String) (cluster : Kubeconfig.Cluster) :
    ShellProgram (Except Kubeconfig.EndpointFault (Option (List UInt8))) := do
  match cluster.authorityData, cluster.authorityFile with
  | some data, _ =>
    match Text.Base64.decode? data.toList with
    | some bytes => return .ok (some bytes)
    | none => return .error .noCertificates
  | none, some path =>
    match ← ShellProgram.read (pathBeside file path) with
    | .ok bytes => return .ok (some bytes)
    | .error _ => return .error .noCertificates
  | none, none => return .ok none

def findEndpoint (path : String) : ShellProgram (Except ConnectFault Endpoint) := do
  match ← readKubeconfig path with
  | .error fault => return .error (.noKubeconfig path fault)
  | .ok kubeconfig =>
    match kubeconfig.selected with
    | .error fault => return .error (.noEndpoint fault)
    | .ok selection =>
      let authority ← readAuthority path selection.cluster
      return (selection.endpoint authority).mapError .noEndpoint

/-! ## Connections -/

/-- Connect to a cluster, unless its proxy cannot be used. -/
def connectTo (endpoint : Endpoint) : ShellProgram (Except ConnectFault Unit) := do
  match endpoint.proxyFault? with
  | some fault => return .error (.notConnected fault.message)
  | none => return (← ShellProgram.connect (some endpoint)).mapError .notConnected

def connectOnce : (kubeconfig : Option String) → ShellProgram (Except ConnectFault Unit)
  | none => do return (← ShellProgram.connect none).mapError .notFound
  | some path => do
    match ← findEndpoint path with
    | .error fault => return .error fault
    | .ok endpoint => connectTo endpoint

def connectAttempts : Nat := 10

/-- Connect to the cluster, again if that may help. -/
def connect (kubeconfig : Option String) : ShellProgram (Except Error Unit) :=
  retry (.withMaxAttempts connectAttempts) Error.isRetryable do
    return (← connectOnce kubeconfig).mapError ConnectFault.toError

end BuildTrial.Cli
