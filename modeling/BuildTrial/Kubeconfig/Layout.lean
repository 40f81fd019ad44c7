import BuildTrial.Yaml.Expectation

/-!
# The layout of kubeconfigs

Which fields the parts of a kubeconfig have and what each of them may hold. Most of the fields say
nothing about how a cluster is reached, but a file with a field of the wrong type is refused.
-/

namespace BuildTrial.Kubeconfig.Layout

open Yaml (Expectation)
open Yaml.Expectation

def optionalText : Expectation := optional text

/-- A field that may be left out. -/
def may (key : String) (expected : Expectation) : Field := { key, expected }

/-- A field that has to be there. -/
def must (key : String) (expected : Expectation) : Field := { key, expected, isRequired := true }

/-- Texts that may be left out. -/
def texts (keys : List String) : List Field := keys.map (may · optionalText)

def extensions : Field :=
  may "extensions" (optional (listOf (record "NamedExtension"
    [must "name" text, must "extension" json])))

def preferences : Expectation := record "Preferences" [may "colors" (optional flag), extensions]

def cluster : Expectation :=
  record "Cluster"
    (texts ["server", "certificate-authority", "certificate-authority-data", "proxy-url",
        "tls-server-name"] ++
      [may "insecure-skip-tls-verify" (optional flag), may "disable-compression" (optional flag),
        extensions])

def authProvider : Expectation :=
  record "AuthProviderConfig" [must "name" text, may "config" textMap]

def exec : Expectation :=
  record "ExecConfig"
    (texts ["apiVersion", "command"] ++
      [may "args" (optional (listOf text)), may "env" (optional (listOf textMap)),
        may "interactiveMode" (optional (oneOf ["Never", "IfAvailable", "Always"])),
        may "provideClusterInfo" flag])

def user : Expectation :=
  record "AuthInfo"
    (texts ["username", "password", "token", "tokenFile", "client-certificate",
        "client-certificate-data", "client-key", "client-key-data", "as"] ++
      [may "as-groups" (optional (listOf text)), may "auth-provider" (optional authProvider),
        may "exec" (optional exec)])

def context : Expectation :=
  record "Context" (must "cluster" text :: texts ["user", "namespace"] ++ [extensions])

/-- A list of named things under the given key. -/
def namedList (name key : String) (expected : Expectation) : Expectation :=
  listOf (record name [must "name" text, may key (optional expected)])

def kubeconfig : Expectation :=
  record "Kubeconfig"
    (texts ["current-context", "kind", "apiVersion"] ++
      [may "preferences" (optional preferences), extensions,
        may "clusters" (namedList "NamedCluster" "cluster" cluster),
        may "users" (namedList "NamedAuthInfo" "user" user),
        may "contexts" (namedList "NamedContext" "context" context)])

end BuildTrial.Kubeconfig.Layout
