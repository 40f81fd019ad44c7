import BuildTrial.Scenario.Options

/-!
# The built-in scenarios

Each builds an image with one package more and differs from the others in the builder, or in that
the image is rolled out to a node and the package is run there.
-/

namespace BuildTrial.Catalog

/-- Installs the package on top of the rendered configuration. -/
def dockerfile : String :=
  "FROM quay.io/centos/centos:stream9 AS centos\n" ++
  "RUN dnf install -y epel-release\n" ++
  "FROM configs AS final\n" ++
  "COPY --from=centos /etc/yum.repos.d /etc/yum.repos.d\n" ++
  "COPY --from=centos /etc/pki/rpm-gpg/RPM-GPG-KEY-* /etc/pki/rpm-gpg/\n" ++
  "RUN sed -i 's/\\$stream/9-stream/g' /etc/yum.repos.d/centos*.repo && \\\n" ++
  "    rpm-ostree install cowsay"

/-- The command that shows that the package is on the host. -/
def verifyCommand : List String := ["chroot", "/rootfs", "cowsay", "Moo!"]

def packageBuild (name : String) (builderType : BuilderType) : ScenarioOptions :=
  ({ name, builderType } : ScenarioOptions).withDockerfile defaultPoolName dockerfile

/-- Every built-in scenario, in the order in which a suite runs them. -/
def all : List ScenarioOptions :=
  [packageBuild "openshift-image-builder" .openshiftImageBuilder,
    packageBuild "custom-pod-builder" .customPodBuilder,
    (packageBuild "rolls-out-image" .openshiftImageBuilder).withRollout { verifyCommand }]

def names : List String := all.map (·.name)

def byName? (name : String) : Option ScenarioOptions := all.find? (·.name = name)

end BuildTrial.Catalog
