import BuildVersion.Files.Path

namespace BuildVersion.Build

inductive Builder
  | bazel
  | docker
  deriving DecidableEq, Repr

def Builder.name : Builder → String
  | .bazel => "bazel"
  | .docker => "docker"

/-- The directory of the release tarballs, inside the checkout. -/
def Builder.tarballDirectory : Builder → String
  | .bazel => "bazel-bin/build/release-tars"
  | .docker => "_output/release-tars"

def tarballName : String := "kubernetes.tar.gz"

/-- The file that holds the version after a build with Bazel. -/
def versionFile : String := "bazel-genfiles/version"

/-- The entry of the tarball that holds the version after a dockerized build. -/
def versionEntry : String := "kubernetes/version"

def inside (checkout : Files.Path) (text : String) : Files.Path :=
  checkout.join (.ofString text)

def Builder.tarball (builder : Builder) (checkout : Files.Path) : Files.Path :=
  inside (inside checkout builder.tarballDirectory) tarballName

end BuildVersion.Build
