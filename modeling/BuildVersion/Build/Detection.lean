import BuildVersion.Build.Builder
import BuildVersion.Files.Tree
import BuildVersion.Number.Binary64
import BuildVersion.Outcome
import BuildVersion.Version.Error
import BuildVersion.Words

namespace BuildVersion.Build

open Version (ArtifactError)

def nanosecondsPerSecond : Nat := 1000000000

/-- A nanosecond in seconds, as near as a binary64 number comes. -/
def nanosecond : Binary64 := Binary64.ofDecimal false 1 (-9)

/-- A time in seconds: the whole seconds, and the fraction rounded before it is added. -/
def seconds (time : Int) : Binary64 :=
  (Binary64.ofInt (time / nanosecondsPerSecond)).add
    (nanosecond.scale (time % nanosecondsPerSecond).toNat)

/-- When the file at a path was modified, if there is one. -/
def modified? (files : Files.Tree) (path : Files.Path) (words : Words := {}) :
    Outcome ArtifactError (Option Binary64) :=
  match files.stat path with
  | .ok node => .ok (some (seconds node.mtime))
  | .error .notFound => .ok none
  | .error .zeroCharacter => .aborted (.file .zeroCharacter)
  | .error cause => .err ⟨path, s!"Cannot stat artifact ({words.file path cause})"⟩

/-- The builder of the newer tarball, by the times of Bazel's and the dockerized one. -/
def newer : (bazel docker : Option Binary64) → Builder
  | none, _ => .docker
  | some _, none => .bazel
  | some bazel, some docker => if docker.lt bazel then .bazel else .docker

/-- The builder that made the newest release tarball of a checkout. -/
def detect (files : Files.Tree) (checkout : Files.Path) (words : Words := {}) :
    Outcome ArtifactError Builder :=
  (modified? files (Builder.bazel.tarball checkout) words).bind fun bazel =>
  (modified? files (Builder.docker.tarball checkout) words).map fun docker =>
  newer bazel docker

end BuildVersion.Build
