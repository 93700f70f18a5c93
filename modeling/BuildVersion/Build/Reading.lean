import BuildVersion.Build.Detection
import BuildVersion.Tar.Archive
import BuildVersion.Text.Blank

namespace BuildVersion.Build

open Version (ArtifactError)

def decode (path : Files.Path) (bytes : List UInt8) : Outcome ArtifactError String :=
  match Text.Utf8.decode bytes with
  | .ok text => .ok text
  | .error malformed => .err ⟨path, s!"Decode error: {malformed.message}"⟩

/-- Reads the version that a build with Bazel left, untrimmed. -/
def readBazel (files : Files.Tree) (checkout : Files.Path) (words : Words := {}) :
    Outcome ArtifactError String :=
  let path := inside checkout versionFile
  match files.read path with
  | .error .notFound => .err ⟨path, "Bazel version file not found"⟩
  | .error .zeroCharacter => .aborted (.file .zeroCharacter)
  | .error cause => .err ⟨path, s!"Cannot read version file ({words.file path cause})"⟩
  | .ok bytes =>
    (decode path bytes).map fun text => String.ofList (Text.unifyLineEnds text.toList)

/-- What is said of an archive that yields no content. -/
def archiveMessage (said : String) : Tar.ArchiveError → String
  | .undecodable => s!"Cannot decompress archive ({said})"
  | .unreadable => s!"Cannot read archive ({said})"

def versionBytes (words : Words) (path : Files.Path) (bytes : List UInt8) :
    Outcome ArtifactError (List UInt8) :=
  let failed {α : Type} (read : Outcome Tar.ArchiveError α) : Outcome ArtifactError α :=
    read.mapErr fun e => ⟨path, archiveMessage (words.archive bytes) e⟩
  (failed (Tar.Archive.ofBytes bytes)).bind fun archive =>
  match archive.find? (Text.Utf8.encode versionEntry) with
  | none => .err ⟨path, "Archive has no '" ++ versionEntry ++ "' entry"⟩
  | some index =>
    (failed (archive.content? index)).bind fun content =>
    match content with
    | some content => .ok content
    | none => .err ⟨path, "Archive entry '" ++ versionEntry ++ "' is not a regular file"⟩

/-- Whether a path leads to a file. One that leads nowhere, to a directory or in circles does not;
a name that is too long and a directory that may not be searched are faults. -/
def isFile (files : Files.Tree) (path : Files.Path) : Outcome ArtifactError Bool :=
  match files.stat path with
  | .ok (.file _ _) => .ok true
  | .ok _ => .ok false
  | .error .nameTooLong => .aborted (.file .nameTooLong)
  | .error .denied => .aborted (.file .denied)
  | .error _ => .ok false

def archiveBytes (words : Words) (files : Files.Tree) (path : Files.Path) :
    Outcome ArtifactError (List UInt8) :=
  match files.read path with
  | .ok bytes => .ok bytes
  | .error cause => .err ⟨path, archiveMessage (words.file path cause) .unreadable⟩

/-- Reads the version that a dockerized build left, trimmed. -/
def readDocker (files : Files.Tree) (checkout : Files.Path) (words : Words := {}) :
    Outcome ArtifactError String :=
  let path := Builder.docker.tarball checkout
  (isFile files path).bind fun found =>
  if found then
    (archiveBytes words files path).bind fun bytes =>
    (versionBytes words path bytes).bind fun content =>
    (decode path content).map Text.trimmed
  else .err ⟨path, "Release tarball not found"⟩

def read (builder : Builder) (files : Files.Tree) (checkout : Files.Path) (words : Words := {}) :
    Outcome ArtifactError String :=
  match builder with
  | .bazel => readBazel files checkout words
  | .docker => readDocker files checkout words

/-- Reads the version of the given builder, or of the one that made the newest tarball. -/
def readVersion (files : Files.Tree) (checkout : Files.Path) (builder : Option Builder := none)
    (words : Words := {}) : Outcome ArtifactError String :=
  match builder with
  | some builder => read builder files checkout words
  | none => (detect files checkout words).bind fun builder => read builder files checkout words

end BuildVersion.Build
