import BuildVersion.Console.Notice
import BuildVersion.Files.Path
import BuildVersion.Number.Numeral
import BuildVersion.Text.Quoted

namespace BuildVersion.Version

/-- A text that could not be fetched; the status is zero where no server answered. -/
structure FetchError where
  url : String
  status : Int
  message : String
  deriving DecidableEq, Repr

/-- A text that is no strict semantic version. -/
structure FormatError where
  value : String
  message : String
  deriving DecidableEq, Repr

/-- A file, archive or archive entry that could not be read. -/
structure ArtifactError where
  path : Files.Path
  message : String
  deriving DecidableEq, Repr

/-- No candidate held a version. -/
structure NotFoundError where
  what : String
  source : String
  deriving DecidableEq, Repr

inductive VersionError
  | fetch (error : FetchError)
  | format (error : FormatError)
  | artifact (error : ArtifactError)
  | notFound (error : NotFoundError)
  deriving DecidableEq, Repr

def FetchError.text (e : FetchError) : String :=
  if e.status = 0 then s!"{e.message} ({e.url})"
  else s!"HTTP {Numeral.text e.status}: {e.message} ({e.url})"

def FormatError.text (e : FormatError) : String :=
  s!"{e.message}: {Text.quoted e.value}"

def ArtifactError.text (e : ArtifactError) : String :=
  s!"{e.message}: {e.path.toString}"

def NotFoundError.text (e : NotFoundError) : String :=
  s!"{e.what} not found in {e.source}"

namespace VersionError

/-- The error in one line. -/
def text : VersionError → String
  | fetch e => e.text
  | format e => e.text
  | artifact e => e.text
  | notFound e => e.text

open Console in
/-- What a console shows of the error: the error, and where to look or what to do next. -/
def notices : VersionError → List Notice
  | fetch e =>
    [.error (if e.status = 0 then s!"fetch failed: {e.message}"
      else s!"fetch failed: HTTP {Numeral.text e.status} {e.message}"),
     .plain s!"url: {e.url}" .dim]
  | format e =>
    [.error e.text, .plain "hint: retry without --semver to keep the raw version" .dim]
  | artifact e => [.error e.text, .plain "hint: build the release tarballs first" .dim]
  | notFound e => [.error s!"{e.what} not found", .plain s!"searched: {e.source}" .dim]

end VersionError

end BuildVersion.Version
