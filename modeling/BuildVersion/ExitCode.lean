import BuildVersion.Version.Error

namespace BuildVersion

inductive ExitCode
  | success
  | userError
  | environmentError
  | networkError
  | ioError
  | formatError
  | notFound
  deriving DecidableEq, Repr

namespace ExitCode

def number : ExitCode → Nat
  | success => 0
  | userError => 1
  | environmentError => 2
  | networkError => 4
  | ioError => 5
  | formatError => 6
  | notFound => 7

open Version in
def ofError : VersionError → ExitCode
  | .fetch _ => networkError
  | .artifact _ => ioError
  | .format _ => formatError
  | .notFound _ => notFound

def table : List (String × ExitCode) :=
  [("OK", success), ("USER_ERROR", userError), ("ENV_ERROR", environmentError),
   ("NETWORK_ERROR", networkError), ("IO_ERROR", ioError), ("FORMAT_ERROR", formatError),
   ("NOT_FOUND", notFound)]

end ExitCode

end BuildVersion
