import BuildVersion.Fetch.Failure
import BuildVersion.Fetch.Url
import BuildVersion.Number.Binary64
import BuildVersion.Text.Utf8

namespace BuildVersion.Fetch

/-- When a failure comes. -/
inductive Stage
  | opening
  | reading
  deriving DecidableEq, Repr

inductive Response
  | body (bytes : List UInt8)
  | failure (stage : Stage) (cause : Failure)
  deriving DecidableEq, Repr

/-- What a transport answers for each address. -/
abbrev Transport := String → Response

structure Request where
  url : String
  userAgent : String
  timeout : Binary64
  deriving DecidableEq, Repr

def defaultTimeout : Binary64 := .ofInt 30

def defaultUserAgent : String := "relver/0.1.0"

structure Client where
  userAgent : String := defaultUserAgent
  timeout : Binary64 := defaultTimeout
  deriving DecidableEq, Repr

open Version (FetchError)

def decode (url : String) (bytes : List UInt8) : Outcome FetchError String :=
  match Text.Utf8.decode bytes with
  | .ok text => .ok text
  | .error malformed => .err ⟨url, 0, "Decode error: " ++ malformed.message⟩

namespace Client

/-- The requests that the client sends for an address. -/
def requests (client : Client) (url : String) : List Request :=
  if (Url.problem? url).isNone then [⟨Url.full url, client.userAgent, client.timeout⟩] else []

def getText (transport : Transport) (url : String) : Outcome FetchError String :=
  match Url.problem? url with
  | some problem => .err ⟨url, 0, problem⟩
  | none =>
    match transport (Url.full url) with
    | .body bytes => decode url bytes
    | .failure _ cause => cause.outcome url

end Client

end BuildVersion.Fetch
