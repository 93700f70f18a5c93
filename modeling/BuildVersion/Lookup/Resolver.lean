import BuildVersion.Config.Endpoints
import BuildVersion.Console.Notice
import BuildVersion.Template.Expand
import BuildVersion.Version.Marker
import BuildVersion.Version.SemVer

namespace BuildVersion.Lookup

open Console (Notice)
open Version (FetchError VersionError)

/-- What happens during a lookup. -/
inductive Event
  | said (notice : Notice)
  | asked (url : String)
  deriving DecidableEq, Repr

/-- The run of a lookup: what happened, in order, and how it ended. -/
structure Run where
  events : List Event
  outcome : Outcome VersionError String
  deriving DecidableEq, Repr

namespace Run

/-- Puts events in front of a run. -/
def after (events : List Event) (rest : Run) : Run :=
  ⟨events ++ rest.events, rest.outcome⟩

def notices (l : Run) : List Notice :=
  l.events.filterMap fun
    | .said notice => some notice
    | .asked _ => none

def urls (l : Run) : List String :=
  l.events.filterMap fun
    | .said _ => none
    | .asked url => some url

end Run

/-- Where texts come from. -/
abbrev Source := String → Outcome FetchError String

structure Resolver where
  endpoints : Endpoints := {}
  trunk : String := "master"
  deriving DecidableEq, Repr

def info (message : String) : Event := .said (.info message)

def fetchTrimmed (source : Source) (url : String) : Outcome FetchError String :=
  (source url).map Text.trimmed

/-- The version that a trimmed text gives, canonical if asked for. -/
def versionOf (url : String) (canonical : Bool) (text : String) : Outcome VersionError String :=
  if text = "" then .err (.notFound ⟨"version", url⟩)
  else if canonical then (Version.normalize text).mapErr .format
  else .ok text

/-- The version that the marker at an address holds. -/
def markerOutcome (source : Source) (url : String) (canonical : Bool) :
    Outcome VersionError String :=
  ((fetchTrimmed source url).mapErr .fetch).bind (versionOf url canonical)

def marker (source : Source) (url : String) (canonical : Bool) : Run :=
  let outcome := markerOutcome source url canonical
  let last := match outcome with
    | .ok version => [info s!"Retrieved Kubernetes version: {version}"]
    | _ => []
  ⟨[info s!"Retrieving Kubernetes build version from {url}...", .asked url] ++ last, outcome⟩

namespace Resolver

/-- The last stable release. -/
def stable (r : Resolver) (source : Source) (canonical : Bool) : Run :=
  .after [info "Retrieving Kubernetes release version..."]
    (marker source (Version.Marker.url r.endpoints.releaseBase Version.Marker.stable) canonical)

/-- The last release, stable or not. -/
def prerelease (r : Resolver) (source : Source) (canonical : Bool) : Run :=
  .after [info "Retrieving Kubernetes testing version..."]
    (marker source (Version.Marker.url r.endpoints.releaseBase Version.Marker.latest) canonical)

/-- The last build of the trunk. -/
def latestCi (r : Resolver) (source : Source) (canonical : Bool) : Run :=
  .after [info "Retrieving Kubernetes latest build version..."]
    (marker source (Version.Marker.url r.endpoints.ciBase Version.Marker.latest) canonical)

def ci (r : Resolver) (source : Source) (branch : String) (canonical : Bool) : Run :=
  let file := Version.Marker.fileFor branch r.trunk
  .after
    [info s!"Retrieving Kubernetes build version on the '{branch}' branch...",
     info s!"Version marker file: {file}"]
    (marker source (Version.Marker.url r.endpoints.ciBase file) canonical)

/-- What is looked for on the branches. -/
def imageVersion : String := "kube-cross version (must not continue with an empty version)"

/-- The branches in words. -/
def searched (branches : List String) : String :=
  let names := ", ".intercalate branches
  if names = "" then "no branches" else names

/-- Looks on the remaining branches; `all` are the branches that were named. -/
def kubecrossFrom (r : Resolver) (source : Source) (all : List String) : List String → Run
  | [] => ⟨[], .err (.notFound ⟨imageVersion, searched all⟩)⟩
  | branch :: rest =>
    let trying := info s!"Trying to get the kube-cross version for {branch}..."
    match Template.expand r.endpoints.kubecrossUrl branch with
    | .error cause => ⟨[trying], .aborted (.template cause)⟩
    | .ok url =>
      match fetchTrimmed source url with
      | .ok version =>
        if version = "" then .after [trying, .asked url] (kubecrossFrom r source all rest)
        else
          ⟨[trying, .asked url, info s!"Found the following kube-cross version: {version}"],
            .ok version⟩
      | .err e =>
        if rest.isEmpty then ⟨[trying, .asked url], .err (.fetch e)⟩
        else
          .after
            [trying, .asked url, .said (.warning
              s!"Error retrieving the kube-cross version for the '{branch}': {e.text}")]
            (kubecrossFrom r source all rest)
      | .aborted fault => ⟨[trying, .asked url], .aborted fault⟩

/-- The version of the kube-cross image on the first branch that holds one. -/
def kubecross (r : Resolver) (source : Source) (branches : List String) : Run :=
  kubecrossFrom r source branches branches

end Resolver

end BuildVersion.Lookup
