import BuildVersion.Console.Journal
import BuildVersion.Lookup.Resolver

namespace BuildVersion.Lookup

open Version (FetchError)

/-- Addresses and what they answer; of several entries for an address the first counts. -/
abbrev Responses := List (String × Except FetchError String)

namespace Responses

def insert (responses : Responses) (url : String) (response : Except FetchError String) :
    Responses :=
  (url, response) :: responses

/-- Canned responses as a source; an address without one does not exist. -/
def source (responses : Responses) : Source := fun url =>
  match responses.lookup url with
  | some (.ok text) => .ok text
  | some (.error e) => .err e
  | none => .err ⟨url, 404, "Not Found (mock)"⟩

end Responses

inductive Step
  | set (url : String) (response : Except FetchError String)
  | get (url : String)
  | stable (canonical : Bool)
  | prerelease (canonical : Bool)
  | latestCi (canonical : Bool)
  | ci (branch : String) (canonical : Bool)
  | marker (url : String) (canonical : Bool)
  | kubecross (branches : List String)

structure Session where
  resolver : Resolver := {}
  responses : Responses := []
  calls : List String := []
  journal : Console.Journal := {}

/-- The run of a step; a step that sets a response looks up nothing. -/
def Step.run? (r : Resolver) (source : Source) : Step → Option Run
  | .set _ _ => none
  | .get url => some ⟨[.asked url], (source url).mapErr .fetch⟩
  | .stable canonical => some (r.stable source canonical)
  | .prerelease canonical => some (r.prerelease source canonical)
  | .latestCi canonical => some (r.latestCi source canonical)
  | .ci branch canonical => some (r.ci source branch canonical)
  | .marker url canonical => some (Lookup.marker source url canonical)
  | .kubecross branches => some (r.kubecross source branches)

def Step.responses (responses : Responses) : Step → Responses
  | .set url response => responses.insert url response
  | _ => responses

namespace Session

/-- The run of a step, if it looks something up, and the session after it. -/
def run (s : Session) (step : Step) : Option Run × Session :=
  let run? := step.run? s.resolver s.responses.source
  let responses := step.responses s.responses
  match run? with
  | none => (none, { s with responses := responses })
  | some l =>
    (some l,
      ⟨s.resolver, responses, s.calls ++ l.urls, s.journal.append l.notices⟩)

def runAll (s : Session) : List Step → List (Option Run) × Session
  | [] => ([], s)
  | step :: rest =>
    let (l, s) := s.run step
    let (ls, s) := runAll s rest
    (l :: ls, s)

end Session

end BuildVersion.Lookup
