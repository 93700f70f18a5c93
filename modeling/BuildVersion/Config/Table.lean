import BuildVersion.Config.Basic
import BuildVersion.Settings.Value
import BuildVersion.Template.Expand
import BuildVersion.Words

namespace BuildVersion.Config

/-- Why a template is refused. -/
inductive Rejection
  | lacksBranch
  | unknownName (name : String)
  /-- A position or a number is asked for, which only a library has words for. -/
  | unknownPosition (template : String) (cause : TemplateFault)
  deriving DecidableEq, Repr

def Rejection.message (rejection : Rejection) (words : Words := {}) : String :=
  match rejection with
  | .lacksBranch => "endpoints.kubecross_url must contain '\x7bbranch\x7d'"
  | .unknownName name =>
    s!"endpoints.kubecross_url has an unknown placeholder {Text.quoted name}"
  | .unknownPosition template cause =>
    s!"endpoints.kubecross_url has an unknown placeholder {words.template template cause}"

/-- How the branch is mentioned in a template. -/
def branchField : String := "\x7bbranch\x7d"

/-- The branch on which a template is tried. -/
def trialBranch : String := "master"

def checkTemplate (template : String) : Outcome Rejection Unit :=
  if Text.contains branchField template then
    match Template.expand template trialBranch with
    | .ok _ => .ok ()
    | .error (.missingName name) => .err (.unknownName name)
    | .error .missingPosition => .err (.unknownPosition template .missingPosition)
    | .error .missingNumber => .err (.unknownPosition template .missingNumber)
    | .error cause => .aborted (.template cause)
  else .err .lacksBranch

open Settings (Table)

def toolOf (t : Table) : Tool :=
  let d : Tool := {}
  ⟨(t.text? "org").getD d.org, (t.text? "repo").getD d.repo, (t.text? "branch").getD d.branch⟩

def endpointsOf (data : Table) : Table :=
  (data.table? "endpoints").getD []

def templateOf (data : Table) : String :=
  ((endpointsOf data).text? "kubecross_url").getD ({} : Endpoints).kubecrossUrl

/-- The configuration of a table. Every text that is missing, blank or no text, and a timeout that
is missing, not positive or no number, has its default. -/
def ofTable (data : Table) : Outcome Rejection Config :=
  let d : Endpoints := {}
  let endpoints := endpointsOf data
  (checkTemplate (templateOf data)).bind fun _ =>
  (endpoints.number? "timeout").bind fun timeout =>
  .ok
    ⟨toolOf ((data.table? "tool").getD []),
      ⟨(endpoints.text? "release_base").getD d.releaseBase,
        (endpoints.text? "ci_base").getD d.ciBase, templateOf data, timeout.getD d.timeout⟩,
      (data.text? "trunk_branch").getD ({} : Config).trunkBranch⟩

end BuildVersion.Config
