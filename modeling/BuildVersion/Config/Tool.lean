namespace BuildVersion

structure Tool where
  org : String := "kubernetes"
  repo : String := "release"
  branch : String := "master"
  deriving DecidableEq, Repr

/-- Variables and their values; a variable that is not set has none. -/
abbrev Environment := String → Option String

namespace Environment

/-- The value of a variable, or `default` where it is not set or empty. -/
def getD (env : Environment) (name default : String) : String :=
  match env name with
  | some value => if value = "" then default else value
  | none => default

def empty : Environment := fun _ => none

/-- An environment from names with values; of several values of a name the first counts. -/
def ofList (l : List (String × String)) : Environment := fun name => l.lookup name

end Environment

namespace Tool

/-- The tool with every `TOOL_` variable that is set and not empty applied to it. -/
def withEnvironment (tool : Tool) (env : Environment) : Tool :=
  ⟨env.getD "TOOL_ORG" tool.org, env.getD "TOOL_REPO" tool.repo,
    env.getD "TOOL_BRANCH" tool.branch⟩

def httpsUrl (tool : Tool) : String :=
  s!"https://github.com/{tool.org}/{tool.repo}"

def sshUrl (tool : Tool) : String :=
  s!"git@github.com:{tool.org}/{tool.repo}"

end Tool

end BuildVersion
