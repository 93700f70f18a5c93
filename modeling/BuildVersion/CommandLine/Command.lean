import BuildVersion.CommandLine.Options
import BuildVersion.Outcome

namespace BuildVersion.CommandLine

/-- What the program is asked to do. Where a version can be made canonical, `canonical` tells
whether it is. -/
inductive Command
  | stable (canonical : Bool)
  | prerelease (canonical : Bool)
  | latestCi (canonical : Bool)
  | ci (branch : Option String) (canonical : Bool)
  | marker (url : String) (canonical : Bool)
  | kubecross (branches : List String)
  | buildVersion (directory : String)
  | validate (text : String)
  | repoUrl (ssh : Bool)
  deriving DecidableEq, Repr

inductive Verb
  | stable
  | prerelease
  | latestCi
  | ci
  | marker
  | kubecross
  | buildVersion
  | validate
  | repoUrl
  deriving DecidableEq, Repr

namespace Verb

def table : List (String × Verb) :=
  [("stable", stable), ("prerelease", prerelease), ("latest-ci", latestCi), ("ci", ci),
    ("marker", marker), ("kubecross", kubecross), ("build-version", buildVersion),
    ("validate", validate), ("repo-url", repoUrl)]

def ofString? (name : String) : Option Verb :=
  table.lookup name

/-- The option that asks for help, of every command and of the program. -/
def helpSwitch : Switch := { name := "help" }

def semverSwitch : Switch := { name := "semver" }

def sshSwitch : Switch := { name := "ssh" }

def switches : Verb → List Switch
  | stable | prerelease | latestCi | ci | marker => [semverSwitch, helpSwitch]
  | repoUrl => [sshSwitch, helpSwitch]
  | kubecross | buildVersion | validate => [helpSwitch]

end Verb

namespace Command

/-- The only argument, which has to be there. -/
def single (arguments : List String) : Outcome UsageError String :=
  match arguments with
  | [] => .err .missingArgument
  | [argument] => .ok argument
  | _ => .err .extraArgument

/-- The only argument, if it is there. -/
def atMostOne (arguments : List String) : Outcome UsageError (Option String) :=
  match arguments with
  | [] => .ok none
  | [argument] => .ok (some argument)
  | _ => .err .extraArgument

def noArguments (arguments : List String) : Outcome UsageError Unit :=
  if arguments.isEmpty then .ok () else .err .extraArgument

/-- A path among the arguments holds no zero character. -/
def checkPath (path : String) : Outcome UsageError Unit :=
  if path.toList.contains '\x00' then .aborted (.file .zeroCharacter) else .ok ()

def ofVerb (verb : Verb) (settings : List Setting) (arguments : List String) :
    Outcome UsageError Command :=
  let canonical := Setting.has settings Verb.semverSwitch.name
  match verb with
  | .stable => (noArguments arguments).map fun _ => .stable canonical
  | .prerelease => (noArguments arguments).map fun _ => .prerelease canonical
  | .latestCi => (noArguments arguments).map fun _ => .latestCi canonical
  | .ci => (atMostOne arguments).map fun branch => .ci branch canonical
  | .marker => (single arguments).map fun url => .marker url canonical
  | .kubecross => if arguments.isEmpty then .err .missingArgument else .ok (.kubecross arguments)
  | .buildVersion =>
    (checkPath (arguments.headD "")).bind fun _ =>
    (atMostOne arguments).map fun directory => .buildVersion (directory.getD ".")
  | .validate => (single arguments).map .validate
  | .repoUrl =>
    (noArguments arguments).map fun _ => .repoUrl (Setting.has settings Verb.sshSwitch.name)

end Command

end BuildVersion.CommandLine
