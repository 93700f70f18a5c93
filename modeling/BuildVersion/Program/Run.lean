import BuildVersion.Build.Reading
import BuildVersion.CommandLine.Request
import BuildVersion.Config.Load
import BuildVersion.Program.Host
import BuildVersion.Program.Report
import BuildVersion.Version.Release

namespace BuildVersion

open CommandLine (Command Globals Request)
open Lookup (Event Run)
open Version (VersionError)

namespace Program

def release : String := "0.1.0"

def clientOf (config : Config) : Fetch.Client :=
  { timeout := config.endpoints.timeout }

def resolverOf (config : Config) : Lookup.Resolver :=
  ⟨config.endpoints, config.trunkBranch⟩

/-- The version of the newest local build in a directory, which may begin with a tilde; the
builder is named before the version is read. -/
def buildVersion (host : Host) (directory : String) : Run :=
  let checkout := host.expand (.ofString directory)
  let detect (path : Files.Path) := Build.detect host.files path host.words
  match checkout.bind fun path => (detect path).map fun builder => (path, builder) with
  | .err e => ⟨[], .err (.artifact e)⟩
  | .aborted fault => ⟨[], .aborted fault⟩
  | .ok (path, builder) =>
    ⟨[.said (.plain ("build system: " ++ builder.name) .dim)],
      (Build.readVersion host.files path (some builder) host.words).mapErr .artifact⟩

def verdict (text : String) : String :=
  (if Version.Release.isValid text then "valid" else "invalid") ++
    if Version.Release.isDirty text then " dirty" else ""

/-- The operation of a command under a configuration. -/
def perform (host : Host) (config : Config) : Command → Run
  | .stable canonical => (resolverOf config).stable (Fetch.Client.getText host.transport) canonical
  | .prerelease canonical =>
    (resolverOf config).prerelease (Fetch.Client.getText host.transport) canonical
  | .latestCi canonical =>
    (resolverOf config).latestCi (Fetch.Client.getText host.transport) canonical
  | .ci branch canonical =>
    let branch := if branch.getD "" = "" then config.tool.branch else branch.getD ""
    (resolverOf config).ci (Fetch.Client.getText host.transport) branch canonical
  | .marker url canonical => Lookup.marker (Fetch.Client.getText host.transport) url canonical
  | .kubecross branches =>
    (resolverOf config).kubecross (Fetch.Client.getText host.transport) branches
  | .buildVersion directory => buildVersion host directory
  | .validate text => ⟨[], .ok (verdict text)⟩
  | .repoUrl ssh => ⟨[], .ok (if ssh then config.tool.sshUrl else config.tool.httpsUrl)⟩

/-- Plays events and ends with a code, unless a notice cannot be read. -/
def conclude (terminal : Console.Terminal) (client : Fetch.Client) (events : List Event)
    (ending : Ending) (output : String) : Report :=
  match ({} : Transcript).play terminal client events with
  | (transcript, none) => ⟨ending, output, transcript⟩
  | (transcript, some fault) => ⟨.aborted fault, "", transcript⟩

/-- The report of an operation: its version is printed, its error is explained. -/
def reportRun (terminal : Console.Terminal) (client : Fetch.Client) (run : Run) : Report :=
  match run.outcome with
  | .ok version => conclude terminal client run.events (.exit .success) (Report.line version)
  | .err e =>
    conclude terminal client (run.events ++ e.notices.map .said) (.exit (.ofError e)) ""
  | .aborted fault => conclude terminal client run.events (.aborted fault) ""

/-- What is said of a configuration that cannot be loaded. -/
def loadNotices (e : Config.LoadError) : List Console.Notice :=
  .error e.message :: (e.hint.map fun hint => .plain ("hint: " ++ hint) .dim).toList

def loadConfig (host : Host) (globals : Globals) : Outcome Config.LoadError Config :=
  match globals.config with
  | some path => Config.load host.files (.ofString path) host.environment host.words
  | none => Config.loadOrDefault host.files none host.environment

def runConfigured (host : Host) (globals : Globals) (command : Command) : Report :=
  let terminal : Console.Terminal := { quiet := globals.quiet }
  match loadConfig host globals with
  | .ok config => reportRun terminal (clientOf config) (perform host config command)
  | .err e =>
    conclude terminal {} ((loadNotices e).map .said) (.exit .environmentError) ""
  | .aborted fault => { ending := .aborted fault }

/-- Runs a command. A version that is not valid for a release makes its check fail. -/
def runCommand (host : Host) (globals : Globals) (command : Command) : Report :=
  match command with
  | .validate text =>
    { ending := .exit (if Version.Release.isValid text then .success else .userError),
      output := Report.line (verdict text) }
  | command => runConfigured host globals command

def run (host : Host) (arguments : List String) : Report :=
  match Request.ofArguments arguments with
  | .err e => { ending := .misused e }
  | .aborted fault => { ending := .aborted fault }
  | .ok .help => { ending := .help }
  | .ok .version => { ending := .exit .success, output := Report.line release }
  | .ok (.run globals command) => runCommand host globals command

end Program

end BuildVersion
