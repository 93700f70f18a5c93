import BuildVersion.Program.Run

/-!
The program itself. Its files are read before it runs: the configuration file that the command
line names, and what the builders leave in the checkout. All files count as equally old. There is
no network, so every address is unreachable.
-/

namespace BuildVersion

def helpText : String :=
  "\n".intercalate
    ["Usage: relver [--version] [--config FILE] [--quiet] COMMAND",
     "",
     "Commands:",
     "  stable [--semver]           the latest stable release",
     "  prerelease [--semver]       the latest pre-release",
     "  latest-ci [--semver]        the latest build of the trunk",
     "  ci [BRANCH] [--semver]      the latest build of a branch",
     "  marker URL [--semver]       the version in a marker file",
     "  kubecross BRANCH...         the kube-cross image of the first branch that has one",
     "  build-version [DIRECTORY]   the version of the newest local build",
     "  validate VERSION            whether a version is valid for a release",
     "  repo-url [--ssh]            the repository of the release tooling"]

/-- The files that a run with these arguments reads. -/
def filesOf (host : Host) (arguments : List String) : List Files.Path :=
  match CommandLine.Request.ofArguments arguments with
  | .ok (.run globals command) =>
    let config := (globals.config.map Files.Path.ofString).toList
    match command with
    | .buildVersion directory =>
      match (host.expand (.ofString directory) : Outcome Unit Files.Path) with
      | .ok checkout =>
        config ++ [Build.Builder.bazel.tarball checkout, Build.Builder.docker.tarball checkout,
          Build.inside checkout Build.versionFile]
      | _ => config
    | _ => config
  | _ => []

/-- The place of the working directory, which no path from the root leads to. -/
def workingPlace : Files.Place := [""]

def addFile (files : Files.Tree) (path : Files.Path) : IO Files.Tree := do
  try
    let bytes ← IO.FS.readBinFile path.toString
    return files.putFile path bytes.toList 0 0
  catch _ => return files

end BuildVersion

open BuildVersion in
def main (arguments : List String) : IO UInt32 := do
  let names := ["TOOL_ORG", "TOOL_REPO", "TOOL_BRANCH"]
  let settings ← names.filterMapM fun name => do
    return (← IO.getEnv name).map fun value => (name, value)
  let home ← IO.getEnv "HOME"
  let host : Host :=
    { files := { nodes := [(workingPlace, .directory 0)], here := workingPlace },
      environment := .ofList settings,
      transport := fun _ => .failure .opening (.unreachable "no network"),
      home := fun account => if account = "" then home else none }
  let files ← (filesOf host arguments).foldlM addFile host.files
  let report := Program.run { host with files := files } arguments
  IO.print report.output
  IO.eprint report.transcript.messages
  match report.ending with
  | .exit code => return code.number.toUInt32
  | .help =>
    IO.println helpText
    return 0
  | .misused error =>
    IO.eprintln error.message
    return 2
  | .aborted fault =>
    IO.eprintln (repr fault).pretty
    return 1
