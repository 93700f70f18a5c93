import BuildVersion.Proofs.Config.Environment
import BuildVersion.Program.Run

namespace BuildVersion

open CommandLine (Command Globals Request)
open Lookup (Run)

namespace CommandLine

def Command.variables : Command → List String
  | .repoUrl _ => ["TOOL_ORG", "TOOL_REPO"]
  | .ci branch _ => if branch.getD "" = "" then ["TOOL_BRANCH"] else []
  | _ => []

end CommandLine

namespace Program

variable {host : Host} {command : Command} {env env' : Environment}

theorem loadConfig_eq_map (host : Host) (globals : Globals) :
    loadConfig host globals = (loadConfig { host with environment := .empty } globals).map
      fun config => config.withEnvironment host.environment := by
  unfold loadConfig
  cases globals.config with
  | none => rfl
  | some path => exact Config.load_eq_map _ _ _ _

/-- An operation takes from the environment what its configuration was given. -/
theorem perform_withEnvironment (host : Host) (config : Config) (env : Environment) :
    perform { host with environment := env } config command = perform host config command := by
  cases command <;> rfl

theorem perform_congr (host : Host) (config : Config)
    (hagree : ∀ name ∈ command.variables, env name = env' name) :
    perform host (config.withEnvironment env) command =
      perform host (config.withEnvironment env') command := by
  cases command with
  | ci branch canonical =>
      by_cases hbranch : branch.getD "" = ""
      · have htool : env "TOOL_BRANCH" = env' "TOOL_BRANCH" :=
          hagree _ (by simp [Command.variables, hbranch])
        have hnamed : (config.withEnvironment env).tool.branch =
            (config.withEnvironment env').tool.branch := Environment.getD_congr htool _
        simp only [perform, if_pos hbranch, hnamed]
        rfl
      · simp only [perform, if_neg hbranch]
        rfl
  | repoUrl ssh =>
      have horg : (config.withEnvironment env).tool.org = (config.withEnvironment env').tool.org :=
        Environment.getD_congr (hagree "TOOL_ORG" (by simp [Command.variables])) config.tool.org
      have hrepo :
          (config.withEnvironment env).tool.repo = (config.withEnvironment env').tool.repo :=
        Environment.getD_congr (hagree "TOOL_REPO" (by simp [Command.variables])) config.tool.repo
      rw [perform, perform, Tool.httpsUrl_congr horg hrepo, Tool.sshUrl_congr horg hrepo]
  | _ => rfl

theorem runConfigured_congr (host : Host) (globals : Globals)
    (hagree : ∀ name ∈ command.variables, env name = env' name) :
    runConfigured { host with environment := env } globals command =
      runConfigured { host with environment := env' } globals command := by
  unfold runConfigured
  rw [loadConfig_eq_map { host with environment := env },
    loadConfig_eq_map { host with environment := env' }]
  cases loadConfig { host with environment := .empty } globals with
  | err e => rfl
  | aborted fault => rfl
  | ok config =>
      simp only [Outcome.map_ok]
      rw [perform_withEnvironment, perform_withEnvironment, perform_congr host config hagree]
      rfl

theorem runCommand_congr (host : Host) (globals : Globals)
    (hagree : ∀ name ∈ command.variables, env name = env' name) :
    runCommand { host with environment := env } globals command =
      runCommand { host with environment := env' } globals command := by
  cases command with
  | validate text => rfl
  | _ => exact runConfigured_congr host globals hagree

/-- Two runs of a command line on one host differ in nothing that can be seen if their environments
agree on the variables that the command reads. -/
theorem run_eq_of_variables_agree (host : Host) (arguments : List String) (env env' : Environment)
    (hagree : ∀ globals command, Request.ofArguments arguments = .ok (.run globals command) →
      ∀ name ∈ command.variables, env name = env' name) :
    run { host with environment := env } arguments =
      run { host with environment := env' } arguments := by
  unfold run
  cases hrequest : Request.ofArguments arguments with
  | err e => rfl
  | aborted fault => rfl
  | ok request =>
      cases request with
      | help => rfl
      | version => rfl
      | run globals command => exact runCommand_congr host globals (hagree globals command hrequest)

/-- A host whose network holds the marker of one branch. -/
def branchHost : Host where
  transport url :=
    if url = "https://dl.k8s.io/ci/latest-main.txt" then
      .body (Text.Utf8.encode "v1.19.0-alpha.0\n")
    else .failure .opening (.http 404 "Not Found")
  home _ := none

def upstream : Environment := .ofList [("TOOL_BRANCH", "main"), ("TOOL_ORG", "kubernetes")]

def fork : Environment := .ofList [("TOOL_BRANCH", "main"), ("TOOL_REPO", "sandbox")]

/-- The builds of a branch that the environment names, under two organisations and repositories. -/
theorem fork_ci_eq_upstream_ci :
    (∀ globals command, Request.ofArguments ["-q", "ci"] = .ok (.run globals command) →
      ∀ name ∈ command.variables, fork name = upstream name) ∧
    run { branchHost with environment := fork } ["-q", "ci"] =
      run { branchHost with environment := upstream } ["-q", "ci"] ∧
    (run { branchHost with environment := fork } ["-q", "ci"]).output = "v1.19.0-alpha.0\n" := by
  have hrequest : Request.ofArguments ["-q", "ci"] =
      .ok (.run { quiet := true } (.ci none false)) := by
    decide +kernel
  have hagree : ∀ globals command, Request.ofArguments ["-q", "ci"] = .ok (.run globals command) →
      ∀ name ∈ command.variables, fork name = upstream name := by
    intro globals command hother name hname
    obtain ⟨rfl, rfl⟩ : { quiet := true } = globals ∧ Command.ci none false = command := by
      simpa [hrequest] using hother
    obtain rfl : name = "TOOL_BRANCH" := by simpa [Command.variables] using hname
    rfl
  exact ⟨hagree, run_eq_of_variables_agree branchHost ["-q", "ci"] fork upstream hagree,
    by decide +kernel⟩

end Program

end BuildVersion
