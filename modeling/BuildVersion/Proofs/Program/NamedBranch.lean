import BuildVersion.Proofs.CommandLine.Flags
import BuildVersion.Proofs.Config.Override
import BuildVersion.Proofs.Program.Environment

namespace BuildVersion

open CommandLine (Command Globals Request Setting Verb isOption separate)
open Lookup (Run)

namespace Environment

variable {env : Environment} {name value : String}

theorem getD_of_eq_some (hset : env name = some value) (hvalue : value ≠ "") (default : String) :
    env.getD name default = value := by
  rw [getD, hset]
  exact if_neg hvalue

theorem getD_of_unset (hunset : (env name).getD "" = "") (default : String) :
    env.getD name default = default := by
  rw [getD]
  cases hname : env name with
  | none => rfl
  | some value =>
      rw [hname, Option.getD_some] at hunset
      exact if_pos hunset

end Environment

namespace CommandLine

variable {argument : String}

theorem isOption_of_head?_ne (hargument : argument.toList.head? ≠ some '-') :
    isOption argument.toList = false := by
  rw [isOption, decide_eq_false hargument, Bool.false_and]

theorem ne_dashes_of_head?_ne (hargument : argument.toList.head? ≠ some '-') : argument ≠ "--" := by
  rintro rfl
  exact hargument rfl

end CommandLine

namespace Program

variable {host : Host} {globals : Globals} {env env' : Environment} {config : Config}

theorem branch_ne_empty_of_loadConfig
    (hconfig : loadConfig { host with environment := .empty } globals = .ok config) :
    config.tool.branch ≠ "" := by
  unfold loadConfig at hconfig
  cases hpath : globals.config with
  | none =>
      rw [hpath] at hconfig
      cases hconfig
      exact (by decide : ({} : Config).tool.branch ≠ "")
  | some path =>
      rw [hpath] at hconfig
      obtain ⟨table, loaded, -, hloaded, rfl⟩ := Config.load_eq_ok_iff.mp hconfig
      exact Config.TextField.ne_empty_of_reads (Config.reads_of_ofTable hloaded .branch)

/-- A branch that is named on the command line is looked up as the one is that the environment and
the configuration come to. -/
theorem runCommand_ci {branch : String} (canonical : Bool) (hbranch : branch ≠ "")
    (hnamed : ∀ config, loadConfig { host with environment := .empty } globals = .ok config →
      env.getD "TOOL_BRANCH" config.tool.branch = branch) :
    runCommand { host with environment := env } globals (.ci none canonical) =
      runCommand { host with environment := env' } globals (.ci (some branch) canonical) := by
  change runConfigured _ _ _ = runConfigured _ _ _
  unfold runConfigured
  rw [loadConfig_eq_map { host with environment := env },
    loadConfig_eq_map { host with environment := env' }]
  cases hconfig : loadConfig { host with environment := .empty } globals with
  | err e => rfl
  | aborted fault => rfl
  | ok config =>
      have htool : (config.withEnvironment env).tool.branch = branch := hnamed config hconfig
      have hsame : perform host (config.withEnvironment env) (.ci none canonical) =
          perform host (config.withEnvironment env') (.ci (some branch) canonical) := by
        simp only [perform, Option.getD_none, Option.getD_some, if_pos, if_neg hbranch, htool]
        rfl
      simp only [Outcome.map_ok]
      rw [perform_withEnvironment, perform_withEnvironment, hsame]
      rfl

section Arguments

variable {options first last : List String} {settings : List Setting}
  (hoptions : separate Request.switches false options = .ok (settings, []))
  (hfirst : ∀ flag ∈ first, flag = "--semver") (hlast : ∀ flag ∈ last, flag = "--semver")

include hoptions hfirst hlast

theorem run_ci_of_named {branch : String} (hbranch : branch ≠ "")
    (hargument : branch.toList.head? ≠ some '-')
    (hnamed : ∀ config, loadConfig { host with environment := .empty }
        { config := Setting.last? settings Request.configSwitch.name } = .ok config →
      env.getD "TOOL_BRANCH" config.tool.branch = branch) :
    run { host with environment := env } (options ++ "ci" :: (first ++ last)) =
      run { host with environment := env' } (options ++ "ci" :: (first ++ branch :: last)) := by
  have hverb : Verb.ofString? "ci" = some .ci := by decide
  have hname : "ci" ≠ "--" := by decide
  have hplain : isOption "ci".toList = false := by decide
  obtain ⟨canonical, hnone, hsome⟩ := Request.ofVerb_ci
    ⟨Setting.last? settings Request.configSwitch.name,
      Setting.has settings Request.quietSwitch.name⟩ hfirst hlast
    (CommandLine.ne_dashes_of_head?_ne hargument) (CommandLine.isOption_of_head?_ne hargument)
  unfold run
  rw [Request.ofArguments_append hverb hname hplain hoptions,
    Request.ofArguments_append hverb hname hplain hoptions, hnone, hsome]
  cases Setting.has settings Verb.helpSwitch.name with
  | true => rfl
  | false =>
      cases Command.checkPath ((Setting.last? settings Request.configSwitch.name).getD "") with
      | err e => rfl
      | aborted fault => rfl
      | ok _ =>
          cases Setting.has settings Request.versionSwitch.name with
          | true => rfl
          | false => exact runCommand_ci canonical hbranch hnamed

end Arguments

/-- The last build of a branch is looked up alike whether the branch is named on the command line,
in the environment, or in the configuration, for all options of the program in front of the command
and with flags on either side of the branch. -/
theorem run_ci_eq_run_ci_branch (host : Host) (options first last : List String)
    (settings : List Setting)
    (hoptions : separate Request.switches false options = .ok (settings, []))
    (hfirst : ∀ flag ∈ first, flag = "--semver") (hlast : ∀ flag ∈ last, flag = "--semver")
    (env env' : Environment) :
    (∀ branch, branch ≠ "" → branch.toList.head? ≠ some '-' → env "TOOL_BRANCH" = some branch →
      run { host with environment := env } (options ++ "ci" :: (first ++ last)) =
        run { host with environment := env' } (options ++ "ci" :: (first ++ branch :: last))) ∧
    (∀ config, (env "TOOL_BRANCH").getD "" = "" →
      loadConfig { host with environment := .empty }
        { config := Setting.last? settings Request.configSwitch.name } = .ok config →
      config.tool.branch.toList.head? ≠ some '-' →
      run { host with environment := env } (options ++ "ci" :: (first ++ last)) =
        run { host with environment := env' }
          (options ++ "ci" :: (first ++ config.tool.branch :: last))) := by
  constructor
  · intro branch hbranch hargument hset
    refine run_ci_of_named hoptions hfirst hlast hbranch hargument ?_
    intro config _
    exact Environment.getD_of_eq_some hset hbranch _
  · intro config hunset hconfig hargument
    refine run_ci_of_named hoptions hfirst hlast (branch_ne_empty_of_loadConfig hconfig)
      hargument ?_
    intro loaded hloaded
    rw [hconfig] at hloaded
    rw [Environment.getD_of_unset hunset, Outcome.ok.inj hloaded]

def branchText : String := "[tool]\nbranch = \"release-1.18\""

def branchFileHost : Host :=
  { branchHost with files := Config.treeOf (Config.fileOf branchText) }

theorem loadConfig_branchFileHost :
    loadConfig { branchFileHost with environment := .empty } { config := some "settings.toml" } =
      .ok { tool := { branch := "release-1.18" } } := by
  have hparse : Toml.parse branchText =
      .ok [(.text "tool", .table [(.text "branch", .text "release-1.18")])] := by
    with_unfolding_all rfl
  have htable : Config.HoldsTable (Config.treeOf (Config.fileOf branchText)) Config.settingsPath
      [("tool", .table [(.text "branch", .text "release-1.18")])] :=
    Config.holdsTable_fileOf (by decide +kernel) hparse rfl
  have hconfig : Config.ofTable [("tool", .table [(.text "branch", .text "release-1.18")])] =
      .ok { tool := { branch := "release-1.18" } } := by
    decide +kernel
  have hpath : Files.Path.ofString "settings.toml" = Config.settingsPath := by decide +kernel
  change Config.load branchFileHost.files (Files.Path.ofString "settings.toml") .empty = _
  rw [hpath]
  exact Config.load_eq_ok_iff.mpr ⟨_, _, htable, hconfig, rfl⟩

/-- The branch of the environment stands above the one in the file, which counts where the
environment names none. -/
theorem branchFileHost_ci :
    separate Request.switches false ["-q", "--config", "settings.toml"] =
        .ok ([⟨"quiet", none⟩, ⟨"config", some "settings.toml"⟩], []) ∧
      (upstream "TOOL_BRANCH" = some "main" ∧
        run { branchFileHost with environment := upstream }
            ["-q", "--config", "settings.toml", "ci", "--semver"] =
          run { branchFileHost with environment := .empty }
            ["-q", "--config", "settings.toml", "ci", "--semver", "main"]) ∧
      loadConfig { branchFileHost with environment := .empty } { config := some "settings.toml" } =
        .ok { tool := { branch := "release-1.18" } } ∧
      run { branchFileHost with environment := .empty }
          ["-q", "--config", "settings.toml", "ci", "--semver"] =
        run { branchFileHost with environment := upstream }
          ["-q", "--config", "settings.toml", "ci", "--semver", "release-1.18"] := by
  have hoptions : separate Request.switches false ["-q", "--config", "settings.toml"] =
      .ok ([⟨"quiet", none⟩, ⟨"config", some "settings.toml"⟩], []) := by
    decide +kernel
  have hflags : ∀ flag ∈ ["--semver"], flag = "--semver" := by decide
  have hnone : ∀ flag ∈ ([] : List String), flag = "--semver" := by simp
  have hset := (run_ci_eq_run_ci_branch branchFileHost _ _ _ _ hoptions hflags hnone upstream
    .empty).1 "main" (by decide) (by decide) rfl
  have hunset := (run_ci_eq_run_ci_branch branchFileHost _ _ _ _ hoptions hflags hnone .empty
    upstream).2 _ rfl loadConfig_branchFileHost (by decide)
  exact ⟨hoptions, ⟨rfl, hset⟩, loadConfig_branchFileHost, hunset⟩

end Program

end BuildVersion
