import BuildVersion.Proofs.Config.Environment
import BuildVersion.Proofs.Config.Field
import BuildVersion.Proofs.Config.Load

namespace BuildVersion

namespace Environment

/-- The value of a variable, unless it is not set or empty. -/
def value? (env : Environment) (name : String) : Option String :=
  (env name).filter (· ≠ "")

theorem getD_eq (env : Environment) (name default : String) :
    env.getD name default = (env.value? name).getD default := by
  unfold getD value?
  cases env name with
  | none => rfl
  | some value => by_cases hvalue : value = "" <;> simp [Option.filter, hvalue]

theorem value?_of_eq_or {env first second : Environment} {name : String}
    (h : env name = (second.value? name).or (first name)) :
    env.value? name = (second.value? name).or (first.value? name) := by
  have hsecond : ∀ value, second.value? name = some value → value ≠ "" := by
    intro value hvalue
    simpa using (Option.filter_eq_some_iff.mp hvalue).2
  rw [value?, h]
  cases hvalue : second.value? name with
  | none => rfl
  | some value => simp [hsecond value hvalue]

end Environment

namespace Config

variable {files : Files.Tree} {path : Files.Path} {env first second : Environment} {config : Config}

def TextField.variableName? : TextField → Option String
  | .org => some "TOOL_ORG"
  | .repo => some "TOOL_REPO"
  | .branch => some "TOOL_BRANCH"
  | _ => none

/-- Two configurations are the same if their texts and their timeouts are. -/
theorem ext_get {config config' : Config} (hget : ∀ f : TextField, f.get config = f.get config')
    (htimeout : config.endpoints.timeout = config'.endpoints.timeout) : config = config' := by
  obtain ⟨⟨org, repo, branch⟩, ⟨release, ci, kubecross, timeout⟩, trunk⟩ := config
  have horg := hget .org
  have hrepo := hget .repo
  have hbranch := hget .branch
  have hrelease := hget .releaseBase
  have hci := hget .ciBase
  have hkubecross := hget .kubecrossUrl
  have htrunk := hget .trunkBranch
  simp only [TextField.get] at horg hrepo hbranch hrelease hci hkubecross htrunk htimeout
  subst horg hrepo hbranch hrelease hci hkubecross htrunk htimeout
  rfl

theorem get_withEnvironment (config : Config) (env : Environment) (f : TextField) :
    f.get (config.withEnvironment env) = (f.variableName?.bind env.value?).getD (f.get config) := by
  cases f with
  | org | repo | branch => exact Environment.getD_eq _ _ _
  | _ => rfl

theorem withEnvironment_withEnvironment (config : Config)
    (h : ∀ (f : TextField) (name : String), f.variableName? = some name →
      env name = (second.value? name).or (first name)) :
    (config.withEnvironment first).withEnvironment second = config.withEnvironment env := by
  refine ext_get ?_ rfl
  intro f
  simp only [get_withEnvironment]
  cases hname : f.variableName? with
  | none => rfl
  | some name =>
      simp only [Option.bind_some, Environment.value?_of_eq_or (h f name hname)]
      cases second.value? name <;> rfl

theorem withEnvironment_self (config : Config) (env : Environment) :
    (config.withEnvironment env).withEnvironment env = config.withEnvironment env := by
  refine ext_get ?_ rfl
  intro f
  simp only [get_withEnvironment]
  cases f.variableName?.bind env.value? <;> rfl

theorem withEnvironment_empty (config : Config) : config.withEnvironment .empty = config := rfl

/-- The configuration in the file at a path, if there is a path and the file holds one. -/
def stored? (files : Files.Tree) (path : Option Files.Path) : Option Config :=
  path.bind fun path =>
    match load files path .empty with
    | .ok config => some config
    | _ => none

theorem stored?_eq_some_iff {path : Option Files.Path} :
    stored? files path = some config ↔
      ∃ p, path = some p ∧ load files p .empty = .ok config := by
  unfold stored?
  rw [Option.bind_eq_some_iff]
  refine exists_congr fun p => and_congr Iff.rfl ?_
  cases load files p .empty <;> simp

theorem loadOrDefault_eq {ε : Type} {path : Option Files.Path}
    (hload : ∀ p ∈ path, ∀ fault, load files p .empty ≠ .aborted fault) :
    (loadOrDefault files path env : Outcome ε Config) =
      .ok (((stored? files path).getD {}).withEnvironment env) := by
  cases path with
  | none => rfl
  | some p =>
      simp only [loadOrDefault, stored?, Option.bind_some, load_eq_map files p env {}]
      cases hempty : load files p .empty with
      | ok config => rfl
      | err e => rfl
      | aborted fault => exact absurd hempty (hload p rfl fault)

/-- What a field has before the environment is applied: what the table in the file gives it, or its
default where no configuration is stored. -/
inductive Underlies (files : Files.Tree) (path : Option Files.Path) (f : TextField) : String → Prop
  | file {p : Files.Path} {table : Settings.Table} {stored : Config} {text : String}
      (hpath : path = some p) (htable : HoldsTable files p table)
      (hstored : ofTable table = .ok stored) (hreads : f.Reads table text) :
      Underlies files path f text
  | default (hnone : stored? files path = none) : Underlies files path f (f.get {})

theorem underlies_get (files : Files.Tree) (path : Option Files.Path) (f : TextField) :
    Underlies files path f (f.get ((stored? files path).getD {})) := by
  cases hstored : stored? files path with
  | none => exact .default hstored
  | some config =>
      obtain ⟨p, hpath, hload⟩ := stored?_eq_some_iff.mp hstored
      obtain ⟨table, loaded, htable, hloaded, rfl⟩ := load_eq_ok_iff.mp hload
      exact .file hpath htable hloaded (reads_of_ofTable hloaded f)

/-- Environments that are applied in turn are one environment, in which the last value that is not
empty counts, and they change nothing but the fields that have a variable. Where nothing breaks
down, loading with an environment applies it to what is loaded without one, to the configuration of
the file or else to the default one. So a field that has a variable is the value of that variable,
and where the variable is not set or empty what the file says, and else the default. -/
theorem environment_over_file_over_default {ε : Type} (files : Files.Tree)
    (path : Option Files.Path)
    (hload : ∀ p ∈ path, ∀ fault, load files p .empty ≠ .aborted fault) :
    (∀ (config : Config) (first second env : Environment),
      (∀ (f : TextField) (name : String), f.variableName? = some name →
        env name = (second.value? name).or (first name)) →
      (config.withEnvironment first).withEnvironment second = config.withEnvironment env) ∧
    (∀ (config : Config) (env : Environment),
      (config.withEnvironment env).withEnvironment env = config.withEnvironment env ∧
        (config.withEnvironment env).endpoints = config.endpoints ∧
        (config.withEnvironment env).trunkBranch = config.trunkBranch ∧
        config.withEnvironment .empty = config) ∧
    (∀ (p : Files.Path) (env : Environment) (words : Words), load files p env words =
      (load files p .empty words).map fun config => config.withEnvironment env) ∧
    (∀ env : Environment, (loadOrDefault files path env : Outcome ε Config) =
      .ok (((stored? files path).getD {}).withEnvironment env)) ∧
    ∀ (env : Environment) (f : TextField) (name : String), f.variableName? = some name →
      ∃ text, Underlies files path f text ∧
        f.get (((stored? files path).getD {}).withEnvironment env) =
          (env.value? name).getD text := by
  refine ⟨?_, ?_, load_eq_map files, fun env => loadOrDefault_eq hload, ?_⟩
  · intro config first second env h
    exact withEnvironment_withEnvironment config h
  · intro config env
    exact ⟨withEnvironment_self config env, rfl, rfl, withEnvironment_empty config⟩
  · intro env f name hname
    refine ⟨_, underlies_get files path f, ?_⟩
    rw [get_withEnvironment, hname, Option.bind_some]

def orgText : String := "[tool]\norg = \"acme\"\nrepo = \"tools\""

def forkEnvironment : Environment := .ofList [("TOOL_ORG", ""), ("TOOL_REPO", "fork")]

/-- A file names the owner and the repository, and the environment another repository and an empty
owner; the branch has its default. -/
theorem fork_over_acme :
    (loadOrDefault (treeOf (fileOf orgText)) (some settingsPath) forkEnvironment :
        Outcome LoadError Config) =
      .ok { tool := { org := "acme", repo := "fork" } } := by
  have hparse : Toml.parse orgText = .ok [(.text "tool",
      .table [(.text "org", .text "acme"), (.text "repo", .text "tools")])] := by
    with_unfolding_all rfl
  have htable : HoldsTable (treeOf (fileOf orgText)) settingsPath
      [("tool", .table [(.text "org", .text "acme"), (.text "repo", .text "tools")])] :=
    holdsTable_fileOf (by decide +kernel) hparse rfl
  have hconfig : ofTable [("tool", .table [(.text "org", .text "acme"),
      (.text "repo", .text "tools")])] = .ok { tool := { org := "acme", repo := "tools" } } := by
    decide +kernel
  have hstored : load (treeOf (fileOf orgText)) settingsPath .empty =
      .ok { tool := { org := "acme", repo := "tools" } } :=
    load_eq_ok_iff.mpr ⟨_, _, htable, hconfig, rfl⟩
  have hload : ∀ p ∈ some settingsPath, ∀ fault,
      load (treeOf (fileOf orgText)) p .empty ≠ .aborted fault := by
    rintro p ⟨⟩ fault
    rw [hstored]
    simp
  obtain ⟨-, -, -, hdefault, -⟩ :=
    environment_over_file_over_default (ε := LoadError) _ (some settingsPath) hload
  rw [hdefault, stored?_eq_some_iff.mpr ⟨_, rfl, hstored⟩]
  decide +kernel

end Config

end BuildVersion
