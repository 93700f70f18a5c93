import BuildVersion.Config.Load
import BuildVersion.Proofs.Config.Table
import BuildVersion.Proofs.Files.Tree
import BuildVersion.Proofs.Toml.Limits

namespace BuildVersion.Config

open Template (expand)

variable {files : Files.Tree} {path : Files.Path} {env : Environment} {words : Words}
  {fault : Fault}

/-- The file at a path is readable and its bytes are those of a text. -/
def HoldsText (files : Files.Tree) (path : Files.Path) (text : String) : Prop :=
  ∃ bytes, files.read path = .ok bytes ∧ Text.Utf8.decode bytes = .ok text

def HoldsTable (files : Files.Tree) (path : Files.Path) (table : Settings.Table) : Prop :=
  ∃ text entries, HoldsText files path text ∧ Toml.parse text = .ok entries ∧
    (Settings.Value.table entries).table? = some table

/-- What there is at a path from which no configuration is loaded and no error is reported. -/
inductive Breakdown (files : Files.Tree) (path : Files.Path) : Fault → Prop
  | file {cause : FileFault} (hread : files.read path = .error cause)
      (hcause : cause ≠ .notFound ∧ cause ≠ .denied) : Breakdown files path (.file cause)
  | document {text : String} {fault : Fault} (htext : HoldsText files path text)
      (hparse : Toml.parse text = .aborted fault) : Breakdown files path fault
  | template {table : Settings.Table} {cause : TemplateFault} (htable : HoldsTable files path table)
      (hmentioned : Text.contains branchField (templateOf table) = true)
      (hexpand : expand (templateOf table) trialBranch = .error cause)
      (hcause : cause = .noAttribute ∨ cause = .tooWide ∨ cause = .noCharacter) :
      Breakdown files path (.template cause)
  | timeout {table : Settings.Table} {n : Int} (htable : HoldsTable files path table)
      (hcheck : checkTemplate (templateOf table) = .ok ())
      (hlookup : (endpointsOf table).lookup "timeout" = some (.integer n))
      (hlarge : (Binary64.overflowBound : Int) ≤ n) : Breakdown files path .numberTooLarge

theorem readBytes_eq_ok_iff {bytes : List UInt8} :
    readBytes files path = .ok bytes ↔ files.read path = .ok bytes := by
  unfold readBytes
  cases files.read path with
  | ok bytes => simp
  | error cause => cases cause <;> simp

theorem readBytes_eq_aborted_iff :
    readBytes files path = .aborted fault ↔
      ∃ cause, files.read path = .error cause ∧ (cause ≠ .notFound ∧ cause ≠ .denied) ∧
        fault = .file cause := by
  unfold readBytes
  cases files.read path with
  | ok bytes => simp
  | error cause => cases cause <;> simp [eq_comm]

theorem decode_eq_ok_iff {bytes : List UInt8} {text : String} :
    decode path bytes = .ok text ↔ Text.Utf8.decode bytes = .ok text := by
  unfold decode
  cases Text.Utf8.decode bytes <;> simp

theorem decode_ne_aborted {bytes : List UInt8} : decode path bytes ≠ .aborted fault := by
  unfold decode
  split <;> simp

theorem readTable_eq_ok_iff {text : String} {table : Settings.Table} :
    readTable words path text = .ok table ↔
      ∃ entries, Toml.parse text = .ok entries ∧
        (Settings.Value.table entries).table? = some table := by
  unfold readTable
  cases Toml.parse text with
  | ok entries =>
      cases htable : (Settings.Value.table entries).table? <;> simp [htable]
  | err e => simp
  | aborted fault => simp

theorem readTable_eq_aborted_iff {text : String} :
    readTable words path text = .aborted fault ↔ Toml.parse text = .aborted fault := by
  unfold readTable
  cases Toml.parse text with
  | ok entries =>
      cases htable : (Settings.Value.table entries).table? <;> simp [htable]
  | err e => simp
  | aborted fault => simp

/-- Faults of a template that are reported as an error of the file. -/
def reported : List Fault :=
  [.template .malformed, .template .notIndexable, .template .unsupported]

theorem readConfig_eq_aborted_iff {table : Settings.Table} :
    readConfig words path table = .aborted fault ↔
      ofTable table = .aborted fault ∧ fault ∉ reported := by
  unfold readConfig structureError
  split
  case h_1 config hconfig => simp [hconfig]
  case h_2 rejection hrejection => simp [hrejection]
  case h_3 hfault | h_4 hfault | h_5 hfault =>
    simp only [hfault, reduceCtorEq, Outcome.aborted.injEq, false_iff, not_and]
    rintro rfl
    simp [reported]
  case h_6 other hmalformed hnotIndexable hunsupported hfault =>
    simp only [hfault, Outcome.aborted.injEq, iff_self_and]
    rintro rfl
    simp only [reported, List.mem_cons, List.not_mem_nil, or_false, not_or]
    exact ⟨hmalformed, hnotIndexable, hunsupported⟩

theorem holdsText_iff {text : String} :
    HoldsText files path text ↔
      ∃ bytes, readBytes files path = .ok bytes ∧ decode path bytes = .ok text := by
  simp only [HoldsText, readBytes_eq_ok_iff, decode_eq_ok_iff]

theorem holdsTable_iff (words : Words) {table : Settings.Table} :
    HoldsTable files path table ↔
      ∃ text, HoldsText files path text ∧ readTable words path text = .ok table := by
  simp only [HoldsTable, readTable_eq_ok_iff, exists_and_left]

theorem readConfig_eq_ok_iff {table : Settings.Table} {config : Config} :
    readConfig words path table = .ok config ↔ ofTable table = .ok config := by
  unfold readConfig structureError
  split
  case h_1 loaded hloaded => simp [hloaded]
  case h_2 rejection hrejection => simp [hrejection]
  case h_3 hfault | h_4 hfault | h_5 hfault => simp [hfault]
  case h_6 fault _ _ _ hfault => simp [hfault]

/-- What is loaded is the configuration of the table in the file, with the environment applied. -/
theorem load_eq_ok_iff {config : Config} :
    load files path env words = .ok config ↔ ∃ table loaded, HoldsTable files path table ∧
      ofTable table = .ok loaded ∧ config = loaded.withEnvironment env := by
  simp only [load, Outcome.bind_eq_ok_iff, Outcome.map_eq_bind, Outcome.ok.injEq,
    readConfig_eq_ok_iff, holdsTable_iff words, holdsText_iff]
  constructor
  · rintro ⟨bytes, hbytes, text, hdecode, table, htable, loaded, hconfig, rfl⟩
    exact ⟨table, loaded, ⟨text, ⟨bytes, hbytes, hdecode⟩, htable⟩, hconfig, rfl⟩
  · rintro ⟨table, loaded, ⟨text, ⟨bytes, hbytes, hdecode⟩, htable⟩, hconfig, rfl⟩
    exact ⟨bytes, hbytes, text, hdecode, table, htable, loaded, hconfig, rfl⟩

/-- Loading breaks down while the file is read, the text or the table. -/
theorem load_eq_aborted_iff :
    load files path env words = .aborted fault ↔ readBytes files path = .aborted fault ∨
      (∃ text, HoldsText files path text ∧ Toml.parse text = .aborted fault) ∨
      ∃ table, HoldsTable files path table ∧ readConfig words path table = .aborted fault := by
  simp only [load, Outcome.bind_eq_aborted_iff, Outcome.map_eq_bind, decode_ne_aborted,
    readTable_eq_aborted_iff, reduceCtorEq, and_false, exists_false, or_false, false_or,
    holdsTable_iff words, holdsText_iff]
  constructor
  · rintro (hbytes | ⟨bytes, hbytes, text, hdecode, hparse | ⟨table, htable, hconfig⟩⟩)
    · exact .inl hbytes
    · exact .inr (.inl ⟨text, ⟨bytes, hbytes, hdecode⟩, hparse⟩)
    · exact .inr (.inr ⟨table, ⟨text, ⟨bytes, hbytes, hdecode⟩, htable⟩, hconfig⟩)
  · rintro (hbytes | ⟨text, ⟨bytes, hbytes, hdecode⟩, hparse⟩ |
      ⟨table, ⟨text, ⟨bytes, hbytes, hdecode⟩, htable⟩, hconfig⟩)
    · exact .inl hbytes
    · exact .inr ⟨bytes, hbytes, text, hdecode, .inl hparse⟩
    · exact .inr ⟨bytes, hbytes, text, hdecode, .inr ⟨table, htable, hconfig⟩⟩

theorem Breakdown.of_readConfig {table : Settings.Table} (htable : HoldsTable files path table)
    (h : readConfig words path table = .aborted fault) : Breakdown files path fault := by
  obtain ⟨hfault, hreported⟩ := readConfig_eq_aborted_iff.mp h
  rcases ofTable_eq_aborted_iff.mp hfault with hcheck | ⟨hcheck, rfl, n, hlookup, hlarge⟩
  · obtain ⟨hmentioned, cause, hexpand, hmissing, rfl⟩ := checkTemplate_eq_aborted_iff.mp hcheck
    have hcause : cause = .noAttribute ∨ cause = .tooWide ∨ cause = .noCharacter := by
      cases cause with
      | missingName | missingPosition | missingNumber => exact absurd trivial hmissing
      | malformed | notIndexable | unsupported => exact absurd (by decide) hreported
      | noAttribute => exact .inl rfl
      | tooWide => exact .inr (.inl rfl)
      | noCharacter => exact .inr (.inr rfl)
    exact .template htable hmentioned hexpand hcause
  · exact .timeout htable hcheck hlookup hlarge

theorem load_eq_aborted_of_breakdown (h : Breakdown files path fault) :
    load files path env words = .aborted fault := by
  rw [load_eq_aborted_iff]
  cases h with
  | file hread hcause =>
      left
      exact readBytes_eq_aborted_iff.mpr ⟨_, hread, hcause, rfl⟩
  | document htext hparse =>
      right; left
      exact ⟨_, htext, hparse⟩
  | @template table cause htable hmentioned hexpand hcause =>
      right; right
      refine ⟨table, htable, readConfig_eq_aborted_iff.mpr ⟨?_, ?_⟩⟩
      · have hmissing : ¬ IsMissing cause := by
          rcases hcause with rfl | rfl | rfl <;> exact id
        exact ofTable_eq_aborted_iff.mpr
          (.inl (checkTemplate_eq_aborted_iff.mpr ⟨hmentioned, cause, hexpand, hmissing, rfl⟩))
      · rcases hcause with rfl | rfl | rfl <;> decide
  | @timeout table n htable hcheck hlookup hlarge =>
      right; right
      refine ⟨table, htable, readConfig_eq_aborted_iff.mpr ⟨?_, by decide⟩⟩
      exact ofTable_eq_aborted_iff.mpr (.inr ⟨hcheck, rfl, n, hlookup, hlarge⟩)

theorem load_eq_aborted_iff_breakdown :
    load files path env words = .aborted fault ↔ Breakdown files path fault := by
  constructor
  · intro h
    rcases load_eq_aborted_iff.mp h with hbytes | ⟨text, htext, hparse⟩ | ⟨table, htable, hconfig⟩
    · obtain ⟨cause, hread, hcause, rfl⟩ := readBytes_eq_aborted_iff.mp hbytes
      exact .file hread hcause
    · exact .document htext hparse
    · exact .of_readConfig htable hconfig
  · exact load_eq_aborted_of_breakdown

section Default

variable {ε : Type}

/-- The words in which an error is explained make no difference to anything else. -/
theorem loadOrDefault_of_ok {config : Config} (h : load files path env words = .ok config) :
    (loadOrDefault files (some path) env : Outcome ε Config) = .ok config := by
  have hload : load files path env = .ok config := load_eq_ok_iff.mpr (load_eq_ok_iff.mp h)
  simp only [loadOrDefault, hload]

theorem loadOrDefault_of_aborted (h : load files path env words = .aborted fault) :
    (loadOrDefault files (some path) env : Outcome ε Config) = .aborted fault := by
  have hload : load files path env = .aborted fault :=
    load_eq_aborted_iff_breakdown.mpr (load_eq_aborted_iff_breakdown.mp h)
  simp only [loadOrDefault, hload]

theorem loadOrDefault_of_err {e : LoadError} (h : load files path env words = .err e) :
    (loadOrDefault files (some path) env : Outcome ε Config) =
      .ok (({} : Config).withEnvironment env) := by
  cases hload : load files path env with
  | ok config =>
      rw [load_eq_ok_iff.mpr (load_eq_ok_iff.mp hload)] at h
      contradiction
  | err e => simp only [loadOrDefault, hload]
  | aborted fault =>
      rw [load_eq_aborted_iff_breakdown.mpr (load_eq_aborted_iff_breakdown.mp hload)] at h
      contradiction

theorem loadOrDefault_eq_aborted_iff :
    (loadOrDefault files (some path) env : Outcome ε Config) = .aborted fault ↔
      Breakdown files path fault := by
  have hbreakdown : load files path env = .aborted fault ↔ Breakdown files path fault :=
    load_eq_aborted_iff_breakdown
  rw [← hbreakdown]
  constructor
  · intro hdefault
    cases hload : load files path env with
    | ok config => simp [loadOrDefault_of_ok hload] at hdefault
    | err e => simp [loadOrDefault_of_err hload] at hdefault
    | aborted cause =>
        rw [loadOrDefault_of_aborted hload] at hdefault
        exact congrArg Outcome.aborted (Outcome.aborted.inj hdefault)
  · exact loadOrDefault_of_aborted

/-- Loading gives a configuration or reports an error, in whose place there is a default, unless
it breaks down over what is at the path. Then there is no default either. A text on which it breaks
down has an integer of too many digits or too many opening brackets. -/
theorem load_answers_unless_breakdown (files : Files.Tree) (path : Files.Path)
    (env : Environment) (words : Words) :
    (∀ fault, load files path env words = .aborted fault ↔ Breakdown files path fault) ∧
      (∀ fault, (loadOrDefault files (some path) env : Outcome ε Config) = .aborted fault ↔
        Breakdown files path fault) ∧
      ((∀ fault, ¬ Breakdown files path fault) →
        (∃ config, load files path env words = .ok config ∧
          (loadOrDefault files (some path) env : Outcome ε Config) = .ok config) ∨
        ∃ e, load files path env words = .err e ∧
          (loadOrDefault files (some path) env : Outcome ε Config) =
            .ok (({} : Config).withEnvironment env)) ∧
      (loadOrDefault files none env : Outcome ε Config) =
        .ok (({} : Config).withEnvironment env) ∧
      ∀ text fault, Toml.parse text = .aborted fault →
        Toml.Excess Toml.maxDepth text.toList fault := by
  refine ⟨fun _ => load_eq_aborted_iff_breakdown, fun _ => loadOrDefault_eq_aborted_iff, ?_, rfl,
    ?_⟩
  · intro hbreakdown
    cases hload : load files path env words with
    | ok config => exact .inl ⟨config, rfl, loadOrDefault_of_ok hload⟩
    | err e => exact .inr ⟨e, rfl, loadOrDefault_of_err hload⟩
    | aborted fault => exact absurd (load_eq_aborted_iff_breakdown.mp hload) (hbreakdown fault)
  · intro text fault hparse
    exact Toml.excess_of_parse_eq_aborted hparse

end Default

def settingsPath : Files.Path := ⟨.relative, ["settings.toml"]⟩

/-- A tree with one node, the one at `settingsPath`. -/
def treeOf (node : Files.Node) : Files.Tree :=
  { nodes := [(["settings.toml"], node)] }

theorem reach_treeOf {node : Files.Node} (hnode : ∀ target, node ≠ .link target) :
    (treeOf node).reach settingsPath = .ok (["settings.toml"], node) := by
  have hreaches : (treeOf node).Reaches node [] settingsPath.steps :=
    .step rfl List.not_mem_nil (by decide +kernel) (.here rfl hnode)
  exact hreaches.reach_eq (by decide +kernel) (by decide +kernel)

theorem read_treeOf_file (bytes : List UInt8) (mtime : Int) :
    (treeOf (.file bytes mtime)).read settingsPath = .ok bytes :=
  Files.Tree.read_eq_ok_iff.mpr ⟨rfl, _, mtime, reach_treeOf (by simp), List.not_mem_nil⟩

theorem read_treeOf_directory (mtime : Int) :
    (treeOf (.directory mtime)).read settingsPath = .error .isDirectory := by
  have hreach : (treeOf (.directory mtime)).reach settingsPath =
      .ok (["settings.toml"], .directory mtime) := reach_treeOf (by simp)
  simp only [Files.Tree.read, hreach]
  rfl

def fileOf (text : String) : Files.Node :=
  .file (Text.Utf8.encode text) 0

theorem holdsTable_fileOf {text : String} {entries : Toml.Entries} {table : Settings.Table}
    (hdecode : Text.Utf8.decode (Text.Utf8.encode text) = .ok text)
    (hparse : Toml.parse text = .ok entries)
    (htable : (Settings.Value.table entries).table? = some table) :
    HoldsTable (treeOf (fileOf text)) settingsPath table :=
  ⟨text, entries, ⟨_, read_treeOf_file _ 0, hdecode⟩, hparse, htable⟩

def trunkText : String := "trunk_branch = \"main\""

/-- The template asks for an attribute that no text has. -/
def attributeText : String :=
  "[endpoints]\nkubecross_url = \"\x7bbranch\x7d\x7bbranch.nope\x7d\""

/-- A file that names the trunk is loaded, and a directory in its place gives no default. Texts
beyond the limits of the reader exceed them. -/
theorem load_trunk_answers :
    ((∀ fault, ¬ Breakdown (treeOf (fileOf trunkText)) settingsPath fault) ∧
      (loadOrDefault (treeOf (fileOf trunkText)) (some settingsPath) Environment.empty :
        Outcome LoadError Config) = .ok { trunkBranch := "main" }) ∧
    (loadOrDefault (treeOf (.directory 0)) (some settingsPath) Environment.empty :
      Outcome LoadError Config) = .aborted (.file .isDirectory) ∧
    Toml.Excess Toml.maxDepth ('a' :: '=' :: '1' :: List.replicate 4300 '1') .overlongNumeral ∧
    Toml.Excess Toml.maxDepth ('a' :: '=' :: List.replicate 494 '[') .tooDeep := by
  have hload : load (treeOf (fileOf trunkText)) settingsPath Environment.empty =
      .ok { trunkBranch := "main" } := by
    have hparse : Toml.parse trunkText = .ok [(.text "trunk_branch", .text "main")] := by
      with_unfolding_all rfl
    have htable : HoldsTable (treeOf (fileOf trunkText)) settingsPath
        [("trunk_branch", .text "main")] := holdsTable_fileOf (by decide +kernel) hparse rfl
    have hconfig : ofTable [("trunk_branch", .text "main")] = .ok { trunkBranch := "main" } := by
      decide +kernel
    exact load_eq_ok_iff.mpr ⟨_, _, htable, hconfig, rfl⟩
  obtain ⟨hfile, -, hanswer, -, -⟩ := load_answers_unless_breakdown (ε := LoadError)
    (treeOf (fileOf trunkText)) settingsPath Environment.empty {}
  obtain ⟨-, hdirectory, -, -, hexcess⟩ := load_answers_unless_breakdown (ε := LoadError)
    (treeOf (.directory 0)) settingsPath Environment.empty {}
  have hsound : ∀ fault, ¬ Breakdown (treeOf (fileOf trunkText)) settingsPath fault := by
    intro fault hbreakdown
    have haborted := (hfile fault).mpr hbreakdown
    rw [hload] at haborted
    contradiction
  refine ⟨⟨hsound, ?_⟩, ?_, ?_, ?_⟩
  · rcases hanswer hsound with ⟨config, hok, hdefault⟩ | ⟨e, herr, -⟩
    · rw [hload] at hok
      rw [hdefault, Outcome.ok.inj hok]
    · rw [hload] at herr
      contradiction
  · exact (hdirectory _).mpr (.file (read_treeOf_directory 0) (by decide))
  · have hdigits : ∀ c ∈ List.replicate 4300 '1', Text.isAsciiDigit c = true := by
      intro c hc
      rw [List.eq_of_mem_replicate hc]
      rfl
    have hlong : Numeral.maxDigits ≤ (List.replicate 4300 '1').length := by
      rw [List.length_replicate]
      exact Nat.le_refl 4300
    have hnumeral := hexcess _ _ (Toml.parse_of_overlong hdigits hlong)
    rwa [String.toList_ofList] at hnumeral
  · have htower := hexcess _ _ (Toml.parse_of_tower (n := 494) (by decide))
    rwa [String.toList_ofList] at htower

/-- A directory in place of the file, and a file whose template asks for an attribute, give neither
a configuration nor an error nor a default. -/
theorem load_directory_aborted :
    (load (treeOf (.directory 0)) settingsPath Environment.empty =
        .aborted (.file .isDirectory) ∧
      (loadOrDefault (treeOf (.directory 0)) (some settingsPath) Environment.empty :
        Outcome LoadError Config) = .aborted (.file .isDirectory)) ∧
    (load (treeOf (fileOf attributeText)) settingsPath Environment.empty =
        .aborted (.template .noAttribute) ∧
      (loadOrDefault (treeOf (fileOf attributeText)) (some settingsPath) Environment.empty :
        Outcome LoadError Config) = .aborted (.template .noAttribute)) := by
  have hdirectory : load (treeOf (.directory 0)) settingsPath Environment.empty =
      .aborted (.file .isDirectory) :=
    load_eq_aborted_of_breakdown (.file (read_treeOf_directory 0) (by decide))
  have htable : HoldsTable (treeOf (fileOf attributeText)) settingsPath
      (templateTable "\x7bbranch\x7d\x7bbranch.nope\x7d") := by
    have hparse : Toml.parse attributeText = .ok [(.text "endpoints",
        .table [(.text "kubecross_url", .text "\x7bbranch\x7d\x7bbranch.nope\x7d")])] := by
      with_unfolding_all rfl
    exact holdsTable_fileOf (by decide +kernel) hparse rfl
  have htemplate : load (treeOf (fileOf attributeText)) settingsPath Environment.empty =
      .aborted (.template .noAttribute) :=
    load_eq_aborted_of_breakdown
      (.template htable (by decide +kernel) (by decide +kernel) (.inl rfl))
  exact ⟨⟨hdirectory, loadOrDefault_of_aborted hdirectory⟩, htemplate,
    loadOrDefault_of_aborted htemplate⟩

end BuildVersion.Config
