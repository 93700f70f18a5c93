import BuildVersion.Proofs.Config.Override
import BuildVersion.Proofs.Number.Integer
import BuildVersion.Proofs.Template.Part
import BuildVersion.Proofs.Text.Utf8
import BuildVersion.Proofs.Toml.Section

namespace BuildVersion.Config

open Settings (Table Value)
open Template (Part)

/-- A template of text without braces and of fields for the branch, one at least. -/
def IsBranchTemplate (template : String) : Prop :=
  ∃ parts : List Part,
    (∀ part ∈ parts, part = .field "branch".toList ∨ ∃ s, part = .text s ∧ '{' ∉ s ∧ '}' ∉ s) ∧
      .field "branch".toList ∈ parts ∧ template = String.ofList (parts.flatMap Part.written)

/-- A configuration that a file can give as it is: no text is empty or has blanks around it, and
the timeout is the integer `n`. -/
structure IsClean (config : Config) (n : Nat) : Prop where
  ne_empty : ∀ f : TextField, f.get config ≠ ""
  trimmed : ∀ f : TextField, Text.trimmed (f.get config) = f.get config
  template : IsBranchTemplate config.endpoints.kubecrossUrl
  timeout : config.endpoints.timeout = .ofInt n
  pos : 1 ≤ n
  le : n ≤ 2 ^ 53

/-- The lines of a file, where `spelling` says what stands between the quotes for each text. -/
def layout (spelling : TextField → List Char) (n : Nat) : List (List Char) :=
  let line (name : String) (f : TextField) : List Char :=
    name.toList ++ " = \"".toList ++ spelling f ++ ['"']
  [line "trunk_branch" .trunkBranch,
    "[tool]".toList,
    line "org" .org,
    line "repo" .repo,
    line "branch" .branch,
    "[endpoints]".toList,
    line "release_base" .releaseBase,
    line "ci_base" .ciBase,
    line "kubecross_url" .kubecrossUrl,
    "timeout = ".toList ++ Numeral.digits n]

/-- A text has these lines, and empty ones wherever it likes, with some spelling of the texts. -/
def IsWrittenIn (config : Config) (n : Nat) (text : String) : Prop :=
  ∃ spelling : TextField → List Char,
    (∀ f : TextField, Toml.Spells (spelling f) (f.get config).toList) ∧
      (Text.split '\n' text.toList).filter (· ≠ []) = layout spelling n

def written (config : Config) (n : Nat) : String :=
  String.ofList (Text.join '\n'
    (layout (fun f => (f.get config).toList.flatMap Toml.spellChar) n))

variable {config : Config} {n : Nat} {spelling : TextField → List Char} {data : Table}

theorem IsBranchTemplate.checkTemplate_eq {template : String} (h : IsBranchTemplate template) :
    checkTemplate template = .ok () := by
  obtain ⟨parts, hparts, hfield, rfl⟩ := h
  have hwell : ∀ part ∈ parts, part.WellFormed := by
    intro part hpart
    obtain rfl | ⟨s, rfl, hs⟩ := hparts part hpart
    · exact Template.isName_knownName
    · exact hs
  have hknown : ∀ name, .field name ∈ parts → name = Template.knownName.toList := by
    intro name hname
    obtain heq | ⟨s, heq, -⟩ := hparts _ hname
    · exact Part.field.inj heq
    · contradiction
  refine checkTemplate_eq_ok_iff.mpr ⟨?_, (Template.exists_expand_written_iff hwell).mpr hknown⟩
  rw [Text.contains_iff, String.toList_ofList]
  obtain ⟨front, back, rfl⟩ := List.append_of_mem hfield
  rw [List.flatMap_append, List.flatMap_cons]
  exact ⟨front.flatMap Part.written, back.flatMap Part.written, by simp [branchField, Part.written]⟩

theorem TextField.Reads.eq_trimmed {f : TextField} {text s : String} (h : f.Reads data text)
    (hheld : data.Holds f.path (.text s)) (hs : Text.trimmed s ≠ "") : text = Text.trimmed s := by
  rw [TextField.reads_iff.mp h, TextField.own?_eq_some_iff.mpr ⟨s, hheld, hs, rfl⟩]
  rfl

structure HoldsFields (data : Table) (config : Config) (n : Nat) : Prop where
  text : ∀ f : TextField, data.Holds f.path (.text (f.get config))
  timeout : data.Holds timeoutPath (.integer n)

theorem IsClean.timeout_counts (hclean : config.IsClean n) : config.endpoints.timeout.Counts n :=
  hclean.timeout ▸ Binary64.ofInt_counts hclean.pos hclean.le

theorem IsClean.eq_of_reads (hclean : config.IsClean n) (hdata : HoldsFields data config n)
    {f : TextField} {text : String} (h : f.Reads data text) : text = f.get config := by
  have htrimmed := hclean.trimmed f
  rw [h.eq_trimmed (hdata.text f) (htrimmed.symm ▸ hclean.ne_empty f), htrimmed]

theorem IsClean.ofTable_eq (hclean : config.IsClean n) (hdata : HoldsFields data config n) :
    ofTable data = .ok config := by
  have hcheck : checkTemplate (templateOf data) = .ok () := by
    rw [hclean.eq_of_reads hdata (reads_templateOf data)]
    exact hclean.template.checkTemplate_eq
  have hsmall : ∀ v, data.Holds timeoutPath v → ¬ v.Overflows := by
    rintro v hheld ⟨k, rfl, hk⟩
    obtain rfl := Value.integer.inj (holds_timeoutPath_unique hheld hdata.timeout)
    obtain ⟨sign, hsign⟩ := (Binary64.ofInt_eq_infinite_iff n).mpr (by omega)
    obtain ⟨m, e, hfinite, -⟩ := hclean.timeout_counts
    rw [hclean.timeout, hsign] at hfinite
    contradiction
  obtain ⟨loaded, hloaded⟩ := exists_ofTable_of hcheck hsmall
  have htimeout : loaded.endpoints.timeout = config.endpoints.timeout := by
    rw [hclean.timeout]
    have hpos : (0 : Int) < n := Int.natCast_pos.mpr hclean.pos
    exact (readsTimeout_of_ofTable hloaded).unique (.own hdata.timeout (.integer hpos))
  have htext : ∀ f : TextField, f.get loaded = f.get config :=
    fun f => hclean.eq_of_reads hdata (reads_of_ofTable hloaded f)
  rw [hloaded, ext_get htext htimeout]

def TextField.key (f : TextField) : String :=
  f.path.getLastD ""

/-- What the lines of a file say. -/
def plan (config : Config) (spelling : TextField → List Char) (n : Nat) : Toml.Plan :=
  let pair (f : TextField) : Toml.Pair :=
    ⟨f.key, '"' :: (spelling f ++ ['"']), .text (f.get config)⟩
  { pairs := [pair .trunkBranch]
    sections := [
      ⟨"tool", [pair .org, pair .repo, pair .branch]⟩,
      ⟨"endpoints", [pair .releaseBase, pair .ciBase, pair .kubecrossUrl,
        ⟨"timeout", Numeral.digits n, .integer n⟩]⟩] }

theorem lines_plan (config : Config) (spelling : TextField → List Char) (n : Nat) :
    (plan config spelling n).lines = layout spelling n := by
  simp [plan, Toml.Plan.lines, Toml.Section.lines, Toml.Pair.line, Toml.pairLine, Toml.headerLine,
    layout, TextField.key, TextField.path]

theorem plan_wellFormed
    (hspelling : ∀ f : TextField, Toml.Spells (spelling f) (f.get config).toList) (hn : n ≤ 2 ^ 53) :
    (plan config spelling n).WellFormed := by
  have hkey : ∀ f : TextField, Toml.IsBareName f.key := by
    intro f
    cases f <;> exact ⟨by decide, List.all_eq_true.mp (by decide)⟩
  have htext : ∀ f : TextField, Toml.Pair.WellFormed
      ⟨f.key, '"' :: (spelling f ++ ['"']), .text (f.get config)⟩ :=
    fun f => ⟨hkey f, .text (hspelling f)⟩
  have htool : Toml.IsBareName "tool" := ⟨by decide, List.all_eq_true.mp (by decide)⟩
  have hendpoints : Toml.IsBareName "endpoints" := ⟨by decide, List.all_eq_true.mp (by decide)⟩
  have hname : Toml.IsBareName "timeout" := ⟨by decide, List.all_eq_true.mp (by decide)⟩
  have htimeout : Toml.Pair.WellFormed ⟨"timeout", Numeral.digits n, .integer n⟩ := by
    have hshort : (Numeral.digits n).length ≤ 16 :=
      (Numeral.length_digits_le_iff (by decide)).mpr (Nat.lt_of_le_of_lt hn (by decide))
    exact ⟨hname, .integer (hshort.trans (by decide))⟩
  refine ⟨List.forall_mem_singleton.mpr (htext .trunkBranch), ?_, ?_⟩
  · refine List.forall_mem_cons.mpr ⟨⟨htool, ?_, ?_⟩,
      List.forall_mem_singleton.mpr ⟨hendpoints, ?_, ?_⟩⟩
    · simp [htext]
    · change ["org", "repo", "branch"].Nodup
      decide
    · simp [htext, htimeout]
    · change ["release_base", "ci_base", "kubecross_url", "timeout"].Nodup
      decide
  · change ["trunk_branch", "tool", "endpoints"].Nodup
    decide

def tableOf (config : Config) (n : Nat) : Table :=
  [("trunk_branch", .text config.trunkBranch),
    ("tool", .table [(.text "org", .text config.tool.org), (.text "repo", .text config.tool.repo),
      (.text "branch", .text config.tool.branch)]),
    ("endpoints", .table [(.text "release_base", .text config.endpoints.releaseBase),
      (.text "ci_base", .text config.endpoints.ciBase),
      (.text "kubecross_url", .text config.endpoints.kubecrossUrl),
      (.text "timeout", .integer n)])]

theorem entries_plan (config : Config) (spelling : TextField → List Char) (n : Nat) :
    (Value.table (plan config spelling n).entries).table? = some (tableOf config n) := rfl

theorem holdsFields_tableOf (config : Config) (n : Nat) :
    HoldsFields (tableOf config n) config n where
  text f := by
    cases f with
    | trunkBranch => rfl
    | org | repo | branch | releaseBase | ciBase | kubecrossUrl =>
        exact (Table.holds_cons_iff (List.cons_ne_nil _ _)).mpr rfl
  timeout := (Table.holds_cons_iff (List.cons_ne_nil _ _)).mpr rfl

theorem IsWrittenIn.parse_eq {text : String} (h : config.IsWrittenIn n text) (hn : n ≤ 2 ^ 53) :
    ∃ entries, Toml.parse text = .ok entries ∧
      (Value.table entries).table? = some (tableOf config n) := by
  obtain ⟨spelling, hspelling, htext⟩ := h
  rw [← lines_plan config] at htext
  exact ⟨_, (plan_wellFormed hspelling hn).parse_eq htext, entries_plan config spelling n⟩

theorem isWrittenIn_written (config : Config) (hn : n ≤ 2 ^ 53) :
    config.IsWrittenIn n (config.written n) := by
  have hspelling : ∀ f : TextField,
      Toml.Spells ((f.get config).toList.flatMap Toml.spellChar) (f.get config).toList :=
    fun f => Toml.spells_flatMap_spellChar _
  have hlines := (plan_wellFormed hspelling hn).filter_split_join
  rw [lines_plan] at hlines
  refine ⟨_, hspelling, ?_⟩
  rw [written, String.toList_ofList]
  exact hlines (List.cons_ne_nil _ _)

/-- Every clean configuration can be written to a file, and a file that it is written in gives it
back. -/
theorem clean_config_read_back (hclean : config.IsClean n) :
    config.IsWrittenIn n (config.written n) ∧
      ∀ (files : Files.Tree) (path : Files.Path) (words : Words) (text : String),
        config.IsWrittenIn n text → files.read path = .ok text.toUTF8.data.toList →
          load files path .empty words = .ok config ∧ config.endpoints.timeout.Counts n := by
  refine ⟨isWrittenIn_written config hclean.le, ?_⟩
  intro files path words text hwritten hread
  obtain ⟨entries, hparse, htable⟩ := hwritten.parse_eq hclean.le
  have hholds : HoldsTable files path (tableOf config n) :=
    ⟨text, entries, ⟨_, hread, BuildVersion.Text.Utf8.decode_toUTF8 text⟩, hparse, htable⟩
  have hloaded := hclean.ofTable_eq (holdsFields_tableOf config n)
  exact ⟨load_eq_ok_iff.mpr ⟨_, _, hholds, hloaded, (withEnvironment_empty config).symm⟩,
    hclean.timeout_counts⟩

/-- Texts that look like marks, escapes, comments, headers and further lines of a file. -/
def intricateConfig : Config where
  tool :=
    { org := "a\"\"\" # b"
      repo := "[tool]\\u0041\\"
      branch := "x\"\norg = 'y'\r\n[endpoints]" }
  endpoints :=
    { releaseBase := "\x00\x08\t\x7f\x0c\u2028é🚀"
      ciBase := "'''"
      kubecrossUrl := "\"\x7bbranch\x7d\\\x7bbranch\x7d#"
      timeout := .ofInt 9007199254740992 }
  trunkBranch := "= true"

theorem isBranchTemplate_intricateConfig :
    IsBranchTemplate intricateConfig.endpoints.kubecrossUrl := by
  refine ⟨[.text ['"'], .field "branch".toList, .text ['\\'], .field "branch".toList,
    .text ['#']], ?_, by decide, by decide⟩
  intro part hpart
  simp only [List.mem_cons, List.not_mem_nil, or_false] at hpart
  obtain rfl | rfl | rfl | rfl | rfl := hpart
  · exact .inr ⟨_, rfl, by decide⟩
  · exact .inl rfl
  · exact .inr ⟨_, rfl, by decide⟩
  · exact .inl rfl
  · exact .inr ⟨_, rfl, by decide⟩

theorem intricate_config_read_back :
    intricateConfig.IsClean 9007199254740992 ∧
      intricateConfig.IsWrittenIn 9007199254740992 (intricateConfig.written 9007199254740992) ∧
      load (treeOf (.file (intricateConfig.written 9007199254740992).toUTF8.data.toList 0))
        settingsPath .empty = .ok intricateConfig := by
  have hclean : intricateConfig.IsClean 9007199254740992 :=
    { ne_empty := fun f => by cases f <;> decide
      trimmed := fun f => by cases f <;> decide +kernel
      template := isBranchTemplate_intricateConfig
      timeout := rfl
      pos := by decide
      le := by decide }
  obtain ⟨hwritten, hread⟩ := clean_config_read_back hclean
  exact ⟨hclean, hwritten, (hread _ _ {} _ hwritten (read_treeOf_file _ 0)).1⟩

end BuildVersion.Config
