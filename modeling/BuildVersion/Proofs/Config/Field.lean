import BuildVersion.Proofs.Config.Table
import BuildVersion.Proofs.Settings.Path

namespace BuildVersion.Config

open Settings (Table Value)
open Template (expand)

variable {data data' : Table} {config config' : Config}

inductive TextField
  | org
  | repo
  | branch
  | releaseBase
  | ciBase
  | kubecrossUrl
  | trunkBranch
  deriving DecidableEq, Repr

namespace TextField

def get (config : Config) : TextField → String
  | org => config.tool.org
  | repo => config.tool.repo
  | branch => config.tool.branch
  | releaseBase => config.endpoints.releaseBase
  | ciBase => config.endpoints.ciBase
  | kubecrossUrl => config.endpoints.kubecrossUrl
  | trunkBranch => config.trunkBranch

def path : TextField → List String
  | org => ["tool", "org"]
  | repo => ["tool", "repo"]
  | branch => ["tool", "branch"]
  | releaseBase => ["endpoints", "release_base"]
  | ciBase => ["endpoints", "ci_base"]
  | kubecrossUrl => ["endpoints", "kubecross_url"]
  | trunkBranch => ["trunk_branch"]

/-- A field has the text at its key, without blanks around it, and its default where there is no
text or a blank one. -/
inductive Reads (f : TextField) (data : Table) : String → Prop
  | own {s : String} (hheld : data.Holds f.path (.text s)) (hs : Text.trimmed s ≠ "") :
      Reads f data (Text.trimmed s)
  | default (hblank : ∀ s, data.Holds f.path (.text s) → Text.trimmed s = "") :
      Reads f data (f.get {})

/-- Two tables have the same text at the key of a field, or both have none or a blank one. -/
def Agrees (f : TextField) (data data' : Table) : Prop :=
  ∀ s, Text.trimmed s ≠ "" → (data.Holds f.path (.text s) ↔ data'.Holds f.path (.text s))

def own? (f : TextField) (data : Table) : Option String :=
  data.textAt? f.path

theorem own?_eq_some_iff {f : TextField} {text : String} :
    f.own? data = some text ↔
      ∃ s, data.Holds f.path (.text s) ∧ Text.trimmed s ≠ "" ∧ text = Text.trimmed s :=
  Table.textAt?_eq_some_iff

theorem reads_iff {f : TextField} {text : String} :
    f.Reads data text ↔ text = (f.own? data).getD (f.get {}) := by
  cases hown : f.own? data with
  | none =>
      have hblank : ∀ s, data.Holds f.path (.text s) → Text.trimmed s = "" := by
        intro s hheld
        by_contra hs
        have hsome := own?_eq_some_iff.mpr ⟨s, hheld, hs, rfl⟩
        rw [hown] at hsome
        contradiction
      constructor
      · rintro (⟨hheld, hs⟩ | -)
        · exact absurd (hblank _ hheld) hs
        · rfl
      · rintro rfl
        exact .default hblank
  | some own =>
      obtain ⟨s, hheld, hs, rfl⟩ := own?_eq_some_iff.mp hown
      constructor
      · rintro (⟨hother, hne⟩ | hblank)
        · have hsame := own?_eq_some_iff.mpr ⟨_, hother, hne, rfl⟩
          rw [hown] at hsame
          exact (Option.some.inj hsame).symm
        · exact absurd (hblank s hheld) hs
      · rintro rfl
        exact .own hheld hs

theorem Agrees.own?_eq {f : TextField} (h : f.Agrees data data') : f.own? data = f.own? data' := by
  apply Option.ext
  intro text
  simp only [own?_eq_some_iff]
  constructor
  · rintro ⟨s, hheld, hs, rfl⟩
    exact ⟨s, (h s hs).mp hheld, hs, rfl⟩
  · rintro ⟨s, hheld, hs, rfl⟩
    exact ⟨s, (h s hs).mpr hheld, hs, rfl⟩

theorem Agrees.symm {f : TextField} (h : f.Agrees data data') : f.Agrees data' data :=
  fun s hs => (h s hs).symm

theorem ne_empty_of_reads {f : TextField} {text : String} (h : f.Reads data text) : text ≠ "" := by
  cases h with
  | own _ hs => exact hs
  | default _ => cases f <;> decide

end TextField

def timeoutPath : List String := ["endpoints", "timeout"]

/-- The timeout is the number at its key, and thirty seconds where there is no number above zero. -/
inductive ReadsTimeout (data : Table) : Binary64 → Prop
  | own {v : Value} {x : Binary64} (hheld : data.Holds timeoutPath v) (hx : v.Gives x) :
      ReadsTimeout data x
  | default (hnone : ∀ v x, data.Holds timeoutPath v → ¬ v.Gives x) :
      ReadsTimeout data (.ofInt 30)

/-- Two tables have the same number at the key of the timeout, or both give none there. -/
def TimeoutAgrees (data data' : Table) : Prop :=
  ∀ v x, v.Gives x → (data.Holds timeoutPath v ↔ data'.Holds timeoutPath v)

theorem TimeoutAgrees.symm (h : TimeoutAgrees data data') : TimeoutAgrees data' data :=
  fun v x hx => (h v x hx).symm

theorem holds_timeoutPath_iff {v : Value} :
    data.Holds timeoutPath v ↔ (endpointsOf data).lookup "timeout" = some v :=
  Table.holds_cons_iff (List.cons_ne_nil _ _)

theorem holds_timeoutPath_unique {v w : Value} (hv : data.Holds timeoutPath v)
    (hw : data.Holds timeoutPath w) : v = w := by
  rw [holds_timeoutPath_iff] at hv hw
  rw [hv] at hw
  exact Option.some.inj hw

theorem ReadsTimeout.unique {x y : Binary64} (hx : ReadsTimeout data x)
    (hy : ReadsTimeout data y) : x = y := by
  rcases hx with ⟨hv, hgives⟩ | hnone
  · rcases hy with ⟨hw, hother⟩ | hnone
    · rw [holds_timeoutPath_unique hw hv] at hother
      exact Value.gives_unique hgives hother
    · exact absurd hgives (hnone _ _ hv)
  · rcases hy with ⟨hw, hother⟩ | -
    · exact absurd hother (hnone _ _ hw)
    · rfl

theorem ReadsTimeout.of_agrees {x : Binary64} (hx : ReadsTimeout data x)
    (h : TimeoutAgrees data data') : ReadsTimeout data' x := by
  rcases hx with ⟨hv, hgives⟩ | hnone
  · exact .own ((h _ _ hgives).mp hv) hgives
  · exact .default fun v x hv hgives => hnone v x ((h v x hgives).mpr hv) hgives

theorem number?_timeout (hsmall : ∀ v, data.Holds timeoutPath v → ¬ v.Overflows) :
    ∃ timeout : Option Binary64,
      ((endpointsOf data).number? "timeout" : Outcome Rejection _) = .ok timeout ∧
        ReadsTimeout data (timeout.getD (.ofInt 30)) := by
  unfold Table.number?
  cases hlookup : (endpointsOf data).lookup "timeout" with
  | none =>
      refine ⟨none, rfl, .default ?_⟩
      intro v x hheld
      rw [holds_timeoutPath_iff, hlookup] at hheld
      contradiction
  | some v =>
      have hheld : data.Holds timeoutPath v := holds_timeoutPath_iff.mpr hlookup
      by_cases hgives : ∃ x, v.Gives x
      · obtain ⟨x, hx⟩ := hgives
        exact ⟨some x, Value.number?_of_gives hx (hsmall v hheld), .own hheld hx⟩
      · have hnone : ∀ x, ¬ v.Gives x := fun x hx => hgives ⟨x, hx⟩
        refine ⟨none, Value.number?_of_not_gives hnone, .default ?_⟩
        intro w x hw
        rw [holds_timeoutPath_unique hw hheld]
        exact hnone x

theorem ofTable_eq_bind (data : Table) :
    ofTable data = (checkTemplate (templateOf data)).bind fun _ =>
      ((endpointsOf data).number? "timeout").bind fun timeout => .ok
        { tool := toolOf ((data.table? "tool").getD [])
          endpoints :=
            { releaseBase := (TextField.releaseBase.own? data).getD ({} : Endpoints).releaseBase
              ciBase := (TextField.ciBase.own? data).getD ({} : Endpoints).ciBase
              kubecrossUrl := templateOf data
              timeout := timeout.getD (.ofInt 30) }
          trunkBranch := (TextField.trunkBranch.own? data).getD ({} : Config).trunkBranch } := rfl

theorem exists_ofTable_of (hcheck : checkTemplate (templateOf data) = .ok ())
    (hsmall : ∀ v, data.Holds timeoutPath v → ¬ v.Overflows) :
    ∃ config, ofTable data = .ok config := by
  obtain ⟨timeout, htimeout, -⟩ := number?_timeout hsmall
  rw [ofTable_eq_bind, hcheck, htimeout]
  exact ⟨_, rfl⟩

section Accepted

variable (haccepted : ofTable data = .ok config)

include haccepted

theorem not_overflows_of_ofTable {v : Value} (hheld : data.Holds timeoutPath v) :
    ¬ v.Overflows := by
  rintro ⟨n, rfl, hn⟩
  rw [ofTable_eq_bind] at haccepted
  obtain ⟨-, -, hrest⟩ := Outcome.bind_eq_ok_iff.mp haccepted
  obtain ⟨timeout, htimeout, -⟩ := Outcome.bind_eq_ok_iff.mp hrest
  rw [Settings.Table.number?_eq_aborted_iff.mpr
    ⟨rfl, n, holds_timeoutPath_iff.mp hheld, hn⟩] at htimeout
  contradiction

theorem reads_of_ofTable (f : TextField) : f.Reads data (f.get config) := by
  rw [ofTable_eq_bind] at haccepted
  obtain ⟨-, -, hrest⟩ := Outcome.bind_eq_ok_iff.mp haccepted
  obtain ⟨timeout, -, hconfig⟩ := Outcome.bind_eq_ok_iff.mp hrest
  cases hconfig
  rw [TextField.reads_iff]
  cases f <;> rfl

theorem readsTimeout_of_ofTable : ReadsTimeout data config.endpoints.timeout := by
  obtain ⟨own, hown, hreads⟩ := number?_timeout fun v => not_overflows_of_ofTable haccepted
  rw [ofTable_eq_bind, hown] at haccepted
  obtain ⟨-, -, hconfig⟩ := Outcome.bind_eq_ok_iff.mp haccepted
  cases hconfig
  exact hreads

end Accepted

theorem reads_templateOf (data : Table) : TextField.kubecrossUrl.Reads data (templateOf data) :=
  TextField.reads_iff.mpr rfl

theorem exists_ofTable_iff :
    (∃ config, ofTable data = .ok config) ↔ checkTemplate (templateOf data) = .ok () ∧
      ∀ v, data.Holds timeoutPath v → ¬ v.Overflows := by
  constructor
  · rintro ⟨config, haccepted⟩
    refine ⟨?_, fun v => not_overflows_of_ofTable haccepted⟩
    obtain ⟨⟨⟩, hcheck, -⟩ := Outcome.bind_eq_ok_iff.mp haccepted
    exact hcheck
  · rintro ⟨hcheck, hsmall⟩
    exact exists_ofTable_of hcheck hsmall

theorem exists_ofTable_of_agrees (htemplate : TextField.kubecrossUrl.Agrees data data')
    (htimeout : TimeoutAgrees data data') (h : ∃ config, ofTable data = .ok config) :
    ∃ config, ofTable data' = .ok config := by
  rw [exists_ofTable_iff] at h ⊢
  obtain ⟨hcheck, hsmall⟩ := h
  constructor
  · have hsame : templateOf data' = templateOf data := by
      rw [TextField.reads_iff.mp (reads_templateOf data'), ← htemplate.own?_eq,
        ← TextField.reads_iff.mp (reads_templateOf data)]
    rw [hsame]
    exact hcheck
  · intro v hheld hlarge
    obtain ⟨x, hx⟩ := Value.exists_gives_of_overflows hlarge
    exact hsmall v ((htimeout v x hx).mpr hheld) hlarge

theorem checkTemplate_ne_ok_iff {template : String} :
    checkTemplate template ≠ .ok () ↔ Text.contains branchField template = false ∨
      ∃ cause, expand template trialBranch = .error cause := by
  rw [Ne, checkTemplate_eq_ok_iff, not_and_or, Bool.not_eq_true]
  cases expand template trialBranch <;> simp

theorem forall_ofTable_ne_iff :
    (∀ config, ofTable data ≠ .ok config) ↔
      checkTemplate (templateOf data) ≠ .ok () ∨ ∃ v, data.Holds timeoutPath v ∧ v.Overflows := by
  rw [← not_exists, exists_ofTable_iff, not_and_or]
  refine or_congr Iff.rfl ?_
  simp only [not_forall, not_not, exists_prop]

/-- A table is refused over its template, which has to mention the branch and to take the trial, and
over an integer beyond every number in place of the timeout, and over nothing else. Otherwise every
field has what stands at its own key or its default; no text is empty, and tables that agree at the
key of a field agree in the field, whatever stands at other keys. -/
theorem ofTable_reads_own_keys (data : Table) :
    ((∀ config, ofTable data ≠ .ok config) ↔
      (∃ template, TextField.kubecrossUrl.Reads data template ∧
        (Text.contains "\x7bbranch\x7d" template = false ∨
          ∃ cause, expand template "master" = .error cause)) ∨
      ∃ v, data.Holds timeoutPath v ∧ v.Overflows) ∧
    (∀ config, ofTable data = .ok config →
      (∀ f : TextField, f.Reads data (f.get config) ∧ f.get config ≠ "") ∧
        ReadsTimeout data config.endpoints.timeout) ∧
    ∀ data',
      (TextField.kubecrossUrl.Agrees data data' → TimeoutAgrees data data' →
        ((∃ config, ofTable data = .ok config) ↔ ∃ config, ofTable data' = .ok config)) ∧
      ∀ config config', ofTable data = .ok config → ofTable data' = .ok config' →
        (∀ f : TextField, f.Agrees data data' → f.get config = f.get config') ∧
          (TimeoutAgrees data data' → config.endpoints.timeout = config'.endpoints.timeout) := by
  refine ⟨?_, ?_, ?_⟩
  · rw [forall_ofTable_ne_iff]
    refine or_congr ?_ Iff.rfl
    constructor
    · intro hcheck
      exact ⟨_, reads_templateOf data, checkTemplate_ne_ok_iff.mp hcheck⟩
    · rintro ⟨template, hreads, hbad⟩
      rw [TextField.reads_iff.mp hreads] at hbad
      exact checkTemplate_ne_ok_iff.mpr hbad
  · intro config haccepted
    refine ⟨fun f => ?_, readsTimeout_of_ofTable haccepted⟩
    have hreads := reads_of_ofTable haccepted f
    exact ⟨hreads, TextField.ne_empty_of_reads hreads⟩
  · intro data'
    refine ⟨?_, ?_⟩
    · intro htemplate htimeout
      constructor
      · exact exists_ofTable_of_agrees htemplate htimeout
      · exact exists_ofTable_of_agrees htemplate.symm htimeout.symm
    · intro config config' haccepted haccepted'
      refine ⟨?_, ?_⟩
      · intro f hagrees
        rw [TextField.reads_iff.mp (reads_of_ofTable haccepted f), hagrees.own?_eq,
          ← TextField.reads_iff.mp (reads_of_ofTable haccepted' f)]
      · intro hagrees
        exact ((readsTimeout_of_ofTable haccepted).of_agrees hagrees).unique
          (readsTimeout_of_ofTable haccepted')

/-- A text in place of a table, a blank text, a flag for a number, and a key that is not known. -/
def scatteredTable : Table :=
  [("tool", .text "acme"),
    ("endpoints", .table [(.text "release_base", .text " https://mirror\n"),
      (.text "ci_base", .text "\t"), (.text "timeout", .flag true),
      (.text "retries", .integer 3)]),
    ("trunk_branch", .text "main")]

theorem scatteredTable_read :
    ofTable scatteredTable =
        .ok { endpoints := { releaseBase := "https://mirror" }, trunkBranch := "main" } ∧
      TextField.releaseBase.Reads scatteredTable "https://mirror" ∧
      TextField.org.Reads scatteredTable "kubernetes" ∧
      ReadsTimeout scatteredTable (.ofInt 30) := by
  have haccepted : ofTable scatteredTable =
      .ok { endpoints := { releaseBase := "https://mirror" }, trunkBranch := "main" } := by
    decide +kernel
  obtain ⟨-, hreads, -⟩ := ofTable_reads_own_keys scatteredTable
  obtain ⟨hfields, htimeout⟩ := hreads _ haccepted
  exact ⟨haccepted, (hfields .releaseBase).1, (hfields .org).1, htimeout⟩

end BuildVersion.Config
