import BuildVersion.Proofs.Template.Expand

namespace BuildVersion.Config

open Template (Piece expand fields pieces substituted)

theorem checkTemplate_eq_ok_iff {template : String} :
    checkTemplate template = .ok () ↔
      Text.contains branchField template = true ∧ ∃ url, expand template trialBranch = .ok url := by
  unfold checkTemplate
  by_cases hmentioned : Text.contains branchField template = true
  · rw [if_pos hmentioned]
    cases expand template trialBranch with
    | ok url => simp [hmentioned]
    | error cause => cases cause <;> simp
  · simp [hmentioned]

section Accepted

variable {data : Settings.Table} {config : Config}

theorem checkTemplate_of_ofTable (haccepted : ofTable data = .ok config) :
    checkTemplate config.endpoints.kubecrossUrl = .ok () := by
  obtain ⟨_, hcheck, hrest⟩ := Outcome.bind_eq_ok_iff.mp haccepted
  obtain ⟨timeout, -, hconfig⟩ := Outcome.bind_eq_ok_iff.mp hrest
  cases hconfig
  exact hcheck

/-- The address of the version file of a branch. -/
def urlOf (config : Config) (branch : String) : Except TemplateFault String :=
  expand config.endpoints.kubecrossUrl branch

/-- An accepted template gives an address for every branch if it gives one for the empty branch.
With a plain field and otherwise direct fields these addresses are different ones. Where there are
only plain fields the branch stands in their places, and the addresses are different ones if there
is such a field at all. -/
theorem accepted_template_usable (haccepted : ofTable data = .ok config) :
    ((∀ branch, ∃ url, config.urlOf branch = .ok url) ↔ ∃ url, config.urlOf "" = .ok url) ∧
      ((∃ url, config.urlOf "" = .ok url) →
        (∀ f ∈ fields config.endpoints.kubecrossUrl, f.IsDirect) →
        (∃ f ∈ fields config.endpoints.kubecrossUrl, f.IsPlain) →
          Function.Injective config.urlOf) ∧
      ((∀ f ∈ fields config.endpoints.kubecrossUrl, f.IsPlain) →
        (∀ branch : String, config.urlOf branch = .ok (String.ofList
          ((pieces config.endpoints.kubecrossUrl.toList).flatMap (substituted branch.toList)))) ∧
        (Function.Injective config.urlOf ↔ fields config.endpoints.kubecrossUrl ≠ [])) := by
  obtain ⟨-, htrial⟩ := checkTemplate_eq_ok_iff.mp (checkTemplate_of_ofTable haccepted)
  have hbroken : .broken ∉ pieces config.endpoints.kubecrossUrl.toList := by
    intro hmem
    obtain ⟨s, hs⟩ := Template.exists_expand_iff.mp htrial _ hmem
    contradiction
  refine ⟨Template.forall_exists_expand_iff htrial, ?_, ?_⟩
  · intro hempty hdirect hplain
    exact Template.expand_injective hdirect hplain hempty
  · intro hplain
    exact ⟨Template.expand_of_plain hplain hbroken, Template.expand_injective_iff hplain hbroken⟩

end Accepted

/-- A table that holds a template and nothing else. -/
def templateTable (template : String) : Settings.Table :=
  [("endpoints", .table [(.text "kubecross_url", .text template)])]

def templateConfig (template : String) : Config :=
  { endpoints := { kubecrossUrl := template } }

/-- A template with one plain field, and one that has the first characters of the branch too. -/
theorem template_with_plain_field_usable :
    (ofTable (templateTable "https://host/\x7bbranch\x7d/VERSION") =
        .ok (templateConfig "https://host/\x7bbranch\x7d/VERSION") ∧
      (∀ branch, ∃ url,
        (templateConfig "https://host/\x7bbranch\x7d/VERSION").urlOf branch = .ok url) ∧
      Function.Injective (templateConfig "https://host/\x7bbranch\x7d/VERSION").urlOf) ∧
    (ofTable (templateTable "\x7bbranch:.3\x7d/\x7bbranch\x7d") =
        .ok (templateConfig "\x7bbranch:.3\x7d/\x7bbranch\x7d") ∧
      Function.Injective (templateConfig "\x7bbranch:.3\x7d/\x7bbranch\x7d").urlOf) := by
  constructor
  · have haccepted : ofTable (templateTable "https://host/\x7bbranch\x7d/VERSION") =
        .ok (templateConfig "https://host/\x7bbranch\x7d/VERSION") := by decide +kernel
    have hplain : ∀ f ∈ fields "https://host/\x7bbranch\x7d/VERSION", f.IsPlain := by
      decide +kernel
    obtain ⟨hevery, -, hsubstituted⟩ := accepted_template_usable haccepted
    refine ⟨haccepted, hevery.mpr ⟨"https://host//VERSION", by decide +kernel⟩, ?_⟩
    exact (hsubstituted hplain).2.mpr (by decide +kernel)
  · have haccepted : ofTable (templateTable "\x7bbranch:.3\x7d/\x7bbranch\x7d") =
        .ok (templateConfig "\x7bbranch:.3\x7d/\x7bbranch\x7d") := by decide +kernel
    obtain ⟨-, hinjective, -⟩ := accepted_template_usable haccepted
    exact ⟨haccepted, hinjective ⟨"/", by decide +kernel⟩ (by decide +kernel) (by decide +kernel)⟩

/-- Braces that are written twice mention the branch and are no field, so that all branches have
one address. A position in the branch that is used for the trial is not there in a shorter one. -/
theorem accepted_template_not_usable :
    (ofTable (templateTable "\x7b\x7bbranch\x7d\x7d") =
        .ok (templateConfig "\x7b\x7bbranch\x7d\x7d") ∧
      (templateConfig "\x7b\x7bbranch\x7d\x7d").urlOf "master" = .ok "\x7bbranch\x7d" ∧
      (templateConfig "\x7b\x7bbranch\x7d\x7d").urlOf "main" = .ok "\x7bbranch\x7d") ∧
    (ofTable (templateTable "\x7bbranch\x7d\x7bbranch[5]\x7d") =
        .ok (templateConfig "\x7bbranch\x7d\x7bbranch[5]\x7d") ∧
      (templateConfig "\x7bbranch\x7d\x7bbranch[5]\x7d").urlOf "main" =
        .error .missingPosition) := by
  decide +kernel

end BuildVersion.Config
