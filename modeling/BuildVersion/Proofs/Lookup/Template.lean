import BuildVersion.Proofs.Config.Template
import BuildVersion.Proofs.Lookup.Marker
import BuildVersion.Proofs.Template.Part
import BuildVersion.Proofs.Text.Split

namespace BuildVersion

open Template (Part)

namespace Config

variable {template : String}

theorem ofTable_templateTable (hne : template ≠ "")
    (htrimmed : Text.trimmed template = template) :
    ofTable (templateTable template) =
      (checkTemplate template).map fun _ => templateConfig template := by
  have hurl : templateOf (templateTable template) = template := by
    change (if Text.trimmed template = "" then none else some (Text.trimmed template)).getD _ =
      template
    rw [htrimmed, if_neg hne, Option.getD_some]
  rw [ofTable]
  simp only [hurl]
  cases checkTemplate template <;> rfl

theorem exists_ofTable_templateTable_iff (hne : template ≠ "")
    (htrimmed : Text.trimmed template = template) :
    (∃ config, ofTable (templateTable template) = .ok config) ↔
      branchField.toList <:+: template.toList ∧
        ∃ url, Template.expand template trialBranch = .ok url := by
  rw [ofTable_templateTable hne htrimmed, ← Text.contains_iff, ← checkTemplate_eq_ok_iff]
  cases checkTemplate template <;> simp

theorem eq_templateConfig_of_ofTable {config : Config} (hne : template ≠ "")
    (htrimmed : Text.trimmed template = template)
    (haccepted : ofTable (templateTable template) = .ok config) :
    config = templateConfig template := by
  rw [ofTable_templateTable hne htrimmed] at haccepted
  cases hcheck : checkTemplate template with
  | ok accepted =>
      rw [hcheck] at haccepted
      exact (Outcome.ok.inj haccepted).symm
  | err rejection =>
      rw [hcheck] at haccepted
      contradiction
  | aborted fault =>
      rw [hcheck] at haccepted
      contradiction

end Config

namespace Lookup.Resolver

variable {r : Resolver} {url : String → String}

/-- The first of the remaining branches is asked for, and of the others those in front. -/
theorem exists_urls_kubecrossFrom
    (hurl : ∀ branch, Template.expand r.endpoints.kubecrossUrl branch = .ok (url branch))
    (source : Source) (all : List String) (branch : String) (rest : List String) :
    ∃ others, (r.kubecrossFrom source all (branch :: rest)).urls = url branch :: others ∧
      others <+: rest.map url := by
  induction rest generalizing branch with
  | nil =>
      refine ⟨[], ?_, List.nil_prefix⟩
      rw [kubecrossFrom, hurl]
      dsimp only
      split
      · split <;> rfl
      · rfl
      · rfl
  | cons next rest ih =>
      obtain ⟨others, hothers, hbegins⟩ := ih next
      have hnext : url next :: others <+: (next :: rest).map url :=
        List.cons_prefix_cons.mpr ⟨rfl, hbegins⟩
      rw [kubecrossFrom, hurl]
      dsimp only
      split
      · split
        · refine ⟨_, ?_, hnext⟩
          rw [Run.urls_after, hothers]
          rfl
        · exact ⟨[], rfl, List.nil_prefix⟩
      · refine ⟨_, ?_, hnext⟩
        rw [if_neg (by simp), Run.urls_after, hothers]
        rfl
      · exact ⟨[], rfl, List.nil_prefix⟩

theorem urls_kubecross_singleton
    (hurl : ∀ branch, Template.expand r.endpoints.kubecrossUrl branch = .ok (url branch))
    (source : Source) (branch : String) : (r.kubecross source [branch]).urls = [url branch] := by
  obtain ⟨others, hothers, hbegins⟩ := exists_urls_kubecrossFrom hurl source [branch] branch []
  rw [List.map_nil, List.prefix_nil] at hbegins
  rw [kubecross, hothers, hbegins]

theorem urls_kubecross_first
    (hurl : ∀ branch, Template.expand r.endpoints.kubecrossUrl branch = .ok (url branch))
    (source : Source) (branches : List String) :
    (r.kubecross source branches).urls <+: branches.map url := by
  cases branches with
  | nil => exact List.nil_prefix
  | cons branch rest =>
      obtain ⟨others, hothers, hbegins⟩ :=
        exists_urls_kubecrossFrom hurl source (branch :: rest) branch rest
      rw [kubecross, hothers, List.map_cons]
      exact List.cons_prefix_cons.mpr ⟨rfl, hbegins⟩

end Lookup.Resolver

namespace Config

open Lookup (Resolver Source)

/-- A template of plain parts without blanks at its ends is accepted if and only if it mentions the
branch, be it between doubled braces, and all its fields hold that name. Then the search for a
branch asks for the parts with the branch in the places of the fields and with single braces, a
search on several branches for one such address after the other, and as soon as there is a field
different branches have different addresses. -/
theorem template_of_parts_accepted_iff {parts : List Part}
    (hparts : ∀ part ∈ parts, part.WellFormed)
    (hne : String.ofList (parts.flatMap Part.written) ≠ "")
    (htrimmed : Text.trimmed (String.ofList (parts.flatMap Part.written)) =
      String.ofList (parts.flatMap Part.written)) :
    ((∃ config, ofTable (templateTable (String.ofList (parts.flatMap Part.written))) =
          .ok config) ↔
        "\x7bbranch\x7d".toList <:+: parts.flatMap Part.written ∧
          ∀ name, .field name ∈ parts → name = "branch".toList) ∧
      ∀ config, ofTable (templateTable (String.ofList (parts.flatMap Part.written))) =
          .ok config →
        ∀ (trunk : String) (source : Source),
          let r : Resolver := ⟨config.endpoints, trunk⟩
          let url (branch : String) : String :=
            String.ofList (parts.flatMap (Part.shown branch.toList))
          (∀ branch, (r.kubecross source [branch]).urls = [url branch]) ∧
            (∀ branches, (r.kubecross source branches).urls <+: branches.map url) ∧
            ((∃ name, .field name ∈ parts) → Function.Injective url) := by
  have haccepted := exists_ofTable_templateTable_iff hne htrimmed
  rw [String.toList_ofList, Template.exists_expand_written_iff hparts] at haccepted
  refine ⟨haccepted, ?_⟩
  intro config hconfig trunk source r url
  obtain ⟨-, hknown⟩ := haccepted.mp ⟨config, hconfig⟩
  obtain rfl := eq_templateConfig_of_ofTable hne htrimmed hconfig
  have hurl (branch : String) :
      Template.expand r.endpoints.kubecrossUrl branch = .ok (url branch) :=
    Template.expand_written hparts hknown branch
  exact ⟨Lookup.Resolver.urls_kubecross_singleton hurl source,
    Lookup.Resolver.urls_kubecross_first hurl source, Template.injective_shown hparts hknown⟩

/-- A field between braces that are written twice. -/
def bracedParts : List Part :=
  [.text "https://host/".toList, .openingBrace, .field "branch".toList, .closingBrace,
    .text "/VERSION".toList]

def bracedTemplate : String := "https://host/\x7b\x7b\x7bbranch\x7d\x7d\x7d/VERSION"

/-- What stands in the place of a field is not read again, not even if it is a field itself. -/
theorem braced_template_accepted :
    (∀ part ∈ bracedParts, part.WellFormed) ∧
      ofTable (templateTable bracedTemplate) = .ok (templateConfig bracedTemplate) ∧
      ((⟨(templateConfig bracedTemplate).endpoints, "master"⟩ : Resolver).kubecross
          (fun _ => .ok "v1.18.3-1\n") ["\x7bbranch\x7d"]).urls =
        ["https://host/\x7b\x7bbranch\x7d\x7d/VERSION"] ∧
      Function.Injective fun branch : String =>
        String.ofList (bracedParts.flatMap (Part.shown branch.toList)) := by
  have hname : Part.IsName "branch".toList := Template.isName_knownName
  have hparts : ∀ part ∈ bracedParts, part.WellFormed := by
    simp only [bracedParts, List.forall_mem_cons, Part.WellFormed]
    exact ⟨by decide, trivial, hname, trivial, by decide, List.forall_mem_nil _⟩
  have hwritten : String.ofList (bracedParts.flatMap Part.written) = bracedTemplate := by
    decide +kernel
  have haccepted := template_of_parts_accepted_iff hparts (by decide) (by decide +kernel)
  rw [hwritten] at haccepted
  have hconfig : ofTable (templateTable bracedTemplate) = .ok (templateConfig bracedTemplate) := by
    decide +kernel
  obtain ⟨hsingle, -, hinjective⟩ := haccepted.2 _ hconfig "master" fun _ => .ok "v1.18.3-1\n"
  exact ⟨hparts, hconfig, (hsingle "\x7bbranch\x7d").trans (by decide +kernel),
    hinjective ⟨_, List.mem_cons_of_mem _ (List.mem_cons_of_mem _ List.mem_cons_self)⟩⟩

end Config

end BuildVersion
