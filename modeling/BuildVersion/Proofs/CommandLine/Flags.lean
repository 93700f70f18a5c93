import BuildVersion.CommandLine.Request
import BuildVersion.Proofs.Outcome

namespace BuildVersion.CommandLine

variable {switches : List Switch} {options rest flags : List String} {settings : List Setting}
  {name : String}

theorem exists_of_map_eq_ok {read : Except UsageError (List Setting × List String)}
    {f : List Setting → List Setting} {others : List String}
    (h : (read.map fun (settings, others) => (f settings, others)) = .ok (settings, others)) :
    ∃ given, read = .ok (given, others) ∧ f given = settings := by
  cases read with
  | error e => contradiction
  | ok found =>
      obtain ⟨given, left⟩ := found
      obtain ⟨rfl, rfl⟩ := Prod.mk.inj (Except.ok.inj h)
      exact ⟨given, rfl, rfl⟩

/-- Options that are read without anything left over are read alike in front of a name. -/
theorem separate_append (hname : name ≠ "--") (hplain : isOption name.toList = false)
    (hoptions : separate switches false options = .ok (settings, [])) :
    separate switches false (options ++ name :: rest) = .ok (settings, name :: rest) := by
  fun_induction separate switches false options generalizing settings with
  | case1 =>
      cases hoptions
      rw [List.nil_append, separate, if_neg hname, if_neg (by simp [hplain])]
      rfl
  | case2 left =>
      cases hoptions
      rw [List.cons_append, separate, if_pos rfl, List.nil_append]
  | case3 => contradiction
  | case4 argument left hdashes hoption list hread ih =>
      obtain ⟨given, hleft, rfl⟩ := exists_of_map_eq_ok hoptions
      rw [List.cons_append, separate, if_neg hdashes, if_pos hoption, hread]
      simp only [ih hleft]
      rfl
  | case5 => contradiction
  | case6 argument hdashes hoption pending hread value left ih =>
      obtain ⟨given, hleft, rfl⟩ := exists_of_map_eq_ok hoptions
      rw [List.cons_append, List.cons_append, separate, if_neg hdashes, if_pos hoption, hread]
      simp only [ih hleft]
      rfl
  | case7 => contradiction
  | case8 => simp at hoptions

theorem readOption_semver :
    readOption Verb.ci.switches "--semver".toList =
      .ok (.settings [⟨Verb.semverSwitch.name, none⟩]) := by
  rfl

def semverSettings (flags : List String) : List Setting :=
  flags.map fun _ => ⟨Verb.semverSwitch.name, none⟩

theorem separate_semver_append (hflags : ∀ flag ∈ flags, flag = "--semver")
    {others : List String} (hrest : separate Verb.ci.switches true rest = .ok (settings, others)) :
    separate Verb.ci.switches true (flags ++ rest) =
      .ok (semverSettings flags ++ settings, others) := by
  induction flags with
  | nil => exact hrest
  | cons flag flags ih =>
      obtain ⟨rfl, htail⟩ := List.forall_mem_cons.mp hflags
      rw [List.cons_append, separate, if_neg (by decide), if_pos (by decide), readOption_semver]
      simp only [ih htail]
      rfl

theorem separate_semver (hflags : ∀ flag ∈ flags, flag = "--semver") :
    separate Verb.ci.switches true flags = .ok (semverSettings flags, []) := by
  have hnil : separate Verb.ci.switches true [] = .ok ([], []) := rfl
  have hflagsNil := separate_semver_append hflags hnil
  rwa [List.append_nil, List.append_nil] at hflagsNil

theorem separate_semver_cons (hflags : ∀ flag ∈ flags, flag = "--semver") {argument : String}
    (hdashes : argument ≠ "--") (hplain : isOption argument.toList = false) :
    separate Verb.ci.switches true (argument :: flags) =
      .ok (semverSettings flags, [argument]) := by
  rw [separate, if_neg hdashes, if_neg (by simp [hplain]), if_pos rfl, separate_semver hflags]
  rfl

theorem has_help_semverSettings (flags : List String) :
    Setting.has (semverSettings flags) Verb.helpSwitch.name = false := by
  have hname : Verb.semverSwitch.name ≠ Verb.helpSwitch.name := by decide
  simp [Setting.has, semverSettings, hname]

namespace Request

/-- The request of options in front of the name of a command. -/
theorem ofArguments_append {verb : Verb} (hverb : Verb.ofString? name = some verb)
    (hname : name ≠ "--") (hplain : isOption name.toList = false)
    (hoptions : separate Request.switches false options = .ok (settings, [])) :
    ofArguments (options ++ name :: rest) =
      if Setting.has settings Verb.helpSwitch.name then .ok .help
      else
        (Command.checkPath ((Setting.last? settings configSwitch.name).getD "")).bind fun _ =>
        if Setting.has settings versionSwitch.name then .ok .version
        else ofVerb ⟨Setting.last? settings configSwitch.name,
          Setting.has settings quietSwitch.name⟩ verb rest := by
  rw [ofArguments, separate_append hname hplain hoptions]
  simp only [Outcome.ofExcept, Outcome.bind_ok, hverb]
  cases Setting.has settings versionSwitch.name <;> rfl

variable {first last : List String} {branch : String}

/-- The request for the last build of a branch, with flags on both sides of the branch. -/
theorem ofVerb_ci (globals : Globals) (hfirst : ∀ flag ∈ first, flag = "--semver")
    (hlast : ∀ flag ∈ last, flag = "--semver") (hdashes : branch ≠ "--")
    (hplain : isOption branch.toList = false) :
    ∃ canonical,
      ofVerb globals .ci (first ++ last) = .ok (.run globals (.ci none canonical)) ∧
        ofVerb globals .ci (first ++ branch :: last) =
          .ok (.run globals (.ci (some branch) canonical)) := by
  have hsettings :
      semverSettings first ++ semverSettings last = semverSettings (first ++ last) := by
    rw [semverSettings, semverSettings, semverSettings, List.map_append]
  have hnone := separate_semver_append hfirst (separate_semver hlast)
  have hsome := separate_semver_append hfirst (separate_semver_cons hlast hdashes hplain)
  rw [hsettings] at hnone hsome
  refine ⟨Setting.has (semverSettings (first ++ last)) Verb.semverSwitch.name, ?_, ?_⟩
  · rw [ofVerb, hnone]
    simp only [Outcome.ofExcept, Outcome.bind_ok, has_help_semverSettings]
    rfl
  · rw [ofVerb, hsome]
    simp only [Outcome.ofExcept, Outcome.bind_ok, has_help_semverSettings]
    rfl

end Request

end BuildVersion.CommandLine
