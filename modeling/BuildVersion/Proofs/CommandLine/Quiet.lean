import BuildVersion.CommandLine.Request
import BuildVersion.Proofs.Outcome

namespace BuildVersion.CommandLine.Request

/-- The request of the same command for a quiet run. -/
def quieted : Request → Request
  | .run globals command => .run { globals with quiet := true } command
  | request => request

theorem readOption_quiet :
    readOption switches "-q".toList = .ok (.settings [⟨quietSwitch.name, none⟩]) := by
  rfl

theorem separate_quiet (arguments : List String) :
    separate switches false ("-q" :: arguments) =
      (separate switches false arguments).map fun (settings, others) =>
        (⟨quietSwitch.name, none⟩ :: settings, others) := by
  rw [separate, if_neg (by decide), if_pos (by decide), readOption_quiet]
  rfl

theorem ofVerb_quiet (globals : Globals) (verb : Verb) (arguments : List String) :
    ofVerb { globals with quiet := true } verb arguments =
      (ofVerb globals verb arguments).map quieted := by
  unfold ofVerb
  cases separate verb.switches true arguments with
  | error e => rfl
  | ok given =>
      obtain ⟨settings, others⟩ := given
      simp only [Outcome.ofExcept, Outcome.bind_ok]
      split
      · rfl
      · cases Command.ofVerb verb settings others <;> rfl

theorem has_quiet {settings : List Setting} {name : String} (hname : quietSwitch.name ≠ name) :
    Setting.has (⟨quietSwitch.name, none⟩ :: settings) name = Setting.has settings name := by
  simp [Setting.has, hname]

theorem last?_quiet {settings : List Setting} {name : String} (hname : quietSwitch.name ≠ name) :
    Setting.last? (⟨quietSwitch.name, none⟩ :: settings) name = Setting.last? settings name := by
  simp [Setting.last?, List.find?_append, hname]

/-- With `-q` in front of a command line the same command is run, only quietly. -/
theorem ofArguments_quiet (arguments : List String) :
    ofArguments ("-q" :: arguments) = (ofArguments arguments).map quieted := by
  unfold ofArguments
  rw [separate_quiet]
  cases separate switches false arguments with
  | error e => rfl
  | ok given =>
      obtain ⟨settings, others⟩ := given
      have hquiet : Setting.has (⟨quietSwitch.name, none⟩ :: settings) quietSwitch.name = true := by
        simp [Setting.has]
      simp only [Except.map, Outcome.ofExcept, Outcome.bind_ok, hquiet,
        has_quiet (show quietSwitch.name ≠ Verb.helpSwitch.name by decide),
        has_quiet (show quietSwitch.name ≠ versionSwitch.name by decide),
        last?_quiet (show quietSwitch.name ≠ configSwitch.name by decide)]
      split
      · rfl
      · rw [Outcome.map_bind]
        refine congrArg _ (funext fun _ => ?_)
        cases others with
        | nil => cases Setting.has settings versionSwitch.name <;> rfl
        | cons name rest =>
            dsimp only
            cases Verb.ofString? name with
            | none => cases isName name <;> rfl
            | some verb =>
                cases Setting.has settings versionSwitch.name with
                | true => rfl
                | false => exact ofVerb_quiet ⟨_, Setting.has settings quietSwitch.name⟩ verb rest

end BuildVersion.CommandLine.Request
