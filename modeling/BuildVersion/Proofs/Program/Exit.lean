import BuildVersion.Program.Run

namespace BuildVersion

open CommandLine (Command Globals Request)
open Lookup (Event Run)
open Version (ArtifactError VersionError)

namespace Report

theorem afterControl?_of_notMem {s : List Char} (hs : '\x1b' ∉ s) : afterControl? s = none := by
  cases s with
  | nil => rfl
  | cons c rest =>
      have hc : c ≠ '\x1b' := by
        rintro rfl
        exact hs List.mem_cons_self
      unfold afterControl?
      split
      · next heq => exact absurd (List.cons.inj heq).1 hc
      · rfl

/-- A text without an escape character is left as it is. -/
theorem withoutControl_of_notMem {s : List Char} (hs : '\x1b' ∉ s) : withoutControl s = s := by
  induction s with
  | nil =>
      rw [withoutControl]
      split
      · next after h => simp [afterControl?_of_notMem hs] at h
      · rfl
  | cons c rest ih =>
      have hrest : '\x1b' ∉ rest := fun h => hs (List.mem_cons_of_mem c h)
      rw [withoutControl]
      split
      · next after h => simp [afterControl?_of_notMem hs] at h
      · change c :: withoutControl rest = c :: rest
        rw [ih hrest]

theorem line_of_notMem {text : String} (htext : '\x1b' ∉ text.toList) :
    line text = text ++ "\n" := by
  rw [line, withoutControl_of_notMem htext, ← String.toList_inj]
  simp

end Report

namespace Transcript

variable (terminal : Console.Terminal) (client : Fetch.Client)

theorem requests_play_said (t : Transcript) (notices : List Console.Notice) :
    (t.play terminal client (notices.map .said)).1.requests = t.requests := by
  induction notices generalizing t with
  | nil => rfl
  | cons notice rest ih =>
      rw [List.map_cons, play]
      cases hpush : t.push terminal client (.said notice) with
      | error fault => rfl
      | ok next =>
          have hnext : next.requests = t.requests := by
            simp only [push] at hpush
            cases hwritten : terminal.written notice with
            | error fault => simp [hwritten, Except.map] at hpush
            | ok text =>
                simp only [hwritten, Except.map, Except.ok.injEq] at hpush
                rw [← hpush]
          rw [← hnext]
          exact ih next

end Transcript

namespace Program

section Conclude

variable {terminal : Console.Terminal} {client : Fetch.Client} {events : List Event}
  {ending : Ending} {output : String}

theorem conclude_of_exit {code : ExitCode}
    (h : (conclude terminal client events ending output).ending = .exit code) :
    ending = .exit code ∧ (conclude terminal client events ending output).output = output := by
  unfold conclude at h ⊢
  split at h
  · exact ⟨h, rfl⟩
  · contradiction

theorem output_conclude_of_aborted {fault : Fault}
    (h : (conclude terminal client events ending output).ending = .aborted fault)
    (houtput : ending = .aborted fault → output = "") :
    (conclude terminal client events ending output).output = "" := by
  unfold conclude at h ⊢
  split at h
  · exact houtput h
  · rfl

theorem requests_conclude_said (notices : List Console.Notice) :
    (conclude terminal client (notices.map .said) ending output).transcript.requests = [] := by
  have hrequests := Transcript.requests_play_said terminal client {} notices
  unfold conclude
  split
  · next transcript h => rw [h] at hrequests; exact hrequests
  · next transcript fault h => rw [h] at hrequests; exact hrequests

end Conclude

end Program

namespace CommandLine

def Command.IsLookup : Command → Prop
  | .validate _ => False
  | .repoUrl _ => False
  | _ => True

end CommandLine

namespace Program

/-- What a command comes to under a configuration. The last build of a branch is that of the tool's
branch if none is named, and the version of a local build is read of whichever builder made the
newest tarball. -/
def operation (host : Host) (config : Config) : Command → Outcome VersionError String
  | .stable canonical =>
    ((resolverOf config).stable (Fetch.Client.getText host.transport) canonical).outcome
  | .prerelease canonical =>
    ((resolverOf config).prerelease (Fetch.Client.getText host.transport) canonical).outcome
  | .latestCi canonical =>
    ((resolverOf config).latestCi (Fetch.Client.getText host.transport) canonical).outcome
  | .ci branch canonical =>
    let branch := if branch.getD "" = "" then config.tool.branch else branch.getD ""
    ((resolverOf config).ci (Fetch.Client.getText host.transport) branch canonical).outcome
  | .marker url canonical =>
    (Lookup.marker (Fetch.Client.getText host.transport) url canonical).outcome
  | .kubecross branches =>
    ((resolverOf config).kubecross (Fetch.Client.getText host.transport) branches).outcome
  | .buildVersion directory =>
    ((host.expand (.ofString directory)).bind fun checkout =>
      Build.readVersion host.files checkout none host.words).mapErr .artifact
  | .validate text => .ok (verdict text)
  | .repoUrl ssh => .ok (if ssh then config.tool.sshUrl else config.tool.httpsUrl)

/-- Naming the builder before its version is read does not change what is read. -/
theorem buildVersion_outcome (host : Host) (directory : String) :
    (buildVersion host directory).outcome =
      ((host.expand (.ofString directory)).bind fun checkout =>
        Build.readVersion host.files checkout none host.words).mapErr .artifact := by
  unfold buildVersion
  cases hcheckout : (host.expand (.ofString directory) : Outcome ArtifactError Files.Path) with
  | err e => rfl
  | aborted fault => rfl
  | ok checkout =>
      simp only [Outcome.bind_ok, Build.readVersion]
      cases Build.detect host.files checkout host.words <;> rfl

/-- What is performed for a command comes to its operation. -/
theorem perform_outcome (host : Host) (config : Config) (command : Command) :
    (perform host config command).outcome = operation host config command := by
  cases command with
  | buildVersion directory => exact buildVersion_outcome host directory
  | _ => rfl

def errorNumber : VersionError → Nat
  | .fetch _ => 4
  | .artifact _ => 5
  | .format _ => 6
  | .notFound _ => 7

theorem number_ofError (e : VersionError) : (ExitCode.ofError e).number = errorNumber e := by
  cases e <;> rfl

section Reports

variable {terminal : Console.Terminal} {client : Fetch.Client} {run : Run}

/-- A run that ends with a code has a version, which is printed, or an error, which gives the
code. -/
theorem reportRun_of_exit {code : ExitCode}
    (h : (reportRun terminal client run).ending = .exit code) :
    (∃ version, run.outcome = .ok version ∧ code = .success ∧
        (reportRun terminal client run).output = Report.line version) ∨
      ∃ e, run.outcome = .err e ∧ code = .ofError e ∧
        (reportRun terminal client run).output = "" := by
  unfold reportRun at h ⊢
  cases houtcome : run.outcome with
  | ok version =>
      simp only [houtcome] at h ⊢
      obtain ⟨hending, houtput⟩ := conclude_of_exit h
      exact .inl ⟨version, rfl, (Ending.exit.inj hending).symm, houtput⟩
  | err e =>
      simp only [houtcome] at h ⊢
      obtain ⟨hending, houtput⟩ := conclude_of_exit h
      exact .inr ⟨e, rfl, (Ending.exit.inj hending).symm, houtput⟩
  | aborted fault =>
      simp only [houtcome] at h
      have hending : Ending.aborted fault = .exit code := (conclude_of_exit h).1
      contradiction

theorem output_reportRun_of_aborted {fault : Fault}
    (h : (reportRun terminal client run).ending = .aborted fault) :
    (reportRun terminal client run).output = "" := by
  unfold reportRun at h ⊢
  cases houtcome : run.outcome <;> simp only [houtcome] at h ⊢
  · exact output_conclude_of_aborted h fun hexit => by contradiction
  · exact output_conclude_of_aborted h fun _ => rfl
  · exact output_conclude_of_aborted h fun _ => rfl

end Reports

/-- A refusal that the terminal cannot read, as with a library's words in it, cuts a run short. -/
theorem ending_runConfigured_of_unreadable {host : Host} {globals : Globals} {command : Command}
    {e : Config.LoadError} {fault : Fault} (hloaded : loadConfig host globals = .err e)
    (hnotice : ({ quiet := globals.quiet } : Console.Terminal).written (.error e.message) =
      .error fault) :
    (runConfigured host globals command).ending = .aborted fault := by
  rw [runConfigured, hloaded]
  simp only [conclude, loadNotices, List.map_cons, Transcript.play, Transcript.push, hnotice]
  rfl

theorem run_of_request {host : Host} {arguments : List String} {globals : Globals}
    {command : Command} (hrequest : Request.ofArguments arguments = .ok (.run globals command))
    (hlookup : command.IsLookup) :
    run host arguments = runConfigured host globals command := by
  simp only [run, hrequest]
  cases command with
  | validate text => exact hlookup.elim
  | _ => rfl

/-- A lookup that ends with a code ends with zero exactly if its configuration loads and its
operation gives a version, which is printed on a line of its own. A configuration that is refused
and each kind of error have codes of their own, and then nothing is printed; for a refused
configuration nothing is asked for either. A run that is cut short prints nothing. -/
theorem lookup_reports_operation (host : Host) {arguments : List String} {globals : Globals}
    {command : Command} (hrequest : Request.ofArguments arguments = .ok (.run globals command))
    (hlookup : command.IsLookup) :
    (∀ code, (run host arguments).ending = .exit code →
      (code.number = 0 ↔ ∃ config version, loadConfig host globals = .ok config ∧
        operation host config command = .ok version) ∧
      match loadConfig host globals with
      | .ok config =>
        match operation host config command with
        | .ok version =>
          (run host arguments).output = Report.line version ∧
            ('\x1b' ∉ version.toList → (run host arguments).output = version ++ "\n")
        | .err e => code.number = errorNumber e ∧ (run host arguments).output = ""
        | .aborted _ => False
      | .err _ =>
        code.number = 2 ∧ (run host arguments).output = "" ∧
          (run host arguments).transcript.requests = []
      | .aborted _ => False) ∧
    ∀ fault, (run host arguments).ending = .aborted fault → (run host arguments).output = "" := by
  rw [run_of_request hrequest hlookup]
  unfold runConfigured
  cases hloaded : loadConfig host globals with
  | err e =>
      constructor
      · intro code hexit
        obtain ⟨hending, houtput⟩ := conclude_of_exit hexit
        obtain rfl := Ending.exit.inj hending
        exact ⟨by simp [ExitCode.number], rfl, houtput, requests_conclude_said _⟩
      · intro fault haborted
        exact output_conclude_of_aborted haborted fun _ => rfl
  | aborted fault =>
      constructor
      · intro code hexit
        contradiction
      · intro _ _
        rfl
  | ok config =>
      constructor
      · intro code hexit
        rcases reportRun_of_exit hexit with
          ⟨version, houtcome, rfl, houtput⟩ | ⟨e, houtcome, rfl, houtput⟩
        · rw [perform_outcome] at houtcome
          refine ⟨by simp [ExitCode.number, houtcome], ?_⟩
          simp only [houtcome]
          exact ⟨houtput, fun hplain => by rw [houtput, Report.line_of_notMem hplain]⟩
        · rw [perform_outcome] at houtcome
          have hnumber := number_ofError e
          refine ⟨?_, ?_⟩
          · rw [hnumber]
            cases e <;> simp [errorNumber, houtcome]
          · simp only [houtcome]
            exact ⟨hnumber, houtput⟩
      · intro fault haborted
        exact output_reportRun_of_aborted haborted

/-- A host whose network holds one marker. -/
def markerHost : Host where
  transport url :=
    if url = "https://dl.k8s.io/release/stable.txt" then .body (Text.Utf8.encode "v1.18.2\n")
    else .failure .opening (.http 404 "Not Found")
  home _ := none

/-- A version that is printed in its canonical form, and an address that cannot be asked for. -/
theorem markerHost_reports :
    (Request.ofArguments ["-q", "stable", "--semver"] =
        .ok (.run { quiet := true } (.stable true)) ∧
      (run markerHost ["-q", "stable", "--semver"]).ending = .exit .success ∧
      (run markerHost ["-q", "stable", "--semver"]).output = "1.18.2\n") ∧
    (Request.ofArguments ["-q", "marker", "x"] = .ok (.run { quiet := true } (.marker "x" false)) ∧
      (run markerHost ["-q", "marker", "x"]).ending = .exit .networkError ∧
      (run markerHost ["-q", "marker", "x"]).output = "") := by
  constructor
  · have hrequest : Request.ofArguments ["-q", "stable", "--semver"] =
        .ok (.run { quiet := true } (.stable true)) := by decide +kernel
    have hending : (run markerHost ["-q", "stable", "--semver"]).ending = .exit .success := by
      decide +kernel
    have hloaded : loadConfig markerHost { quiet := true } = .ok {} := by decide +kernel
    have hversion : operation markerHost {} (.stable true) = .ok "1.18.2" := by decide +kernel
    have hreport :=
      ((lookup_reports_operation markerHost hrequest trivial).1 .success hending).2
    simp only [hloaded, hversion] at hreport
    exact ⟨hrequest, hending, hreport.2 (by decide)⟩
  · have hrequest : Request.ofArguments ["-q", "marker", "x"] =
        .ok (.run { quiet := true } (.marker "x" false)) := by decide +kernel
    have hending : (run markerHost ["-q", "marker", "x"]).ending = .exit .networkError := by
      decide +kernel
    have hloaded : loadConfig markerHost { quiet := true } = .ok {} := by decide +kernel
    have herror : operation markerHost {} (.marker "x" false) =
        .err (.fetch ⟨"x", 0, "unknown url type: 'x'"⟩) := by
      decide +kernel
    have hreport :=
      ((lookup_reports_operation markerHost hrequest trivial).1 .networkError hending).2
    simp only [hloaded, herror] at hreport
    exact ⟨hrequest, hending, hreport.2⟩

end Program

end BuildVersion
