import BuildVersion.Proofs.CommandLine.Quiet
import BuildVersion.Proofs.Console.Markup
import BuildVersion.Proofs.Program.Script

/-!
Quiet runs. A quiet terminal leaves out the progress messages, and it does not read them either.
So a quiet run differs from a loud one only in what it leaves out, unless the loud run breaks off
at a progress message that cannot be read as markup, over which the quiet one passes.
-/

namespace BuildVersion

open CommandLine (Command Globals Request)
open Console (Notice Terminal)
open Lookup (Event)

namespace Console

/-- Whether a notice tells of the progress. -/
def Notice.isProgress : Notice → Bool
  | .info _ => true
  | _ => false

namespace Terminal

def loud : Terminal := { quiet := false }

def silent : Terminal := { quiet := true }

theorem written_silent_of_isProgress {notice : Notice} (hnotice : notice.isProgress = true) :
    silent.written notice = .ok "" := by
  cases notice with
  | info message => rfl
  | _ => contradiction

theorem written_silent_of_not_isProgress {notice : Notice} (hnotice : notice.isProgress = false) :
    silent.written notice = loud.written notice := by
  cases notice with
  | info message => contradiction
  | _ => rfl

end Terminal

end Console

namespace Program

/-- The notices that a loud terminal shows, each with its text: all up to the first that cannot be
read. -/
def shown : List Event → List (Notice × String)
  | [] => []
  | .asked _ :: rest => shown rest
  | .said notice :: rest =>
    match Terminal.loud.written notice with
    | .ok text => (notice, text) :: shown rest
    | .error _ => []

/-- What breaks a loud run off over a progress message, with the events that are left. -/
def interruption? : List Event → Option (Fault × List Event)
  | [] => none
  | .asked _ :: rest => interruption? rest
  | .said notice :: rest =>
    match Terminal.loud.written notice with
    | .ok _ => interruption? rest
    | .error fault => if notice.isProgress then some (fault, rest) else none

/-- The texts of notices, one after the other. -/
def joined (notices : List (Notice × String)) : String :=
  String.join (notices.map (·.2))

/-- The notices that do not tell of the progress. -/
def withoutProgress (notices : List (Notice × String)) : List (Notice × String) :=
  notices.filter fun notice => !notice.1.isProgress

/-- A quiet transcript leaves the progress out of what is shown and asks for the same. -/
structure Quiets (notices : List (Notice × String)) (loud quiet : Transcript) : Prop where
  requests : quiet.requests = loud.requests
  loud_messages : loud.messages = joined notices
  quiet_messages : quiet.messages = joined (withoutProgress notices)

/-- A quiet report is a loud one that leaves the progress out of what is shown. -/
structure HidesProgress (notices : List (Notice × String)) (loud quiet : Report) : Prop where
  ending : quiet.ending = loud.ending
  output : quiet.output = loud.output
  transcript : Quiets notices loud.transcript quiet.transcript

namespace Quiets

theorem empty : Quiets [] {} {} where
  requests := rfl
  loud_messages := rfl
  quiet_messages := rfl

theorem append {notices others : List (Notice × String)} {t u t' u' : Transcript}
    (h : Quiets notices t u) (h' : Quiets others t' u') :
    Quiets (notices ++ others) (t.append t') (u.append u') where
  requests := by
    rw [Transcript.append, Transcript.append, h.requests, h'.requests]
  loud_messages := by
    rw [Transcript.append, h.loud_messages, h'.loud_messages]
    simp [joined, String.join_append]
  quiet_messages := by
    rw [Transcript.append, h.quiet_messages, h'.quiet_messages]
    simp [joined, withoutProgress, String.join_append]

end Quiets

/-- A loud and a quiet run of the same events come to two transcripts. Without an interruption both
end alike there; at one the loud run breaks off and the quiet run goes on. -/
def PlayTo (client : Fetch.Client) (events : List Event) (t u : Transcript) :
    Option (Fault × List Event) → Prop
  | none => ∃ fault?, ({} : Transcript).play Terminal.loud client events = (t, fault?) ∧
      ({} : Transcript).play Terminal.silent client events = (u, fault?)
  | some (fault, rest) =>
    ({} : Transcript).play Terminal.loud client events = (t, some fault) ∧
      ({} : Transcript).play Terminal.silent client events =
        u.andThen (({} : Transcript).play Terminal.silent client rest)

section Plays

variable {client : Fetch.Client} {events : List Event} {notice : Notice}

theorem PlayTo.cons {event : Event} {t u t' u' : Transcript} {cut : Option (Fault × List Event)}
    (hloud : ({} : Transcript).push Terminal.loud client event = .ok t)
    (hquiet : ({} : Transcript).push Terminal.silent client event = .ok u)
    (hplay : PlayTo client events t' u' cut) :
    PlayTo client (event :: events) (t.append t') (u.append u') cut := by
  cases cut with
  | none =>
      obtain ⟨fault?, hloudRest, hquietRest⟩ := hplay
      refine ⟨fault?, ?_, ?_⟩
      · rw [Transcript.play_cons_of_ok hloud, hloudRest, Transcript.andThen]
      · rw [Transcript.play_cons_of_ok hquiet, hquietRest, Transcript.andThen]
  | some interruption =>
      obtain ⟨hloudRest, hquietRest⟩ := hplay
      constructor
      · rw [Transcript.play_cons_of_ok hloud, hloudRest, Transcript.andThen]
      · rw [Transcript.play_cons_of_ok hquiet, hquietRest, Transcript.andThen_andThen]

theorem exists_quiets_push {text : String} (hwritten : Terminal.loud.written notice = .ok text) :
    ∃ t u : Transcript, ({} : Transcript).push Terminal.loud client (.said notice) = .ok t ∧
      ({} : Transcript).push Terminal.silent client (.said notice) = .ok u ∧
      Quiets [(notice, text)] t u := by
  have hloud : ({} : Transcript).push Terminal.loud client (.said notice) = .ok ⟨text, []⟩ := by
    rw [Transcript.push_said, hwritten]
    rfl
  have hjoined : joined [(notice, text)] = text := by simp [joined, String.join]
  cases hprogress : notice.isProgress with
  | true =>
      refine ⟨⟨text, []⟩, {}, hloud, ?_, ?_⟩
      · rw [Transcript.push_said, Terminal.written_silent_of_isProgress hprogress]
        rfl
      · refine ⟨rfl, hjoined.symm, ?_⟩
        simp [joined, withoutProgress, hprogress]
  | false =>
      refine ⟨⟨text, []⟩, ⟨text, []⟩, hloud, ?_, ?_⟩
      · rw [Transcript.push_said, Terminal.written_silent_of_not_isProgress hprogress, hwritten]
        rfl
      · refine ⟨rfl, hjoined.symm, ?_⟩
        simp [hjoined, withoutProgress, hprogress]

theorem playTo_of_unreadable {fault : Fault}
    (hwritten : Terminal.loud.written notice = .error fault) :
    PlayTo client (.said notice :: events) {} {} (interruption? (.said notice :: events)) := by
  have hloud : ({} : Transcript).push Terminal.loud client (.said notice) = .error fault := by
    rw [Transcript.push_said, hwritten]
    rfl
  simp only [interruption?, hwritten]
  cases hprogress : notice.isProgress with
  | true =>
      have hquiet : ({} : Transcript).push Terminal.silent client (.said notice) = .ok {} := by
        rw [Transcript.push_said, Terminal.written_silent_of_isProgress hprogress]
        rfl
      exact ⟨Transcript.play_cons_of_error hloud, Transcript.play_cons_of_ok hquiet⟩
  | false =>
      have hquiet : ({} : Transcript).push Terminal.silent client (.said notice) =
          .error fault := by
        rw [Transcript.push_said, Terminal.written_silent_of_not_isProgress hprogress, hwritten]
        rfl
      exact ⟨some fault, Transcript.play_cons_of_error hloud, Transcript.play_cons_of_error hquiet⟩

/-- Event by event, a quiet run leaves out what a loud run shows of the progress, until the loud
run is interrupted. -/
theorem exists_quiets_playTo (client : Fetch.Client) (events : List Event) :
    ∃ t u : Transcript, Quiets (shown events) t u ∧
      PlayTo client events t u (interruption? events) := by
  induction events with
  | nil => exact ⟨{}, {}, .empty, none, rfl, rfl⟩
  | cons event rest ih =>
      obtain ⟨t, u, hquiets, hplay⟩ := ih
      cases event with
      | asked url =>
          have hsent : Quiets [] ⟨"", (client.requests url).map (·.url)⟩
              ⟨"", (client.requests url).map (·.url)⟩ := ⟨rfl, rfl, rfl⟩
          refine ⟨_, _, hsent.append hquiets, ?_⟩
          simp only [interruption?]
          exact hplay.cons (Transcript.push_asked url) (Transcript.push_asked url)
      | said notice =>
          cases hwritten : Terminal.loud.written notice with
          | ok text =>
              obtain ⟨t', u', hloud, hquiet, hquietsHead⟩ := exists_quiets_push hwritten
              refine ⟨t'.append t, u'.append u, ?_, ?_⟩
              · simp only [shown, hwritten]
                exact hquietsHead.append hquiets
              · simp only [interruption?, hwritten]
                exact hplay.cons hloud hquiet
          | error fault =>
              -- a loud run ends here, so nothing is known of the events that are left
              refine ⟨{}, {}, ?_, playTo_of_unreadable hwritten⟩
              simp only [shown, hwritten]
              exact .empty

end Plays

theorem Quiets.append_iff {notices : List (Notice × String)} {t u : Transcript}
    (hquiets : Quiets notices t u) (more : Transcript) :
    Quiets notices t (u.append more) ↔ more = {} := by
  constructor
  · intro happend
    have hrequests : u.requests ++ more.requests = u.requests :=
      happend.requests.trans hquiets.requests.symm
    have hmessages : u.messages ++ more.messages = u.messages :=
      happend.quiet_messages.trans hquiets.quiet_messages.symm
    obtain ⟨messages, requests⟩ := more
    obtain rfl : requests = [] := List.append_right_eq_self.mp hrequests
    obtain rfl : messages = "" := by simpa using hmessages
    rfl
  · rintro rfl
    rw [Transcript.append_empty]
    exact hquiets

/-- A quiet run hides the progress and nothing else exactly if, wherever a loud run is interrupted,
the rest of the quiet one says and asks for nothing and breaks off alike. -/
theorem Script.hidesProgress_iff (script : Script) :
    HidesProgress (shown script.events) (script.report Terminal.loud)
        (script.report Terminal.silent) ↔
      ∀ fault rest, interruption? script.events = some (fault, rest) →
        { script with events := rest }.report Terminal.silent = { ending := .aborted fault } := by
  obtain ⟨t, u, hquiets, hplay⟩ := exists_quiets_playTo script.client script.events
  cases hcut : interruption? script.events with
  | none =>
      rw [hcut] at hplay
      obtain ⟨fault?, hloud, hquiet⟩ := hplay
      rw [report_of_play hloud, report_of_play hquiet]
      constructor
      · intro _ fault rest hsome
        contradiction
      · intro _
        exact ⟨rfl, rfl, hquiets⟩
  | some interruption =>
      obtain ⟨fault, rest⟩ := interruption
      rw [hcut] at hplay
      obtain ⟨hloud, hquiet⟩ := hplay
      let left := ({} : Transcript).play Terminal.silent script.client rest
      have hrest : { script with events := rest }.report Terminal.silent =
          ⟨(script.closing left.2).1, (script.closing left.2).2, left.1⟩ := report_of_play rfl
      rw [report_of_play hloud, report_of_play hquiet]
      constructor
      · intro hhides fault' rest' hsome
        obtain ⟨rfl, rfl⟩ : fault = fault' ∧ rest = rest' := by simpa using hsome
        rw [hrest, Report.mk.injEq]
        exact ⟨hhides.ending, hhides.output, (hquiets.append_iff _).mp hhides.transcript⟩
      · intro hbreaks
        have hreport := hbreaks fault rest rfl
        rw [hrest, Report.mk.injEq] at hreport
        obtain ⟨hending, houtput, htranscript⟩ := hreport
        exact ⟨hending, houtput, (hquiets.append_iff _).mpr htranscript⟩

theorem interruption?_eq_none_of_notMem {events : List Event}
    (hplain : ∀ message, .said (.info message) ∈ events → '[' ∉ message.toList) :
    interruption? events = none := by
  induction events with
  | nil => rfl
  | cons event rest ih =>
      have hrest := ih fun message hmessage => hplain message (List.mem_cons_of_mem event hmessage)
      cases event with
      | asked url => exact hrest
      | said notice =>
          simp only [interruption?]
          cases hwritten : Terminal.loud.written notice with
          | ok text => exact hrest
          | error fault =>
              cases notice with
              | info message =>
                  obtain ⟨text, htext⟩ := Terminal.loud.exists_written_info_of_notMem
                    (hplain message List.mem_cons_self)
                  rw [htext] at hwritten
                  contradiction
              | _ => rfl

/-- With `-q` a command hides its progress and changes nothing else, exactly if wherever the run
without it is interrupted over a progress message the quiet one breaks off alike, with nothing more
said or asked for. So it is for every command none of whose progress messages has an opening
bracket. A command line that asks for no command, or has the option already, is run as before. -/
theorem quiet_hides_progress_iff (host : Host) (arguments : List String) :
    (∀ path command, Request.ofArguments arguments = .ok (.run ⟨path, false⟩ command) →
      let script := Script.ofCommand host path command
      (HidesProgress (shown script.events) (run host arguments) (run host ("-q" :: arguments)) ↔
        ∀ fault rest, interruption? script.events = some (fault, rest) →
          { script with events := rest }.report Terminal.silent = { ending := .aborted fault }) ∧
      ((∀ message, .said (.info message) ∈ script.events → '[' ∉ message.toList) →
        HidesProgress (shown script.events) (run host arguments)
          (run host ("-q" :: arguments)))) ∧
    ((∀ path command, Request.ofArguments arguments ≠ .ok (.run ⟨path, false⟩ command)) →
      run host ("-q" :: arguments) = run host arguments) := by
  have hquieted := Request.ofArguments_quiet arguments
  constructor
  · intro path command hrequest
    rw [hrequest] at hquieted
    have hiff := (Script.ofCommand host path command).hidesProgress_iff
    rw [run_of_ok hrequest, run_of_ok hquieted]
    refine ⟨hiff, fun hplain => hiff.mpr ?_⟩
    intro fault rest hcut
    rw [interruption?_eq_none_of_notMem hplain] at hcut
    contradiction
  · intro hnone
    unfold run
    rw [hquieted]
    cases hrequest : Request.ofArguments arguments with
    | err e => rfl
    | aborted fault => rfl
    | ok request =>
        cases request with
        | help => rfl
        | version => rfl
        | run globals command =>
            obtain ⟨path, quiet⟩ := globals
            cases quiet with
            | true => rfl
            | false => exact absurd hrequest (hnone path command)

def plainUrl : String := "https://host/latest.txt"

def taggedUrl : String := "https://host/latest.txt?path=[/release]"

/-- A host whose network holds one marker under two addresses, of which one has a closing tag. -/
def taggedHost : Host where
  transport url :=
    if url = plainUrl ∨ url = taggedUrl then .body (Text.Utf8.encode "v1.18.2\n")
    else .failure .opening (.http 404 "Not Found")
  home _ := none

/-- A lookup whose progress is hidden, and a command line that is quiet already. -/
theorem plainUrl_progress_hidden :
    (Request.ofArguments ["marker", plainUrl] = .ok (.run ⟨none, false⟩ (.marker plainUrl false)) ∧
      HidesProgress (shown (Script.ofCommand taggedHost none (.marker plainUrl false)).events)
        (run taggedHost ["marker", plainUrl]) (run taggedHost ["-q", "marker", plainUrl])) ∧
    (Request.ofArguments ["-q", "repo-url"] = .ok (.run ⟨none, true⟩ (.repoUrl false)) ∧
      run taggedHost ["-q", "-q", "repo-url"] = run taggedHost ["-q", "repo-url"]) := by
  constructor
  · have hrequest : Request.ofArguments ["marker", plainUrl] =
        .ok (.run ⟨none, false⟩ (.marker plainUrl false)) := by decide +kernel
    have hevents : (Script.ofCommand taggedHost none (.marker plainUrl false)).events =
        [Lookup.info "Retrieving Kubernetes build version from https://host/latest.txt...",
          .asked plainUrl, Lookup.info "Retrieved Kubernetes version: v1.18.2"] := by
      decide +kernel
    refine ⟨hrequest, ((quiet_hides_progress_iff taggedHost _).1 none _ hrequest).2 ?_⟩
    intro message hmessage
    rw [hevents] at hmessage
    simp only [Lookup.info, List.mem_cons, Event.said.injEq, Notice.info.injEq, reduceCtorEq,
      List.not_mem_nil, or_false, false_or] at hmessage
    rcases hmessage with rfl | rfl <;> decide
  · have hrequest : Request.ofArguments ["-q", "repo-url"] =
        .ok (.run ⟨none, true⟩ (.repoUrl false)) := by decide +kernel
    refine ⟨hrequest, (quiet_hides_progress_iff taggedHost _).2 ?_⟩
    intro path command hother
    rw [hrequest] at hother
    simp at hother

/-- The loud run breaks off at the address before anything is asked for; the quiet run prints the
version. -/
theorem taggedUrl_progress_not_hidden :
    Request.ofArguments ["marker", taggedUrl] =
        .ok (.run ⟨none, false⟩ (.marker taggedUrl false)) ∧
      run taggedHost ["marker", taggedUrl] = { ending := .aborted .unmatchedTag } ∧
      run taggedHost ["-q", "marker", taggedUrl] =
        ⟨.exit .success, "v1.18.2\n", { requests := [taggedUrl] }⟩ ∧
      ∀ notices, ¬HidesProgress notices (run taggedHost ["marker", taggedUrl])
        (run taggedHost ["-q", "marker", taggedUrl]) := by
  have hloud : run taggedHost ["marker", taggedUrl] = { ending := .aborted .unmatchedTag } := by
    decide +kernel
  have hquiet : run taggedHost ["-q", "marker", taggedUrl] =
      ⟨.exit .success, "v1.18.2\n", { requests := [taggedUrl] }⟩ := by
    decide +kernel
  refine ⟨by decide +kernel, hloud, hquiet, ?_⟩
  intro notices hhides
  have hending := hhides.ending
  rw [hloud, hquiet] at hending
  contradiction

end Program

end BuildVersion
