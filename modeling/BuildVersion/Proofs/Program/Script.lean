import BuildVersion.Program.Run

namespace BuildVersion

open CommandLine (Command Globals Request)
open Lookup (Event Run)

namespace Transcript

variable {terminal : Console.Terminal} {client : Fetch.Client} {events : List Event}

def append (t u : Transcript) : Transcript :=
  ⟨t.messages ++ u.messages, t.requests ++ u.requests⟩

theorem append_empty (t : Transcript) : t.append {} = t := by
  simp [append]

theorem append_assoc (t u v : Transcript) : (t.append u).append v = t.append (u.append v) := by
  simp [append, String.append_assoc]

/-- Puts a transcript in front of what is played later. -/
def andThen (t : Transcript) (played : Transcript × Option Fault) : Transcript × Option Fault :=
  (t.append played.1, played.2)

theorem andThen_andThen (t u : Transcript) (played : Transcript × Option Fault) :
    t.andThen (u.andThen played) = (t.append u).andThen played := by
  rw [andThen, andThen, andThen, append_assoc]

theorem push_said (notice : Console.Notice) :
    ({} : Transcript).push terminal client (.said notice) =
      (terminal.written notice).map fun text => ⟨text, []⟩ := by
  simp [push]

theorem push_asked (url : String) :
    ({} : Transcript).push terminal client (.asked url) =
      .ok ⟨"", (client.requests url).map (·.url)⟩ := by
  simp [push]

theorem push_eq_map (t : Transcript) (event : Event) :
    t.push terminal client event = (({} : Transcript).push terminal client event).map t.append := by
  cases event with
  | said notice =>
      simp only [push]
      cases terminal.written notice <;> simp [Except.map, append]
  | asked url => simp [push, Except.map, append]

theorem play_eq_andThen (t : Transcript) :
    t.play terminal client events = t.andThen (({} : Transcript).play terminal client events) := by
  induction events generalizing t with
  | nil => simp [play, andThen, append_empty]
  | cons event rest ih =>
      simp only [play]
      rw [push_eq_map t]
      cases ({} : Transcript).push terminal client event with
      | error fault => simp [Except.map, andThen, append_empty]
      | ok u =>
          simp only [Except.map]
          rw [ih (t.append u), ih u, andThen_andThen]

theorem play_cons_of_ok {event : Event} {t : Transcript}
    (hpush : ({} : Transcript).push terminal client event = .ok t) :
    ({} : Transcript).play terminal client (event :: events) =
      t.andThen (({} : Transcript).play terminal client events) := by
  rw [play, hpush]
  exact play_eq_andThen t

theorem play_cons_of_error {event : Event} {fault : Fault}
    (hpush : ({} : Transcript).push terminal client event = .error fault) :
    ({} : Transcript).play terminal client (event :: events) = ({}, some fault) := by
  rw [play, hpush]

end Transcript

namespace Program

/-- What a run says and asks for in order, how it ends and what it prints. -/
structure Script where
  client : Fetch.Client := {}
  events : List Event := []
  ending : Ending
  output : String := ""

namespace Script

def report (script : Script) (terminal : Console.Terminal) : Report :=
  conclude terminal script.client script.events script.ending script.output

/-- How a script ends and what it prints after its events, which a fault may have cut short. -/
def closing (script : Script) : Option Fault → Ending × String
  | none => (script.ending, script.output)
  | some fault => (.aborted fault, "")

theorem report_of_play {script : Script} {terminal : Console.Terminal} {t : Transcript}
    {fault? : Option Fault}
    (hplay : ({} : Transcript).play terminal script.client script.events = (t, fault?)) :
    script.report terminal = ⟨(script.closing fault?).1, (script.closing fault?).2, t⟩ := by
  rw [report, conclude, hplay]
  cases fault? <;> rfl

/-- The script of an operation: its version is printed, its error is explained. -/
def ofRun (client : Fetch.Client) (run : Run) : Script :=
  match run.outcome with
  | .ok version => ⟨client, run.events, .exit .success, Report.line version⟩
  | .err e => ⟨client, run.events ++ e.notices.map .said, .exit (.ofError e), ""⟩
  | .aborted fault => ⟨client, run.events, .aborted fault, ""⟩

/-- The script of a command whose configuration was loaded, or was not. -/
def ofLoaded (host : Host) (command : Command) : Outcome Config.LoadError Config → Script
  | .ok config => ofRun (clientOf config) (perform host config command)
  | .err e => { events := (loadNotices e).map .said, ending := .exit .environmentError }
  | .aborted fault => { ending := .aborted fault }

def ofCommand (host : Host) (path : Option String) : Command → Script
  | .validate text =>
    { ending := .exit (if Version.Release.isValid text then .success else .userError),
      output := Report.line (verdict text) }
  | command => ofLoaded host command (loadConfig host { config := path })

end Script

theorem reportRun_eq_report (terminal : Console.Terminal) (client : Fetch.Client) (run : Run) :
    reportRun terminal client run = (Script.ofRun client run).report terminal := by
  unfold reportRun Script.ofRun
  cases run.outcome <;> rfl

theorem runConfigured_eq_report (host : Host) (globals : Globals) (command : Command) :
    runConfigured host globals command =
      (Script.ofLoaded host command (loadConfig host globals)).report { quiet := globals.quiet } := by
  unfold runConfigured
  cases loadConfig host globals with
  | ok config => exact reportRun_eq_report _ _ _
  | err e => rfl
  | aborted fault => rfl

/-- A command is run by showing its script. -/
theorem runCommand_eq_report (host : Host) (globals : Globals) (command : Command) :
    runCommand host globals command =
      (Script.ofCommand host globals.config command).report { quiet := globals.quiet } := by
  cases command with
  | validate text => rfl
  | _ => exact runConfigured_eq_report host globals _

theorem run_of_ok {host : Host} {arguments : List String} {globals : Globals} {command : Command}
    (hrequest : Request.ofArguments arguments = .ok (.run globals command)) :
    run host arguments =
      (Script.ofCommand host globals.config command).report { quiet := globals.quiet } := by
  simp only [run, hrequest]
  exact runCommand_eq_report host globals command

end Program

end BuildVersion
