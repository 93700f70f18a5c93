import BuildVersion.CommandLine.Options
import BuildVersion.Console.Terminal
import BuildVersion.ExitCode
import BuildVersion.Fault
import BuildVersion.Fetch.Client
import BuildVersion.Lookup.Resolver

namespace BuildVersion

/-- How a run of the program ends. -/
inductive Ending
  | exit (code : ExitCode)
  | help
  | misused (error : CommandLine.UsageError)
  | aborted (fault : Fault)
  deriving DecidableEq, Repr

/-- What was written to the terminal, and which addresses were sent for. -/
structure Transcript where
  messages : String := ""
  requests : List String := []
  deriving DecidableEq, Repr

structure Report where
  ending : Ending
  output : String := ""
  transcript : Transcript := {}
  deriving DecidableEq, Repr

namespace Transcript

open Lookup (Event)

def push (terminal : Console.Terminal) (client : Fetch.Client) (t : Transcript) :
    Event → Except Fault Transcript
  | .said notice =>
    (terminal.written notice).map fun text => { t with messages := t.messages ++ text }
  | .asked url => .ok { t with requests := t.requests ++ (client.requests url).map (·.url) }

/-- The transcript after events up to the first fault, and that fault. -/
def play (terminal : Console.Terminal) (client : Fetch.Client) (t : Transcript) :
    List Event → Transcript × Option Fault
  | [] => (t, none)
  | event :: rest =>
    match t.push terminal client event with
    | .error fault => (t, some fault)
    | .ok t => play terminal client t rest

end Transcript

namespace Report

/-- Whether a character may stand between the bracket and the letter of a sequence that steers a
terminal. -/
def isParameter (c : Char) : Bool :=
  c == ';' || c == '?' || Text.isAsciiDigit c

/-- What follows a sequence that steers a terminal: an escape character, a bracket, parameters and
a letter. -/
def afterControl? : List Char → Option (List Char)
  | '\x1b' :: '[' :: rest =>
    match rest.dropWhile isParameter with
    | c :: after => if Text.isAsciiLetter c then some after else none
    | [] => none
  | _ => none

theorem length_lt_of_afterControl? {s after : List Char} (h : afterControl? s = some after) :
    after.length < s.length := by
  unfold afterControl? at h
  split at h
  · next rest =>
      have hrest : (rest.dropWhile isParameter).length ≤ rest.length :=
        (List.dropWhile_suffix _).length_le
      split at h
      · next c letter hletter =>
          rw [hletter, List.length_cons] at hrest
          split at h
          · rw [← Option.some.inj h, List.length_cons, List.length_cons]
            omega
          · contradiction
      · contradiction
  · contradiction

/-- What is left of a text without the sequences that steer a terminal. -/
def withoutControl (s : List Char) : List Char :=
  match _h : afterControl? s with
  | some after => withoutControl after
  | none =>
    match s with
    | [] => []
    | c :: rest => c :: withoutControl rest
termination_by s.length
decreasing_by
  · exact length_lt_of_afterControl? _h
  · exact Nat.lt_succ_self _

def line (text : String) : String :=
  String.ofList (withoutControl text.toList ++ ['\n'])

end Report

end BuildVersion
