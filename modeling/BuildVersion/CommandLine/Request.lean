import BuildVersion.CommandLine.Command
import BuildVersion.Text.Alphanumeric

/-!
Requests: what a whole command line asks for. Options of the program stand before the command and
options of the command after it. Help is given where it is asked for, where there is no command,
and where the name of the command could not be one.
-/

namespace BuildVersion.CommandLine

structure Globals where
  config : Option String := none
  quiet : Bool := false
  deriving DecidableEq, Repr

inductive Request
  | help
  | version
  | run (globals : Globals) (command : Command)
  deriving DecidableEq, Repr

namespace Request

def versionSwitch : Switch := { name := "version" }

def configSwitch : Switch := { name := "config", takesValue := true }

def quietSwitch : Switch := { name := "quiet", short := some 'q' }

def switches : List Switch := [versionSwitch, configSwitch, quietSwitch, Verb.helpSwitch]

/-- Whether a name could be that of a command: it is empty or begins with a letter or a
number of any script. -/
def isName (name : String) : Bool :=
  match name.toList with
  | [] => true
  | c :: _ => Text.isAlphanumeric c

def ofVerb (globals : Globals) (verb : Verb) (arguments : List String) :
    Outcome UsageError Request :=
  (Outcome.ofExcept (separate verb.switches true arguments)).bind fun (settings, others) =>
  if Setting.has settings Verb.helpSwitch.name then .ok .help
  else (Command.ofVerb verb settings others).map (.run globals)

/-- The request of a command line. The version is shown only if the command, where there is one,
is known. -/
def ofArguments (arguments : List String) : Outcome UsageError Request :=
  (Outcome.ofExcept (separate switches false arguments)).bind fun (settings, others) =>
  if Setting.has settings Verb.helpSwitch.name then .ok .help
  else
    let config := Setting.last? settings configSwitch.name
    let asked : Request :=
      if Setting.has settings versionSwitch.name then .version else .help
    (Command.checkPath (config.getD "")).bind fun _ =>
    match others with
    | [] => .ok asked
    | name :: rest =>
      match Verb.ofString? name with
      | none => if isName name then .err (.unknownCommand name) else .ok .help
      | some verb =>
        if asked = .version then .ok .version
        else ofVerb ⟨config, Setting.has settings quietSwitch.name⟩ verb rest

end Request

end BuildVersion.CommandLine
