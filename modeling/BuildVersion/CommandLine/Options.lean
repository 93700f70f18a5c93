import BuildVersion.Text.Split

namespace BuildVersion.CommandLine

/-- Why arguments cannot be understood. -/
inductive UsageError
  | unknownOption (text : String)
  | missingValue (option : String)
  | unexpectedValue (option : String)
  | unknownCommand (name : String)
  | missingArgument
  | extraArgument
  deriving DecidableEq, Repr

def UsageError.message : UsageError → String
  | unknownOption text => "no such option: " ++ text
  | missingValue option => "option --" ++ option ++ " needs a value"
  | unexpectedValue option => "option --" ++ option ++ " takes no value"
  | unknownCommand name => "no such command: " ++ name
  | missingArgument => "an argument is missing"
  | extraArgument => "there are too many arguments"

structure Switch where
  name : String
  short : Option Char := none
  takesValue : Bool := false
  deriving DecidableEq, Repr

/-- An option that was given, with its value if it takes one. -/
structure Setting where
  name : String
  value : Option String := none
  deriving DecidableEq, Repr

namespace Switch

/-- The name as it is written among the arguments. -/
def longText (switch : Switch) : List Char :=
  '-' :: '-' :: switch.name.toList

/-- The flags that letters after one hyphen give. -/
def flags (switches : List Switch) (letters : List Char) : Except UsageError (List Setting) :=
  letters.mapM fun letter =>
    match switches.find? (·.short = some letter) with
    | some switch => .ok ⟨switch.name, none⟩
    | none => .error (.unknownOption (String.ofList ['-', letter]))

end Switch

/-- What an argument that begins with a hyphen gives: settings, or an option whose value is the
next argument. -/
inductive Given
  | settings (list : List Setting)
  | pending (name : String)
  deriving DecidableEq, Repr

def readOption (switches : List Switch) (argument : List Char) : Except UsageError Given :=
  let (text, value) := Text.cut '=' argument
  match switches.find? (·.longText = text) with
  | some switch =>
    match switch.takesValue, value with
    | true, some value => .ok (.settings [⟨switch.name, some (String.ofList value)⟩])
    | true, none => .ok (.pending switch.name)
    | false, some _ => .error (.unexpectedValue switch.name)
    | false, none => .ok (.settings [⟨switch.name, none⟩])
  | none =>
    if argument.take 2 = ['-', '-'] then .error (.unknownOption (String.ofList text))
    else (Switch.flags switches argument.tail).map .settings

/-- Whether an argument is read as an option: a lone hyphen is none. -/
def isOption (argument : List Char) : Bool :=
  argument.head? = some '-' && argument.length ≠ 1

/-- The settings and the other arguments. Where `mixed` is false, the first argument that is no
option ends the options. -/
def separate (switches : List Switch) (mixed : Bool) :
    List String → Except UsageError (List Setting × List String)
  | [] => .ok ([], [])
  | argument :: rest =>
    if argument = "--" then .ok ([], rest)
    else if isOption argument.toList then
      match readOption switches argument.toList with
      | .error e => .error e
      | .ok (.settings list) =>
        (separate switches mixed rest).map fun (settings, others) => (list ++ settings, others)
      | .ok (.pending name) =>
        match rest with
        | [] => .error (.missingValue name)
        | value :: rest =>
          (separate switches mixed rest).map fun (settings, others) =>
            (⟨name, some value⟩ :: settings, others)
    else if mixed then
      (separate switches mixed rest).map fun (settings, others) => (settings, argument :: others)
    else .ok ([], argument :: rest)

namespace Setting

def has (settings : List Setting) (name : String) : Bool :=
  settings.any (·.name = name)

/-- The value that was given last for an option. -/
def last? (settings : List Setting) (name : String) : Option String :=
  (settings.reverse.find? (·.name = name)).bind (·.value)

end Setting

end BuildVersion.CommandLine
