import BuildVersion.Console.Markup
import BuildVersion.Console.Notice

namespace BuildVersion.Console

structure Terminal where
  quiet : Bool := false
  /-- How many cells a line has. -/
  width : Nat := 5000
  deriving DecidableEq, Repr

namespace Terminal

/-- A notice as markup: its level stands in a tag of its own colour. -/
def source : Notice → String
  | .plain message _ => message
  | .info message => "[cyan]info:[/cyan] " ++ message
  | .warning message => "[yellow]warning:[/yellow] " ++ message
  | .error message => "[red bold]error:[/red bold] " ++ message

/-- Whether a notice is passed over without being read. -/
def hides (t : Terminal) : Notice → Bool
  | .info _ => t.quiet
  | _ => false

def written (t : Terminal) (notice : Notice) : Except Fault String :=
  if t.hides notice then .ok ""
  else
    (Markup.lines t.width (source notice).toList).map fun lines =>
      String.ofList (lines.flatMap fun line => line ++ ['\n'])

end Terminal

end BuildVersion.Console
