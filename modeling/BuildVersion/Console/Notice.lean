namespace BuildVersion.Console

inductive Style
  | default
  | error
  | warning
  | info
  | dim
  deriving DecidableEq, Repr

def Style.name : Style → String
  | .default => "default"
  | .error => "error"
  | .warning => "warning"
  | .info => "info"
  | .dim => "dim"

inductive Notice
  | plain (message : String) (style : Style)
  | info (message : String)
  | warning (message : String)
  | error (message : String)
  deriving DecidableEq, Repr

structure Record where
  message : String
  style : Style
  deriving DecidableEq, Repr

/-- A levelled notice shows its level in front of its message. -/
def Notice.record : Notice → Record
  | .plain message style => ⟨message, style⟩
  | .info message => ⟨"info: " ++ message, .info⟩
  | .warning message => ⟨"warning: " ++ message, .warning⟩
  | .error message => ⟨"error: " ++ message, .error⟩

end BuildVersion.Console
