import BuildVersion.Outcome
import BuildVersion.Version.Error

/-!
Failures of a transport, and how they are handled. Their kinds lie below one another: an answer with
a status that is no success is a host out of reach, and this, like a time that has run out, is a
failure of input and output. The handlers are tried in turn, each for its kind and those below it.
-/

namespace BuildVersion.Fetch

open Version (FetchError)

inductive Failure
  /-- The server answers with a status that is no success. -/
  | http (status : Int) (reason : String)
  | unreachable (reason : String)
  | timedOut
  | invalid (message : String)
  | io (message : String)
  /-- A failure of another kind, such as a breach of the protocol. -/
  | foreign
  deriving DecidableEq, Repr

namespace Failure

inductive Kind
  | http
  | unreachable
  | timedOut
  | invalid
  | io
  | foreign
  deriving DecidableEq, Repr

/-- A kind and the kinds above it. -/
def Kind.lineage : Kind → List Kind
  | .http => [.http, .unreachable, .io]
  | .unreachable => [.unreachable, .io]
  | .timedOut => [.timedOut, .io]
  | .invalid => [.invalid]
  | .io => [.io]
  | .foreign => [.foreign]

def kind : Failure → Kind
  | http _ _ => .http
  | unreachable _ => .unreachable
  | timedOut => .timedOut
  | invalid _ => .invalid
  | io _ => .io
  | foreign => .foreign

/-- The status that the server answered with. -/
def status : Failure → Int
  | http status _ => status
  | _ => 0

/-- The reason that is given for a host out of reach. -/
def reason : Failure → String
  | http _ reason => reason
  | unreachable reason => reason
  | _ => ""

def text : Failure → String
  | http status reason => s!"HTTP Error {Numeral.text status}: {reason}"
  | unreachable reason => s!"<urlopen error {reason}>"
  | timedOut => "timed out"
  | invalid message => message
  | io message => message
  | foreign => ""

/-- What is answered for failures of a kind and of those below it. -/
structure Handler where
  kind : Kind
  status : Failure → Int := fun _ => 0
  message : Failure → String

/-- The handlers in the order in which they are tried. -/
def handlers : List Handler :=
  [{ kind := .http, status := status, message := reason },
   { kind := .unreachable, message := reason },
   { kind := .timedOut, message := fun _ => "Request timed out" },
   { kind := .invalid, message := text },
   { kind := .io, message := text }]

/-- A failure as an error about an address, as the first handler has it that is for its kind; a
failure that no handler is for stays one. -/
def outcome {α : Type} (url : String) (cause : Failure) : Outcome FetchError α :=
  match handlers.find? fun handler => handler.kind ∈ cause.kind.lineage with
  | some handler => .err ⟨url, handler.status cause, handler.message cause⟩
  | none => .aborted .transport

end Failure

end BuildVersion.Fetch
