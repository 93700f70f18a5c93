import BuildVersion.Number.Shortest
import BuildVersion.Settings.Value
import BuildVersion.Text.Blank
import BuildVersion.Version.SemVer

namespace BuildVersion.Inspection

open Settings (Key Value)

def shownKey : Key → String
  | .text s => Text.quoted s
  | .integer n => Numeral.text n
  | .real x => x.text
  | .flag b => if b then "True" else "False"
  | .nothing => "None"

mutual

/-- A value in one line. -/
def shown : Value → String
  | .text s => Text.quoted s
  | .integer n => Numeral.text n
  | .real x => x.text
  | .flag b => if b then "True" else "False"
  | .nothing => "None"
  | .moment written => written
  | .list values => "[" ++ ", ".intercalate (shownValues values) ++ "]"
  | .table entries => "\x7b" ++ ", ".intercalate (shownEntries entries) ++ "\x7d"

def shownValues : List Value → List String
  | [] => []
  | v :: rest => shown v :: shownValues rest

def shownEntries : List (Key × Value) → List String
  | [] => []
  | (k, v) :: rest => (shownKey k ++ ": " ++ shown v) :: shownEntries rest

end

inductive Operation
  | trim
  | length
  | normalize
  deriving DecidableEq, Repr

open Version in
/-- A normalised version, or the error in its place, in one line. -/
def normalized : Outcome FormatError String → Outcome Value String
  | .ok t => .ok s!"Ok({Text.quoted t})"
  | .err e =>
    .ok s!"Err(FormatError(value={Text.quoted e.value}, message={Text.quoted e.message}))"
  | .aborted fault => .aborted fault

/-- Applies an operation. Texts alone are trimmed and normalised; lists and tables have a length
as well. -/
def apply : Operation → Value → Outcome Value Value
  | .trim, .text s => .ok (.text (Text.trimmed s))
  | .trim, _ => .aborted .wrongKind
  | .length, .text s => .ok (.integer s.length)
  | .length, .list values => .ok (.integer values.length)
  | .length, .table entries => .ok (.integer entries.length)
  | .length, _ => .aborted .wrongKind
  | .normalize, .text s => (normalized (Version.normalize s)).map .text
  | .normalize, _ => .aborted .noText

def shown? : Outcome Value Value → Outcome Value String
  | .ok v => .ok s!"Ok({shown v})"
  | .err v => .ok s!"Err({shown v})"
  | .aborted fault => .aborted fault

/-- The outcome at first and after each operation, each in one line. -/
def trace (x : Outcome Value Value) : List Operation → Outcome Value (List String)
  | [] => (shown? x).map ([·])
  | operation :: rest =>
    (shown? x).bind fun line => (trace (x.bind (apply operation)) rest).map (line :: ·)

end BuildVersion.Inspection
