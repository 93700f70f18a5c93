import BuildVersion.Number.Binary64
import BuildVersion.Outcome
import BuildVersion.Text.Blank

namespace BuildVersion.Settings

/-- The key of an entry; only texts are looked up. -/
inductive Key
  | text (s : String)
  | integer (n : Int)
  | real (x : Binary64)
  | flag (b : Bool)
  | nothing
  deriving DecidableEq, Repr

inductive Value
  | text (s : String)
  | integer (n : Int)
  | real (x : Binary64)
  | flag (b : Bool)
  | nothing
  /-- A date, a time or both, as it was written. -/
  | moment (written : String)
  | list (values : List Value)
  | table (entries : List (Key × Value))
  deriving Repr, Inhabited

/-- A table all of whose keys are texts. -/
abbrev Table := List (String × Value)

def textEntry? : Key × Value → Option (String × Value)
  | (.text s, v) => some (s, v)
  | _ => none

namespace Value

/-- The value as a table, if it is one and all its keys are texts. -/
def table? : Value → Option Table
  | .table entries => entries.mapM textEntry?
  | _ => none

def ofTable (t : Table) : Value :=
  .table (t.map fun (k, v) => (.text k, v))

/-- The text without blanks around it, if the value is a text that is not blank. -/
def text? : Value → Option String
  | .text s => if Text.trimmed s = "" then none else some (Text.trimmed s)
  | _ => none

/-- The number, if the value is a number that is not known to be zero or less. An integer beyond
every binary64 number is a fault. -/
def number? {ε : Type} : Value → Outcome ε (Option Binary64)
  | .integer n =>
    if n ≤ 0 then .ok none
    else
      match Binary64.ofInt n with
      | .infinite _ => .aborted .numberTooLarge
      | x => .ok (some x)
  | .real x => .ok (if x.isNonpositive then none else some x)
  | _ => .ok none

end Value

namespace Table

def text? (t : Table) (key : String) : Option String :=
  (t.lookup key).bind Value.text?

def number? {ε : Type} (t : Table) (key : String) : Outcome ε (Option Binary64) :=
  ((t.lookup key).map Value.number?).getD (.ok none)

def table? (t : Table) (key : String) : Option Table :=
  (t.lookup key).bind Value.table?

end Table

end BuildVersion.Settings
