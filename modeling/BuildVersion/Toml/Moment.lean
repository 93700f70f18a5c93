import BuildVersion.Settings.Value
import BuildVersion.Toml.Number

namespace BuildVersion.Toml

/-- A numeral of exactly `width` digits, and what follows it. -/
def fixed? (width : Nat) (s : List Char) : Option (Nat × List Char) :=
  let ds := s.take width
  if ds.length = width ∧ ds.all Text.isAsciiDigit then some (Numeral.value ds, s.drop width)
  else none

/-- A numeral of two digits between two bounds, and what follows it. -/
def twoDigits? (low high : Nat) (s : List Char) : Option (Nat × List Char) :=
  (fixed? 2 s).filter fun (n, _) => low ≤ n && n ≤ high

/-- What follows a character, if the text begins with it. -/
def after? (c : Char) : List Char → Option (List Char)
  | d :: rest => if d = c then some rest else none
  | [] => none

/-- What follows a fraction of a second, if there is one. -/
def skipSecondFraction (s : List Char) : List Char :=
  match s with
  | '.' :: c :: rest =>
    if Text.isAsciiDigit c then rest.dropWhile Text.isAsciiDigit else s
  | _ => s

/-- What follows a time of the day. -/
def afterTime? (s : List Char) : Option (List Char) := do
  let (_, s) ← twoDigits? 0 23 s
  let s ← after? ':' s
  let (_, s) ← twoDigits? 0 59 s
  let s ← after? ':' s
  let (_, s) ← twoDigits? 0 59 s
  some (skipSecondFraction s)

/-- What follows an offset after its sign. -/
def afterOffset? (s : List Char) : Option (List Char) := do
  let (_, s) ← twoDigits? 0 23 s
  let s ← after? ':' s
  let (_, s) ← twoDigits? 0 59 s
  some s

/-- What follows an offset, if there is one. -/
def skipOffset (s : List Char) : List Char :=
  match s with
  | c :: rest =>
    if c = 'Z' ∨ c = 'z' then rest
    else if c = '+' ∨ c = '-' then (afterOffset? rest).getD s
    else s
  | [] => s

/-- What follows a time with its offset after a date, if there is one. -/
def skipTime (s : List Char) : List Char :=
  match s with
  | c :: rest =>
    if c = 'T' ∨ c = 't' ∨ c = ' ' then ((afterTime? rest).map skipOffset).getD s else s
  | [] => s

/-- A date: year, month and day, and what follows it. -/
def date? (s : List Char) : Option ((Nat × Nat × Nat) × List Char) := do
  let (year, s) ← fixed? 4 s
  let s ← after? '-' s
  let (month, s) ← twoDigits? 1 12 s
  let s ← after? '-' s
  let (day, s) ← twoDigits? 1 31 s
  some ((year, month, day), s)

def isLeap (year : Nat) : Bool :=
  year % 4 == 0 && (year % 100 != 0 || year % 400 == 0)

def daysIn (year month : Nat) : Nat :=
  if month = 2 then (if isLeap year then 29 else 28)
  else if month = 4 ∨ month = 6 ∨ month = 9 ∨ month = 11 then 30
  else 31

/-- The moment written between two rests of the document. -/
def momentBetween (s rest : List Char) : Settings.Value :=
  .moment (String.ofList (s.take (s.length - rest.length)))

/-- A date or a time; `none` if neither begins here. There is no year zero. -/
def moment? (s : List Char) : Option (Reading Settings.Value) :=
  match date? s with
  | some ((year, month, day), rest) =>
    if year = 0 ∨ daysIn year month < day then some illformed
    else some (.ok (momentBetween s (skipTime rest), skipTime rest))
  | none => (afterTime? s).map fun rest => .ok (momentBetween s rest, rest)

end BuildVersion.Toml
