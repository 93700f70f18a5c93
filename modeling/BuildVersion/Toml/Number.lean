import BuildVersion.Number.Binary64
import BuildVersion.Number.Numeral
import BuildVersion.Settings.Value
import BuildVersion.Toml.Text

namespace BuildVersion.Toml

open Settings (Value)

/-- The number that digits stand for in some base. -/
def valueIn (base : Nat) (ds : List Char) : Nat :=
  ds.foldl (fun n c => n * base + (Text.hexValue? c).getD 0) 0

/-- The base that a letter after a zero stands for, and its digits. -/
def base? : Char → Option (Nat × (Char → Bool))
  | 'x' => some (16, Text.isHex)
  | 'o' => some (8, fun c => '0' ≤ c && c ≤ '7')
  | 'b' => some (2, fun c => c == '0' || c == '1')
  | _ => none

/-- An integer in another base than ten. -/
def based? : List Char → Option (Nat × List Char)
  | '0' :: letter :: rest =>
    match base? letter with
    | none => none
    | some (base, p) =>
      let (ds, after) := digits p rest
      if ds.isEmpty || rest.head? = some '_' then none else some (valueIn base ds, after)
  | _ => none

/-- The sign in front, if there is one: whether it is a minus, and what follows it. -/
def sign : List Char → Bool × List Char
  | '-' :: rest => (true, rest)
  | '+' :: rest => (false, rest)
  | s => (false, s)

/-- The digits of the integral part: a zero alone, or digits of which the first is no zero. -/
def integral? : List Char → Option (List Char × List Char)
  | '0' :: rest => some (['0'], rest)
  | c :: rest => if Text.isAsciiDigit c then some (digits Text.isAsciiDigit (c :: rest)) else none
  | [] => none

/-- Digits of which the first stands at once. -/
def someDigits? : List Char → Option (List Char × List Char)
  | c :: rest => if Text.isAsciiDigit c then some (digits Text.isAsciiDigit (c :: rest)) else none
  | [] => none

/-- The digits after a point, if there are any. -/
def fraction? : List Char → Option (List Char × List Char)
  | '.' :: rest => someDigits? rest
  | _ => none

/-- The exponent after its letter, if there is one. -/
def exponent? : List Char → Option (Int × List Char)
  | c :: rest =>
    if c = 'e' ∨ c = 'E' then
      let (negative, rest) := sign rest
      (someDigits? rest).map fun (ds, after) =>
        let n : Int := Numeral.value ds
        (if negative then -n else n, after)
    else none
  | [] => none

/-- A decimal integer or real; `none` if no number begins here. -/
def decimal? (s : List Char) : Option (Reading Value) :=
  let (negative, rest) := sign s
  match integral? rest with
  | none => none
  | some (whole, rest) =>
    let fraction := fraction? rest
    let rest := (fraction.map (·.2)).getD rest
    let exponent := exponent? rest
    let rest := (exponent.map (·.2)).getD rest
    if fraction.isNone && exponent.isNone then
      if Numeral.maxDigits < whole.length then some (.aborted .overlongNumeral)
      else
        let n : Int := Numeral.value whole
        some (.ok (.integer (if negative then -n else n), rest))
    else
      let parts := (fraction.map (·.1)).getD []
      let power := (exponent.map (·.1)).getD 0 - (parts.length : Int)
      some (.ok (.real (.ofDecimal negative (Numeral.value (whole ++ parts)) power), rest))

def namedReals : List (List Char × Binary64) :=
  [("inf".toList, .infinite false), ("nan".toList, .nan), ("-inf".toList, .infinite true),
   ("+inf".toList, .infinite false), ("-nan".toList, .nan), ("+nan".toList, .nan)]

def number : Reader Value := fun s =>
  match based? s with
  | some (n, rest) => .ok (.integer n, rest)
  | none =>
    match decimal? s with
    | some reading => reading
    | none =>
      match namedReals.find? fun (name, _) => name.isPrefixOf s with
      | some (name, x) => .ok (.real x, s.drop name.length)
      | none => illformed

end BuildVersion.Toml
