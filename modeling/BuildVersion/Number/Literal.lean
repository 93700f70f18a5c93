import BuildVersion.Number.Numeral
import BuildVersion.Text.Blank
import BuildVersion.Text.Split

namespace BuildVersion.Numeral

/-- Whether the literal is negative, and what follows its sign. -/
def signOf : List Char → Bool × List Char
  | '-' :: rest => (true, rest)
  | '+' :: rest => (false, rest)
  | s => (false, s)

/-- What follows the mark of an octal literal; an underscore may stand after the mark. -/
def afterOctalMark : List Char → List Char
  | '0' :: 'o' :: '_' :: rest => rest
  | '0' :: 'O' :: '_' :: rest => rest
  | '0' :: 'o' :: rest => rest
  | '0' :: 'O' :: rest => rest
  | s => s

/-- The number that digits of a base write, the most significant first. -/
def valueInBase? (base : Nat) (digits : List Char) : Option Nat :=
  digits.foldlM (fun n c => do
    let d ← Text.digitValue? c
    if d < base then some (n * base + d) else none) 0

/-- The number that groups of digits write; no group is empty. -/
def grouped? (base : Nat) (s : List Char) : Option Nat :=
  let groups := Text.split '_' s
  if groups.any List.isEmpty then none else valueInBase? base groups.flatten

/-- The integer of a literal, negative after a minus sign. -/
def signed (negative : Bool) (n : Nat) : Int :=
  if negative then -(n : Int) else n

def octal? (s : List Char) : Option Int :=
  let (negative, rest) := signOf (Text.trim s)
  (grouped? 8 (afterOctalMark rest)).map (signed negative)

/-- Reads a decimal literal of at most `maxDigits` digits that has no blanks around it. -/
def bareDecimal? (s : List Char) : Option Int :=
  let (negative, rest) := signOf s
  if maxDigits < (rest.filter (· ≠ '_')).length then none
  else (grouped? 10 rest).map (signed negative)

/-- Reads a decimal literal of at most `maxDigits` digits. -/
def decimal? (s : List Char) : Option Int :=
  bareDecimal? (Text.trim s)

end BuildVersion.Numeral
