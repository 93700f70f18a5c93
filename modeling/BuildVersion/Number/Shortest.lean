import BuildVersion.Number.Binary64
import BuildVersion.Number.Numeral

/-!
Decimal texts of binary64 numbers. A finite number is written with the fewest digits that read
back as itself, and of those with the nearest ones. Magnitudes from `10 ^ (-4)` up to `10 ^ 16` are
written with all their places, others with an exponent of at least two digits.
-/

namespace BuildVersion.Binary64

/-- The magnitude of a finite number as a numerator and a denominator. -/
def ratio (mantissa : Nat) (exponent : Int) : Nat × Nat :=
  match exponent with
  | .ofNat n => (mantissa * Nat.pow 2 n, 1)
  | .negSucc n => (mantissa, Nat.pow 2 (n + 1))

/-- The greatest power of ten that is not above `num / den`, for magnitudes of finite numbers. -/
def decimalExponent (num den : Nat) : Int :=
  ((Numeral.digits (num * Nat.pow 10 400 / den)).length : Int) - 401

/-- `num / den` in units of `10 ^ unit`, as a numerator and a denominator. -/
def inUnits (num den : Nat) (unit : Int) : Nat × Nat :=
  match unit with
  | .ofNat n => (num, den * Nat.pow 10 n)
  | .negSucc n => (num * Nat.pow 10 (n + 1), den)

/-- The nearest number of units that reads back as a magnitude, of the two that it lies between;
of two that are as near the even one. -/
def nearest? (mantissa : Nat) (exponent : Int) (unit : Int) : Option Nat :=
  let (num, den) := ratio mantissa exponent
  let (num, den) := inUnits num den unit
  let below := num / den
  let readsBack (n : Nat) : Bool := ofDecimal false n unit == finite false mantissa exponent
  let up := if 2 * (num % den) = den then below % 2 = 1 else den < 2 * (num % den)
  let (first, second) := if up then (below + 1, below) else (below, below + 1)
  if readsBack first then some first else if readsBack second then some second else none

/-- The fewest digits of a magnitude, and the power of ten that the first one counts; `missing`
more digits are tried, beginning with units of `10 ^ unit`. -/
def digitsFrom (mantissa : Nat) (exponent : Int) : (missing : Nat) → (unit : Int) → List Char × Int
  | 0, unit => (['0'], unit)
  | missing + 1, unit =>
    match nearest? mantissa exponent unit with
    | some n =>
      let digits := Numeral.digits n
      (digits, unit + digits.length - 1)
    | none => digitsFrom mantissa exponent missing (unit - 1)

/-- Digits without the zeros at their end; at least one digit is left. -/
def significant (digits : List Char) : List Char :=
  match (digits.reverse.dropWhile (· = '0')).reverse with
  | [] => ['0']
  | digits => digits

/-- Digits of which the first one counts `10 ^ point`, with all their places. -/
def positional (digits : List Char) (point : Int) : List Char :=
  match point with
  | .ofNat n =>
    let whole := digits.take (n + 1)
    let fraction := digits.drop (n + 1)
    whole ++ List.replicate (n + 1 - whole.length) '0' ++
      '.' :: (if fraction.isEmpty then ['0'] else fraction)
  | .negSucc n => '0' :: '.' :: (List.replicate n '0' ++ digits)

/-- Digits of which the first one counts `10 ^ point`, with an exponent. -/
def scientific (digits : List Char) (point : Int) : List Char :=
  let fraction := digits.drop 1
  digits.take 1 ++ (if fraction.isEmpty then [] else '.' :: fraction) ++
    'e' :: (if point < 0 then '-' else '+') :: Numeral.padded 2 point.natAbs

def text : Binary64 → String
  | nan => "nan"
  | infinite negative => if negative then "-inf" else "inf"
  | finite negative mantissa exponent =>
    let (digits, point) :=
      if mantissa = 0 then (['0'], 0)
      else
        let (num, den) := ratio mantissa exponent
        digitsFrom mantissa exponent 17 (decimalExponent num den)
    let digits := significant digits
    let body := if -4 ≤ point ∧ point < 16 then positional digits point else scientific digits point
    String.ofList (if negative then '-' :: body else body)

end BuildVersion.Binary64
