import BuildVersion.Number.Numeral

namespace BuildVersion.Numeral

/-- A numeral in two parts: the digits before the point, and everything that follows them. -/
structure Divided where
  whole : List Char
  rest : List Char := []
  deriving DecidableEq, Repr

/-- `n` in units of `10 ^ places`. -/
def rounded (n places : Nat) : Nat :=
  let unit := Nat.pow 10 places
  let below := n / unit
  let twice := 2 * (n % unit)
  if unit < twice ∨ (twice = unit ∧ below % 2 = 1) then below + 1 else below

/-- The first `count` digits of a number, and the power of ten that the first of them counts. -/
def leading (count n : Nat) : List Char × Nat :=
  let all := digits n
  if all.length ≤ count then (all ++ List.replicate (count - all.length) '0', all.length - 1)
  else
    let kept := digits (rounded n (all.length - count))
    (kept.take count, all.length - 1 + (kept.length - count))

/-- Digits behind a point. A point with no digits is kept if `pointed`. -/
def fraction (pointed : Bool) (digits : List Char) : List Char :=
  if digits.isEmpty && !pointed then [] else '.' :: digits

/-- A number with `places` digits behind the point. -/
def fixed (pointed : Bool) (places n : Nat) : Divided :=
  ⟨digits n, fraction pointed (List.replicate places '0')⟩

/-- Digits of which the first one counts `10 ^ power`, with an exponent after `mark`. -/
def withExponent (pointed : Bool) (mark : Char) (digits : List Char) (power : Nat) : Divided :=
  ⟨digits.take 1, fraction pointed (digits.drop 1) ++ mark :: '+' :: padded 2 power⟩

/-- A number with one digit before the point, `places` digits behind it, and an exponent. -/
def scientific (pointed : Bool) (mark : Char) (places n : Nat) : Divided :=
  let (digits, power) := leading (places + 1) n
  withExponent pointed mark digits power

/-- The first `count` digits of a number, with an exponent if they do not reach the point. Zeros
at their end are left out unless `pointed`. -/
def general (pointed : Bool) (mark : Char) (count n : Nat) : Divided :=
  let count := max count 1
  let (digits, power) := leading count n
  let places := if power < count then power + 1 else 1
  let behind := digits.drop places
  let behind := if pointed then behind else (behind.reverse.dropWhile (· = '0')).reverse
  if power < count then ⟨digits.take places, fraction pointed behind⟩
  else withExponent pointed mark (digits.take places ++ behind) power

end BuildVersion.Numeral
