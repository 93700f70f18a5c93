/-!
Binary64 numbers: a sign, and a mantissa of at most 53 bits times a power of two, or an infinity,
or no number at all. Every operation is exact arithmetic followed by one rounding to the nearest
number, a half going to the even neighbour.
-/

namespace BuildVersion

inductive Binary64
  | nan
  | infinite (negative : Bool)
  /-- The number `mantissa * 2 ^ exponent`, or its opposite. -/
  | finite (negative : Bool) (mantissa : Nat) (exponent : Int)
  deriving DecidableEq, Repr

namespace Binary64

/-- The exponent of the numbers next to zero, which no number undercuts. -/
def minExponent : Int := -1074

def maxExponent : Int := 971

def zero : Binary64 := finite false 0 minExponent

/-- The natural number nearest to `num / den`; a half goes to the even neighbour. -/
def roundQuotient (num den : Nat) : Nat :=
  let q := num / den
  let r := num % den
  if 2 * r < den then q else if den < 2 * r then q + 1 else q + q % 2

/-- `num * 2 ^ (-e) / den`, as a numerator and a denominator. -/
def scaleDown (num den : Nat) (e : Int) : Nat × Nat :=
  match e with
  | .ofNat n => (num, den * Nat.pow 2 n)
  | .negSucc n => (num * Nat.pow 2 (n + 1), den)

/-- The exponent with which `num / den` has a mantissa of 53 bits, or the least one. -/
def exponentOf (num den : Nat) : Int :=
  let guess : Int := (Nat.log2 num : Int) - (Nat.log2 den : Int) - 53
  let (n, d) := scaleDown num den guess
  let e := if n / d < Nat.pow 2 53 then guess else guess + 1
  if e < minExponent then minExponent else e

/-- The number nearest to `num / den`, infinite beyond the midpoint above the greatest one. -/
def ofRatio (negative : Bool) (num den : Nat) : Binary64 :=
  if num = 0 then finite negative 0 minExponent
  else
    let e := exponentOf num den
    let (n, d) := scaleDown num den e
    let m := roundQuotient n d
    let (m, e) := if m = Nat.pow 2 53 then (Nat.pow 2 52, e + 1) else (m, e)
    if maxExponent < e then infinite negative else finite negative m e

/-- The number nearest to a decimal fraction `digits * 10 ^ exponent`. -/
def ofDecimal (negative : Bool) (digits : Nat) (exponent : Int) : Binary64 :=
  let size : Int := (Nat.toDigits 10 digits).length
  if digits = 0 ∨ exponent + size < -400 then finite negative 0 minExponent
  else if 400 < exponent + size then infinite negative
  else
    match exponent with
    | .ofNat n => ofRatio negative (digits * Nat.pow 10 n) 1
    | .negSucc n => ofRatio negative digits (Nat.pow 10 (n + 1))

def ofInt (n : Int) : Binary64 :=
  ofRatio (n < 0) n.natAbs 1

/-- The number in units of the least positive one, where it is finite. -/
def units (negative : Bool) (mantissa : Nat) (exponent : Int) : Int :=
  let n : Int := (mantissa * Nat.pow 2 (exponent - minExponent).toNat : Nat)
  if negative then -n else n

def ofUnits (n : Int) : Binary64 :=
  ofRatio (n < 0) n.natAbs (Nat.pow 2 (-minExponent).toNat)

/-- The order of the numbers; what is no number is neither less nor greater than anything. -/
def lt : Binary64 → Binary64 → Bool
  | nan, _ => false
  | _, nan => false
  | infinite s, infinite t => s && !t
  | infinite s, finite .. => s
  | finite .., infinite t => !t
  | finite s m e, finite t n f => units s m e < units t n f

/-- Whether the number is zero or less; false of what is no number. -/
def isNonpositive : Binary64 → Bool
  | nan => false
  | infinite negative => negative
  | finite negative m _ => negative || m == 0

/-- The sum of finite numbers, rounded once. -/
def add : Binary64 → Binary64 → Binary64
  | finite s m e, finite t n f => ofUnits (units s m e + units t n f)
  | finite .., y => y
  | x, finite .. => x
  | infinite s, infinite t => if s = t then infinite s else nan
  | _, _ => nan

/-- The product of a number with a natural number, rounded once. -/
def scale (k : Nat) : Binary64 → Binary64
  | finite s m e =>
    match e with
    | .ofNat n => ofRatio s (k * m * Nat.pow 2 n) 1
    | .negSucc n => ofRatio s (k * m) (Nat.pow 2 (n + 1))
  | x => x

/-- The number as a word of 64 bits. -/
def toBits : Binary64 → Nat
  | nan => 0x7FF8000000000000
  | infinite negative => (if negative then Nat.pow 2 63 else 0) + 0x7FF0000000000000
  | finite negative m e =>
    (if negative then Nat.pow 2 63 else 0) +
      if m < Nat.pow 2 52 then m
      else (e + 1075).toNat * Nat.pow 2 52 + (m - Nat.pow 2 52)

end Binary64

end BuildVersion
