import BuildVersion.Number.Literal
import BuildVersion.Tar.Name
import BuildVersion.Text.Utf8

namespace BuildVersion.Tar

structure Record where
  keyword : List UInt8
  value : List UInt8
  deriving DecidableEq, Repr

abbrev Records := List Record

namespace Record

def isDigit (b : UInt8) : Bool := 0x30 ≤ b && b ≤ 0x39

def numberOf (digits : List UInt8) : Nat :=
  digits.foldl (fun n b => 10 * n + (b.toNat - 0x30)) 0

/-- The first record of nonempty bytes, with its length. -/
def first? (bytes : List UInt8) : Option (Nat × Record) :=
  let digits := bytes.takeWhile isDigit
  let length := numberOf digits
  if digits = [] ∨ 20 < digits.length ∨ bytes[digits.length]? ≠ some 0x20 then none
  else if length < 5 ∨ bytes.length < length then none
  else
    let body := (bytes.take (length - 1)).drop (digits.length + 1)
    let keyword := body.takeWhile (· ≠ 0x3D)
    if keyword = [] ∨ keyword.length = body.length ∨ bytes[length - 1]? ≠ some 0x0A then none
    else some (length, ⟨keyword, body.drop (keyword.length + 1)⟩)

/-- The records in bytes, up to a zero byte; `fuel` bounds their number. -/
def allFrom? : (fuel : Nat) → List UInt8 → Option Records
  | 0, _ => some []
  | _, [] => some []
  | fuel + 1, b :: rest =>
    if b = 0 then some []
    else
      match first? (b :: rest) with
      | none => none
      | some (length, record) =>
        (allFrom? fuel ((b :: rest).drop length)).map (record :: ·)

/-- The records in bytes. A record takes bytes, so there are at most as many of them. -/
def all? (bytes : List UInt8) : Option Records :=
  allFrom? bytes.length bytes

def integer? (value : List UInt8) : Option Int :=
  match Text.Utf8.decode value with
  | .ok text => Numeral.decimal? text.toList
  | .error _ => none

/-- The blanks of ASCII alone. -/
def isBlank (b : UInt8) : Bool :=
  b == 0x20 || (0x09 ≤ b && b ≤ 0x0D)

/-- The integer that a line of ASCII writes. -/
def lineInteger? (line : List UInt8) : Option Int :=
  let digits := ((line.dropWhile isBlank).reverse.dropWhile isBlank).reverse
  if digits.all (· < 0x80) then Numeral.bareDecimal? (digits.map fun b => Char.ofNat b.toNat)
  else none

end Record

namespace Records

def word (keyword : String) : List UInt8 :=
  Text.Utf8.encode keyword

/-- Puts a record in, in the place of one with its keyword. -/
def put (records : Records) (record : Record) : Records :=
  if records.any (·.keyword = record.keyword) then
    records.map fun old => if old.keyword = record.keyword then record else old
  else records ++ [record]

def get? (records : Records) (keyword : String) : Option (List UInt8) :=
  (records.find? (·.keyword = word keyword)).map (·.value)

end Records

end BuildVersion.Tar
