import BuildVersion.Text.Digit

namespace BuildVersion.Numeral

/-- The longest numeral whose value is computed. -/
def maxDigits : Nat := 4300

/-- The number that digits stand for, the most significant first. -/
def value (digits : List Char) : Nat :=
  digits.foldl (fun n c => n * 10 + (Text.digitValue? c).getD 0) 0

/-- The digits of a number, without leading zeros. -/
def digits (n : Nat) : List Char :=
  Nat.toDigits 10 n

/-- The digits of an integer, after a minus sign if it is negative. -/
def signedDigits : Int → List Char
  | .ofNat n => digits n
  | .negSucc n => '-' :: digits (n + 1)

def text (n : Int) : String :=
  String.ofList (signedDigits n)

/-- The digits of a number, with zeros in front up to `width` digits. -/
def padded (width n : Nat) : List Char :=
  List.replicate (width - (digits n).length) '0' ++ digits n

end BuildVersion.Numeral
