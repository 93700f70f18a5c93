import BuildVersion.Text.Printable

namespace BuildVersion.Text.Quoted

/-- The quote that surrounds the text. -/
def mark (s : List Char) : Char :=
  if s.contains '\'' && !s.contains '"' then '"' else '\''

def hexDigit (n : Nat) : Char :=
  if n < 10 then Char.ofNat (48 + n) else Char.ofNat (87 + n)

/-- The last `width` hexadecimal digits of `n`, in lower case. -/
def hexadecimal : (width n : Nat) → List Char
  | 0, _ => []
  | width + 1, n => hexadecimal width (n / 16) ++ [hexDigit (n % 16)]

/-- An escape by code point, as short as the code point allows. -/
def escapeCode (n : Nat) : List Char :=
  if n ≤ 0xFF then '\\' :: 'x' :: hexadecimal 2 n
  else if n ≤ 0xFFFF then '\\' :: 'u' :: hexadecimal 4 n
  else '\\' :: 'U' :: hexadecimal 8 n

/-- One character as it stands between quotes `quote`. -/
def escape (quote c : Char) : List Char :=
  if c = '\\' ∨ c = quote then ['\\', c]
  else if c = '\t' then ['\\', 't']
  else if c = '\n' then ['\\', 'n']
  else if c = '\r' then ['\\', 'r']
  else if isPrintable c then [c]
  else escapeCode c.toNat

def encode (s : List Char) : List Char :=
  mark s :: s.flatMap (escape (mark s)) ++ [mark s]

end Quoted

def quoted (s : String) : String :=
  String.ofList (Quoted.encode s.toList)

end BuildVersion.Text
