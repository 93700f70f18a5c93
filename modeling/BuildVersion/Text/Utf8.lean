namespace BuildVersion.Text.Utf8

inductive Reason
  | startByte
  | continuationByte
  | endOfData
  deriving DecidableEq, Repr

/-- An ill-formed part: where it starts, its first byte, how many bytes it has, and what is wrong
with it. -/
structure Malformed where
  start : Nat
  first : UInt8
  length : Nat
  reason : Reason
  deriving DecidableEq, Repr

def Reason.message : Reason → String
  | .startByte => "invalid start byte"
  | .continuationByte => "invalid continuation byte"
  | .endOfData => "unexpected end of data"

/-- The two hexadecimal digits of a byte. -/
def hexByte (b : UInt8) : String :=
  String.ofList [Nat.digitChar (b.toNat / 16), Nat.digitChar (b.toNat % 16)]

def Malformed.message (m : Malformed) : String :=
  let part :=
    if m.length = 1 then s!"byte 0x{hexByte m.first} in position {m.start}"
    else s!"bytes in position {m.start}-{m.start + m.length - 1}"
  s!"'utf-8' codec can't decode {part}: {m.reason.message}"

/-- A character of several bytes of which some are read: its place and first byte, how many bytes
are read and how many are owed, the bounds of the next byte, and the bits read so far. -/
structure Partial where
  start : Nat
  first : UInt8
  length : Nat
  owed : Nat
  low : UInt8
  high : UInt8
  bits : Nat

/-- What a byte that is not ASCII starts. A byte that would start an overlong form, a surrogate
or a code point above U+10FFFF narrows the bounds of the byte after it. -/
def lead (start : Nat) (b : UInt8) : Option Partial :=
  let n := b.toNat
  if 0xC2 ≤ n ∧ n ≤ 0xDF then some ⟨start, b, 1, 1, 0x80, 0xBF, n - 0xC0⟩
  else if n = 0xE0 then some ⟨start, b, 1, 2, 0xA0, 0xBF, 0⟩
  else if n = 0xED then some ⟨start, b, 1, 2, 0x80, 0x9F, 0xD⟩
  else if 0xE1 ≤ n ∧ n ≤ 0xEF then some ⟨start, b, 1, 2, 0x80, 0xBF, n - 0xE0⟩
  else if n = 0xF0 then some ⟨start, b, 1, 3, 0x90, 0xBF, 0⟩
  else if 0xF1 ≤ n ∧ n ≤ 0xF3 then some ⟨start, b, 1, 3, 0x80, 0xBF, n - 0xF0⟩
  else if n = 0xF4 then some ⟨start, b, 1, 3, 0x80, 0x8F, 4⟩
  else none

/-- The partial character after one more byte. -/
def Partial.push (p : Partial) (b : UInt8) : Partial :=
  ⟨p.start, p.first, p.length + 1, p.owed - 1, 0x80, 0xBF, p.bits * 64 + (b.toNat - 0x80)⟩

/-- Decodes from a state between characters (`none`) or inside one; `done` holds the characters
read, the last one first. -/
def decodeFrom (position : Nat) (inside : Option Partial) (done : List Char) :
    List UInt8 → Except Malformed (List Char)
  | [] =>
    match inside with
    | none => .ok done.reverse
    | some p => .error ⟨p.start, p.first, p.length, .endOfData⟩
  | b :: rest =>
    match inside with
    | none =>
      if b < 0x80 then decodeFrom (position + 1) none (Char.ofNat b.toNat :: done) rest
      else
        match lead position b with
        | none => .error ⟨position, b, 1, .startByte⟩
        | some p => decodeFrom (position + 1) (some p) done rest
    | some p =>
      if p.low ≤ b ∧ b ≤ p.high then
        if p.owed = 1 then
          decodeFrom (position + 1) none (Char.ofNat (p.push b).bits :: done) rest
        else decodeFrom (position + 1) (some (p.push b)) done rest
      else .error ⟨p.start, p.first, p.length, .continuationByte⟩

def decode (bytes : List UInt8) : Except Malformed String :=
  (decodeFrom 0 none [] bytes).map String.ofList

def encodeChar (c : Char) : List UInt8 :=
  let n := c.toNat
  if n < 0x80 then [n.toUInt8]
  else if n < 0x800 then [(0xC0 + n / 64).toUInt8, (0x80 + n % 64).toUInt8]
  else if n < 0x10000 then
    [(0xE0 + n / 4096).toUInt8, (0x80 + n / 64 % 64).toUInt8, (0x80 + n % 64).toUInt8]
  else
    [(0xF0 + n / 262144).toUInt8, (0x80 + n / 4096 % 64).toUInt8, (0x80 + n / 64 % 64).toUInt8,
      (0x80 + n % 64).toUInt8]

def encode (s : String) : List UInt8 :=
  s.toList.flatMap encodeChar

end BuildVersion.Text.Utf8
