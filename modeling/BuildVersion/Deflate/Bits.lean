namespace BuildVersion.Deflate

/-- The bits of a byte, the least significant first. -/
def bitsOfByte (b : UInt8) : List Bool :=
  (List.range 8).map b.toNat.testBit

/-- The number that bits write, the least significant first. -/
def valueOfBits : List Bool → Nat
  | [] => 0
  | b :: rest => b.toNat + 2 * valueOfBits rest

/-- The bits that are left, after `position` bits that were taken. -/
structure Bits where
  position : Nat
  rest : List Bool
  deriving DecidableEq, Repr

inductive Ending
  /-- The last block is complete. -/
  | finished (position : Nat)
  /-- What was read up to a position is no compressed data. -/
  | corrupt (position : Nat)
  /-- A repetition reaches back before the first byte. -/
  | outOfReach (position : Nat)
  /-- The data stop early. -/
  | starved
  deriving DecidableEq, Repr

namespace Bits

/-- The bits of bytes that `skipped` bytes precede. -/
def ofBytes (skipped : Nat) (bytes : List UInt8) : Bits :=
  ⟨8 * skipped, bytes.flatMap bitsOfByte⟩

/-- Skips to the start of a byte. -/
def align (bits : Bits) : Bits :=
  let n := (8 - bits.position % 8) % 8
  ⟨bits.position + n, bits.rest.drop n⟩

end Bits

/-- Reads from bits, or tells how the data end. -/
abbrev Scan (α : Type) := StateT Bits (Except Ending) α

namespace Scan

def refuse {α : Type} : Scan α := fun bits => .error (.corrupt bits.position)

def number (n : Nat) : Scan Nat := fun bits =>
  let word := bits.rest.take n
  if word.length = n then .ok (valueOfBits word, ⟨bits.position + n, bits.rest.drop n⟩)
  else .error .starved

def align : Scan Unit := fun bits => .ok ((), bits.align)

end Scan

theorem length_bitsOfByte (b : UInt8) : (bitsOfByte b).length = 8 := by
  simp [bitsOfByte]

end BuildVersion.Deflate
