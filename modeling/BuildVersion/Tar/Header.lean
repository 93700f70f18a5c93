import BuildVersion.Number.Literal
import BuildVersion.Tar.Name

namespace BuildVersion.Tar

def blockSize : Nat := 512

/-- What an entry is, or what a header says about the headers after it. -/
inductive Kind
  | file
  | directory
  /-- An entry without content: a device or a pipe. -/
  | device
  | hardLink
  | symbolicLink
  | longName
  | longLink
  | sparse
  /-- Records about the next entry. -/
  | extended
  /-- Records about all further entries. -/
  | shared
  deriving DecidableEq, Repr

/-- The kind that a type byte stands for; unknown bytes stand for files. -/
def Kind.ofByte (b : UInt8) : Kind :=
  match Char.ofNat b.toNat with
  | '1' => .hardLink
  | '2' => .symbolicLink
  | '3' | '4' | '6' => .device
  | '5' => .directory
  | 'L' => .longName
  | 'K' => .longLink
  | 'S' => .sparse
  | 'x' | 'X' => .extended
  | 'g' => .shared
  | _ => .file

/-- Whether content follows the header. -/
def Kind.hasContent (kind : Kind) : Bool :=
  kind = .file || kind = .sparse

/-- Why a block is no header. -/
inductive HeaderFault
  | empty
  | truncated
  | zero
  | invalid
  /-- The header that should follow this one is none. -/
  | follower
  deriving DecidableEq, Repr

/-- Where the stretches of a sparse file lie, with their lengths. -/
abbrev Stretches := List (Int × Int)

structure Header where
  name : Name
  linkName : Name
  size : Int
  kind : Kind
  stretches : Stretches
  /-- Whether more stretches stand in blocks after the header. -/
  continued : Bool
  /-- The length of a sparse file. -/
  wholeSize : Int
  deriving DecidableEq, Repr

namespace Header

/-- `n` bytes from place `start` on. -/
def slice (start n : Nat) (block : List UInt8) : List UInt8 :=
  (block.drop start).take n

/-- The number that bytes write, the most significant first. -/
def bigEndian (bytes : List UInt8) : Nat :=
  bytes.foldl (fun n b => 256 * n + b.toNat) 0

def number? (field : List UInt8) : Option Int :=
  match field with
  | [] => none
  | 0x80 :: rest => some (bigEndian rest)
  | 0xFF :: rest => some (bigEndian rest - (Nat.pow 256 rest.length : Nat))
  | _ =>
    let digits := Name.untilZero field
    if digits.any (0x80 ≤ ·) then none
    else
      let text := Text.trim (digits.map fun b => Char.ofNat b.toNat)
      if text = [] then some 0 else Numeral.octal? text

def signedByte (b : UInt8) : Int :=
  if b < 0x80 then b.toNat else b.toNat - 256

/-- The sums of the bytes of a block, counted without and with sign. -/
def sums (block : List UInt8) : Int × Int :=
  let others := block.take 148 ++ block.drop 156
  (others.foldl (fun n b => n + b.toNat) 256, others.foldl (fun n b => n + signedByte b) 256)

/-- The stretches of a sparse file, `n` of them from place `start` on. -/
def stretchesAt (n start : Nat) (block : List UInt8) : Option Stretches :=
  (List.range n).mapM fun i => do
    let offset ← number? (slice (start + 24 * i) 12 block)
    let length ← number? (slice (start + 24 * i + 12) 12 block)
    pure (offset, length)

/-- The header in a block with the right sum, unless a number in it is malformed. -/
def read? (block : List UInt8) : Option Header := do
  let size ← number? (slice 124 12 block)
  let _ ← [(100, 8), (108, 8), (116, 8), (136, 12), (329, 8), (337, 8)].mapM fun (start, n) =>
    number? (slice start n block)
  let typeByte := block.getD 156 0
  let name := Name.untilZero (slice 0 100 block)
  let kind :=
    if typeByte = 0 ∧ name.getLast? = some Name.slash then .directory else Kind.ofByte typeByte
  let stretches ← if kind = .sparse then stretchesAt 4 386 block else some []
  let wholeSize ← if kind = .sparse then number? (slice 483 12 block) else some 0
  let name := if kind = .directory then Name.dropSlashes name else name
  let start := Name.untilZero (slice 345 155 block)
  let plain := kind = .longName ∨ kind = .longLink ∨ kind = .sparse
  some {
    name := if start ≠ [] ∧ ¬plain then start ++ Name.slash :: name else name
    linkName := Name.untilZero (slice 157 100 block)
    size := size
    kind := kind
    stretches := stretches
    continued := block.getD 482 0 ≠ 0
    wholeSize := wholeSize }

def ofBlock (block : List UInt8) : Except HeaderFault Header :=
  if block = [] then .error .empty
  else if block.length ≠ blockSize then .error .truncated
  else if block.all (· = 0) then .error .zero
  else
    match number? (slice 148 8 block) with
    | none => .error .invalid
    | some sum =>
      if sum ≠ (sums block).1 ∧ sum ≠ (sums block).2 then .error .invalid
      else
        match read? block with
        | none => .error .invalid
        | some header => .ok header

end Header

/-- The number of bytes of whole blocks that hold `size` bytes. -/
def roundUp (size : Int) : Int :=
  (size + 511).fdiv 512 * 512

end BuildVersion.Tar
