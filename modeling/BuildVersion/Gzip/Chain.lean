import BuildVersion.Deflate.Content
import BuildVersion.Gzip.Checksum

namespace BuildVersion.Gzip

/-- Why a file yields no more bytes although it has not come to its end. -/
inductive Breach
  /-- The file stops inside a member. -/
  | unfinished
  | corrupt
  /-- A heading or a check sum is wrong. -/
  | mismatch
  deriving DecidableEq, Repr

inductive Chain
  | done
  | broken (breach : Breach)
  /-- A member whose compressed data start after `start` bytes of the file, and what follows it
  if its data are complete. -/
  | member (start : Nat) (content : Deflate.Content) (rest : Chain)
  deriving DecidableEq, Repr

/-- The number that bytes write, the least significant first. -/
def littleEndian : List UInt8 → Nat
  | [] => 0
  | b :: rest => b.toNat + 256 * littleEndian rest

/-- What is left after `n` bytes, if there are so many. -/
def skip (n : Nat) (bytes : List UInt8) : Except Breach (List UInt8) :=
  if bytes.length < n then .error .unfinished else .ok (bytes.drop n)

/-- What is left after a name, which a zero ends. -/
def skipName (bytes : List UInt8) : List UInt8 :=
  (bytes.dropWhile (· ≠ 0)).drop 1

/-- What is left after an extra field, which its length precedes. -/
def skipExtra (bytes : List UInt8) : Except Breach (List UInt8) := do
  let rest ← skip 2 bytes
  skip (littleEndian (bytes.take 2)) rest

/-- What is left after a heading; there is none at the end of the file. -/
def afterHeading (bytes : List UInt8) : Except Breach (Option (List UInt8)) :=
  match bytes with
  | [] => .ok none
  | 0x1F :: 0x8B :: rest => do
    let fixed := rest.take 8
    let rest ← skip 8 rest
    if fixed.headD 0 ≠ 8 then .error .mismatch
    else
      let flags := (fixed.getD 1 0).toNat
      let rest ← if flags.testBit 2 then skipExtra rest else pure rest
      let rest := if flags.testBit 3 then skipName rest else rest
      let rest := if flags.testBit 4 then skipName rest else rest
      let rest ← if flags.testBit 1 then skip 2 rest else pure rest
      pure (some rest)
  | _ => .error .mismatch

/-- What is left after the check sum and the number of the bytes of a member. -/
def afterTrailer (content bytes : List UInt8) : Except Breach (List UInt8) :=
  match skip 8 bytes with
  | .error breach => .error breach
  | .ok rest =>
    if littleEndian (bytes.take 4) ≠ (checksum content).toNat then .error .mismatch
    else if littleEndian ((bytes.drop 4).take 4) ≠ content.length % 0x100000000 then
      .error .mismatch
    else .ok rest

namespace Chain

/-- The chain of the last bytes of a file of `size` bytes. -/
def ofRest (size : Nat) : (fuel : Nat) → List UInt8 → Chain
  | 0, _ => .done
  | fuel + 1, bytes =>
    match afterHeading bytes with
    | .error breach => .broken breach
    | .ok none => .done
    | .ok (some data) =>
      let start := size - data.length
      let content := Deflate.Content.ofBits (.ofBytes start data)
      .member start content
        (match content.ending with
        | .finished position =>
          match afterTrailer content.bytes (data.drop ((position + 7) / 8 - start)) with
          | .error breach => .broken breach
          | .ok rest => ofRest size fuel (rest.dropWhile (· = 0))
        | _ => .done)

/-- The chain of a file. Every member takes a byte, so there are at most as many of them as
bytes. -/
def ofBytes (bytes : List UInt8) : Chain :=
  ofRest bytes.length (bytes.length + 1) bytes

def bytes : Chain → List UInt8
  | .done => []
  | .broken _ => []
  | .member _ content rest => content.bytes ++ rest.bytes

end Chain

end BuildVersion.Gzip
