import BuildVersion.Deflate.Block

/-!
The content of compressed data: the bytes, each dated by the bits that it takes, and how the data
end. Whoever reads the data in portions can tell from the dates what a portion yields.
-/

namespace BuildVersion.Deflate

/-- A byte of the content. Once all bytes before it are written, reading stops after `noticed`
bits; the byte itself can be written after `due` bits. -/
structure Emission where
  byte : UInt8
  noticed : Nat
  due : Nat
  deriving DecidableEq, Repr

structure Content where
  emissions : Array Emission
  ending : Ending
  deriving DecidableEq, Repr

namespace Content

def bytes (content : Content) : List UInt8 :=
  content.emissions.toList.map (·.byte)

/-- Appends `n` bytes, each of them the one `distance` bytes back. -/
def copy (distance position : Nat) : Nat → Array Emission → Array Emission
  | 0, done => done
  | n + 1, done =>
    let byte := (done[done.size - distance]?.map (·.byte)).getD 0
    copy distance position n (done.push ⟨byte, position, position⟩)

def stored : Nat → Array Emission → Bits → Array Emission × Except Ending Bits
  | 0, done, bits => (done, .ok bits)
  | n + 1, done, bits =>
    match Scan.number 8 bits with
    | .error ending => (done, .error ending)
    | .ok (value, after) =>
      stored n (done.push ⟨UInt8.ofNat value, bits.position, after.position⟩) after

/-- Reads coded bytes and repetitions up to the end of the block. -/
def coded (literals distances : Code) :
    (fuel : Nat) → Array Emission → Bits → Array Emission × Except Ending Bits
  | 0, done, _ => (done, .error .starved)
  | fuel + 1, done, bits =>
    match literals.scan bits with
    | .error ending => (done, .error ending)
    | .ok (symbol, bits) =>
      if symbol < Body.endSymbol then
        coded literals distances fuel
          (done.push ⟨UInt8.ofNat symbol, bits.position, bits.position⟩) bits
      else if symbol = Body.endSymbol then (done, .ok bits)
      else
        match scanRepetition distances symbol bits with
        | .error ending => (done, .error ending)
        | .ok ((length, distance), bits) =>
          if done.size < distance then (done, .error (.outOfReach bits.position))
          else coded literals distances fuel (copy distance bits.position length done) bits

/-- Reads blocks up to the last. -/
def blocks : (fuel : Nat) → Array Emission → Bits → Content
  | 0, done, _ => ⟨done, .starved⟩
  | fuel + 1, done, bits =>
    match Body.scanHeading bits with
    | .error ending => ⟨done, ending⟩
    | .ok ((last, body), bits) =>
      let read :=
        match body with
        | .stored length => stored length done bits
        | .coded literals distances => coded literals distances (fuel + 1) done bits
      match read with
      | (done, .error ending) => ⟨done, ending⟩
      | (done, .ok bits) => if last then ⟨done, .finished bits.position⟩ else blocks fuel done bits

/-- Reads compressed data. Every block and every symbol takes a bit, so there are at most as many
of them as bits. -/
def ofBits (bits : Bits) : Content :=
  blocks (bits.rest.length + 1) #[] bits

end Content

end BuildVersion.Deflate
