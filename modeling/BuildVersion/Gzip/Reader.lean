import BuildVersion.Gzip.Flow

/-!
Reading the content of a gzip file at any place. A reader keeps the last bytes that it took from
the flow, so that small reads and short ways back cost no portion; for a longer way back it starts
the file again. Which bytes are kept shows in the portions alone: a breach is met by the portion
that comes upon it.
-/

namespace BuildVersion.Gzip

def bufferSize : Nat := 8192

/-- A reader of a file of `size` bytes, which holds `content`. -/
structure Reader where
  size : Nat
  chain : Chain
  content : Array UInt8
  flow : Flow
  /-- How many bytes the flow has given. -/
  passed : Nat
  /-- How many of them are kept. -/
  held : Nat
  /-- How many of those are still to be read. -/
  unread : Nat
  deriving Repr

namespace Reader

def ofBytes (bytes : List UInt8) : Reader :=
  let chain := Chain.ofBytes bytes
  ⟨bytes.length, chain, chain.bytes.toArray, Flow.ofChain chain, 0, 0, 0⟩

/-- The place of the next byte. -/
def place (reader : Reader) : Nat := reader.passed - reader.unread

/-- Takes a portion from the flow, past the bytes that are kept. -/
def takePortion (limit : Nat) (reader : Reader) : Except Breach (Nat × Reader) :=
  match reader.flow.read reader.size limit with
  | .error breach => .error breach
  | .ok (n, flow) => .ok (n, { reader with flow := flow, passed := reader.passed + n })

/-- Passes `missing` bytes in portions of whole buffers, as long as so many are missing; the rest
is missing then, unless the file has ended. -/
def passBuffers (missing : Nat) (reader : Reader) : Except Breach (Nat × Bool × Reader) :=
  if missing < bufferSize then .ok (missing, false, reader)
  else
    match reader.takePortion (missing / bufferSize * bufferSize) with
    | .error breach => .error breach
    | .ok (0, reader) => .ok (missing, true, reader)
    | .ok (n + 1, reader) => passBuffers (missing - (n + 1)) reader
termination_by missing
decreasing_by simp only [bufferSize] at *; omega

/-- Fills the buffer until `missing` bytes are passed or the file has ended; tells how many are
still missing. -/
def fillBuffer (missing : Nat) (reader : Reader) : Except Breach (Nat × Reader) :=
  if missing = 0 then .ok (0, reader)
  else
    match reader.takePortion (bufferSize - reader.held) with
    | .error breach => .error breach
    | .ok (0, reader) => .ok (missing, reader)
    | .ok (n + 1, reader) =>
      let reader := { reader with held := reader.held + (n + 1) }
      if missing ≤ n + 1 then .ok (0, { reader with unread := n + 1 - missing })
      else fillBuffer (missing - (n + 1)) reader
termination_by missing
decreasing_by omega

def slice (reader : Reader) (start stop : Nat) : List UInt8 :=
  (reader.content.extract start stop).toList

/-- Reads `n` bytes, or those that are left. -/
def read (n : Nat) (reader : Reader) : Except Breach (List UInt8 × Reader) :=
  let start := reader.place
  if n ≤ reader.unread then
    .ok (reader.slice start (start + n), { reader with unread := reader.unread - n })
  else
    match passBuffers (n - reader.unread) { reader with held := 0, unread := 0 } with
    | .error breach => .error breach
    | .ok (missing, true, after) => .ok (reader.slice start (start + (n - missing)), after)
    | .ok (missing, false, after) =>
      match fillBuffer missing after with
      | .error breach => .error breach
      | .ok (missing, after) => .ok (reader.slice start (start + (n - missing)), after)

/-- Passes `missing` bytes in portions of at most one buffer. -/
def passOver (missing : Nat) (reader : Reader) : Except Breach Reader :=
  if missing = 0 then .ok reader
  else
    match reader.takePortion (min bufferSize missing) with
    | .error breach => .error breach
    | .ok (0, reader) => .ok reader
    | .ok (n + 1, reader) => passOver (missing - (n + 1)) reader
termination_by missing
decreasing_by omega

/-- Goes to a place, or to the end of the content if that comes first. -/
def seek (target : Nat) (reader : Reader) : Except Breach Reader :=
  if 0 < reader.unread ∧ reader.passed - reader.held ≤ target ∧ target ≤ reader.passed then
    .ok { reader with unread := reader.passed - target }
  else
    let reader := { reader with held := 0, unread := 0 }
    if target < reader.passed then
      passOver target { reader with flow := Flow.ofChain reader.chain, passed := 0 }
    else passOver (target - reader.passed) reader

end Reader

end BuildVersion.Gzip
