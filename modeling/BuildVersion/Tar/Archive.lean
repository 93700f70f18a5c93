import BuildVersion.Gzip.Reader
import BuildVersion.Tar.Entry

/-!
Compressed archives. The entries stand one after the other, each with its header and content in
whole blocks, up to a block that is no header; only the first block has to be one. Links are
followed inside the archive: a symbolic link to any entry, by its normal name as seen from the
directory of the link, a hard link to an entry before it.
-/

namespace BuildVersion.Tar

/-- Why an archive cannot be read on. -/
inductive Failure
  | stream (breach : Gzip.Breach)
  /-- The archive stops inside an entry, or it does not begin with a header. -/
  | malformed
  deriving DecidableEq, Repr

/-- What reading headers goes along with: the place of the next header, and the records about all
further entries. -/
structure Course where
  reader : Gzip.Reader
  next : Int
  shared : Records
  deriving Repr

abbrev Scan (α : Type) := StateT Course (Outcome Failure) α

namespace Scan

def abort {α : Type} (fault : Fault) : Scan α := fun _ => .aborted fault

def fail {α : Type} : Scan α := fun _ => .err .malformed

/-- Sizes and places from here on are beyond any file. -/
def tooFar : Int := 0x8000000000000000

/-- So many bytes at once are more than any memory holds. -/
def tooMany : Int := 0x800000000

/-- Reads `n` bytes, or those that are left. -/
def read (n : Int) : Scan (List UInt8) := fun course =>
  if n < 0 then .aborted .malformedSize
  else if tooFar ≤ n then .aborted .numberTooLarge
  else if tooMany ≤ n then .aborted .outOfMemory
  else
    match course.reader.read n.toNat with
    | .ok (bytes, reader) => .ok (bytes, { course with reader := reader })
    | .error breach => .err (.stream breach)

def seek (place : Int) : Scan Unit := fun course =>
  if tooFar ≤ place then .aborted .malformedSize
  else
    match course.reader.seek place.toNat with
    | .ok reader => .ok ((), { course with reader := reader })
    | .error breach => .err (.stream breach)

def place : Scan Nat := do
  return (← get).reader.place

def setNext (next : Int) : Scan Unit :=
  modify fun course => { course with next := next }

def correctAll (entry : Entry) (records : Records) : Scan Entry := fun course =>
  match entry.correctAll records with
  | .ok entry => .ok (entry, course)
  | .err failure => .err failure
  | .aborted fault => .aborted fault

/-- The entry of a header that its content follows. -/
def plainEntry (header : Header) : Scan Entry := do
  let start ← place
  setNext (start + if header.kind.hasContent then roundUp header.size else 0)
  let entry ← correctAll (.ofHeader header start) (← get).shared
  pure entry.trimmed

def stretchFields (block : List UInt8) : List (List UInt8) :=
  (List.range 42).map fun i => Header.slice (12 * i) 12 block

/-- The stretches in blocks after the header of a sparse file; `fuel` bounds their number. A field
that is cut off breaks the table, while one that is no number makes the header invalid. -/
def furtherStretches : (fuel : Nat) → Stretches → Scan (Except HeaderFault Stretches)
  | 0, _ => abort .brokenTable
  | fuel + 1, done => do
    let block ← read blockSize
    match (stretchFields block).find? fun field => (Header.number? field).isNone with
    | some [] => abort .brokenTable
    | some _ => pure (.error .invalid)
    | none =>
      match Header.stretchesAt 21 0 block, block[504]? with
      | some more, some mark =>
        let done := done ++ more.filter fun (offset, length) => offset ≠ 0 ∧ length ≠ 0
        if mark = 0 then pure (.ok done) else furtherStretches fuel done
      | _, _ => abort .brokenTable

/-- The entry of the header of a sparse file. -/
def sparseEntry (header : Header) : Scan (Except HeaderFault Entry) := do
  let blocks := (← get).reader.content.size / blockSize + 1
  let read ←
    if header.continued then furtherStretches blocks header.stretches
    else pure (.ok header.stretches)
  match read with
  | .error fault => pure (.error fault)
  | .ok stretches =>
    let start ← place
    setNext (start + roundUp header.size)
    pure (.ok { Entry.ofHeader header start with
      size := header.wholeSize, stretches := some stretches })

/-- Integers that commas separate, as pairs. -/
def pairs? (text : List UInt8) : Option Stretches := do
  let decoded ← (Text.Utf8.decode text).toOption
  let numbers ← (Text.split ',' decoded.toList).mapM Numeral.decimal?
  pure (pairUp numbers)
where
  /-- Neighbours as pairs; a last one without a neighbour is dropped. -/
  pairUp : List Int → Stretches
    | a :: b :: rest => (a, b) :: pairUp rest
    | _ => []

def integersOf (keyword : String) (records : Records) : Option (List Int) :=
  (records.filter (·.keyword = Records.word keyword)).mapM fun record =>
    Record.integer? record.value

/-- The line at the start of bytes, and what follows it. -/
def line? (bytes : List UInt8) : Option (List UInt8 × List UInt8) :=
  let line := bytes.takeWhile (· ≠ 0x0A)
  if line.length = bytes.length then none else some (line, bytes.drop (line.length + 1))

/-- `missing` lines with integers, from bytes that are at hand and blocks that follow. -/
def integerLines : (missing : Nat) → List UInt8 → Scan (List Int)
  | 0, _ => pure []
  | missing + 1, bytes => do
    let bytes ← if (line? bytes).isSome then pure bytes else (bytes ++ ·) <$> read blockSize
    match line? bytes with
    | none => abort .malformedSize
    | some (line, rest) =>
      match Record.lineInteger? line with
      | none => abort .malformedSize
      | some n => return n :: (← integerLines missing rest)

/-- The stretches of a sparse file that stand before its content, and their number in front. -/
def leadingStretches : Scan Stretches := do
  let block ← read blockSize
  match line? block with
  | none => abort .malformedSize
  | some (line, rest) =>
    match Record.lineInteger? line with
    | none => abort .malformedSize
    | some count => return pairs?.pairUp (← integerLines (2 * count.toNat) rest)

/-- The stretches that records describe, in one of three forms. `own` are the records that stand
just before the entry, `records` all that apply to it. -/
def describedStretches (own records : Records) (entry : Entry) :
    Scan (Except HeaderFault Entry) := do
  match records.get? "GNU.sparse.map" with
  | some text =>
    match pairs? text with
    | some stretches => pure (.ok { entry with stretches := some stretches })
    | none => abort .malformedSize
  | none =>
    if (records.get? "GNU.sparse.size").isSome then
      match integersOf "GNU.sparse.offset" own, integersOf "GNU.sparse.numbytes" own with
      | some offsets, some lengths =>
        pure (.ok { entry with stretches := some (offsets.zip lengths) })
      | _, _ => pure (.error .invalid)
    else if records.get? "GNU.sparse.major" = some (Records.word "1") ∧
        records.get? "GNU.sparse.minor" = some (Records.word "0") then do
      let stretches ← leadingStretches
      let start ← place
      pure (.ok { entry with start := start, stretches := some stretches })
    else pure (.ok entry)

/-- The entry as the records just before it correct it; a size of theirs moves the next header. -/
def correctOwn (records : Records) (entry : Entry) : Scan Entry := do
  let entry ← correctAll entry records
  if (records.get? "size").isSome then
    setNext (entry.start + if entry.kind.hasContent then roundUp entry.size else 0)
  pure entry

/-- How many headers may stand before one entry. -/
def maxNesting : Nat := 327

/-- Reads the header at the present place, and with it the headers that it is about. -/
def entry : (fuel : Nat) → Scan (Except HeaderFault Entry)
  | 0 => abort .tooDeep
  | fuel + 1 => do
    let block ← read blockSize
    match Header.ofBlock block with
    | .error fault => pure (.error fault)
    | .ok header =>
      match header.kind with
      | .longName | .longLink => do
        let text ← read (roundUp header.size)
        match ← entry fuel with
        | .error _ => pure (.error .follower)
        | .ok found => pure (.ok (found.withLongName header.kind (Name.untilZero text)))
      | .sparse => sparseEntry header
      | .extended | .shared => do
        let bytes ← read (roundUp header.size)
        match Record.all? bytes with
        | none => pure (.error .invalid)
        | some own => do
          let records := own.foldl Records.put (← get).shared
          if header.kind = .shared then modify fun course => { course with shared := records }
          match ← entry fuel with
          | .error _ => pure (.error .follower)
          | .ok found =>
            let course ← get
            let records := if header.kind = .shared then course.shared else records
            match ← describedStretches own records found with
            | .error fault => pure (.error fault)
            | .ok found =>
              if header.kind = .extended then return .ok (← correctOwn records found)
              else pure (.ok found)
      | _ => return .ok (← plainEntry header)

/-- Goes to the next header, unless that is where reading stands. There is none at the start once
reading has left it. -/
def advance : Scan Bool := do
  let next := (← get).next
  if next = (← place) then pure true
  else if next = 0 then pure false
  else
    seek (next - 1)
    if (← read 1) = [] then fail else pure true

/-- Reads the next entry, unless the archive ends. -/
def nextEntry : Scan (Option Entry) := do
  if ← advance then
    match ← entry maxNesting with
    | .ok found => pure (some found)
    | .error .follower => fail
    | .error .zero => pure none
    | .error _ => if (← get).next = 0 then fail else pure none
  else pure none

/-- The entries that are left; `fuel` bounds their number. -/
def entries : (fuel : Nat) → Scan (List Entry)
  | 0 => pure []
  | fuel + 1 => do
    match ← nextEntry with
    | none => pure []
    | some found => return found :: (← entries fuel)

/-- The segment that covers a place, and the segments from there on in a circle. -/
def turnTo (place : Int) (segments : List Entry.Segment) :
    Option (Entry.Segment × List Entry.Segment) :=
  let covers (s : Entry.Segment) : Bool := s.start ≤ place && place < s.stop
  match segments.dropWhile (fun s => !covers s) with
  | [] => none
  | s :: rest => some (s, s :: rest ++ segments.takeWhile (fun s => !covers s))

/-- Zero bytes, as many as a memory holds. -/
def zeros (n : Nat) : Scan (List UInt8) :=
  if tooFar ≤ n then abort .numberTooLarge
  else if tooMany ≤ n then abort .outOfMemory
  else pure (List.replicate n 0)

/-- The `missing` last bytes of the content, from a place on; `fuel` bounds the number of
segments. -/
def content : (fuel : Nat) → (position : Int) → (missing : Nat) → List Entry.Segment →
    Scan (List UInt8)
  | 0, _, _, _ => pure []
  | _, _, 0, _ => pure []
  | fuel + 1, position, missing, segments => do
    match turnTo position segments with
    | none => fail
    | some (segment, turned) =>
      let n := min missing (segment.stop - position).toNat
      let bytes ←
        match segment.source with
        | none => zeros n
        | some source => do
          seek (source + (position - segment.start))
          let bytes ← read n
          if bytes.length ≠ n then fail else pure bytes
      return bytes ++ (← content fuel (position + n) (missing - n) turned)

end Scan

/-- What is known of an archive when it has been read through. -/
structure Archive where
  entries : List Entry
  course : Course
  deriving Repr

/-- Why an archive yields no content. -/
inductive ArchiveError
  /-- It is no gzip file that holds an archive, or it stops early. -/
  | undecodable
  /-- A check sum is wrong, or a heading inside the file. -/
  | unreadable
  deriving DecidableEq, Repr

namespace Archive

/-- How a failure counts after the first header was read. -/
def laterError : Failure → ArchiveError
  | .stream .mismatch => .unreadable
  | _ => .undecodable

/-- Reads an archive through. Whatever fails before the first header was read counts as
undecodable. -/
def ofBytes (bytes : List UInt8) : Outcome ArchiveError Archive :=
  let course : Course := ⟨.ofBytes bytes, 0, []⟩
  match Scan.nextEntry course with
  | .aborted fault => .aborted fault
  | .err _ => .err .undecodable
  | .ok (none, course) => .ok ⟨[], course⟩
  | .ok (some first, course) =>
    let most := course.reader.content.size / blockSize + 1
    match Scan.entries most course with
    | .aborted fault => .aborted fault
    | .err failure => .err (laterError failure)
    | .ok (rest, course) => .ok ⟨first :: rest, course⟩

/-- The index of the last of the first `count` entries that fits. -/
def lastIndex? (archive : Archive) (count : Nat) (fits : Entry → Bool) : Option Nat :=
  ((archive.entries.take count).zipIdx.reverse.find? fun (entry, _) => fits entry).map (·.2)

/-- The index of the last entry of exactly this name. -/
def find? (archive : Archive) (name : Name) : Option Nat :=
  archive.lastIndex? archive.entries.length (·.name = name)

/-- The index of the entry that the link at an index leads to. -/
def target? (archive : Archive) (index : Nat) (link : Entry) : Option Nat :=
  if link.kind = .symbolicLink then
    let name := Name.normalize (Name.within (Name.directory link.name) link.linkName)
    archive.lastIndex? archive.entries.length fun entry => Name.normalize entry.name = name
  else
    let name := Name.normalize link.linkName
    archive.lastIndex? index fun entry => Name.normalize entry.name = name

/-- How many links may lead from an entry to the one that has its content. -/
def maxLinks : Nat := 987

/-- Follows links from an entry to one that is none. -/
def follow (archive : Archive) : (steps : Nat) → (index : Nat) → Outcome ArchiveError Entry
  | 0, _ => .aborted .linkCycle
  | steps + 1, index =>
    match archive.entries[index]? with
    | none => .aborted .danglingLink
    | some entry =>
      if entry.kind = .hardLink ∨ entry.kind = .symbolicLink then
        match archive.target? index entry with
        | none => .aborted .danglingLink
        | some index => follow archive steps index
      else .ok entry

/-- The content of the entry at an index, or of the one that it links to; directories and devices
have none. -/
def content? (archive : Archive) (index : Nat) : Outcome ArchiveError (Option (List UInt8)) :=
  (archive.follow (maxLinks + 1) index).bind fun entry =>
    if entry.kind.hasContent then
      let size := entry.size.toNat
      match Scan.content size 0 size entry.segments archive.course with
      | .ok (bytes, _) => .ok (some bytes)
      | .err failure => .err (laterError failure)
      | .aborted fault => .aborted fault
    else .ok none

end Archive

end BuildVersion.Tar
