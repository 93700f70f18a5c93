import BuildVersion.Outcome
import BuildVersion.Tar.Header
import BuildVersion.Tar.Record

namespace BuildVersion.Tar

structure Entry where
  name : Name
  linkName : Name
  kind : Kind
  size : Int
  start : Nat
  /-- Where the stretches of a sparse file lie; other files are one stretch. -/
  stretches : Option Stretches
  deriving DecidableEq, Repr

namespace Entry

def ofHeader (header : Header) (start : Nat) : Entry :=
  ⟨header.name, header.linkName, header.kind, header.size, start, none⟩

/-- A directory's name has no slash at its end. -/
def trimmed (entry : Entry) : Entry :=
  if entry.kind = .directory then { entry with name := Name.dropSlashes entry.name } else entry

/-- The entry with the name or link name that stands before its header. -/
def withLongName (kind : Kind) (text : Name) (entry : Entry) : Entry :=
  let entry :=
    if kind = .longName then { entry with name := text } else { entry with linkName := text }
  if entry.kind = .directory then { entry with name := Name.dropSlash entry.name } else entry

/-- The entry as one record corrects it. A size that is no number counts as zero, unless it is
that of a sparse file. -/
def correct {ε : Type} (entry : Entry) (record : Record) : Outcome ε Entry :=
  if record.keyword = Records.word "GNU.sparse.name" then .ok { entry with name := record.value }
  else if record.keyword = Records.word "GNU.sparse.size" ∨
      record.keyword = Records.word "GNU.sparse.realsize" then
    match Record.integer? record.value with
    | some size => .ok { entry with size := size }
    | none => .aborted .malformedSize
  else if record.keyword = Records.word "path" then
    .ok { entry with name := Name.dropSlashes record.value }
  else if record.keyword = Records.word "linkpath" then
    .ok { entry with linkName := record.value }
  else if record.keyword = Records.word "size" then
    .ok { entry with size := (Record.integer? record.value).getD 0 }
  else .ok entry

def correctAll {ε : Type} (entry : Entry) (records : Records) : Outcome ε Entry :=
  records.foldlM correct entry

/-- A stretch of the content: from where to where, and where its bytes are, if it is no hole. -/
structure Segment where
  start : Int
  stop : Int
  source : Option Int
  deriving DecidableEq, Repr

/-- The segments from place `done` on, whose bytes start at `source`. -/
def segmentsFrom (size : Int) : (done source : Int) → Stretches → List Segment
  | done, _, [] => if done < size then [⟨done, size, none⟩] else []
  | done, source, (offset, length) :: rest =>
    (if done < offset then [⟨done, offset, none⟩] else []) ++
      ⟨offset, offset + length, some source⟩ ::
        segmentsFrom size (offset + length) (source + length) rest

def segments (entry : Entry) : List Segment :=
  segmentsFrom entry.size 0 entry.start (entry.stretches.getD [(0, entry.size)])

end Entry

end BuildVersion.Tar
