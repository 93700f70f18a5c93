import BuildVersion.Tar.Archive
import BuildVersion.Proofs.Tar.Ustar

namespace BuildVersion.Tar

/-- Whether a header of this kind is about an entry of its own that is no sparse file. -/
def Kind.isPlain (kind : Kind) : Bool :=
  kind = .file || kind = .directory || kind = .device || kind = .hardLink || kind = .symbolicLink

theorem Header.length_of_ofBlock {block : List UInt8} {header : Header}
    (h : ofBlock block = .ok header) : block.length = blockSize := by
  by_contra hlength
  rw [ofBlock, if_pos hlength] at h
  split at h <;> cases h

namespace Entry

/-- How many bytes the content of an entry takes. -/
def room (entry : Entry) : Int :=
  if entry.kind.hasContent then roundUp entry.size else 0

/-- What records about an entry leave as it is. -/
structure Keeps (entry corrected : Entry) : Prop where
  kind_eq : corrected.kind = entry.kind
  start_eq : corrected.start = entry.start
  stretches_eq : corrected.stretches = entry.stretches

theorem Keeps.refl (entry : Entry) : entry.Keeps entry := ⟨rfl, rfl, rfl⟩

theorem Keeps.trans {a b c : Entry} (hab : a.Keeps b) (hbc : b.Keeps c) : a.Keeps c where
  kind_eq := hbc.kind_eq.trans hab.kind_eq
  start_eq := hbc.start_eq.trans hab.start_eq
  stretches_eq := hbc.stretches_eq.trans hab.stretches_eq

theorem trimmed_keeps (entry : Entry) : entry.Keeps entry.trimmed := by
  rw [trimmed]
  split <;> exact ⟨rfl, rfl, rfl⟩

theorem withLongName_keeps (entry : Entry) (kind : Kind) (text : Name) :
    entry.Keeps (entry.withLongName kind text) := by
  simp only [withLongName]
  split <;> split <;> exact ⟨rfl, rfl, rfl⟩

theorem room_trimmed (entry : Entry) : entry.trimmed.room = entry.room := by
  rw [trimmed]
  split <;> rfl

theorem room_withLongName (entry : Entry) (kind : Kind) (text : Name) :
    (entry.withLongName kind text).room = entry.room := by
  simp only [withLongName]
  split <;> split <;> rfl

/-- The keywords of records that make an entry a sparse file. -/
def sparseKeywords : List (List UInt8) :=
  ["GNU.sparse.map", "GNU.sparse.size", "GNU.sparse.realsize", "GNU.sparse.major"].map Records.word

variable {ε : Type} {entry corrected : Entry} {record : Record} {records : Records}

theorem correct_keeps (h : (entry.correct record : Outcome ε Entry) = .ok corrected) :
    entry.Keeps corrected := by
  rw [correct] at h
  split at h
  · rw [← Outcome.ok.inj h]
    exact ⟨rfl, rfl, rfl⟩
  · split at h
    · split at h
      · rw [← Outcome.ok.inj h]
        exact ⟨rfl, rfl, rfl⟩
      · cases h
    · repeat' split at h
      all_goals
        rw [← Outcome.ok.inj h]
        exact ⟨rfl, rfl, rfl⟩

theorem size_of_correct (h : (entry.correct record : Outcome ε Entry) = .ok corrected)
    (hsparse : record.keyword ∉ sparseKeywords) (hsize : record.keyword ≠ Records.word "size") :
    corrected.size = entry.size := by
  simp only [sparseKeywords, List.map_cons, List.map_nil, List.mem_cons, List.not_mem_nil,
    or_false, not_or] at hsparse
  obtain ⟨-, hwhole, hreal, -⟩ := hsparse
  rw [correct, if_neg (c := _ ∨ _) (not_or.mpr ⟨hwhole, hreal⟩),
    if_neg (c := _ = Records.word "size") hsize] at h
  repeat' split at h
  all_goals
    rw [← Outcome.ok.inj h]

theorem correctAll_keeps (h : (entry.correctAll records : Outcome ε Entry) = .ok corrected) :
    entry.Keeps corrected := by
  induction records generalizing entry with
  | nil =>
      rw [← Outcome.ok.inj h]
      exact .refl entry
  | cons record rest ih =>
      obtain ⟨next, hnext, hrest⟩ := Outcome.bind_eq_ok_iff.mp h
      exact (correct_keeps hnext).trans (ih hrest)

theorem size_of_correctAll (h : (entry.correctAll records : Outcome ε Entry) = .ok corrected)
    (hsparse : ∀ record ∈ records, record.keyword ∉ sparseKeywords)
    (hsize : ∀ record ∈ records, record.keyword ≠ Records.word "size") :
    corrected.size = entry.size := by
  induction records generalizing entry with
  | nil => rw [← Outcome.ok.inj h]
  | cons record rest ih =>
      obtain ⟨next, hnext, hrest⟩ := Outcome.bind_eq_ok_iff.mp h
      rw [List.forall_mem_cons] at hsparse hsize
      rw [ih hrest hsparse.2 hsize.2, size_of_correct hnext hsparse.1 hsize.1]

end Entry

/-- `Introduces place n bytes entry` means that the bytes at a place are `n` headers in front of
the content of the entry: its own header, and before that one names that are too long for a field
and records. -/
inductive Introduces : (place n : Nat) → List UInt8 → Entry → Prop
  | own {place : Nat} {block : List UInt8} {header : Header}
      (hblock : Header.ofBlock block = .ok header) (hkind : header.kind.isPlain = true) :
      Introduces place 1 block (Entry.ofHeader header (place + blockSize)).trimmed
  | long {place n : Nat} {block text rest : List UInt8} {header : Header} {entry : Entry}
      (hblock : Header.ofBlock block = .ok header)
      (hkind : header.kind = .longName ∨ header.kind = .longLink)
      (hlength : (text.length : Int) = roundUp header.size)
      (hshort : (text.length : Int) < Scan.tooMany)
      (hrest : Introduces (place + blockSize + text.length) n rest entry) :
      Introduces place (n + 1) (block ++ (text ++ rest))
        (entry.withLongName header.kind (Name.untilZero text))
  | records {place n : Nat} {block text rest : List UInt8} {header : Header} {records : Records}
      {entry corrected : Entry} (hblock : Header.ofBlock block = .ok header)
      (hkind : header.kind = .extended) (hlength : (text.length : Int) = roundUp header.size)
      (hshort : (text.length : Int) < Scan.tooMany)
      (hrecords : (Record.all? text).map (·.foldl Records.put []) = some records)
      (hsparse : ∀ record ∈ records, record.keyword ∉ Entry.sparseKeywords)
      (hcorrected : (entry.correctAll records : Outcome Failure Entry) = .ok corrected)
      (hrest : Introduces (place + blockSize + text.length) n rest entry) :
      Introduces place (n + 1) (block ++ (text ++ rest)) corrected

/-- What headers in front of a content say of it. -/
structure Entry.Stands (stop : Nat) (entry : Entry) : Prop where
  isPlain : entry.kind.isPlain = true
  start_eq : entry.start = stop
  stretches_eq : entry.stretches = none

theorem Entry.Stands.of_keeps {stop : Nat} {entry corrected : Entry} (h : entry.Stands stop)
    (hkeeps : entry.Keeps corrected) : corrected.Stands stop where
  isPlain := by rw [hkeeps.kind_eq, h.isPlain]
  start_eq := hkeeps.start_eq.trans h.start_eq
  stretches_eq := hkeeps.stretches_eq.trans h.stretches_eq

theorem Introduces.stands {place n : Nat} {bytes : List UInt8} {entry : Entry}
    (h : Introduces place n bytes entry) : entry.Stands (place + bytes.length) := by
  induction h with
  | @own place block header hblock hkind =>
      rw [Header.length_of_ofBlock hblock]
      exact Entry.Stands.of_keeps ⟨hkind, rfl, rfl⟩ (Entry.trimmed_keeps _)
  | @long place n block text rest header entry hblock hkind hlength hshort hrest ih =>
      rw [List.length_append, List.length_append, Header.length_of_ofBlock hblock,
        ← Nat.add_assoc, ← Nat.add_assoc]
      exact ih.of_keeps (entry.withLongName_keeps _ _)
  | @records place n block text rest header records entry corrected hblock hkind hlength hshort
      hrecords hsparse hcorrected hrest ih =>
      rw [List.length_append, List.length_append, Header.length_of_ofBlock hblock,
        ← Nat.add_assoc, ← Nat.add_assoc]
      exact ih.of_keeps (Entry.correctAll_keeps hcorrected)

theorem Introduces.blockSize_le_length {place n : Nat} {bytes : List UInt8} {entry : Entry}
    (h : Introduces place n bytes entry) : blockSize ≤ bytes.length := by
  cases h with
  | own hblock => exact Nat.le_of_eq (Header.length_of_ofBlock hblock).symm
  | long hblock =>
      rw [List.length_append, Header.length_of_ofBlock hblock]
      exact Nat.le_add_right _ _
  | records hblock =>
      rw [List.length_append, Header.length_of_ofBlock hblock]
      exact Nat.le_add_right _ _

/-- An entry as it is written, with its headers and its content. -/
structure Member where
  headers : Nat
  front : List UInt8
  /-- The entry, up to the place of its content. -/
  entry : Entry
  content : List UInt8
  introduces (place : Nat) :
    Introduces place headers front { entry with start := place + front.length }
  headers_le : headers ≤ Scan.maxNesting
  size_eq : entry.kind = .file → entry.size = content.length
  content_eq_nil : entry.kind ≠ .file → content = []
  /-- The content is no longer than a memory. -/
  length_content_lt : (content.length : Int) < Scan.tooMany

namespace Member

variable (member : Member)

/-- How many zeros fill up the last block of the content. -/
def padding : Nat :=
  (blockSize - member.content.length % blockSize) % blockSize

def written : List UInt8 :=
  member.front ++ (member.content ++ List.replicate member.padding 0)

/-- The entries of an archive, without the zeros at its end. -/
def writtenAll (members : List Member) : List UInt8 :=
  members.flatMap written

/-- An archive with two blocks of zeros and more zeros at its end. -/
def archive (members : List Member) (more : Nat) : List UInt8 :=
  writtenAll members ++ List.replicate (2 * blockSize + more) 0

theorem stands (place : Nat) :
    Entry.Stands (place + member.front.length)
      { member.entry with start := place + member.front.length } :=
  (member.introduces place).stands

theorem length_written :
    (member.written.length : Int) = member.front.length + member.entry.room := by
  have hlength : (member.content.length + member.padding : Nat) = member.entry.room := by
    by_cases hkind : member.entry.kind = .file
    · rw [Entry.room, hkind, if_pos (by decide), member.size_eq hkind, padding, roundUp,
        Int.fdiv_eq_ediv_of_nonneg _ (by decide)]
      simp only [blockSize]
      omega
    · have hplain : member.entry.kind.isPlain = true := (member.stands 0).isPlain
      have hempty : member.entry.kind.hasContent = false := by
        cases hmember : member.entry.kind with
        | file => exact absurd hmember hkind
        | sparse =>
            rw [hmember] at hplain
            contradiction
        | _ => rfl
      rw [Entry.room, hempty, padding, member.content_eq_nil hkind, if_neg (by decide)]
      decide
  rw [written, List.length_append, List.length_append, List.length_replicate]
  omega

theorem blockSize_add_le_length_written :
    blockSize + member.content.length ≤ member.written.length := by
  have hfront := (member.introduces 0).blockSize_le_length
  rw [written, List.length_append, List.length_append]
  omega

theorem length_writtenAll_cons (members : List Member) :
    (writtenAll (member :: members)).length =
      member.written.length + (writtenAll members).length := by
  rw [writtenAll, List.flatMap_cons, List.length_append, writtenAll]

theorem archive_nil (more : Nat) :
    archive [] more = List.replicate (blockSize + (blockSize + more)) 0 := by
  rw [archive, writtenAll, List.flatMap_nil, List.nil_append, Nat.two_mul, Nat.add_assoc]

theorem archive_cons (members : List Member) (more : Nat) :
    archive (member :: members) more = member.written ++ archive members more := by
  rw [archive, writtenAll, List.flatMap_cons, List.append_assoc, archive, writtenAll]

theorem blockSize_mul_length_le (members : List Member) :
    blockSize * members.length ≤ (writtenAll members).length := by
  induction members with
  | nil => exact Nat.zero_le _
  | cons member members ih =>
      have hmember := member.blockSize_add_le_length_written
      rw [length_writtenAll_cons, List.length_cons, Nat.mul_succ]
      omega

end Member

/-- A regular file in the ustar format is written as an entry. -/
theorem RegularFile.exists_member (file : RegularFile) :
    ∃ member : Member, member.written = file.written ∧ member.content = file.content ∧
      member.entry.name = file.name ∧ member.entry.kind = .file := by
  obtain ⟨header, hblock, hname, hkind, hsize⟩ := file.ofBlock_header
  have htrimmed (start : Nat) : (Entry.ofHeader header start).trimmed = .ofHeader header start := by
    rw [Entry.trimmed, if_neg]
    simp [Entry.ofHeader, hkind]
  have hcontent := file.length_content_lt
  refine ⟨{
    headers := 1
    front := file.header
    entry := .ofHeader header 0
    content := file.content
    introduces := fun place => ?_
    headers_le := by decide
    size_eq := fun _ => hsize
    content_eq_nil := fun hother => absurd hkind hother
    length_content_lt := by simp only [Scan.tooMany]; omega }, rfl, rfl, hname, hkind⟩
  have hown : Introduces place 1 file.header (Entry.ofHeader header (place + blockSize)).trimmed :=
    .own hblock (by rw [hkind]; decide)
  rw [htrimmed] at hown
  rw [file.length_header]
  exact hown

end BuildVersion.Tar
