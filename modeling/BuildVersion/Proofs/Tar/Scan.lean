import Mathlib.Data.List.Forall2
import BuildVersion.Tar.Archive
import BuildVersion.Proofs.Gzip.Reader
import BuildVersion.Proofs.Tar.Member

namespace BuildVersion.Tar

variable {content : List UInt8} {place : Nat} {next : Int} {course : Course} {α β : Type}

/-- A course through a complete file with this content, at a place and before any shared record. -/
structure Course.At (content : List UInt8) (place : Nat) (next : Int) (course : Course) : Prop where
  reads : course.reader.Reads content
  place_eq : course.reader.place = place
  next_eq : course.next = next
  shared_eq : course.shared = []

namespace Scan

theorem bind_of_ok {x : Scan α} {f : α → Scan β} {after : Course} {a : α}
    (h : x course = .ok (a, after)) : (x >>= f) course = f a after := by
  change Outcome.bind (x course) (fun result => f result.1 result.2) = f a after
  rw [h]
  rfl

theorem pure_eq (a : α) : (pure a : Scan α) course = .ok (a, course) := rfl

theorem get_eq : (get : Scan Course) course = .ok (course, course) := rfl

theorem exists_read (h : course.reader.Reads content) {n : Nat} (hn : n < 2 ^ 35) :
    ∃ reader, read n course =
        .ok ((content.drop course.reader.place).take n, { course with reader := reader }) ∧
      reader.Reads content ∧ reader.place = min (course.reader.place + n) content.length := by
  obtain ⟨reader, hread, hreads, hplace⟩ := h.exists_read n
  refine ⟨reader, ?_, hreads, hplace⟩
  rw [read, if_neg (by omega), if_neg (by simp only [tooFar]; omega),
    if_neg (by simp only [tooMany]; omega), Int.toNat_natCast, hread]

theorem exists_seek (h : course.reader.Reads content) (target : Nat) (hfar : target < 2 ^ 63) :
    ∃ reader, seek target course = .ok ((), { course with reader := reader }) ∧
      reader.Reads content ∧ reader.place = min target content.length := by
  obtain ⟨reader, hseek, hreads, hplace⟩ := h.exists_seek target
  refine ⟨reader, ?_, hreads, hplace⟩
  rw [seek, if_neg (by simp only [tooFar]; omega), Int.toNat_natCast, hseek]

theorem exists_readAt (h : course.At content place next) {n : Nat} (hn : n < 2 ^ 35) :
    ∃ after, read n course = .ok ((content.drop place).take n, after) ∧
      after.At content (min (place + n) content.length) next := by
  obtain ⟨reader, hread, hreads, hplace⟩ := exists_read h.reads hn
  rw [h.place_eq] at hread hplace
  exact ⟨_, hread, hreads, hplace, h.next_eq, h.shared_eq⟩

theorem exists_seekAt (h : course.At content place next) (target : Nat)
    (hfar : target < 2 ^ 63) (htarget : target ≤ content.length) :
    ∃ after, seek target course = .ok ((), after) ∧ after.At content target next := by
  obtain ⟨reader, hseek, hreads, hplace⟩ := exists_seek h.reads target hfar
  rw [Nat.min_eq_left htarget] at hplace
  exact ⟨_, hseek, hreads, hplace, h.next_eq, h.shared_eq⟩

end Scan

/-- The entry of a member whose content stands at its place. -/
structure Entry.Shows (content : List UInt8) (member : Member) (entry : Entry) : Prop where
  entry_eq : entry = { member.entry with start := entry.start }
  slice_eq : (content.drop entry.start).take member.content.length = member.content
  stop_le : entry.start + member.content.length ≤ 2 ^ 63

namespace Entry.Shows

variable {member : Member} {entry : Entry}

theorem name_eq (h : entry.Shows content member) : entry.name = member.entry.name := by
  rw [h.entry_eq]

theorem kind_eq (h : entry.Shows content member) : entry.kind = member.entry.kind := by
  rw [h.entry_eq]

/-- The segments of an entry that is no sparse file are one. -/
theorem segments_eq (h : entry.Shows content member) :
    entry.segments = [⟨0, entry.size, some entry.start⟩] := by
  have hstretches : entry.stretches = none := by
    rw [h.entry_eq]
    exact (member.stands 0).stretches_eq
  simp [segments, segmentsFrom, hstretches]

end Entry.Shows

namespace Scan

theorem add_length_le {bytes rest : List UInt8} (hplace : place ≤ content.length)
    (hcontent : content.drop place = bytes ++ rest) : place + bytes.length ≤ content.length := by
  have hdropped := congrArg List.length hcontent
  rw [List.length_drop, List.length_append] at hdropped
  omega

theorem lt_length {bytes rest : List UInt8} (hcontent : content.drop place = bytes ++ rest)
    (hbytes : blockSize ≤ bytes.length) : place < content.length := by
  have hdropped := congrArg List.length hcontent
  rw [List.length_drop, List.length_append] at hdropped
  simp only [blockSize] at hbytes
  omega

/-- Bytes that stand at a place are read, and what stands behind them comes next. -/
theorem exists_readBytes {bytes rest : List UInt8} (h : course.At content place next)
    (hplace : place ≤ content.length) (hcontent : content.drop place = bytes ++ rest)
    (hshort : (bytes.length : Int) < tooMany) :
    ∃ after, read bytes.length course = .ok (bytes, after) ∧
      after.At content (place + bytes.length) next ∧
      content.drop (place + bytes.length) = rest := by
  obtain ⟨after, hread, hafter⟩ :=
    exists_readAt h (n := bytes.length) (by simp only [tooMany] at hshort; omega)
  rw [hcontent, List.take_left] at hread
  rw [Nat.min_eq_left (add_length_le hplace hcontent)] at hafter
  refine ⟨after, hread, hafter, ?_⟩
  rw [← List.drop_drop, hcontent, List.drop_left]

theorem exists_readBlock {block rest : List UInt8} {header : Header}
    (h : course.At content place next) (hplace : place ≤ content.length)
    (hcontent : content.drop place = block ++ rest) (hblock : Header.ofBlock block = .ok header) :
    ∃ after, read blockSize course = .ok (block, after) ∧
      after.At content (place + blockSize) next ∧ content.drop (place + blockSize) = rest := by
  have hlength := Header.length_of_ofBlock hblock
  rw [← hlength]
  exact exists_readBytes h hplace hcontent (by rw [hlength]; decide)

/-- A header is read with the text behind it. -/
theorem exists_readText {block text rest : List UInt8} {header : Header}
    (h : course.At content place next) (hplace : place ≤ content.length)
    (hcontent : content.drop place = block ++ (text ++ rest))
    (hblock : Header.ofBlock block = .ok header)
    (hlength : (text.length : Int) = roundUp header.size)
    (hshort : (text.length : Int) < tooMany) :
    ∃ middle after, read blockSize course = .ok (block, middle) ∧
      read (roundUp header.size) middle = .ok (text, after) ∧
      after.At content (place + blockSize + text.length) next ∧
      place + blockSize + text.length ≤ content.length ∧
      content.drop (place + blockSize + text.length) = rest := by
  have hinside := add_length_le hplace hcontent
  rw [Header.length_of_ofBlock hblock] at hinside
  obtain ⟨middle, hread, hmiddle, hbehind⟩ := exists_readBlock h hplace hcontent hblock
  obtain ⟨after, hreadText, hafter, hrest⟩ := exists_readBytes hmiddle hinside hbehind hshort
  rw [hlength] at hreadText
  exact ⟨middle, after, hread, hreadText, hafter, add_length_le hinside hbehind, hrest⟩

/-- Without shared records an entry is what its own header says. -/
theorem exists_plainEntry (h : course.At content place next) (header : Header) :
    ∃ after, plainEntry header course = .ok ((Entry.ofHeader header place).trimmed, after) ∧
      after.At content place (place + (Entry.ofHeader header place).room) := by
  have hplace : Scan.place course = .ok (place, course) := by
    rw [← h.place_eq]
    rfl
  have hshared : correctAll (.ofHeader header place) course.shared =
      correctAll (.ofHeader header place) [] := by
    rw [h.shared_eq]
  refine ⟨{ course with next := place + (Entry.ofHeader header place).room }, ?_, h.reads,
    h.place_eq, rfl, h.shared_eq⟩
  rw [plainEntry, bind_of_ok hplace]
  change (correctAll (.ofHeader header place) course.shared >>= fun entry =>
    pure entry.trimmed) _ = _
  rw [hshared, bind_of_ok rfl]
  rfl

section Records

variable {records own : Records} {entry corrected : Entry}

theorem get?_eq_none_iff {keyword : String} :
    records.get? keyword = none ↔ ∀ record ∈ records, record.keyword ≠ Records.word keyword := by
  rw [Records.get?, Option.map_eq_none_iff, List.find?_eq_none]
  simp only [decide_eq_true_eq, ne_eq]

theorem describedStretches_eq
    (hsparse : ∀ record ∈ records, record.keyword ∉ Entry.sparseKeywords) :
    describedStretches own records entry = pure (.ok entry) := by
  have hnone (keyword : String) (hkeyword : Records.word keyword ∈ Entry.sparseKeywords) :
      records.get? keyword = none :=
    get?_eq_none_iff.mpr fun record hrecord hword => hsparse record hrecord (hword ▸ hkeyword)
  rw [describedStretches, hnone "GNU.sparse.map" (by decide),
    hnone "GNU.sparse.size" (by decide), hnone "GNU.sparse.major" (by decide)]
  simp

/-- Records about an entry correct it, and the next header stands behind its content. -/
theorem exists_correctOwn (h : course.At content entry.start (entry.start + entry.room))
    (hsparse : ∀ record ∈ records, record.keyword ∉ Entry.sparseKeywords)
    (hcorrected : (entry.correctAll records : Outcome Failure Entry) = .ok corrected) :
    ∃ after, correctOwn records entry course = .ok (corrected, after) ∧
      after.At content corrected.start (corrected.start + corrected.room) := by
  have hkeeps := Entry.correctAll_keeps hcorrected
  have hcorrect : correctAll entry records course = .ok (corrected, course) := by
    rw [correctAll, hcorrected]
  rw [correctOwn, bind_of_ok hcorrect, hkeeps.start_eq]
  cases hsize : records.get? "size" with
  | some size =>
      exact ⟨{ course with next := entry.start + corrected.room }, by rw [← hkeeps.start_eq]; rfl,
        h.reads, h.place_eq, rfl, h.shared_eq⟩
  | none =>
      have hroom : corrected.room = entry.room := by
        rw [Entry.room, Entry.room, hkeeps.kind_eq,
          Entry.size_of_correctAll hcorrected hsparse (get?_eq_none_iff.mp hsize)]
      rw [hroom]
      exact ⟨course, rfl, h⟩

end Records

section Headers

variable {header : Header} {block text rest : List UInt8} {fuel : Nat} {found corrected : Entry}
  {middle last behind after : Course}

theorem exists_entry_own (h : course.At content place next) (hplace : place ≤ content.length)
    (hcontent : content.drop place = block ++ rest) (hblock : Header.ofBlock block = .ok header)
    (hkind : header.kind.isPlain = true) (fuel : Nat) :
    ∃ after, entry (fuel + 1) course =
        .ok (.ok (Entry.ofHeader header (place + blockSize)).trimmed, after) ∧
      after.At content (place + blockSize)
        ((place + blockSize : Nat) + (Entry.ofHeader header (place + blockSize)).room) := by
  obtain ⟨middle, hread, hmiddle, -⟩ := exists_readBlock h hplace hcontent hblock
  obtain ⟨after, hplain, hafter⟩ := exists_plainEntry hmiddle header
  refine ⟨after, ?_, hafter⟩
  rw [entry, bind_of_ok hread, hblock]
  cases hheader : header.kind with
  | file | directory | device | hardLink | symbolicLink =>
      simp only [hheader]
      rw [bind_of_ok hplain]
      rfl
  | longName | longLink | sparse | extended | shared =>
      rw [hheader] at hkind
      contradiction

theorem entry_of_long (hread : read blockSize course = .ok (block, middle))
    (hblock : Header.ofBlock block = .ok header)
    (hkind : header.kind = .longName ∨ header.kind = .longLink)
    (hreadText : read (roundUp header.size) middle = .ok (text, last))
    (hentry : entry fuel last = .ok (.ok found, after)) :
    entry (fuel + 1) course =
      .ok (.ok (found.withLongName header.kind (Name.untilZero text)), after) := by
  rw [entry, bind_of_ok hread, hblock]
  rcases hkind with hkind | hkind
  · simp only [hkind]
    rw [bind_of_ok hreadText, bind_of_ok hentry]
    rfl
  · simp only [hkind]
    rw [bind_of_ok hreadText, bind_of_ok hentry]
    rfl

theorem entry_of_records {own : Records} (hread : read blockSize course = .ok (block, middle))
    (hblock : Header.ofBlock block = .ok header) (hkind : header.kind = .extended)
    (hreadText : read (roundUp header.size) middle = .ok (text, last))
    (hown : Record.all? text = some own) (hshared : last.shared = [])
    (hentry : entry fuel last = .ok (.ok found, behind))
    (hsparse : ∀ record ∈ own.foldl Records.put [], record.keyword ∉ Entry.sparseKeywords)
    (hcorrect : correctOwn (own.foldl Records.put []) found behind = .ok (corrected, after)) :
    entry (fuel + 1) course = .ok (.ok corrected, after) := by
  rw [entry, bind_of_ok hread, hblock]
  simp only [hkind]
  rw [bind_of_ok hreadText, hown]
  dsimp only
  rw [bind_of_ok get_eq, hshared]
  simp only [reduceCtorEq, if_false, if_true]
  rw [bind_of_ok hentry]
  dsimp only
  rw [bind_of_ok get_eq, describedStretches_eq hsparse, bind_of_ok (pure_eq _)]
  dsimp only
  rw [bind_of_ok hcorrect]
  rfl

end Headers

/-- The headers of an entry are read one after the other. By induction on the headers. -/
theorem exists_entry {n fuel : Nat} {front rest : List UInt8} {found : Entry}
    (h : course.At content place next) (hplace : place ≤ content.length)
    (hcontent : content.drop place = front ++ rest) (hfront : Introduces place n front found)
    (hfuel : n ≤ fuel) :
    ∃ after, entry fuel course = .ok (.ok found, after) ∧
      after.At content found.start (found.start + found.room) := by
  induction hfront generalizing course next fuel with
  | @own place block header hblock hkind =>
      obtain ⟨fuel, rfl⟩ := Nat.exists_eq_add_of_le' hfuel
      have hstart := (Entry.trimmed_keeps (.ofHeader header (place + blockSize))).start_eq
      rw [hstart, Entry.room_trimmed]
      exact exists_entry_own h hplace hcontent hblock hkind fuel
  | @long place n block text rest' header found hblock hkind hlength hshort hfront ih =>
      obtain ⟨fuel, rfl⟩ := Nat.exists_eq_add_of_le' (Nat.le_of_add_left_le hfuel)
      rw [List.append_assoc, List.append_assoc] at hcontent
      obtain ⟨middle, last, hread, hreadText, hlast, hinside, hbehind⟩ :=
        exists_readText h hplace hcontent hblock hlength hshort
      obtain ⟨after, hentry, hafter⟩ := ih hlast hinside hbehind (Nat.le_of_add_le_add_right hfuel)
      have hstart := (found.withLongName_keeps header.kind (Name.untilZero text)).start_eq
      rw [hstart, Entry.room_withLongName]
      exact ⟨after, entry_of_long hread hblock hkind hreadText hentry, hafter⟩
  | @records place n block text rest' header records found corrected hblock hkind hlength hshort
      hrecords hsparse hcorrected hfront ih =>
      obtain ⟨fuel, rfl⟩ := Nat.exists_eq_add_of_le' (Nat.le_of_add_left_le hfuel)
      obtain ⟨own, hown, rfl⟩ := Option.map_eq_some_iff.mp hrecords
      rw [List.append_assoc, List.append_assoc] at hcontent
      obtain ⟨middle, last, hread, hreadText, hlast, hinside, hbehind⟩ :=
        exists_readText h hplace hcontent hblock hlength hshort
      obtain ⟨behind, hentry, hafterEntry⟩ :=
        ih hlast hinside hbehind (Nat.le_of_add_le_add_right hfuel)
      obtain ⟨after, hcorrect, hafter⟩ := exists_correctOwn hafterEntry hsparse hcorrected
      exact ⟨after, entry_of_records hread hblock hkind hreadText hown hlast.shared_eq hentry
        hsparse hcorrect, hafter⟩

theorem exists_entry_zeros (h : course.At content place next) {more : Nat}
    (hcontent : content.drop place = List.replicate (blockSize + more) 0) (fuel : Nat) :
    ∃ after, entry (fuel + 1) course = .ok (.error .zero, after) ∧
      after.reader.Reads content := by
  obtain ⟨after, hread, hafter⟩ := exists_readAt h (n := blockSize) (by decide)
  have hblock : Header.ofBlock (List.replicate blockSize 0) = .error .zero := by
    rw [Header.ofBlock, if_neg (by simp [blockSize]), if_neg (by simp), if_pos (by simp)]
  rw [hcontent, List.take_replicate, Nat.min_eq_left (Nat.le_add_right _ _)] at hread
  refine ⟨after, ?_, hafter.reads⟩
  rw [entry, bind_of_ok hread, hblock]
  rfl

/-- The place of the next header is reached, if the file reaches there. -/
theorem exists_advance {target : Nat} (h : course.At content place target)
    (hstart : place = target ∨ 0 < target) (hfar : target ≤ 2 ^ 63)
    (hinside : target < content.length) :
    ∃ after, advance course = .ok (true, after) ∧ after.At content target target := by
  have hplace : Scan.place course = .ok (place, course) := by
    rw [← h.place_eq]
    rfl
  rw [advance, bind_of_ok get_eq, h.next_eq, bind_of_ok hplace]
  by_cases hhere : place = target
  · subst hhere
    rw [if_pos rfl]
    exact ⟨course, rfl, h⟩
  · have hpositive := hstart.resolve_left hhere
    obtain ⟨middle, hseek, hmiddle⟩ := exists_seekAt h (target - 1) (by omega) (by omega)
    obtain ⟨after, hread, hafter⟩ := exists_readAt hmiddle (n := 1) (by decide)
    have hlast : (content.drop (target - 1)).take 1 ≠ [] := by
      rw [Ne, List.take_eq_nil_iff, List.drop_eq_nil_iff]
      omega
    have hbefore : (target : Int) - 1 = (target - 1 : Nat) := by omega
    rw [Nat.sub_add_cancel hpositive, Nat.min_eq_left (Nat.le_of_lt hinside)] at hafter
    refine ⟨after, ?_, hafter⟩
    rw [if_neg (by omega), if_neg (by omega), hbefore, bind_of_ok hseek]
    change (read (1 : Nat) >>= fun bytes => if bytes = [] then fail else pure true) middle = _
    rw [bind_of_ok hread, if_neg hlast]
    rfl

/-- One step reads the headers of the next entry. -/
theorem exists_nextEntry {n target : Nat} {front rest : List UInt8} {found : Entry}
    (h : course.At content place target) (hstart : place = target ∨ 0 < target)
    (hfar : target ≤ 2 ^ 63) (hcontent : content.drop target = front ++ rest)
    (hfront : Introduces target n front found) (hn : n ≤ maxNesting) :
    ∃ after, nextEntry course = .ok (some found, after) ∧
      after.At content found.start (found.start + found.room) := by
  have hinside := lt_length hcontent hfront.blockSize_le_length
  obtain ⟨middle, hadvance, hmiddle⟩ := exists_advance h hstart hfar hinside
  obtain ⟨after, hentry, hafter⟩ :=
    exists_entry hmiddle (Nat.le_of_lt hinside) hcontent hfront hn
  refine ⟨after, ?_, hafter⟩
  rw [nextEntry, bind_of_ok hadvance, if_pos rfl, bind_of_ok hentry]
  rfl

theorem exists_nextMember {member : Member} {rest : List UInt8} {target : Nat}
    (h : course.At content place target) (hstart : place = target ∨ 0 < target)
    (hcontent : content.drop target = member.written ++ rest)
    (hfar : target + member.written.length ≤ 2 ^ 63) :
    ∃ found after, nextEntry course = .ok (some found, after) ∧ found.Shows content member ∧
      after.At content (target + member.front.length) (target + member.written.length : Nat) := by
  have hwritten : content.drop target =
      member.front ++ (member.content ++ (List.replicate member.padding 0 ++ rest)) := by
    rw [hcontent, Member.written, List.append_assoc, List.append_assoc]
  obtain ⟨after, hnext, hafter⟩ := exists_nextEntry h hstart (by omega) hwritten
    (member.introduces target) member.headers_le
  have hlength := member.length_written
  refine ⟨_, after, hnext, ⟨rfl, ?_, ?_⟩, ?_⟩
  · change (content.drop (target + member.front.length)).take member.content.length = member.content
    rw [← List.drop_drop, hwritten, List.drop_left, List.take_left]
  · change target + member.front.length + member.content.length ≤ 2 ^ 63
    rw [Member.written, List.length_append, List.length_append] at hfar
    omega
  · have hsum : ((target + member.written.length : Nat) : Int) =
        (target + member.front.length : Nat) + member.entry.room := by
      omega
    rw [hsum]
    exact hafter

/-- A block of zeros ends the archive. -/
theorem exists_nextEntry_zeros {more : Nat} {target : Nat}
    (h : course.At content place target) (hstart : place = target ∨ 0 < target)
    (hfar : target ≤ 2 ^ 63)
    (hcontent : content.drop target = List.replicate (blockSize + more) 0) :
    ∃ after, nextEntry course = .ok (none, after) ∧ after.reader.Reads content := by
  have hinside := lt_length (hcontent.trans (List.replicate_append_replicate).symm)
    (Nat.le_of_eq List.length_replicate.symm)
  obtain ⟨middle, hadvance, hmiddle⟩ := exists_advance h hstart hfar hinside
  obtain ⟨after, hentry, hafter⟩ := exists_entry_zeros hmiddle hcontent 326
  refine ⟨after, ?_, hafter⟩
  rw [nextEntry, bind_of_ok hadvance, if_pos rfl, maxNesting, bind_of_ok hentry]
  rfl

/-- The entries that are left are those of the members that are left. -/
theorem exists_entries {members : List Member} {more target fuel : Nat}
    (h : course.At content place target) (hstart : place = target ∨ 0 < target)
    (hcontent : content.drop target = Member.archive members more)
    (hfar : target + (Member.writtenAll members).length ≤ 2 ^ 63) (hfuel : members.length < fuel) :
    ∃ found after, entries fuel course = .ok (found, after) ∧ after.reader.Reads content ∧
      List.Forall₂ (fun member entry => entry.Shows content member) members found := by
  obtain ⟨fuel, rfl⟩ := Nat.exists_eq_add_of_lt hfuel
  induction members generalizing course place target with
  | nil =>
      rw [Member.archive_nil] at hcontent
      obtain ⟨after, hnext, hafter⟩ := exists_nextEntry_zeros h hstart (by omega) hcontent
      refine ⟨[], after, ?_, hafter, .nil⟩
      rw [entries, bind_of_ok hnext]
      rfl
  | cons member members ih =>
      rw [Member.archive_cons] at hcontent
      rw [Member.length_writtenAll_cons] at hfar
      obtain ⟨entry, middle, hnext, hshows, hmiddle⟩ :=
        exists_nextMember h hstart hcontent (by omega)
      have hpositive := member.blockSize_add_le_length_written
      have hrest : content.drop (target + member.written.length) = Member.archive members more := by
        rw [← List.drop_drop, hcontent, List.drop_left]
      obtain ⟨found, after, hentries, hafter, hall⟩ := ih hmiddle
        (.inr (by simp only [blockSize] at hpositive; omega)) hrest (by omega) (by omega)
      refine ⟨entry :: found, after, ?_, hafter, .cons hshows hall⟩
      rw [List.length_cons, Nat.add_right_comm members.length 1 fuel, entries, bind_of_ok hnext]
      dsimp only
      rw [bind_of_ok hentries]
      rfl

theorem exists_content {member : Member} {entry : Entry} (h : course.reader.Reads content)
    (hshows : entry.Shows content member) (hfile : member.entry.kind = .file) :
    ∃ after, Scan.content entry.size.toNat 0 entry.size.toNat entry.segments course =
      .ok (member.content, after) := by
  have hlength := member.length_content_lt
  have hslice := hshows.slice_eq
  have hstop := hshows.stop_le
  have hsize : entry.size = member.content.length := by
    rw [hshows.entry_eq]
    exact member.size_eq hfile
  simp only [tooMany] at hlength
  rw [hshows.segments_eq, hsize, Int.toNat_natCast]
  cases hn : member.content.length with
  | zero =>
      rw [List.length_eq_zero_iff.mp hn]
      exact ⟨course, rfl⟩
  | succ n =>
      rw [hn] at hslice hstop hlength
      have hinside : entry.start ≤ content.length := by
        have htaken := congrArg List.length hslice
        rw [List.length_take, List.length_drop] at htaken
        omega
      obtain ⟨reader, hseek, hreads, hplace⟩ := exists_seek h entry.start (by omega)
      have hmiddle : ({ course with reader := reader } : Course).reader.Reads content := hreads
      obtain ⟨last, hread, -, -⟩ := exists_read hmiddle (n := n + 1) (by omega)
      rw [Nat.min_eq_left hinside] at hplace
      dsimp only at hread
      rw [hplace, hslice] at hread
      have hturn : turnTo 0 [⟨0, (n + 1 : Nat), some entry.start⟩] =
          some (⟨0, (n + 1 : Nat), some entry.start⟩, [⟨0, (n + 1 : Nat), some entry.start⟩]) := by
        simp [turnTo]
      refine ⟨{ course with reader := last }, ?_⟩
      have hall : min (n + 1) (((n + 1 : Nat) : Int) - 0).toNat = n + 1 := by
        omega
      rw [Scan.content, hturn]
      · dsimp only
        rw [hall, Int.sub_self, Int.add_zero]
        have hend (position : Int) (segments : List Entry.Segment) :
            Scan.content n position 0 segments = pure [] := by
          cases n <;> rfl
        rw [bind_of_ok hseek, bind_of_ok hread, if_neg (not_not.mpr hn), Nat.sub_self, hend]
        change Outcome.ok (member.content ++ [], _) = _
        rw [List.append_nil]
      · simp

end Scan

namespace Archive

/-- The archive that a complete file holds has the entries of its members. -/
theorem exists_ofBytes {bytes : List UInt8} {members : List Member} {more : Nat}
    (hholds : Gzip.Holds 0 bytes (Member.archive members more))
    (hfar : (Member.writtenAll members).length ≤ 2 ^ 63) :
    ∃ archive, ofBytes bytes = .ok archive ∧
      archive.course.reader.Reads (Member.archive members more) ∧
      List.Forall₂ (fun member entry => entry.Shows (Member.archive members more) member) members
        archive.entries := by
  have hstart : Course.At (Member.archive members more) 0 ((0 : Nat) : Int)
      ⟨.ofBytes bytes, 0, []⟩ :=
    ⟨Gzip.Reader.reads_ofBytes hholds, rfl, rfl, rfl⟩
  cases members with
  | nil =>
      obtain ⟨after, hnext, hafter⟩ :=
        Scan.exists_nextEntry_zeros hstart (.inl rfl) (by decide) (Member.archive_nil more)
      refine ⟨⟨[], after⟩, ?_, hafter, .nil⟩
      have hfirst : Scan.nextEntry ⟨.ofBytes bytes, 0, []⟩ = .ok (none, after) := hnext
      rw [ofBytes]
      simp only [hfirst]
  | cons member members =>
      rw [Member.length_writtenAll_cons] at hfar
      obtain ⟨entry, middle, hnext, hshows, hmiddle⟩ :=
        Scan.exists_nextMember hstart (.inl rfl) (member.archive_cons members more) (by omega)
      have hpositive := member.blockSize_add_le_length_written
      have hrest : (Member.archive (member :: members) more).drop (0 + member.written.length) =
          Member.archive members more := by
        rw [Member.archive_cons, Nat.zero_add, List.drop_left]
      have hfuel : members.length < middle.reader.content.size / blockSize + 1 := by
        have hcount := Member.blockSize_mul_length_le members
        rw [hmiddle.reads.content_eq, List.size_toArray, Member.archive, List.length_append,
          Member.length_writtenAll_cons]
        simp only [blockSize] at hcount ⊢
        omega
      obtain ⟨found, after, hentries, hafter, hall⟩ := Scan.exists_entries hmiddle
        (.inr (by simp only [blockSize] at hpositive; omega)) hrest (by omega) hfuel
      refine ⟨⟨entry :: found, after⟩, ?_, hafter, .cons hshows hall⟩
      have hfirst : Scan.nextEntry ⟨.ofBytes bytes, 0, []⟩ = .ok (some entry, middle) := hnext
      rw [ofBytes]
      simp only [hfirst, hentries]

section Find

variable {archive : Archive} {name : Name}

theorem find?_reverse (archive : Archive) (name : Name) :
    archive.entries.reverse.find? (·.name = name) =
      (archive.entries.zipIdx.reverse.find? fun (entry, _) => entry.name = name).map (·.1) := by
  have hunzip : archive.entries.reverse = archive.entries.zipIdx.reverse.map (·.1) := by
    rw [List.map_reverse, List.zipIdx_map_fst]
  rw [hunzip, List.find?_map]
  rfl

theorem find?_eq_none (h : archive.entries.reverse.find? (·.name = name) = none) :
    archive.find? name = none := by
  rw [find?_reverse, Option.map_eq_none_iff] at h
  rw [find?, lastIndex?, List.take_length, h, Option.map_none]

/-- The last entry of a name is found. -/
theorem exists_find? {entry : Entry}
    (h : archive.entries.reverse.find? (·.name = name) = some entry) :
    ∃ index, archive.find? name = some index ∧ archive.entries[index]? = some entry := by
  rw [find?_reverse, Option.map_eq_some_iff] at h
  obtain ⟨⟨found, index⟩, hfound, rfl⟩ := h
  refine ⟨index, ?_, ?_⟩
  · rw [find?, lastIndex?, List.take_length, hfound, Option.map_some]
  · have hmem := List.mem_reverse.mp (List.mem_of_find?_eq_some hfound)
    exact List.mem_zipIdx_iff_getElem?.mp hmem

end Find

theorem content?_eq {archive : Archive} {content : List UInt8} {member : Member} {entry : Entry}
    {index : Nat} (h : archive.course.reader.Reads content)
    (hentry : archive.entries[index]? = some entry) (hshows : entry.Shows content member)
    (hfile : member.entry.kind = .file) :
    archive.content? index = .ok (some member.content) := by
  obtain ⟨after, hcontent⟩ := Scan.exists_content h hshows hfile
  have hkind := hshows.kind_eq.trans hfile
  have hfollow : archive.follow (maxLinks + 1) index = .ok entry := by
    rw [follow, hentry]
    simp [hkind]
  rw [content?, hfollow, Outcome.bind_ok, hkind, if_pos (by decide)]
  simp only [hcontent]

end Archive

/-- The first member of a name, and the first entry of the name, in the same order. -/
theorem find?_of_forall₂ {content : List UInt8} {members : List Member} {entries : List Entry}
    (h : List.Forall₂ (fun member entry => entry.Shows content member) members entries)
    (name : Name) :
    Option.Rel (fun member entry => entry.Shows content member)
      (members.find? (·.entry.name = name)) (entries.find? (·.name = name)) := by
  induction h with
  | nil => exact .none
  | @cons member entry members entries hshows _ ih =>
      rw [List.find?_cons, List.find?_cons, hshows.name_eq]
      cases decide (member.entry.name = name) with
      | true => exact .some hshows
      | false => exact ih

end BuildVersion.Tar
