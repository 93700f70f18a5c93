import BuildVersion.Build.Reading
import BuildVersion.Proofs.Build.Detection
import BuildVersion.Proofs.Gzip.Stored
import BuildVersion.Proofs.Tar.Scan

namespace BuildVersion.Build

open Version (ArtifactError)

/-- What the files of an archive say of the version. -/
def versionIn (path : Files.Path) (members : List Tar.RegularFile) : Outcome ArtifactError String :=
  match members.reverse.find? (·.name = Text.Utf8.encode versionEntry) with
  | none => .err ⟨path, "Archive has no 'kubernetes/version' entry"⟩
  | some file =>
    match Text.Utf8.decode file.content with
    | .ok text => .ok (Text.trimmed text)
    | .error malformed => .err ⟨path, s!"Decode error: {malformed.message}"⟩

variable {path : Files.Path} {members : List Tar.RegularFile} {more : Nat} {bytes : List UInt8}

/-- Whatever entries the archive holds, the last one of the version's name decides. -/
theorem versionBytes_of_members (words : Words) (path : Files.Path) {members : List Tar.Member}
    (hholds : Gzip.Holds 0 bytes (Tar.Member.archive members more))
    (hfar : (Tar.Member.writtenAll members).length ≤ 2 ^ 63)
    (hfile : ∀ member, members.reverse.find? (·.entry.name = Text.Utf8.encode versionEntry) =
      some member → member.entry.kind = .file) :
    versionBytes words path bytes =
      match members.reverse.find? (·.entry.name = Text.Utf8.encode versionEntry) with
      | none => .err ⟨path, "Archive has no 'kubernetes/version' entry"⟩
      | some member => .ok member.content := by
  obtain ⟨archive, harchive, hreads, hall⟩ := Tar.Archive.exists_ofBytes hholds hfar
  have hlast := Tar.find?_of_forall₂ (List.rel_reverse hall) (Text.Utf8.encode versionEntry)
  rw [versionBytes]
  simp only [harchive, Outcome.mapErr, Outcome.bind_ok]
  cases hmember : members.reverse.find? (·.entry.name = Text.Utf8.encode versionEntry) with
  | none =>
      rw [hmember] at hlast
      cases hentry : archive.entries.reverse.find? (·.name = Text.Utf8.encode versionEntry) with
      | none =>
          rw [Tar.Archive.find?_eq_none hentry]
          rfl
      | some entry =>
          rw [hentry] at hlast
          cases hlast
  | some member =>
      rw [hmember] at hlast
      cases hentry : archive.entries.reverse.find? (·.name = Text.Utf8.encode versionEntry) with
      | none =>
          rw [hentry] at hlast
          cases hlast
      | some entry =>
          rw [hentry] at hlast
          cases hlast with
          | some hshows =>
              obtain ⟨index, hfind, hindex⟩ := Tar.Archive.exists_find? hentry
              have hcontent := Tar.Archive.content?_eq hreads hindex hshows (hfile member hmember)
              simp only [hfind, hcontent, Outcome.bind_ok]

theorem versionBytes_of_holds (words : Words) (hholds : Gzip.Holds 0 bytes (Tar.archiveOf members more))
    (hfar : (Tar.writtenAll members).length ≤ 2 ^ 63) :
    versionBytes words path bytes =
      match members.reverse.find? (·.name = Text.Utf8.encode versionEntry) with
      | none => .err ⟨path, "Archive has no 'kubernetes/version' entry"⟩
      | some file => .ok file.content := by
  choose toMember hwritten hcontent hname hkind using Tar.RegularFile.exists_member
  have hall : Tar.writtenAll members = Tar.Member.writtenAll (members.map toMember) := by
    rw [Tar.writtenAll, Tar.Member.writtenAll, List.flatMap_map, ← funext hwritten]
  have hfind : (members.map toMember).reverse.find?
      (·.entry.name = Text.Utf8.encode versionEntry) =
        (members.reverse.find? (·.name = Text.Utf8.encode versionEntry)).map toMember := by
    rw [← List.map_reverse, List.find?_map]
    congr 2
    funext file
    rw [Function.comp_apply, hname]
  rw [hall] at hfar
  rw [Tar.archiveOf, hall] at hholds
  rw [versionBytes_of_members words path hholds hfar, hfind]
  · cases members.reverse.find? (·.name = Text.Utf8.encode versionEntry) with
    | none => rfl
    | some file => simp only [Option.map_some, hcontent]
  · intro member hmember
    obtain ⟨file, -, rfl⟩ := Option.map_eq_some_iff.mp (hfind.symm.trans hmember)
    exact hkind file

section Docker

variable {files : Files.Tree} {checkout : Files.Path} {words : Words}

theorem isFile_of_read (hread : files.read path = .ok bytes) : isFile files path = .ok true := by
  obtain ⟨mtime, hstat⟩ := Files.Tree.exists_stat_of_read hread
  rw [isFile, hstat]

theorem readDocker_of_read (hread : files.read (Builder.docker.tarball checkout) = .ok bytes) :
    readDocker files checkout words =
      (versionBytes words (Builder.docker.tarball checkout) bytes).bind fun content =>
        (decode (Builder.docker.tarball checkout) content).map Text.trimmed := by
  simp only [readDocker, isFile_of_read hread, Outcome.bind_ok, if_true, archiveBytes, hread]

/-- Whatever regular files the archive holds, in whatever order, the last one of the version's name
decides. To the reader a place is an offset of 63 bits, so an archive ends by `2 ^ 63`. -/
theorem readDocker_of_holds (words : Words)
    (hread : files.read (Builder.docker.tarball checkout) = .ok bytes)
    (hholds : Gzip.Holds 0 bytes (Tar.archiveOf members more))
    (hfar : (Tar.writtenAll members).length ≤ 2 ^ 63) :
    readDocker files checkout words = versionIn (Builder.docker.tarball checkout) members := by
  rw [readDocker_of_read hread, versionBytes_of_holds words hholds hfar, versionIn]
  cases members.reverse.find? (·.name = Text.Utf8.encode versionEntry) with
  | none => rfl
  | some file =>
      simp only [Outcome.bind_ok, decode]
      cases Text.Utf8.decode file.content <;> rfl

end Docker

/-- The working directory as a checkout with a dockerized tarball. -/
def tarballTree (bytes : List UInt8) : Files.Tree where
  nodes :=
    [(["_output"], .directory 0), (["_output", "release-tars"], .directory 0),
      (["_output", "release-tars", "kubernetes.tar.gz"], .file bytes 0)]

theorem read_tarballTree (bytes : List UInt8) :
    (tarballTree bytes).read (Builder.docker.tarball workingDirectory) = .ok bytes := by
  have hreaches : (tarballTree bytes).Reaches (.file bytes 0) []
      ["_output", "release-tars", "kubernetes.tar.gz"] :=
    .step rfl List.not_mem_nil (by decide +kernel) <|
      .step rfl List.not_mem_nil (by decide +kernel) <|
        .step rfl List.not_mem_nil (by decide +kernel) (.here rfl (by simp))
  have hsteps : (Builder.docker.tarball workingDirectory).steps =
      ["_output", "release-tars", "kubernetes.tar.gz"] := by
    rw [Builder.tarball_eq]
    rfl
  rw [← hsteps] at hreaches
  exact hreaches.read_eq (by decide +kernel) (by decide +kernel) rfl List.not_mem_nil

/-- A file with the name of the version, of the time zero. -/
def versionMember (content : List UInt8) (hcontent : content.length < 8 ^ 11) :
    Tar.RegularFile where
  name := Text.Utf8.encode versionEntry
  content := content
  attributes :=
    { mode := 0o644, owner := 0, group := 0, time := 0, ownerName := List.replicate 32 0,
      groupName := List.replicate 32 0, device := none, oldType := false,
      length_ownerName := rfl, length_groupName := rfl }
  name_ne_nil := by decide +kernel
  length_name_le := by decide +kernel
  zero_notMem_name := by decide +kernel
  getLast?_name := by decide +kernel
  length_content_lt := hcontent

/-- A heading without any optional field. -/
def bareHeading : Gzip.Heading where
  isText := false
  time := [0, 0, 0, 0]
  level := 0
  system := 255
  extra := none
  name := none
  comment := none
  check := none
  length_time := rfl
  length_extra := by simp
  zero_notMem_name := by simp
  zero_notMem_comment := by simp
  length_check := by simp

/-- Of two files with the name of the version the last one is read, and blanks are removed. -/
theorem readDocker_twoVersions :
    let members := [versionMember (Text.Utf8.encode "v1.29.0") (by decide +kernel),
      versionMember (Text.Utf8.encode " v1.30.0\n") (by decide +kernel)]
    let bytes := Gzip.storedFile bareHeading (Tar.archiveOf members 0)
    (tarballTree bytes).read (Builder.docker.tarball workingDirectory) = .ok bytes ∧
      Gzip.Holds 0 bytes (Tar.archiveOf members 0) ∧
      (Tar.writtenAll members).length ≤ 2 ^ 63 ∧
      readDocker (tarballTree bytes) workingDirectory = .ok "v1.30.0" := by
  intro members bytes
  have hfar : (Tar.writtenAll members).length ≤ 2 ^ 11 := by
    decide +kernel
  have hholds : Gzip.Holds 0 bytes (Tar.archiveOf members 0) :=
    Gzip.holds_storedFile bareHeading (by
      rw [Tar.archiveOf, List.length_append, List.length_replicate]
      simp only [Tar.blockSize]
      omega)
  refine ⟨read_tarballTree bytes, hholds, by omega, ?_⟩
  rw [readDocker_of_holds {} (read_tarballTree bytes) hholds (by omega)]
  decide +kernel

end BuildVersion.Build
