import BuildVersion.Proofs.Build.Tarball
import BuildVersion.Proofs.Tar.Links

namespace BuildVersion.Build

/-- The entry of the version in the tarball at a path. -/
structure HasVersion (files : Files.Tree) (path : Files.Path) (archive : Tar.Archive)
    (index : Nat) : Prop where
  exists_bytes : ∃ bytes, files.read path = .ok bytes ∧ Tar.Archive.ofBytes bytes = .ok archive
  find?_eq : archive.find? (Text.Utf8.encode versionEntry) = some index

/-- Why the tarball at a path is not answered for. -/
inductive Breakdown (files : Files.Tree) (path : Files.Path) : Fault → Prop
  | overlongPath (hlong : Files.maxPathBytes < path.toString.utf8ByteSize) :
      Breakdown files path (.file .nameTooLong)
  /-- A link on the way leads to a name that is too long. -/
  | overlongName (hlink : files.HasOverlongLink)
      (hwalk : files.walk Files.maxLinks (files.start path) path.steps = .error .nameTooLong) :
      Breakdown files path (.file .nameTooLong)
  /-- A directory on the way may not be searched. -/
  | closedDirectory (hsize : path.toString.utf8ByteSize ≤ Files.maxPathBytes)
      (hclosed : files.HasClosedDirectory)
      (hwalk : files.walk Files.maxLinks (files.start path) path.steps = .error .denied) :
      Breakdown files path (.file .denied)
  /-- A heading of the archive declares too much. -/
  | heading {bytes : List UInt8} {fault : Fault} (hread : files.read path = .ok bytes)
      (harchive : Tar.Archive.ofBytes bytes = .aborted fault) (hdeclared : Tar.Declared fault) :
      Breakdown files path fault
  | version {archive : Tar.Archive} {index : Nat} {fault : Fault}
      (hversion : HasVersion files path archive index) (hwithheld : archive.Withheld index fault) :
      Breakdown files path fault

section Stat

variable (files : Files.Tree) {path : Files.Path}

theorem stat_eq_nameTooLong_iff (hzero : '\x00' ∉ path.toString.toList)
    (hnames : ∀ name ∈ path.steps, name.utf8ByteSize ≤ Files.maxNameBytes) :
    files.stat path = .error .nameTooLong ↔
      Files.maxPathBytes < path.toString.utf8ByteSize ∨ files.HasOverlongLink ∧
        files.walk Files.maxLinks (files.start path) path.steps = .error .nameTooLong := by
  rw [Files.Tree.stat_eq_error_iff, Files.Tree.reach_eq_error_iff_walk hzero]
  constructor
  · rintro (⟨hlong, -⟩ | ⟨-, hwalk⟩)
    · exact .inl hlong
    · rcases Files.Tree.obstacle_of_walk hwalk with _ | _ | _ | ⟨⟨name, hname, hlong⟩ | hlink⟩
      · exact absurd hlong (Nat.not_lt.mpr (hnames name hname))
      · exact .inr ⟨hlink, hwalk⟩
  · rintro (hlong | ⟨-, hwalk⟩)
    · exact .inl ⟨hlong, rfl⟩
    · rcases Nat.lt_or_ge Files.maxPathBytes path.toString.utf8ByteSize with hlong | hsize
      · exact .inl ⟨hlong, rfl⟩
      · exact .inr ⟨hsize, hwalk⟩

theorem stat_eq_denied_iff (hzero : '\x00' ∉ path.toString.toList) :
    files.stat path = .error .denied ↔
      path.toString.utf8ByteSize ≤ Files.maxPathBytes ∧ files.HasClosedDirectory ∧
        files.walk Files.maxLinks (files.start path) path.steps = .error .denied := by
  rw [Files.Tree.stat_eq_error_iff, Files.Tree.reach_eq_error_iff_walk hzero]
  constructor
  · rintro (⟨-, ⟨⟩⟩ | ⟨hsize, hwalk⟩)
    cases Files.Tree.obstacle_of_walk hwalk with
    | closedDirectory hclosed => exact ⟨hsize, hclosed, hwalk⟩
  · rintro ⟨hsize, -, hwalk⟩
    exact .inr ⟨hsize, hwalk⟩

end Stat

theorem decode_ne_aborted (path : Files.Path) (bytes : List UInt8) (fault : Fault) :
    decode path bytes ≠ .aborted fault := by
  rw [decode]
  cases Text.Utf8.decode bytes <;> simp

theorem readBazel_ne_aborted {files : Files.Tree} {checkout : Files.Path} {words : Words}
    (hzero : '\x00' ∉ checkout.toString.toList) (fault : Fault) :
    readBazel files checkout words ≠ .aborted fault := by
  have hfile : Files.Path.ofString versionFile = ⟨.relative, ["bazel-genfiles", "version"]⟩ := by
    decide +kernel
  have hpath : '\x00' ∉ (inside checkout versionFile).toString.toList := by
    rw [inside, hfile]
    exact Files.notMem_toString_append (by decide) (by decide) hzero (by decide +kernel)
  have hread : files.read (inside checkout versionFile) ≠ .error .zeroCharacter :=
    Files.Tree.read_ne_zeroCharacter hpath
  rw [readBazel]
  split
  · simp
  · next hcause => exact absurd hcause hread
  · simp
  · rw [Outcome.map_eq_bind, Ne, Outcome.bind_eq_aborted_iff]
    simp [decode_ne_aborted]

section Docker

variable {files : Files.Tree} {path : Files.Path} {words : Words} {fault : Fault}

theorem versionBytes_eq_aborted_iff {bytes : List UInt8} :
    versionBytes words path bytes = .aborted fault ↔ Tar.Archive.ofBytes bytes = .aborted fault ∨
      ∃ archive index, Tar.Archive.ofBytes bytes = .ok archive ∧
        archive.find? (Text.Utf8.encode versionEntry) = some index ∧
        archive.Withheld index fault := by
  have hindex {archive : Tar.Archive} {index : Nat}
      (hfind : archive.find? (Text.Utf8.encode versionEntry) = some index) :
      index < archive.entries.length := Tar.Archive.lastIndex?_lt hfind
  rw [versionBytes]
  dsimp only
  rw [Outcome.bind_eq_aborted_iff, Outcome.mapErr_eq_aborted_iff]
  refine or_congr_right ⟨?_, ?_⟩
  · rintro ⟨archive, harchive, hbytes⟩
    rw [Outcome.mapErr_eq_ok_iff] at harchive
    split at hbytes
    · contradiction
    · next index hfind =>
        rw [Outcome.bind_eq_aborted_iff, Outcome.mapErr_eq_aborted_iff,
          Tar.Archive.content?_eq_aborted_iff (hindex hfind)] at hbytes
        rcases hbytes with hwithheld | ⟨content, -, hcontent⟩
        · exact ⟨archive, index, harchive, hfind, hwithheld⟩
        · cases content <;> contradiction
  · rintro ⟨archive, index, harchive, hfind, hwithheld⟩
    refine ⟨archive, Outcome.mapErr_eq_ok_iff.mpr harchive, ?_⟩
    rw [← Tar.Archive.content?_eq_aborted_iff (hindex hfind)] at hwithheld
    simp only [hfind, hwithheld, Outcome.mapErr, Outcome.bind_aborted]

theorem decoded_eq_aborted_iff {bytes : List UInt8} :
    ((versionBytes words path bytes).bind fun content => (decode path content).map Text.trimmed) =
      .aborted fault ↔ versionBytes words path bytes = .aborted fault := by
  rw [Outcome.bind_eq_aborted_iff, or_iff_left]
  rintro ⟨content, -, hdecode⟩
  rw [Outcome.map_eq_bind, Outcome.bind_eq_aborted_iff] at hdecode
  simp [decode_ne_aborted] at hdecode

theorem isFile_eq_aborted_iff :
    isFile files path = .aborted fault ↔ ∃ cause, files.stat path = .error cause ∧
      (cause = .nameTooLong ∨ cause = .denied) ∧ fault = .file cause := by
  rw [isFile]
  cases files.stat path with
  | ok node => cases node <;> simp
  | error cause => cases cause <;> simp [eq_comm]

theorem archiveBytes_eq_ok_iff {bytes : List UInt8} :
    archiveBytes words files path = .ok bytes ↔ files.read path = .ok bytes := by
  rw [archiveBytes]
  cases files.read path <;> simp

theorem archiveBytes_ne_aborted : archiveBytes words files path ≠ .aborted fault := by
  rw [archiveBytes]
  cases files.read path <;> simp

theorem readDocker_eq_aborted_iff_read {checkout : Files.Path} :
    readDocker files checkout words = .aborted fault ↔
      (∃ cause, files.stat (Builder.docker.tarball checkout) = .error cause ∧
          (cause = .nameTooLong ∨ cause = .denied) ∧ fault = .file cause) ∨
        ∃ bytes, files.read (Builder.docker.tarball checkout) = .ok bytes ∧
          versionBytes words (Builder.docker.tarball checkout) bytes = .aborted fault := by
  rw [readDocker, Outcome.bind_eq_aborted_iff, isFile_eq_aborted_iff]
  refine or_congr_right ⟨?_, ?_⟩
  · rintro ⟨found, -, habort⟩
    cases found with
    | false => contradiction
    | true =>
        rw [if_pos rfl, Outcome.bind_eq_aborted_iff, or_iff_right archiveBytes_ne_aborted] at habort
        obtain ⟨bytes, hbytes, hdecoded⟩ := habort
        exact ⟨bytes, archiveBytes_eq_ok_iff.mp hbytes, decoded_eq_aborted_iff.mp hdecoded⟩
  · rintro ⟨bytes, hread, hbytes⟩
    refine ⟨true, isFile_of_read hread, ?_⟩
    rw [if_pos rfl, archiveBytes_eq_ok_iff.mpr hread, Outcome.bind_ok, decoded_eq_aborted_iff]
    exact hbytes

theorem readDocker_eq_aborted_iff {checkout : Files.Path}
    (hzero : '\x00' ∉ checkout.toString.toList)
    (hnames : ∀ name ∈ checkout.components, name.utf8ByteSize ≤ Files.maxNameBytes) :
    readDocker files checkout words = .aborted fault ↔
      Breakdown files (Builder.docker.tarball checkout) fault := by
  have hzeroTarball := notMem_toString_tarball hzero .docker
  have hshort : ∀ name ∈ (Builder.docker.tarball checkout).steps,
      name.utf8ByteSize ≤ Files.maxNameBytes := by
    intro name hname
    rcases Files.Path.eq_or_mem_of_mem_steps hname with rfl | hname
    · decide +kernel
    · rw [Builder.tarball_eq] at hname
      rcases List.mem_append.mp hname with hname | hname
      · exact hnames name hname
      · have htarball : ∀ name ∈ Builder.docker.tarballNames,
            name.utf8ByteSize ≤ Files.maxNameBytes := by decide +kernel
        exact htarball name hname
  rw [readDocker_eq_aborted_iff_read]
  constructor
  · rintro (⟨cause, hstat, rfl | rfl, rfl⟩ | ⟨bytes, hread, hbytes⟩)
    · rcases (stat_eq_nameTooLong_iff files hzeroTarball hshort).mp hstat with
        hlong | ⟨hlink, hwalk⟩
      · exact .overlongPath hlong
      · exact .overlongName hlink hwalk
    · obtain ⟨hsize, hclosed, hwalk⟩ := (stat_eq_denied_iff files hzeroTarball).mp hstat
      exact .closedDirectory hsize hclosed hwalk
    · rcases versionBytes_eq_aborted_iff.mp hbytes with
        hheading | ⟨archive, index, harchive, hfind, hwithheld⟩
      · exact .heading hread hheading (Tar.Archive.declared_of_ofBytes hheading)
      · exact .version ⟨⟨bytes, hread, harchive⟩, hfind⟩ hwithheld
  · rintro (hlong | ⟨hlink, hwalk⟩ | ⟨hsize, hclosed, hwalk⟩ | ⟨hread, hheading, -⟩ |
      ⟨⟨⟨bytes, hread, harchive⟩, hfind⟩, hwithheld⟩)
    · exact .inl ⟨_, (stat_eq_nameTooLong_iff files hzeroTarball hshort).mpr (.inl hlong),
        .inl rfl, rfl⟩
    · exact .inl ⟨_, (stat_eq_nameTooLong_iff files hzeroTarball hshort).mpr
        (.inr ⟨hlink, hwalk⟩), .inl rfl, rfl⟩
    · exact .inl ⟨_, (stat_eq_denied_iff files hzeroTarball).mpr ⟨hsize, hclosed, hwalk⟩,
        .inr rfl, rfl⟩
    · exact .inr ⟨_, hread, versionBytes_eq_aborted_iff.mpr (.inl hheading)⟩
    · exact .inr ⟨bytes, hread,
        versionBytes_eq_aborted_iff.mpr (.inr ⟨_, _, harchive, hfind, hwithheld⟩)⟩

end Docker

theorem detect_ne_aborted_of_notMem {files : Files.Tree} {checkout : Files.Path} {words : Words}
    (hzero : '\x00' ∉ checkout.toString.toList) (fault : Fault) :
    detect files checkout words ≠ .aborted fault :=
  detect_ne_aborted (modified?_ne_aborted (stat_tarball_ne_zeroCharacter files hzero .bazel) fault)
    (modified?_ne_aborted (stat_tarball_ne_zeroCharacter files hzero .docker) fault)

theorem read_eq_aborted_iff {files : Files.Tree} {checkout : Files.Path} {words : Words}
    (hzero : '\x00' ∉ checkout.toString.toList) {builder : Builder} {fault : Fault} :
    read builder files checkout words = .aborted fault ↔
      builder = .docker ∧ readDocker files checkout words = .aborted fault := by
  cases builder with
  | bazel => simp [read, readBazel_ne_aborted hzero]
  | docker => simp [read]

/-- Which reads come to the dockerized tarball. -/
theorem readVersion_eq_aborted_iff {files : Files.Tree} {checkout : Files.Path} {words : Words}
    (hzero : '\x00' ∉ checkout.toString.toList) {hint : Option Builder} {fault : Fault} :
    readVersion files checkout hint words = .aborted fault ↔
      (hint = some .docker ∨ hint = none ∧ detect files checkout words = .ok .docker) ∧
        readDocker files checkout words = .aborted fault := by
  cases hint with
  | some builder => simp [readVersion, read_eq_aborted_iff hzero]
  | none =>
      rw [readVersion, Outcome.bind_eq_aborted_iff,
        or_iff_right (detect_ne_aborted_of_notMem hzero fault)]
      simp only [read_eq_aborted_iff hzero, reduceCtorEq, true_and, false_or]
      constructor
      · rintro ⟨builder, hdetect, rfl, hread⟩
        exact ⟨hdetect, hread⟩
      · rintro ⟨hdetect, hread⟩
        exact ⟨.docker, hdetect, rfl, hread⟩

theorem zero_notMem_workingDirectory : '\x00' ∉ workingDirectory.toString.toList := by
  decide +kernel

theorem names_workingDirectory_le :
    ∀ name ∈ workingDirectory.components, name.utf8ByteSize ≤ Files.maxNameBytes := by
  simp [workingDirectory]

/-- Bazel's version file and the times of the tarballs are always answered for, and so is a
dockerized tarball unless it breaks down. -/
theorem answered_unless_breakdown (files : Files.Tree) {checkout : Files.Path} (words : Words)
    (hzero : '\x00' ∉ checkout.toString.toList)
    (hnames : ∀ name ∈ checkout.components, name.utf8ByteSize ≤ Files.maxNameBytes) :
    (∀ fault, readBazel files checkout words ≠ .aborted fault) ∧
      (∀ fault, detect files checkout words ≠ .aborted fault) ∧
      (∀ fault, readDocker files checkout words = .aborted fault ↔
        Breakdown files (Builder.docker.tarball checkout) fault) ∧
      ∀ hint fault, readVersion files checkout hint words = .aborted fault ↔
        (hint = some .docker ∨ hint = none ∧ detect files checkout words = .ok .docker) ∧
          Breakdown files (Builder.docker.tarball checkout) fault := by
  refine ⟨readBazel_ne_aborted hzero, detect_ne_aborted_of_notMem hzero,
    fun fault => readDocker_eq_aborted_iff hzero hnames, fun hint fault => ?_⟩
  rw [readVersion_eq_aborted_iff hzero, readDocker_eq_aborted_iff hzero hnames]

/-- In an empty directory there is no tarball, and nothing breaks down. -/
theorem answered_emptyTree :
    '\x00' ∉ workingDirectory.toString.toList ∧
      (∀ name ∈ workingDirectory.components, name.utf8ByteSize ≤ Files.maxNameBytes) ∧
      readDocker {} workingDirectory =
        .err ⟨Builder.docker.tarball workingDirectory, "Release tarball not found"⟩ ∧
      ∀ fault, ¬ Breakdown {} (Builder.docker.tarball workingDirectory) fault := by
  have hstat : Files.Tree.stat {} (Builder.docker.tarball workingDirectory) = .error .notFound := by
    have hname : ¬ Files.maxNameBytes < "_output".utf8ByteSize := by decide +kernel
    rw [Files.Tree.stat_eq_error_iff, Files.Tree.reach_eq_walk
      (notMem_toString_tarball zero_notMem_workingDirectory .docker) (by decide +kernel),
      Builder.tarball_eq]
    simp [Builder.tarballNames, workingDirectory, Files.Path.steps, Files.Tree.start,
      Files.Tree.walk, Files.Tree.node?, hname]
  have hread : readDocker {} workingDirectory =
      .err ⟨Builder.docker.tarball workingDirectory, "Release tarball not found"⟩ := by
    rw [readDocker, isFile, hstat]
    rfl
  refine ⟨zero_notMem_workingDirectory, names_workingDirectory_le, hread,
    fun fault hbreakdown => ?_⟩
  obtain ⟨-, -, hdocker, -⟩ := answered_unless_breakdown {} {} zero_notMem_workingDirectory
    names_workingDirectory_le
  rw [← hdocker, hread] at hbreakdown
  contradiction

/-- The fields of a symbolic link with the name of the version, before the sum and behind it. -/
def linkFields : List UInt8 × List UInt8 :=
  (Text.Utf8.encode versionEntry ++ List.replicate 82 0 ++ Tar.field 7 0o777 ++ Tar.field 7 0 ++
      Tar.field 7 0 ++ Tar.field 11 0 ++ Tar.field 11 0,
    0x32 :: (Text.Utf8.encode "missing" ++ List.replicate 348 0))

def linkBlock : List UInt8 :=
  linkFields.1 ++ (Tar.octal 6 (256 + Tar.byteSum (linkFields.1 ++ linkFields.2)) ++ [0, 0x20] ++
    linkFields.2)

def linkHeader : Tar.Header where
  name := Text.Utf8.encode versionEntry
  linkName := Text.Utf8.encode "missing"
  size := 0
  kind := .symbolicLink
  stretches := []
  continued := false
  wholeSize := 0

/-- A tarball in which the version is a link to an entry that is missing. -/
def linkTarball : List UInt8 :=
  Gzip.storedFile bareHeading (linkBlock ++ List.replicate (2 * Tar.blockSize) 0)

theorem exists_ofBytes_linkTarball : ∃ archive, Tar.Archive.ofBytes linkTarball = .ok archive ∧
    archive.entries = [.ofHeader linkHeader Tar.blockSize] := by
  have hlength : linkBlock.length = Tar.blockSize := by decide +kernel
  have hblock : Tar.Header.ofBlock linkBlock = .ok linkHeader := by decide +kernel
  have hholds : Gzip.Holds 0 linkTarball (linkBlock ++ List.replicate (2 * Tar.blockSize) 0) :=
    Gzip.holds_storedFile bareHeading (by
      rw [List.length_append, hlength, List.length_replicate]
      decide)
  have hstart : Tar.Course.At (linkBlock ++ List.replicate (2 * Tar.blockSize) 0) 0
      ((0 : Nat) : Int) ⟨.ofBytes linkTarball, 0, []⟩ :=
    ⟨Gzip.Reader.reads_ofBytes hholds, rfl, rfl, rfl⟩
  obtain ⟨middle, hfirst, hmiddle⟩ := Tar.Scan.exists_nextEntry hstart (.inl rfl) (by decide)
    List.drop_zero (.own hblock rfl) (by decide)
  have hzeros : (linkBlock ++ List.replicate (2 * Tar.blockSize) 0).drop (0 + Tar.blockSize) =
      List.replicate (Tar.blockSize + Tar.blockSize) 0 := by
    rw [Nat.zero_add, List.drop_left' hlength, Nat.two_mul]
  obtain ⟨after, hlast, -⟩ := Tar.Scan.exists_nextEntry_zeros hmiddle (.inl rfl) (by decide) hzeros
  have hrest (fuel : Nat) : Tar.Scan.entries (fuel + 1) middle = .ok ([], after) := by
    rw [Tar.Scan.entries, Tar.Scan.bind_of_ok hlast]
    rfl
  refine ⟨⟨[.ofHeader linkHeader Tar.blockSize], after⟩, ?_, rfl⟩
  have hnext : Tar.Scan.nextEntry ⟨.ofBytes linkTarball, 0, []⟩ =
      .ok (some (.ofHeader linkHeader Tar.blockSize), middle) := hfirst
  rw [Tar.Archive.ofBytes]
  simp only [hnext, hrest]

/-- The version is found, and what it links to is not. -/
theorem readDocker_linkTarball :
    '\x00' ∉ workingDirectory.toString.toList ∧
      (∀ name ∈ workingDirectory.components, name.utf8ByteSize ≤ Files.maxNameBytes) ∧
      readDocker (tarballTree linkTarball) workingDirectory = .aborted .danglingLink := by
  obtain ⟨archive, harchive, hentries⟩ := exists_ofBytes_linkTarball
  have hfind : archive.find? (Text.Utf8.encode versionEntry) = some 0 := by
    rw [Tar.Archive.find?, Tar.Archive.lastIndex?, hentries]
    decide +kernel
  have hdangles : archive.Dangles 0 := by
    refine ⟨.ofHeader linkHeader Tar.blockSize, by rw [hentries]; rfl, .inr rfl, ?_⟩
    rw [Tar.Archive.target?, if_pos (by decide +kernel)]
    dsimp only
    rw [Tar.Archive.lastIndex?, hentries]
    decide +kernel
  refine ⟨zero_notMem_workingDirectory, names_workingDirectory_le,
    (readDocker_eq_aborted_iff zero_notMem_workingDirectory names_workingDirectory_le).mpr ?_⟩
  exact .version ⟨⟨linkTarball, read_tarballTree linkTarball, harchive⟩, hfind⟩
    (.dangling (Nat.zero_le _) (.here 0) hdangles)

end BuildVersion.Build
