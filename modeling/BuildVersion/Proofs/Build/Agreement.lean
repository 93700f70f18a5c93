import BuildVersion.Proofs.Build.Tarball
import BuildVersion.Proofs.Fetch.Exchange
import BuildVersion.Proofs.Text.LineEnd

namespace BuildVersion.Build

open Version (ArtifactError FetchError)

variable {bytes : List UInt8} {text : String} {m : Text.Utf8.Malformed}

theorem decode_of_ok (path : Files.Path) (h : Text.Utf8.decode bytes = .ok text) :
    decode path bytes = .ok text := by
  rw [decode, h]

theorem decode_of_error (path : Files.Path) (h : Text.Utf8.decode bytes = .error m) :
    decode path bytes = .err ⟨path, "Decode error: " ++ m.message⟩ := by
  rw [decode, h]
  rfl

section Readers

variable {files : Files.Tree} {checkout : Files.Path} {words : Words}

theorem readBazel_of_read (hread : files.read (inside checkout versionFile) = .ok bytes) :
    readBazel files checkout words =
      (decode (inside checkout versionFile) bytes).map fun text =>
        String.ofList (Text.unifyLineEnds text.toList) := by
  simp only [readBazel, hread]

/-- The last entry of the version's name is what is read, if it is a file. -/
theorem readDocker_of_members {archive : List UInt8} {members : List Tar.Member} {more : Nat}
    {member : Tar.Member} (hread : files.read (Builder.docker.tarball checkout) = .ok archive)
    (hholds : Gzip.Holds 0 archive (Tar.Member.archive members more))
    (hfar : (Tar.Member.writtenAll members).length ≤ 2 ^ 63)
    (hmember : members.reverse.find? (·.entry.name = Text.Utf8.encode versionEntry) = some member)
    (hkind : member.entry.kind = .file) :
    readDocker files checkout words =
      (decode (Builder.docker.tarball checkout) member.content).map Text.trimmed := by
  have hbytes := versionBytes_of_members words (Builder.docker.tarball checkout) hholds hfar
    fun found hfound => by
      rw [Option.some.inj (hfound.symm.trans hmember)]
      exact hkind
  rw [readDocker_of_read hread, hbytes, hmember]
  rfl

end Readers

/-- The same bytes, served at an address, left by a build with Bazel and held by the last entry of
the version's name in a tarball: either they are a text, which the three readers give as it is,
with line ends unified, and trimmed, or no reader takes them for one, and all find them malformed
in the same place. -/
theorem readers_agree (words : Words) {transport : Fetch.Transport} {url : String}
    (hurl : Fetch.Url.isSendable url = true)
    (hserved : transport (Fetch.Url.full url) = .body bytes)
    {bazelFiles : Files.Tree} {bazelCheckout : Files.Path}
    (hbazel : bazelFiles.read (inside bazelCheckout versionFile) = .ok bytes)
    {dockerFiles : Files.Tree} {dockerCheckout : Files.Path} {archive : List UInt8}
    {members : List Tar.Member} {more : Nat} {member : Tar.Member}
    (hdocker : dockerFiles.read (Builder.docker.tarball dockerCheckout) = .ok archive)
    (hholds : Gzip.Holds 0 archive (Tar.Member.archive members more))
    (hfar : (Tar.Member.writtenAll members).length ≤ 2 ^ 63)
    (hmember : members.reverse.find? (·.entry.name = Text.Utf8.encode versionEntry) = some member)
    (hkind : member.entry.kind = .file) (hcontent : member.content = bytes) :
    (∃ text : String, bytes = text.toUTF8.data.toList ∧
        Fetch.Client.getText transport url = .ok text ∧
        ∃ bazel docker, readBazel bazelFiles bazelCheckout words = .ok bazel ∧
          readDocker dockerFiles dockerCheckout words = .ok docker ∧
          bazel = String.ofList (Text.unifyLineEnds text.toList) ∧ docker = Text.trimmed text ∧
          Text.trimmed bazel = String.ofList (Text.unifyLineEnds docker.toList)) ∨
      (∀ text : String, bytes ≠ text.toUTF8.data.toList) ∧
        ∃ m : Text.Utf8.Malformed, m.Marks bytes ∧
          Fetch.Client.getText transport url = .err ⟨url, 0, "Decode error: " ++ m.message⟩ ∧
          readBazel bazelFiles bazelCheckout words =
            .err ⟨inside bazelCheckout versionFile, "Decode error: " ++ m.message⟩ ∧
          readDocker dockerFiles dockerCheckout words =
            .err ⟨Builder.docker.tarball dockerCheckout, "Decode error: " ++ m.message⟩ := by
  have hfetched : Fetch.Client.getText transport url = Fetch.decode url bytes := by
    rw [Fetch.Client.getText_of_sendable hurl, hserved]
    rfl
  rw [hfetched, Fetch.decode, readBazel_of_read hbazel,
    readDocker_of_members hdocker hholds hfar hmember hkind, hcontent]
  rcases Text.Utf8.decode_spec bytes with ⟨text, hbytes, hdecode⟩ | ⟨hnone, m, hdecode, hmarks⟩
  · refine .inl ⟨text, hbytes, ?_⟩
    rw [hdecode, decode_of_ok _ hdecode, decode_of_ok _ hdecode]
    refine ⟨rfl, _, _, rfl, rfl, rfl, rfl, ?_⟩
    rw [Text.trimmed, String.toList_ofList, Text.trim_unifyLineEnds, Text.trimmed_toList]
  · refine .inr ⟨hnone, m, hmarks, ?_⟩
    rw [hdecode, decode_of_error _ hdecode, decode_of_error _ hdecode]
    exact ⟨rfl, rfl, rfl⟩

/-- The working directory as a checkout with the version that a build with Bazel left. -/
def versionTree (bytes : List UInt8) : Files.Tree where
  nodes :=
    [(["bazel-genfiles"], .directory 0), (["bazel-genfiles", "version"], .file bytes 0)]

theorem read_versionTree (bytes : List UInt8) :
    (versionTree bytes).read (inside workingDirectory versionFile) = .ok bytes := by
  have hreaches : (versionTree bytes).Reaches (.file bytes 0) [] ["bazel-genfiles", "version"] :=
    .step rfl List.not_mem_nil (by decide +kernel) <|
      .step rfl List.not_mem_nil (by decide +kernel) (.here rfl (by simp))
  have hsteps : (inside workingDirectory versionFile).steps = ["bazel-genfiles", "version"] := by
    decide +kernel
  rw [← hsteps] at hreaches
  exact hreaches.read_eq (by decide +kernel) (by decide +kernel) rfl List.not_mem_nil

/-- Carriage returns at both ends and inside, and a line end of Unicode that is no line end of a
file. -/
theorem readers_agree_carriageReturns :
    let text := "\rv1.30.0+a\rb\u0085\r\n"
    let bytes := Text.Utf8.encode text
    let transport : Fetch.Transport := fun _ => .body bytes
    ∃ archive members member,
      Fetch.Url.isSendable "https://host/version" = true ∧
        transport (Fetch.Url.full "https://host/version") = .body bytes ∧
        (versionTree bytes).read (inside workingDirectory versionFile) = .ok bytes ∧
        (tarballTree archive).read (Builder.docker.tarball workingDirectory) = .ok archive ∧
        Gzip.Holds 0 archive (Tar.Member.archive members 0) ∧
        (Tar.Member.writtenAll members).length ≤ 2 ^ 63 ∧
        members.reverse.find? (·.entry.name = Text.Utf8.encode versionEntry) = some member ∧
        member.entry.kind = .file ∧ member.content = bytes ∧
        Fetch.Client.getText transport "https://host/version" = .ok text ∧
        readBazel (versionTree bytes) workingDirectory = .ok "\nv1.30.0+a\nb\u0085\n" ∧
        readDocker (tarballTree archive) workingDirectory = .ok "v1.30.0+a\rb" := by
  intro text bytes transport
  obtain ⟨member, hwritten, hcontent, hname, hkind⟩ :=
    (versionMember bytes (by decide +kernel)).exists_member
  have hall : Tar.Member.writtenAll [member] =
      Tar.writtenAll [versionMember bytes (by decide +kernel)] := by
    simp only [Tar.Member.writtenAll, Tar.writtenAll, List.flatMap_singleton, hwritten]
  have hfar : (Tar.Member.writtenAll [member]).length ≤ 2 ^ 11 := by
    rw [hall]
    decide +kernel
  have hholds : Gzip.Holds 0 (Gzip.storedFile bareHeading (Tar.Member.archive [member] 0))
      (Tar.Member.archive [member] 0) :=
    Gzip.holds_storedFile bareHeading (by
      rw [Tar.Member.archive, List.length_append, List.length_replicate]
      simp only [Tar.blockSize]
      omega)
  have hurl : Fetch.Url.isSendable "https://host/version" = true := by decide +kernel
  have hserved : transport (Fetch.Url.full "https://host/version") = .body bytes := rfl
  have hfind : [member].reverse.find? (·.entry.name = Text.Utf8.encode versionEntry) =
      some member := by
    rw [List.reverse_singleton, List.find?_singleton, hname]
    rfl
  have hagree := readers_agree {} hurl hserved (read_versionTree bytes)
    (read_tarballTree _) hholds (by omega) hfind hkind hcontent
  refine ⟨_, _, member, hurl, hserved, read_versionTree bytes, read_tarballTree _, hholds, by omega,
    hfind, hkind, hcontent, ?_⟩
  have hbytes : bytes = text.toUTF8.data.toList := (Text.Utf8.toUTF8_eq text).symm
  rcases hagree with ⟨found, hfound, hfetched, bazel, docker, hbazel, hdocker, rfl, rfl, -⟩ |
    ⟨hnone, -⟩
  · have hsame : found = text := by
      rw [← Text.Utf8.decode_eq_ok_iff] at hfound hbytes
      exact Except.ok.inj (hfound.symm.trans hbytes)
    subst hsame
    refine ⟨hfetched, hbazel.trans ?_, hdocker.trans ?_⟩
    · decide +kernel
    · decide +kernel
  · exact absurd hbytes (hnone text)

end BuildVersion.Build
