import BuildVersion.Proofs.Build.Time
import BuildVersion.Proofs.Files.Tree

namespace BuildVersion.Build

/-- Where a builder leaves its tarball, from the checkout. -/
def Builder.tarballNames : Builder → List String
  | .bazel => ["bazel-bin", "build", "release-tars", "kubernetes.tar.gz"]
  | .docker => ["_output", "release-tars", "kubernetes.tar.gz"]

theorem Builder.tarball_eq (builder : Builder) (checkout : Files.Path) :
    builder.tarball checkout =
      ⟨checkout.anchor, checkout.components ++ builder.tarballNames⟩ := by
  have hdirectory : Files.Path.ofString builder.tarballDirectory =
      ⟨.relative, builder.tarballNames.dropLast⟩ := by
    cases builder <;> decide +kernel
  have hname : Files.Path.ofString tarballName = ⟨.relative, ["kubernetes.tar.gz"]⟩ := by
    decide +kernel
  rw [tarball, inside, inside, hdirectory, hname]
  cases builder <;> simp [Files.Path.join, tarballNames]

theorem notMem_toString_tarball {checkout : Files.Path}
    (hzero : '\x00' ∉ checkout.toString.toList) (builder : Builder) :
    '\x00' ∉ (builder.tarball checkout).toString.toList := by
  rw [builder.tarball_eq]
  refine Files.notMem_toString_append (by decide) (by decide) hzero ?_
  cases builder <;> decide +kernel

theorem stat_tarball_ne_zeroCharacter (files : Files.Tree) {checkout : Files.Path}
    (hzero : '\x00' ∉ checkout.toString.toList) (builder : Builder) :
    files.stat (builder.tarball checkout) ≠ .error .zeroCharacter := by
  rw [Ne, Files.Tree.stat_eq_zeroCharacter_iff]
  exact notMem_toString_tarball hzero builder

section Modified

variable {files : Files.Tree} {path : Files.Path} {words : Words}

/-- What the error of a file that cannot be looked at says. -/
def statError (words : Words) (path : Files.Path) (cause : FileFault) : Version.ArtifactError :=
  ⟨path, s!"Cannot stat artifact ({words.file path cause})"⟩

theorem modified?_eq_some_iff {time : Binary64} :
    modified? files path words = .ok (some time) ↔
      ∃ node, files.stat path = .ok node ∧ seconds node.mtime = time := by
  rw [modified?]
  cases files.stat path with
  | ok node => simp
  | error fault => cases fault <;> simp

theorem modified?_eq_none_iff :
    modified? files path words = .ok none ↔ files.stat path = .error .notFound := by
  rw [modified?]
  cases files.stat path with
  | ok node => simp
  | error fault => cases fault <;> simp

theorem exists_modified?_iff :
    (∃ time?, modified? files path words = .ok time?) ↔
      ∀ fault, files.stat path = .error fault → fault = .notFound := by
  rw [modified?]
  cases hstat : files.stat path with
  | ok node => simp
  | error fault => cases fault <;> simp

theorem modified?_eq_err_iff (hzero : files.stat path ≠ .error .zeroCharacter)
    {e : Version.ArtifactError} :
    modified? files path words = .err e ↔
      ∃ fault, files.stat path = .error fault ∧ fault ≠ .notFound ∧
        statError words path fault = e := by
  rw [modified?]
  cases hstat : files.stat path with
  | ok node => simp
  | error fault =>
      cases fault with
      | zeroCharacter => exact absurd hstat hzero
      | _ => simp [statError]

theorem modified?_ne_aborted (hzero : files.stat path ≠ .error .zeroCharacter) (fault : Fault) :
    modified? files path words ≠ .aborted fault := by
  rw [modified?]
  cases hstat : files.stat path with
  | ok node => simp
  | error cause =>
      cases cause with
      | zeroCharacter => exact absurd hstat hzero
      | _ => simp

end Modified

section Detect

variable {files : Files.Tree} {checkout : Files.Path} {words : Words}

theorem detect_eq_ok_iff {builder : Builder} :
    detect files checkout words = .ok builder ↔
      ∃ bazel docker, modified? files (Builder.bazel.tarball checkout) words = .ok bazel ∧
        modified? files (Builder.docker.tarball checkout) words = .ok docker ∧
        newer bazel docker = builder := by
  simp only [detect, Outcome.map_eq_bind, Outcome.bind_eq_ok_iff, Outcome.ok.injEq, exists_and_left]

theorem detect_eq_err_iff {e : Version.ArtifactError} :
    detect files checkout words = .err e ↔
      modified? files (Builder.bazel.tarball checkout) words = .err e ∨
        (∃ bazel, modified? files (Builder.bazel.tarball checkout) words = .ok bazel) ∧
          modified? files (Builder.docker.tarball checkout) words = .err e := by
  rw [detect]
  cases modified? files (Builder.bazel.tarball checkout) words with
  | ok bazel => cases modified? files (Builder.docker.tarball checkout) words <;> simp
  | err e => simp
  | aborted fault => simp

theorem detect_ne_aborted {fault : Fault}
    (hbazel : modified? files (Builder.bazel.tarball checkout) words ≠ .aborted fault)
    (hdocker : modified? files (Builder.docker.tarball checkout) words ≠ .aborted fault) :
    detect files checkout words ≠ .aborted fault := by
  rw [Ne, detect, Outcome.bind_eq_aborted_iff]
  rintro (haborted | ⟨bazel, -, haborted⟩)
  · exact hbazel haborted
  · rw [Outcome.map_eq_bind, Outcome.bind_eq_aborted_iff] at haborted
    simp [hdocker] at haborted

/-- Of two tarballs that are there Bazel's is taken if its number of seconds is the greater one. -/
theorem detect_eq_bazel_iff {bazel docker : Files.Node}
    (hbazel : files.stat (Builder.bazel.tarball checkout) = .ok bazel)
    (hdocker : files.stat (Builder.docker.tarball checkout) = .ok docker) :
    detect files checkout words = .ok .bazel ↔
      (seconds docker.mtime).lt (seconds bazel.mtime) = true := by
  rw [detect, modified?_eq_some_iff.mpr ⟨bazel, hbazel, rfl⟩,
    modified?_eq_some_iff.mpr ⟨docker, hdocker, rfl⟩]
  simp [newer]

theorem exists_of_detect_bazel (h : detect files checkout words = .ok .bazel) :
    ∃ bazel, files.stat (Builder.bazel.tarball checkout) = .ok bazel ∧
      (files.stat (Builder.docker.tarball checkout) = .error .notFound ∨
        ∃ docker, files.stat (Builder.docker.tarball checkout) = .ok docker) := by
  obtain ⟨bazel, docker, hbazel, hdocker, hnewer⟩ := detect_eq_ok_iff.mp h
  cases bazel with
  | none => contradiction
  | some time =>
      obtain ⟨node, hnode, -⟩ := modified?_eq_some_iff.mp hbazel
      refine ⟨node, hnode, ?_⟩
      cases docker with
      | none => exact .inl (modified?_eq_none_iff.mp hdocker)
      | some time =>
          obtain ⟨other, hother, -⟩ := modified?_eq_some_iff.mp hdocker
          exact .inr ⟨other, hother⟩

theorem exists_of_detect_docker (h : detect files checkout words = .ok .docker) :
    (∃ docker, files.stat (Builder.docker.tarball checkout) = .ok docker) ∨
      files.stat (Builder.bazel.tarball checkout) = .error .notFound ∧
        files.stat (Builder.docker.tarball checkout) = .error .notFound := by
  obtain ⟨bazel, docker, hbazel, hdocker, hnewer⟩ := detect_eq_ok_iff.mp h
  cases docker with
  | some time =>
      obtain ⟨other, hother, -⟩ := modified?_eq_some_iff.mp hdocker
      exact .inl ⟨other, hother⟩
  | none =>
      cases bazel with
      | none => exact .inr ⟨modified?_eq_none_iff.mp hbazel, modified?_eq_none_iff.mp hdocker⟩
      | some time => contradiction

end Detect

/-- A checkout whose path has no zero character is judged. It is an error if and only if one of the
tarballs cannot be looked at although it may be there, Bazel's before the dockerized one. The
dockerized tarball is taken only if it is there or both are missing. Bazel's tarball is taken only
if it is there and the other one is missing or older; but of times that are reversed the older one
is taken, and of no others. -/
theorem detect_newer_unless_reversed (files : Files.Tree) {checkout : Files.Path} (words : Words)
    (hzero : '\x00' ∉ checkout.toString.toList) :
    let bazel := Builder.bazel.tarball checkout
    let docker := Builder.docker.tarball checkout
    (∀ fault, detect files checkout words ≠ .aborted fault) ∧
      (∀ e, detect files checkout words = .err e ↔
        (∃ fault, files.stat bazel = .error fault ∧ fault ≠ .notFound ∧
            statError words bazel fault = e) ∨
          (∀ fault, files.stat bazel = .error fault → fault = .notFound) ∧
            ∃ fault, files.stat docker = .error fault ∧ fault ≠ .notFound ∧
              statError words docker fault = e) ∧
      (detect files checkout words = .ok .docker →
        (∃ node, files.stat docker = .ok node) ∨
          files.stat bazel = .error .notFound ∧ files.stat docker = .error .notFound) ∧
      (detect files checkout words = .ok .bazel → ∃ node, files.stat bazel = .ok node ∧
        (files.stat docker = .error .notFound ∨ ∃ other, files.stat docker = .ok other ∧
          (other.mtime < node.mtime ∨ Reversed node.mtime other.mtime))) ∧
      ∀ node other, files.stat bazel = .ok node → files.stat docker = .ok other →
        node.mtime ≤ other.mtime →
        (detect files checkout words = .ok .bazel ↔ Reversed node.mtime other.mtime) := by
  intro bazel docker
  have hbazel := stat_tarball_ne_zeroCharacter files hzero .bazel
  have hdocker := stat_tarball_ne_zeroCharacter files hzero .docker
  refine ⟨?_, ?_, exists_of_detect_docker, ?_, ?_⟩
  · intro fault
    exact detect_ne_aborted (modified?_ne_aborted hbazel fault) (modified?_ne_aborted hdocker fault)
  · intro e
    rw [detect_eq_err_iff, modified?_eq_err_iff hbazel, exists_modified?_iff,
      modified?_eq_err_iff hdocker]
  · intro hdetect
    obtain ⟨node, hnode, hother⟩ := exists_of_detect_bazel hdetect
    refine ⟨node, hnode, ?_⟩
    rcases hother with hmissing | ⟨other, hother⟩
    · exact .inl hmissing
    · refine .inr ⟨other, hother, ?_⟩
      rcases Int.lt_or_le other.mtime node.mtime with hnewer | holder
      · exact .inl hnewer
      · exact .inr ((seconds_lt_iff holder).mp ((detect_eq_bazel_iff hnode hother).mp hdetect))
  · intro node other hnode hother holder
    rw [detect_eq_bazel_iff hnode hother, seconds_lt_iff holder]

/-- The working directory as a checkout with both tarballs. -/
def checkoutTree (bazel docker : Int) : Files.Tree where
  nodes :=
    [(["bazel-bin"], .directory 0), (["bazel-bin", "build"], .directory 0),
      (["bazel-bin", "build", "release-tars"], .directory 0),
      (["bazel-bin", "build", "release-tars", "kubernetes.tar.gz"], .file [] bazel),
      (["_output"], .directory 0), (["_output", "release-tars"], .directory 0),
      (["_output", "release-tars", "kubernetes.tar.gz"], .file [] docker)]

def workingDirectory : Files.Path := ⟨.relative, []⟩

theorem stat_bazel_checkoutTree (bazel docker : Int) :
    (checkoutTree bazel docker).stat (Builder.bazel.tarball workingDirectory) =
      .ok (.file [] bazel) := by
  have hreaches : (checkoutTree bazel docker).Reaches (.file [] bazel) []
      ["bazel-bin", "build", "release-tars", "kubernetes.tar.gz"] :=
    .step rfl List.not_mem_nil (by decide +kernel) <|
      .step rfl List.not_mem_nil (by decide +kernel) <|
        .step rfl List.not_mem_nil (by decide +kernel) <|
          .step rfl List.not_mem_nil (by decide +kernel) (.here rfl (by simp))
  refine Files.Tree.Reaches.stat_eq ?_ (by decide +kernel) (by decide +kernel)
  rw [Builder.tarball_eq]
  exact hreaches

theorem stat_docker_checkoutTree (bazel docker : Int) :
    (checkoutTree bazel docker).stat (Builder.docker.tarball workingDirectory) =
      .ok (.file [] docker) := by
  have hreaches : (checkoutTree bazel docker).Reaches (.file [] docker) []
      ["_output", "release-tars", "kubernetes.tar.gz"] :=
    .step rfl List.not_mem_nil (by decide +kernel) <|
      .step rfl List.not_mem_nil (by decide +kernel) <|
        .step rfl List.not_mem_nil (by decide +kernel) (.here rfl (by simp))
  refine Files.Tree.Reaches.stat_eq ?_ (by decide +kernel) (by decide +kernel)
  rw [Builder.tarball_eq]
  exact hreaches

/-- Of two tarballs of one time Bazel's is not taken. -/
theorem detect_checkoutTree_equal :
    detect (checkoutTree 1600000000123456789 1600000000123456789) workingDirectory ≠
      .ok .bazel := by
  have hzero : '\x00' ∉ workingDirectory.toString.toList := by decide +kernel
  obtain ⟨-, -, -, -, hboth⟩ := detect_newer_unless_reversed
    (checkoutTree 1600000000123456789 1600000000123456789) {} hzero
  rw [Ne, hboth _ _ (stat_bazel_checkoutTree _ _) (stat_docker_checkoutTree _ _) (Int.le_refl _)]
  rintro ⟨hearly, -, -, -⟩
  revert hearly
  decide

/-- Bazel's tarball is older by a tenth of a second, and it is taken. -/
theorem detect_checkoutTree_reversed :
    let tree := checkoutTree (-9007199254740992100000000) (-9007199254740992000000000)
    '\x00' ∉ workingDirectory.toString.toList ∧ detect tree workingDirectory = .ok .bazel ∧
      ∃ bazel docker, tree.stat (Builder.bazel.tarball workingDirectory) = .ok bazel ∧
        tree.stat (Builder.docker.tarball workingDirectory) = .ok docker ∧
        bazel.mtime < docker.mtime := by
  have hbazel := stat_bazel_checkoutTree (-9007199254740992100000000) (-9007199254740992000000000)
  have hdocker := stat_docker_checkoutTree (-9007199254740992100000000) (-9007199254740992000000000)
  refine ⟨by decide +kernel, ?_, _, _, hbazel, hdocker, by decide⟩
  rw [detect_eq_bazel_iff hbazel hdocker]
  decide +kernel

end BuildVersion.Build
