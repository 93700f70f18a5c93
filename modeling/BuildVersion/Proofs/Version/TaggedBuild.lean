import BuildVersion.Proofs.Version.Normalize
import BuildVersion.Proofs.Version.ReleaseBuild

/-!
Release builds as semantic versions. The release check and the reader of versions divide a build
in different ways: its tags make one identifier of the pre-release, the number after them and the
count of commits make one each, and the hash is the only identifier of the build part. The mark of
a dirty build belongs to whichever identifier comes last.
-/

namespace BuildVersion.Version

namespace SemVer

variable {s : List Char}

theorem isMixed_of_isBuildWord (hs : IsBuildWord s) (hstop : ∃ c ∈ s, Text.isDigit c = false) :
    IsMixed s := by
  rw [← isMixedIdentifier_iff, isMixedIdentifier, isBuildIdentifier_iff]
  constructor
  · intro hnil
    obtain ⟨c, hc, hdigit⟩ := hstop
    have hdigits := List.dropWhile_eq_nil_iff.mp hnil c hc
    rw [hdigit] at hdigits
    contradiction
  · intro d hd
    exact hs.2 d ((List.dropWhile_suffix _).subset hd)

/-- Among the words of ASCII only digits with a zero in front are no identifiers. -/
theorem isPrereleaseWord_of_isBuildWord (hs : IsBuildWord s)
    (hnumeral : (∀ c ∈ s, Text.isDigit c = true) → IsNumeral s) : IsPrereleaseWord s := by
  by_cases hdigits : ∀ c ∈ s, Text.isDigit c = true
  · exact .inl (hnumeral hdigits)
  · obtain ⟨c, hstop⟩ := not_forall.mp hdigits
    obtain ⟨hc, hdigit⟩ := Classical.not_imp.mp hstop
    exact .inr (isMixed_of_isBuildWord hs ⟨c, hc, Bool.eq_false_of_not_eq_true hdigit⟩)

end SemVer

namespace Release

open SemVer (IsBuildWord IsNumeral IsPrereleaseWord Parts isWordChar)

section Words

variable {s : List Char} {c : Char}

theorem isNumeral_of_isNumber (hs : IsNumber s) : IsNumeral s := by
  rcases hs with rfl | ⟨c, rest, rfl, hc, hrest⟩
  · exact .inl rfl
  · exact .inr ⟨c, rest, rfl, hc, fun d hd => Text.isDigit_of_isAsciiDigit (hrest d hd)⟩

theorem isAsciiDigit_of_mem_of_isNumber (hs : IsNumber s) (hc : c ∈ s) :
    Text.isAsciiDigit c = true := by
  rcases hs with rfl | ⟨d, rest, rfl, hd, hrest⟩
  · rw [List.mem_singleton.mp hc]
    rfl
  · rcases List.mem_cons.mp hc with rfl | hc
    · exact (Text.isLeadingDigit_iff.mp hd).2
    · exact hrest c hc

theorem isBuildWord_of_isNumber (hs : IsNumber s) : IsBuildWord s := by
  constructor
  · rintro rfl
    simp [IsNumber] at hs
  · intro c hc
    exact SemVer.isWordChar_of_isAsciiDigit (isAsciiDigit_of_mem_of_isNumber hs hc)

theorem isWordChar_of_isAsciiAlphanumeric (hc : Text.isAsciiAlphanumeric c = true) :
    isWordChar c = true := by
  rw [isWordChar, hc, Bool.true_or]

theorem isAsciiAlphanumeric_of_isLowerHex (hc : Text.isLowerHex c = true) :
    Text.isAsciiAlphanumeric c = true := by
  simp only [Text.isLowerHex, Text.isAsciiAlphanumeric, Text.isAsciiLetter, Bool.or_eq_true,
    Bool.and_eq_true, decide_eq_true_eq, Text.char_le_iff, Char.reduceToNat] at hc ⊢
  rcases hc with hdigit | hletter
  · exact .inl hdigit
  · exact .inr (.inl ⟨hletter.1, by omega⟩)

end Words

namespace Build

variable {b : Build}

/-- What is added to a build with local changes. -/
def mark (b : Build) : List Char :=
  if b.dirty then "-dirty".toList else []

theorem written_eq (b : Build) :
    b.written = 'v' :: (b.major ++ '.' :: (b.minor ++ '.' :: (b.patch ++
      (b.tags.flatMap ('-' :: ·) ++ (List.replicate b.dots '.' ++ (b.tail ++
        (b.description.elim [] Description.written ++ b.mark))))))) := rfl

theorem isWordChar_of_mem_mark : ∀ c ∈ b.mark, isWordChar c = true := by
  rw [mark]
  split
  · exact List.all_eq_true.mp (by decide)
  · simp

theorem mark_eq_nil_of_digits (hdigits : ∀ c ∈ b.mark, Text.isDigit c = true) : b.mark = [] := by
  cases hdirty : b.dirty with
  | false => simp [mark, hdirty]
  | true =>
      have hhyphen : '-' ∈ b.mark := by simp [mark, hdirty]
      have hdigit : Text.isDigit '-' = true := hdigits '-' hhyphen
      contradiction

theorem isPrereleaseWord_append_mark {s : List Char} (hs : IsBuildWord s)
    (hnumeral : (∀ c ∈ s, Text.isDigit c = true) → IsNumeral s) :
    IsPrereleaseWord (s ++ b.mark) := by
  apply SemVer.isPrereleaseWord_of_isBuildWord
  · refine ⟨by simp [hs.1], ?_⟩
    intro c hc
    rcases List.mem_append.mp hc with hc | hc
    · exact hs.2 c hc
    · exact isWordChar_of_mem_mark c hc
  · intro hdigits
    obtain ⟨hword, hmark⟩ := List.forall_mem_append.mp hdigits
    rw [mark_eq_nil_of_digits hmark, List.append_nil]
    exact hnumeral hword

def parts (b : Build) : Parts where
  major := b.major
  minor := b.minor
  patch := b.patch
  prerelease :=
    let tags := Text.join '-' b.tags
    match b.description with
    | some d =>
      if b.tail = [] then [.ofList tags, .ofList d.count]
      else [.ofList tags, .ofList b.tail, .ofList d.count]
    | none =>
      if b.tail = [] then [.ofList (tags ++ b.mark)]
      else [.ofList tags, .ofList (b.tail ++ b.mark)]
  build :=
    match b.description with
    | some d => [.ofList (d.hash ++ b.mark)]
    | none => []

/-- A build with a tag, at most one dot before the number after its tags, and numbers without
leading zeros that are short enough to be computed. -/
structure IsTagged (b : Build) : Prop where
  tags_ne_nil : b.tags ≠ []
  isNumber_of_tags_eq : ∀ t, b.tags = [t] → (∀ c ∈ t, Text.isAsciiDigit c = true) → IsNumber t
  dots_eq : b.dots = if b.tail = [] then 0 else 1
  isNumber_count : ∀ d, b.description = some d → IsNumber d.count
  length_major_le : b.major.length ≤ Numeral.maxDigits
  length_minor_le : b.minor.length ≤ Numeral.maxDigits
  length_patch_le : b.patch.length ≤ Numeral.maxDigits

namespace IsTagged

variable (hb : b.IsTagged)
include hb

theorem isBuildWord_join_tags : IsBuildWord (Text.join '-' b.tags) := by
  constructor
  · obtain ⟨t, rest, htags⟩ := List.exists_cons_of_ne_nil hb.tags_ne_nil
    have ht : t ≠ [] := (b.isTag_of_mem_tags t (by simp [htags])).1
    rw [htags]
    cases rest <;> simp [Text.join, ht]
  · have hhyphen : isWordChar '-' = true := rfl
    refine (Text.forall_mem_join hhyphen b.tags).mpr ?_
    intro t ht c hc
    exact isWordChar_of_isAsciiAlphanumeric ((b.isTag_of_mem_tags t ht).2 c hc)

theorem isNumeral_join_tags (hdigits : ∀ c ∈ Text.join '-' b.tags, Text.isDigit c = true) :
    IsNumeral (Text.join '-' b.tags) := by
  obtain ⟨t, rest, htags⟩ := List.exists_cons_of_ne_nil hb.tags_ne_nil
  cases rest with
  | nil =>
      have hjoin : Text.join '-' b.tags = t := by simp [htags, Text.join]
      rw [hjoin] at hdigits ⊢
      have hascii : ∀ c ∈ t, Text.isAsciiDigit c = true := by
        intro c hc
        have htag := (b.isTag_of_mem_tags t (by simp [htags])).2 c hc
        have hlt := SemVer.toNat_lt_of_isWordChar (isWordChar_of_isAsciiAlphanumeric htag)
        rw [← Text.isDigit_eq_of_lt hlt]
        exact hdigits c hc
      exact isNumeral_of_isNumber (hb.isNumber_of_tags_eq t htags hascii)
  | cons next rest =>
      -- The hyphen between two tags is no digit.
      have hhyphen : '-' ∈ Text.join '-' b.tags := by
        rw [htags, Text.join_cons_cons]
        simp
      have hdigit : Text.isDigit '-' = true := hdigits '-' hhyphen
      contradiction

theorem wellFormed_parts : b.parts.WellFormed where
  isNumeral_major := isNumeral_of_isNumber b.isNumber_major
  isNumeral_minor := isNumeral_of_isNumber b.isNumber_minor
  isNumeral_patch := isNumeral_of_isNumber b.isNumber_patch
  isPrereleaseWord := by
    have htags : IsPrereleaseWord (Text.join '-' b.tags) :=
      SemVer.isPrereleaseWord_of_isBuildWord hb.isBuildWord_join_tags hb.isNumeral_join_tags
    have hmarked : IsPrereleaseWord (Text.join '-' b.tags ++ b.mark) :=
      isPrereleaseWord_append_mark hb.isBuildWord_join_tags hb.isNumeral_join_tags
    rcases b.isNumber_tail with htail | htail
    · cases hdescription : b.description with
      | none => simpa [parts, hdescription, htail] using hmarked
      | some d =>
          have hcount := isNumeral_of_isNumber (hb.isNumber_count d hdescription)
          simpa [parts, hdescription, htail] using ⟨htags, Or.inl hcount⟩
    · have hne : b.tail ≠ [] := (isBuildWord_of_isNumber htail).1
      cases hdescription : b.description with
      | none =>
          have hword : IsPrereleaseWord (b.tail ++ b.mark) :=
            isPrereleaseWord_append_mark (isBuildWord_of_isNumber htail) fun _ =>
              isNumeral_of_isNumber htail
          simpa [parts, hdescription, hne] using ⟨htags, hword⟩
      | some d =>
          have hcount := isNumeral_of_isNumber (hb.isNumber_count d hdescription)
          simpa [parts, hdescription, hne] using
            ⟨htags, Or.inl (isNumeral_of_isNumber htail), Or.inl hcount⟩
  isBuildWord := by
    cases hdescription : b.description with
    | none => simp [parts, hdescription]
    | some d =>
        have hhash : IsBuildWord (d.hash ++ b.mark) := by
          refine ⟨?_, ?_⟩
          · intro hnil
            have hlength := d.five_le_length_hash
            rw [(List.append_eq_nil_iff.mp hnil).1] at hlength
            contradiction
          · intro c hc
            rcases List.mem_append.mp hc with hc | hc
            · have hhex := d.isHex_of_mem_hash c hc
              exact isWordChar_of_isAsciiAlphanumeric (isAsciiAlphanumeric_of_isLowerHex hhex)
            · exact isWordChar_of_mem_mark c hc
        simpa [parts, hdescription] using hhash

theorem short_parts : b.parts.Short :=
  ⟨hb.length_major_le, hb.length_minor_le, hb.length_patch_le⟩

theorem written_parts : b.written = 'v' :: b.parts.written := by
  rw [written_eq, Text.flatMap_cons_eq_cons_join '-' hb.tags_ne_nil, hb.dots_eq]
  by_cases htail : b.tail = []
  · cases hdescription : b.description <;>
      simp [parts, Parts.written, SemVer.renderPart, Description.written, Text.join, htail,
        hdescription]
  · cases hdescription : b.description <;>
      simp [parts, Parts.written, SemVer.renderPart, Description.written, Text.join, htail,
        hdescription]

end IsTagged

/-- A release build is a text of ASCII. -/
theorem toNat_lt_of_mem_written (b : Build) : ∀ c ∈ b.written, c.toNat < 128 := by
  have hnumber : ∀ {s : List Char}, IsNumber s → ∀ c ∈ s, c.toNat < 128 := fun hs c hc =>
    Text.toNat_lt_of_isAsciiDigit (isAsciiDigit_of_mem_of_isNumber hs hc)
  have htags : ∀ c ∈ b.tags.flatMap ('-' :: ·), c.toNat < 128 := by
    intro c hc
    obtain ⟨t, ht, hc⟩ := List.mem_flatMap.mp hc
    rcases List.mem_cons.mp hc with rfl | hc
    · decide
    · have htag := (b.isTag_of_mem_tags t ht).2 c hc
      exact SemVer.toNat_lt_of_isWordChar (isWordChar_of_isAsciiAlphanumeric htag)
  have hdots : ∀ c ∈ List.replicate b.dots '.', c.toNat < 128 := by
    intro c hc
    rw [List.eq_of_mem_replicate hc]
    decide
  have htail : ∀ c ∈ b.tail, c.toNat < 128 := by
    rcases b.isNumber_tail with htail | htail
    · simp [htail]
    · exact hnumber htail
  have hdescription : ∀ c ∈ b.description.elim [] Description.written, c.toNat < 128 := by
    cases b.description with
    | none => simp
    | some d =>
        simp only [Option.elim_some, Description.written, List.cons_append, List.forall_mem_cons,
          List.forall_mem_append]
        refine ⟨by decide, ?_, by decide, ?_⟩
        · exact fun c hc => Text.toNat_lt_of_isAsciiDigit (d.isDigit_of_mem_count c hc)
        · intro c hc
          have hhex := isAsciiAlphanumeric_of_isLowerHex (d.isHex_of_mem_hash c hc)
          exact SemVer.toNat_lt_of_isWordChar (isWordChar_of_isAsciiAlphanumeric hhex)
  have hmark : ∀ c ∈ b.mark, c.toNat < 128 := fun c hc =>
    SemVer.toNat_lt_of_isWordChar (isWordChar_of_mem_mark c hc)
  simp only [written_eq, List.forall_mem_cons, List.forall_mem_append]
  exact ⟨by decide, hnumber b.isNumber_major, by decide, hnumber b.isNumber_minor, by decide,
    hnumber b.isNumber_patch, htags, hdots, htail, hdescription, hmark⟩

theorem IsTagged.normalize_written {b : Build} (hb : b.IsTagged) :
    normalize (.ofList b.written) = .ok (.ofList b.parts.written) := by
  have htext : b.parts.IsTextOf (String.ofList b.written).toList := by
    rw [String.toList_ofList]
    exact .inr hb.written_parts
  have hascii : ∀ c ∈ b.parts.written, c.toNat < 128 := by
    intro c hc
    apply b.toNat_lt_of_mem_written
    rw [hb.written_parts]
    exact List.mem_cons_of_mem 'v' hc
  rw [normalize_of_short hb.wellFormed_parts htext hb.short_parts,
    Parts.canonical_of_lt hascii]

/-- What the normaliser gives for a release build is the build without its `v`. -/
theorem eq_append_of_normalize {b : Build} {s t : String} (hs : b.written = s.toList)
    (hnormalize : normalize s = .ok t) : s = "v" ++ t := by
  obtain ⟨p, hp, htext, -, rfl⟩ := normalize_eq_ok_iff.mp hnormalize
  rw [← hs] at htext
  rw [Parts.canonical_of_lt (htext.forall_mem b.toNat_lt_of_mem_written)]
  rcases htext with hbare | htagged
  · exact absurd hbare.symm (hp.written_ne_cons_v _)
  · rw [← String.toList_inj, ← hs, htagged]
    simp

end Build

/-- The release check and the normaliser agree. A release build that is normalised loses its `v` and
nothing else, and a build with tags passes the check and is normalised. -/
theorem release_builds_normalize :
    (∀ s t : String, isValid s = true → normalize s = .ok t → s = "v" ++ t) ∧
      ∀ b : Build, b.IsTagged →
        ∃ t : String, b.written = 'v' :: t.toList ∧ isValid (.ofList b.written) = true ∧
          normalize (.ofList b.written) = .ok t := by
  constructor
  · intro s t hvalid hnormalize
    obtain ⟨b, hb⟩ := exists_build_of_mem_accepted hvalid
    exact b.eq_append_of_normalize hb hnormalize
  · intro b hb
    refine ⟨.ofList b.parts.written, ?_, ?_, hb.normalize_written⟩
    · rw [String.toList_ofList, hb.written_parts]
    · rw [isValid, String.toList_ofList]
      exact b.written_mem_accepted

/-- A dirty build with zeros in front of its first tag, with a number and a description. -/
def zeroTagBuild : Build where
  major := ['1']
  minor := ['0']
  patch := ['0']
  tags := ["01".toList, "rc".toList]
  dots := 1
  tail := ['0']
  description := some
    { count := ['7']
      hash := "00abc".toList
      count_ne_nil := by decide
      isDigit_of_mem_count := List.all_eq_true.mp (by decide)
      five_le_length_hash := by decide
      length_hash_le := by decide
      isHex_of_mem_hash := List.all_eq_true.mp (by decide) }
  dirty := true
  isNumber_major := .inr ⟨'1', [], rfl, by decide, by simp⟩
  isNumber_minor := .inl rfl
  isNumber_patch := .inl rfl
  isTag_of_mem_tags := by simp [IsTag]; decide
  isNumber_tail := .inr (.inl rfl)

theorem zeroTagBuild_normalizes :
    zeroTagBuild.IsTagged ∧
      (∃ t : String, zeroTagBuild.written = 'v' :: t.toList ∧
        isValid (.ofList zeroTagBuild.written) = true ∧
        normalize (.ofList zeroTagBuild.written) = .ok t) ∧
      isValid "v1.0.0-01-rc.0.7+00abc-dirty" = true ∧
      normalize "v1.0.0-01-rc.0.7+00abc-dirty" = .ok "1.0.0-01-rc.0.7+00abc-dirty" ∧
      "v1.0.0-01-rc.0.7+00abc-dirty" = "v" ++ "1.0.0-01-rc.0.7+00abc-dirty" := by
  have htagged : zeroTagBuild.IsTagged :=
    { tags_ne_nil := by decide
      isNumber_of_tags_eq := by simp [zeroTagBuild]
      dots_eq := by decide
      isNumber_count := by
        rintro d hd
        obtain rfl := Option.some.inj hd
        exact .inr ⟨'7', [], rfl, by decide, by simp⟩
      length_major_le := by decide
      length_minor_le := by decide
      length_patch_le := by decide }
  have hwritten : zeroTagBuild.written = "v1.0.0-01-rc.0.7+00abc-dirty".toList := by decide
  have hvalid : isValid "v1.0.0-01-rc.0.7+00abc-dirty" = true := by
    rw [isValid, ← hwritten]
    exact zeroTagBuild.written_mem_accepted
  have hnormalize : normalize "v1.0.0-01-rc.0.7+00abc-dirty" =
      .ok "1.0.0-01-rc.0.7+00abc-dirty" := by decide +kernel
  exact ⟨htagged, release_builds_normalize.2 _ htagged, hvalid, hnormalize,
    release_builds_normalize.1 _ _ hvalid hnormalize⟩

end Release

end BuildVersion.Version
