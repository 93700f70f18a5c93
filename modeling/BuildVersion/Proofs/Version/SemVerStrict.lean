import BuildVersion.Proofs.Version.SemVerParse

namespace BuildVersion.Version.SemVer

def IsDecimal (s : List Char) : Prop :=
  s ≠ [] ∧ (∀ c ∈ s, Text.isAsciiDigit c = true) ∧ (s.head? = some '0' → s = ['0'])

/-- Whether the digits in a text are all of ASCII. -/
def HasAsciiDigits (s : List Char) : Prop :=
  ∀ c ∈ s, Text.isDigit c = true → Text.isAsciiDigit c = true

/-- The rules of the standard. -/
structure Parts.Strict (p : Parts) : Prop where
  isDecimal_major : IsDecimal p.major
  isDecimal_minor : IsDecimal p.minor
  isDecimal_patch : IsDecimal p.patch
  isBuildWord_prerelease : ∀ i ∈ p.prerelease, IsBuildWord i.toList
  isDecimal_prerelease : ∀ i ∈ p.prerelease,
    (∀ c ∈ i.toList, Text.isAsciiDigit c = true) → IsDecimal i.toList
  isBuildWord_build : ∀ i ∈ p.build, IsBuildWord i.toList

section Words

variable {s : List Char}

theorem toNat_lt_of_isWordChar {c : Char} (hc : isWordChar c = true) : c.toNat < 128 := by
  rw [isWordChar, Text.isAsciiAlphanumeric, Bool.or_eq_true, Bool.or_eq_true, beq_iff_eq] at hc
  obtain (hdigit | hletter) | rfl := hc
  · exact Text.toNat_lt_of_isAsciiDigit hdigit
  · exact Text.toNat_lt_of_isAsciiLetter hletter
  · decide

theorem isWordChar_of_isAsciiDigit {c : Char} (hc : Text.isAsciiDigit c = true) :
    isWordChar c = true := by
  simp [isWordChar, Text.isAsciiAlphanumeric, hc]

theorem isDecimal_of_isNumeral (hs : IsNumeral s) (hascii : HasAsciiDigits s) : IsDecimal s := by
  have hdigits : ∀ c ∈ s, Text.isAsciiDigit c = true := fun c hc =>
    hascii c hc (isDigit_of_mem_of_isNumeral hs hc)
  obtain rfl | ⟨c, rest, rfl, hc, -⟩ := hs
  · exact ⟨List.cons_ne_nil _ _, hdigits, fun _ => rfl⟩
  · refine ⟨List.cons_ne_nil _ _, hdigits, ?_⟩
    intro hzero
    obtain rfl := Option.some.inj hzero
    contradiction

theorem isBuildWord_of_isDecimal (hs : IsDecimal s) : IsBuildWord s :=
  ⟨hs.1, fun c hc => isWordChar_of_isAsciiDigit (hs.2.1 c hc)⟩

theorem isBuildWord_of_isMixed (hs : IsMixed s) (hascii : HasAsciiDigits s) : IsBuildWord s := by
  obtain ⟨digits, c, rest, rfl, hdigits, hc, hrest⟩ := hs
  refine ⟨by simp, ?_⟩
  intro d hd
  obtain hmem | hmem := List.mem_append.mp hd
  · exact isWordChar_of_isAsciiDigit (hascii d hd (hdigits d hmem))
  · obtain rfl | hmem := List.mem_cons.mp hmem
    · exact (isWordChar_and_not_isDigit_iff.mpr hc).1
    · exact hrest d hmem

theorem not_forall_isAsciiDigit_of_isMixed (hs : IsMixed s) :
    ¬∀ c ∈ s, Text.isAsciiDigit c = true := by
  obtain ⟨digits, c, rest, rfl, -, hc, -⟩ := hs
  intro hall
  have hdigit := Text.isDigit_of_isAsciiDigit (hall c (by simp))
  rw [(isWordChar_and_not_isDigit_iff.mpr hc).2] at hdigit
  contradiction

theorem isBuildWord_of_isPrereleaseWord (hs : IsPrereleaseWord s) (hascii : HasAsciiDigits s) :
    IsBuildWord s := by
  obtain hnumeral | hmixed := hs
  · exact isBuildWord_of_isDecimal (isDecimal_of_isNumeral hnumeral hascii)
  · exact isBuildWord_of_isMixed hmixed hascii

theorem isDecimal_of_isPrereleaseWord (hs : IsPrereleaseWord s) (hascii : HasAsciiDigits s)
    (hdigits : ∀ c ∈ s, Text.isAsciiDigit c = true) : IsDecimal s := by
  obtain hnumeral | hmixed := hs
  · exact isDecimal_of_isNumeral hnumeral hascii
  · exact absurd hdigits (not_forall_isAsciiDigit_of_isMixed hmixed)

end Words

namespace Parts

variable {p : Parts}

theorem forall_mem_renderPart {P : Char → Prop} {mark : Char} (hdot : P '.') (hmark : P mark)
    (identifiers : List String) :
    (∀ c ∈ renderPart mark identifiers, P c) ↔ ∀ i ∈ identifiers, ∀ c ∈ i.toList, P c := by
  cases identifiers with
  | nil => simp [renderPart]
  | cons i rest =>
      simp only [renderPart, List.isEmpty_cons, Bool.false_eq_true, if_false,
        List.forall_mem_cons, hmark, true_and, Text.forall_mem_join hdot, List.forall_mem_map]

theorem forall_mem_written {P : Char → Prop} (hdot : P '.') (hhyphen : P '-') (hplus : P '+')
    (p : Parts) :
    (∀ c ∈ p.written, P c) ↔
      (∀ c ∈ p.major, P c) ∧ (∀ c ∈ p.minor, P c) ∧ (∀ c ∈ p.patch, P c) ∧
        (∀ i ∈ p.prerelease, ∀ c ∈ i.toList, P c) ∧ ∀ i ∈ p.build, ∀ c ∈ i.toList, P c := by
  simp only [written, List.forall_mem_append, List.forall_mem_cons, hdot, true_and,
    forall_mem_renderPart hdot hhyphen, forall_mem_renderPart hdot hplus, and_assoc]

theorem WellFormed.strict (hp : p.WellFormed) (hascii : HasAsciiDigits p.written) : p.Strict := by
  obtain ⟨hmajor, hminor, hpatch, hprerelease, -⟩ :=
    (forall_mem_written (by decide) (by decide) (by decide) p).mp hascii
  exact
    { isDecimal_major := isDecimal_of_isNumeral hp.isNumeral_major hmajor
      isDecimal_minor := isDecimal_of_isNumeral hp.isNumeral_minor hminor
      isDecimal_patch := isDecimal_of_isNumeral hp.isNumeral_patch hpatch
      isBuildWord_prerelease := fun i hi =>
        isBuildWord_of_isPrereleaseWord (hp.isPrereleaseWord i hi) (hprerelease i hi)
      isDecimal_prerelease := fun i hi =>
        isDecimal_of_isPrereleaseWord (hp.isPrereleaseWord i hi) (hprerelease i hi)
      isBuildWord_build := hp.isBuildWord }

theorem Strict.toNat_lt_of_mem_written (hp : p.Strict) : ∀ c ∈ p.written, c.toNat < 128 := by
  refine (forall_mem_written (by decide) (by decide) (by decide) p).mpr ⟨?_, ?_, ?_, ?_, ?_⟩
  · exact fun c hc => Text.toNat_lt_of_isAsciiDigit (hp.isDecimal_major.2.1 c hc)
  · exact fun c hc => Text.toNat_lt_of_isAsciiDigit (hp.isDecimal_minor.2.1 c hc)
  · exact fun c hc => Text.toNat_lt_of_isAsciiDigit (hp.isDecimal_patch.2.1 c hc)
  · exact fun i hi c hc => toNat_lt_of_isWordChar ((hp.isBuildWord_prerelease i hi).2 c hc)
  · exact fun i hi c hc => toNat_lt_of_isWordChar ((hp.isBuildWord_build i hi).2 c hc)

end Parts

/-- A text that is read keeps to the standard exactly if it has no digit of another script. -/
theorem strict_iff_hasAsciiDigits {text : String} {v : SemVer} (hparse : parse text = .ok v) :
    ((∀ c ∈ text.toList, c.toNat < 128) ∧
        ∃ p : Parts, p.Strict ∧ p.written = text.toList ∧ p.version = v) ↔
      HasAsciiDigits text.toList := by
  constructor
  · rintro ⟨hascii, -⟩ c hc hdigit
    rw [← Text.isDigit_eq_of_lt (hascii c hc), hdigit]
  · intro hdigits
    obtain ⟨p, hp, hwritten, -, hv⟩ := parse_eq_ok_iff.mp hparse
    rw [← hwritten] at hdigits ⊢
    have hstrict := hp.strict hdigits
    exact ⟨hstrict.toNat_lt_of_mem_written, p, hstrict, rfl, hv⟩

/-- A text of ASCII: zeros may begin an identifier with a letter, and a build identifier. -/
theorem strict_ascii_text :
    parse "1.0.0-rc.0a+007" = .ok ⟨1, 0, 0, ["rc", "0a"], ["007"]⟩ ∧
      ∃ p : Parts, p.Strict ∧ p.written = "1.0.0-rc.0a+007".toList ∧
        p.version = ⟨1, 0, 0, ["rc", "0a"], ["007"]⟩ := by
  have hparse : parse "1.0.0-rc.0a+007" = .ok ⟨1, 0, 0, ["rc", "0a"], ["007"]⟩ := by decide
  have hdigits : HasAsciiDigits "1.0.0-rc.0a+007".toList := by
    have hall : "1.0.0-rc.0a+007".toList.all
        (fun c => !Text.isDigit c || Text.isAsciiDigit c) = true := by decide
    intro c hc hdigit
    simpa [hdigit] using List.all_eq_true.mp hall c hc
  exact ⟨hparse, ((strict_iff_hasAsciiDigits hparse).mpr hdigits).2⟩

/-- A digit of another script is read by its value, against the standard. -/
theorem parse_digit_of_other_script :
    parse "1٣.0.0" = .ok ⟨13, 0, 0, [], []⟩ ∧ ¬∀ c ∈ "1٣.0.0".toList, c.toNat < 128 := by
  refine ⟨by decide, fun hascii => ?_⟩
  exact absurd (hascii '٣' (by decide)) (by decide)

end BuildVersion.Version.SemVer
