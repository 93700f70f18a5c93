import BuildVersion.Proofs.Text.Blank
import BuildVersion.Proofs.Version.SemVerRender
import BuildVersion.Proofs.Version.SemVerStrict

namespace BuildVersion.Version

open SemVer (Parts)

theorem SemVer.isBlank_of_isWordChar {c : Char} (hc : isWordChar c = true) :
    Text.isBlank c = false := by
  rw [isWordChar, Text.isAsciiAlphanumeric, Bool.or_eq_true, Bool.or_eq_true, beq_iff_eq] at hc
  obtain (hdigit | hletter) | rfl := hc
  · exact Text.isBlank_of_isDigit (Text.isDigit_of_isAsciiDigit hdigit)
  · exact Text.isBlank_of_isAsciiLetter hletter
  · rfl

namespace SemVer.Parts

variable {p : Parts} {s : List Char}

theorem WellFormed.isBlank_of_mem_written (hp : p.WellFormed) :
    ∀ c ∈ p.written, Text.isBlank c = false := by
  have hnumeral : ∀ {s : List Char}, IsNumeral s → ∀ c ∈ s, Text.isBlank c = false :=
    fun hs c hc => Text.isBlank_of_isDigit (isDigit_of_mem_of_isNumeral hs hc)
  refine (forall_mem_written (by decide) (by decide) (by decide) p).mpr
    ⟨hnumeral hp.isNumeral_major, hnumeral hp.isNumeral_minor, hnumeral hp.isNumeral_patch, ?_, ?_⟩
  · intro i hi c hc
    obtain hdigit | hword := isDigit_or_isWordChar_of_mem (hp.isPrereleaseWord i hi) hc
    · exact Text.isBlank_of_isDigit hdigit
    · exact isBlank_of_isWordChar hword
  · intro i hi c hc
    exact isBlank_of_isWordChar ((hp.isBuildWord i hi).2 c hc)

/-- Whether a text is written from the parts, with or without a leading `v`. -/
def IsTextOf (p : Parts) (s : List Char) : Prop :=
  s = p.written ∨ s = 'v' :: p.written

theorem WellFormed.written_ne_cons_v (hp : p.WellFormed) (rest : List Char) :
    p.written ≠ 'v' :: rest := by
  intro hwritten
  have hnumeral := hp.isNumeral_major
  cases hmajor : p.major with
  | nil =>
      rw [hmajor] at hnumeral
      simp [IsNumeral] at hnumeral
  | cons c major =>
      rw [written, hmajor] at hwritten
      obtain ⟨rfl, -⟩ := List.cons.inj hwritten
      have hv : Text.isDigit 'v' = true :=
        isDigit_of_mem_of_isNumeral hnumeral (by rw [hmajor]; exact List.mem_cons_self)
      contradiction

theorem WellFormed.written_eq_removeLeading_iff (hp : p.WellFormed) :
    p.written = Text.removeLeading ['v'] s ↔ p.IsTextOf s :=
  Text.eq_removeLeading_iff hp.written_ne_cons_v

theorem canonical_of_lt (hascii : ∀ c ∈ p.written, c.toNat < 128) : p.canonical = p := by
  obtain ⟨hmajor, hminor, hpatch, -, -⟩ :=
    (forall_mem_written (by decide) (by decide) (by decide) p).mp hascii
  rw [canonical, Text.map_toAsciiDigit_of_lt hmajor, Text.map_toAsciiDigit_of_lt hminor,
    Text.map_toAsciiDigit_of_lt hpatch]

theorem IsTextOf.forall_mem {P : Char → Prop} (htext : p.IsTextOf s) (hs : ∀ c ∈ s, P c) :
    ∀ c ∈ p.written, P c := by
  obtain rfl | rfl := htext
  · exact hs
  · exact (List.forall_mem_cons.mp hs).2

end SemVer.Parts

section Normalize

variable {text t : String} {p : Parts}

theorem normalize_of_short (hp : p.WellFormed) (htext : p.IsTextOf text.toList) (hshort : p.Short) :
    normalize text = .ok (String.ofList p.canonical.written) := by
  rw [normalize, ← hp.written_eq_removeLeading_iff.mpr htext, SemVer.Parts.parse_written hp hshort,
    Outcome.bind_ok, SemVer.Parts.render_version hp hshort]

theorem normalize_eq_ok_iff :
    normalize text = .ok t ↔
      ∃ p : Parts, p.WellFormed ∧ p.IsTextOf text.toList ∧ p.Short ∧
        t = String.ofList p.canonical.written := by
  constructor
  · intro hnormalize
    obtain ⟨v, hparse, hrender⟩ := Outcome.bind_eq_ok_iff.mp hnormalize
    obtain ⟨p, hp, hwritten, hshort, rfl⟩ := SemVer.parse_eq_ok_iff.mp hparse
    rw [SemVer.Parts.render_version hp hshort, Outcome.ok.injEq] at hrender
    rw [String.toList_ofList] at hwritten
    exact ⟨p, hp, hp.written_eq_removeLeading_iff.mp hwritten, hshort, hrender.symm⟩
  · rintro ⟨p, hp, htext, hshort, rfl⟩
    exact normalize_of_short hp htext hshort

theorem normalize_self_of_eq_ok (hnormalize : normalize text = .ok t) : normalize t = .ok t := by
  obtain ⟨p, hp, -, hshort, rfl⟩ := normalize_eq_ok_iff.mp hnormalize
  have hbare : p.canonical.IsTextOf (String.ofList p.canonical.written).toList :=
    .inl String.toList_ofList
  rw [normalize_of_short hp.canonical hbare hshort.canonical, SemVer.Parts.canonical_canonical]

theorem ne_empty_of_normalize (hnormalize : normalize text = .ok t) : t ≠ "" := by
  rintro rfl
  have hempty := normalize_self_of_eq_ok hnormalize
  contradiction

theorem trimmed_of_normalize (hnormalize : normalize text = .ok t) : Text.trimmed t = t := by
  obtain ⟨p, hp, -, -, rfl⟩ := normalize_eq_ok_iff.mp hnormalize
  rw [Text.trimmed, String.toList_ofList, Text.trim_of_forall hp.canonical.isBlank_of_mem_written]

/-- Whether a text is a version with a number that is too long to be computed. -/
def IsOverlong (text : String) : Prop :=
  ∃ p : Parts, p.WellFormed ∧ p.IsTextOf text.toList ∧ ¬p.Short

theorem normalize_eq_aborted_iff {fault : Fault} :
    normalize text = .aborted fault ↔ fault = .overlongNumeral ∧ IsOverlong text := by
  have hparse : SemVer.parse (String.ofList (Text.removeLeading ['v'] text.toList)) =
      .aborted fault ↔ fault = .overlongNumeral ∧ IsOverlong text := by
    rw [SemVer.parse_eq_aborted_iff, String.toList_ofList, IsOverlong]
    refine and_congr_right fun _ => exists_congr fun p => and_congr_right fun hp => ?_
    rw [hp.written_eq_removeLeading_iff]
  rw [normalize, Outcome.bind_eq_aborted_iff, hparse, or_iff_left]
  -- What was read can be written, so only reading is ever cut short.
  rintro ⟨v, hread, hrender⟩
  obtain ⟨p, hp, -, hshort, rfl⟩ := SemVer.parse_eq_ok_iff.mp hread
  rw [SemVer.Parts.render_version hp hshort] at hrender
  contradiction

/-- A text that is normalised loses one leading `v`, and the digits of its three numbers are written
in ASCII; a text of ASCII loses no more than that. What results stays as it is, with and without a
`v` in front. -/
theorem normalize_canonical (hnormalize : normalize text = .ok t) :
    (∃ p : Parts, p.WellFormed ∧ p.IsTextOf text.toList ∧
        t.toList = Parts.written
          { p with
            major := p.major.map Text.toAsciiDigit
            minor := p.minor.map Text.toAsciiDigit
            patch := p.patch.map Text.toAsciiDigit }) ∧
      ((∀ c ∈ text.toList, c.toNat < 128) → text.toList = t.toList ∨ text.toList = 'v' :: t.toList) ∧
      normalize t = .ok t ∧ normalize ("v" ++ t) = .ok t := by
  obtain ⟨p, hp, htext, hshort, rfl⟩ := normalize_eq_ok_iff.mp hnormalize
  refine ⟨⟨p, hp, htext, by rw [String.toList_ofList]; rfl⟩, ?_, ?_, ?_⟩
  · intro hascii
    rw [SemVer.Parts.canonical_of_lt (htext.forall_mem hascii), String.toList_ofList]
    exact htext
  · have hbare : p.canonical.IsTextOf (String.ofList p.canonical.written).toList :=
      .inl String.toList_ofList
    rw [normalize_of_short hp.canonical hbare hshort.canonical, SemVer.Parts.canonical_canonical]
  · have htagged : p.canonical.IsTextOf ("v" ++ String.ofList p.canonical.written).toList :=
      .inr (by simp)
    rw [normalize_of_short hp.canonical htagged hshort.canonical, SemVer.Parts.canonical_canonical]

/-- Digits of another script in a number are written in ASCII, those in an identifier are kept. -/
theorem normalize_digits_of_scripts :
    normalize "v1٢.0.3-٠1a.7+00.-" = .ok "12.0.3-٠1a.7+00.-" ∧
      normalize "12.0.3-٠1a.7+00.-" = .ok "12.0.3-٠1a.7+00.-" ∧
      normalize ("v" ++ "12.0.3-٠1a.7+00.-") = .ok "12.0.3-٠1a.7+00.-" := by
  have hnormalize : normalize "v1٢.0.3-٠1a.7+00.-" = .ok "12.0.3-٠1a.7+00.-" := by decide +kernel
  exact ⟨hnormalize, (normalize_canonical hnormalize).2.2⟩

end Normalize

end BuildVersion.Version
