import Mathlib.Algebra.Ring.Int.Defs
import BuildVersion.Proofs.Number.Numeral
import BuildVersion.Proofs.Version.SemVerParse

namespace BuildVersion.Version.SemVer

open Text (toAsciiDigit)

/-- Whether a number has a written form that is read. -/
def IsReadable (n : Int) : Prop :=
  0 ≤ n ∧ n < 10 ^ Numeral.maxDigits

structure WellFormed (v : SemVer) : Prop where
  isReadable_major : IsReadable v.major
  isReadable_minor : IsReadable v.minor
  isReadable_patch : IsReadable v.patch
  isPrereleaseWord : ∀ i ∈ v.prerelease, IsPrereleaseWord i.toList
  isBuildWord : ∀ i ∈ v.build, IsBuildWord i.toList

section Numbers

variable {s : List Char}

theorem isNumeral_digits (n : Nat) : IsNumeral (Numeral.digits n) :=
  Numeral.digits_eq_cons n

theorem digits_value (hs : IsNumeral s) :
    Numeral.digits (Numeral.value s) = s.map toAsciiDigit := by
  obtain rfl | ⟨c, rest, rfl, hc, hrest⟩ := hs
  · decide
  · exact Numeral.digits_value_of_isLeadingDigit hc hrest

theorem length_le_iff_value_lt (hs : IsNumeral s) :
    s.length ≤ Numeral.maxDigits ↔ Numeral.value s < 10 ^ Numeral.maxDigits := by
  rw [← Numeral.length_digits_le_iff (by decide), digits_value hs, List.length_map]

theorem isReadable_iff {n : Nat} : IsReadable n ↔ n < 10 ^ Numeral.maxDigits := by
  rw [IsReadable, ← Int.ofNat_lt, Int.natCast_pow]
  exact ⟨And.right, fun hn => ⟨Int.natCast_nonneg n, hn⟩⟩

theorem isReadable_value (hs : IsNumeral s) (hlength : s.length ≤ Numeral.maxDigits) :
    IsReadable (Numeral.value s) :=
  isReadable_iff.mpr ((length_le_iff_value_lt hs).mp hlength)

/-- A number that is read has a numeral of which it is the value. -/
theorem IsReadable.exists_numeral {n : Int} (hn : IsReadable n) :
    ∃ s, IsNumeral s ∧ s.length ≤ Numeral.maxDigits ∧ (Numeral.value s : Int) = n := by
  obtain ⟨k, rfl⟩ := Int.eq_ofNat_of_zero_le hn.1
  refine ⟨Numeral.digits k, isNumeral_digits k, ?_, ?_⟩
  · rw [Numeral.length_digits_le_iff (by decide)]
    exact isReadable_iff.mp hn
  · rw [Numeral.value_digits]

theorem numeral_value {ε : Type} (hs : IsNumeral s) (hlength : s.length ≤ Numeral.maxDigits) :
    (numeral (Numeral.value s) : Outcome ε (List Char)) = .ok (s.map toAsciiDigit) := by
  have hdigits := digits_value hs
  have hlength : (Numeral.digits (Numeral.value s)).length ≤ Numeral.maxDigits := by
    rw [hdigits, List.length_map]
    exact hlength
  rw [numeral, Int.natAbs_natCast, if_pos hlength, ← hdigits]
  rfl

theorem isNumeral_map_toAsciiDigit (hs : IsNumeral s) : IsNumeral (s.map toAsciiDigit) := by
  rw [← digits_value hs]
  exact isNumeral_digits _

end Numbers

namespace Parts

variable {p : Parts}

/-- The parts with the digits of the three numbers in ASCII. -/
def canonical (p : Parts) : Parts :=
  { p with
    major := p.major.map toAsciiDigit
    minor := p.minor.map toAsciiDigit
    patch := p.patch.map toAsciiDigit }

theorem WellFormed.canonical (hp : p.WellFormed) : p.canonical.WellFormed where
  isNumeral_major := isNumeral_map_toAsciiDigit hp.isNumeral_major
  isNumeral_minor := isNumeral_map_toAsciiDigit hp.isNumeral_minor
  isNumeral_patch := isNumeral_map_toAsciiDigit hp.isNumeral_patch
  isPrereleaseWord := hp.isPrereleaseWord
  isBuildWord := hp.isBuildWord

theorem Short.canonical (hp : p.Short) : p.canonical.Short := by
  simpa [Short, Parts.canonical] using hp

@[simp] theorem version_canonical (p : Parts) : p.canonical.version = p.version := by
  simp [version, canonical]

@[simp] theorem canonical_canonical (p : Parts) : p.canonical.canonical = p.canonical := by
  simp [canonical]

theorem WellFormed.version (hp : p.WellFormed) (hshort : p.Short) : p.version.WellFormed where
  isReadable_major := isReadable_value hp.isNumeral_major hshort.1
  isReadable_minor := isReadable_value hp.isNumeral_minor hshort.2.1
  isReadable_patch := isReadable_value hp.isNumeral_patch hshort.2.2
  isPrereleaseWord := hp.isPrereleaseWord
  isBuildWord := hp.isBuildWord

/-- What is read can be written: the text has the same parts, with its numbers in ASCII. -/
theorem render_version {ε : Type} (hp : p.WellFormed) (hshort : p.Short) :
    (p.version.render : Outcome ε String) = .ok (String.ofList p.canonical.written) := by
  obtain ⟨hmajor, hminor, hpatch⟩ := hshort
  simp only [render, Parts.version, numeral_value hp.isNumeral_major hmajor,
    numeral_value hp.isNumeral_minor hminor, numeral_value hp.isNumeral_patch hpatch,
    Outcome.bind_ok, written, canonical]

theorem parse_written (hp : p.WellFormed) (hshort : p.Short) :
    parse (String.ofList p.written) = .ok p.version :=
  parse_of_short hp (by simp) hshort

end Parts

theorem WellFormed.exists_parts {v : SemVer} (hv : v.WellFormed) :
    ∃ p : Parts, p.WellFormed ∧ p.Short ∧ p.version = v := by
  obtain ⟨major, hmajor, hmajorLength, hmajorValue⟩ := hv.isReadable_major.exists_numeral
  obtain ⟨minor, hminor, hminorLength, hminorValue⟩ := hv.isReadable_minor.exists_numeral
  obtain ⟨patch, hpatch, hpatchLength, hpatchValue⟩ := hv.isReadable_patch.exists_numeral
  refine ⟨⟨major, minor, patch, v.prerelease, v.build⟩,
    ⟨hmajor, hminor, hpatch, hv.isPrereleaseWord, hv.isBuildWord⟩,
    ⟨hmajorLength, hminorLength, hpatchLength⟩, ?_⟩
  rw [Parts.version, hmajorValue, hminorValue, hpatchValue]

theorem WellFormed.of_parse {text : String} {v : SemVer} (hparse : parse text = .ok v) :
    v.WellFormed := by
  obtain ⟨p, hp, -, hshort, rfl⟩ := parse_eq_ok_iff.mp hparse
  exact hp.version hshort

/-- Reading undoes writing for the well-formed versions, and for no others. -/
theorem render_bind_parse_eq_ok_iff (v : SemVer) : v.render.bind parse = .ok v ↔ v.WellFormed := by
  constructor
  · intro hread
    obtain ⟨text, -, hparse⟩ := Outcome.bind_eq_ok_iff.mp hread
    exact .of_parse hparse
  · intro hv
    obtain ⟨p, hp, hshort, rfl⟩ := hv.exists_parts
    rw [Parts.render_version hp hshort, Outcome.bind_ok,
      Parts.parse_written hp.canonical hshort.canonical, Parts.version_canonical]

end BuildVersion.Version.SemVer
