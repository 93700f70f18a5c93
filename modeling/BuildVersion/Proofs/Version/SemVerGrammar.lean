import Mathlib.Data.List.TakeWhile
import BuildVersion.Proofs.Text.Digit
import BuildVersion.Proofs.Text.Split
import BuildVersion.Version.SemVer

/-!
The grammar of semantic versions. A version is written from its parts, and the reader finds the
parts again by cutting at the first plus sign and the first hyphen: no character of a number is a
hyphen, and none before the build part is a plus sign.
-/

namespace BuildVersion.Version.SemVer

/-- Zero, or digits of any script after a digit from `1` to `9`. -/
def IsNumeral (s : List Char) : Prop :=
  s = ['0'] ∨ ∃ c rest, s = c :: rest ∧ Text.isLeadingDigit c = true ∧
    ∀ d ∈ rest, Text.isDigit d = true

/-- Digits of any script, then a letter or hyphen, then letters, digits and hyphens of ASCII. -/
def IsMixed (s : List Char) : Prop :=
  ∃ digits c rest, s = digits ++ c :: rest ∧ (∀ d ∈ digits, Text.isDigit d = true) ∧
    (Text.isAsciiLetter c = true ∨ c = '-') ∧ ∀ d ∈ rest, isWordChar d = true

def IsPrereleaseWord (s : List Char) : Prop :=
  IsNumeral s ∨ IsMixed s

def IsBuildWord (s : List Char) : Prop :=
  s ≠ [] ∧ ∀ c ∈ s, isWordChar c = true

namespace Parts

structure WellFormed (p : Parts) : Prop where
  isNumeral_major : IsNumeral p.major
  isNumeral_minor : IsNumeral p.minor
  isNumeral_patch : IsNumeral p.patch
  isPrereleaseWord : ∀ i ∈ p.prerelease, IsPrereleaseWord i.toList
  isBuildWord : ∀ i ∈ p.build, IsBuildWord i.toList

/-- The text of which these are the parts. -/
def written (p : Parts) : List Char :=
  p.major ++ '.' :: p.minor ++ '.' :: p.patch ++ renderPart '-' p.prerelease ++
    renderPart '+' p.build

/-- Whether the values of all three numbers are computed. -/
def Short (p : Parts) : Prop :=
  p.major.length ≤ Numeral.maxDigits ∧ p.minor.length ≤ Numeral.maxDigits ∧
    p.patch.length ≤ Numeral.maxDigits

def version (p : Parts) : SemVer :=
  ⟨Numeral.value p.major, Numeral.value p.minor, Numeral.value p.patch, p.prerelease, p.build⟩

end Parts

section Words

variable {s : List Char} {c : Char}

theorem isNumber_iff : isNumber s = true ↔ IsNumeral s := by
  cases s with
  | nil => simp [isNumber, IsNumeral]
  | cons c rest =>
      by_cases hc : c = '0'
      · subst hc
        simp [isNumber, IsNumeral, Text.isLeadingDigit]
      · simp [isNumber, IsNumeral, hc, Text.isLeadingDigit_iff]

theorem isBuildIdentifier_iff : isBuildIdentifier s = true ↔ IsBuildWord s := by
  simp [isBuildIdentifier, IsBuildWord]

theorem isDigit_of_mem_of_isNumeral (hs : IsNumeral s) (hc : c ∈ s) : Text.isDigit c = true := by
  obtain rfl | ⟨d, rest, rfl, hd, hrest⟩ := hs
  · rw [List.mem_singleton.mp hc]
    rfl
  · obtain rfl | hc := List.mem_cons.mp hc
    · exact Text.isDigit_of_isAsciiDigit (Text.isLeadingDigit_iff.mp hd).2
    · exact hrest c hc

theorem isWordChar_of_isAsciiLetter (hc : Text.isAsciiLetter c = true) : isWordChar c = true := by
  simp [isWordChar, Text.isAsciiAlphanumeric, hc]

/-- The word characters that are no digits are the letters and the hyphen. -/
theorem isWordChar_and_not_isDigit_iff :
    (isWordChar c = true ∧ Text.isDigit c = false) ↔ Text.isAsciiLetter c = true ∨ c = '-' := by
  constructor
  · rintro ⟨hword, hdigit⟩
    rw [isWordChar, Text.isAsciiAlphanumeric, Bool.or_eq_true, Bool.or_eq_true, beq_iff_eq] at hword
    obtain (hascii | hletter) | hhyphen := hword
    · rw [Text.isDigit_of_isAsciiDigit hascii] at hdigit
      contradiction
    · exact .inl hletter
    · exact .inr hhyphen
  · rintro (hletter | rfl)
    · exact ⟨isWordChar_of_isAsciiLetter hletter, Text.isDigit_of_isAsciiLetter hletter⟩
    · exact ⟨rfl, rfl⟩

theorem isMixedIdentifier_iff : isMixedIdentifier s = true ↔ IsMixed s := by
  rw [isMixedIdentifier, isBuildIdentifier_iff]
  constructor
  · rintro ⟨hne, hword⟩
    obtain ⟨c, rest, hrest⟩ := List.exists_cons_of_ne_nil hne
    rw [hrest] at hword
    obtain ⟨hc, hword⟩ := List.forall_mem_cons.mp hword
    have hstop : Text.isDigit c = false := by
      have hhead := List.head?_dropWhile_not Text.isDigit s
      rw [hrest] at hhead
      exact hhead
    refine ⟨s.takeWhile Text.isDigit, c, rest, ?_, ?_, ?_, hword⟩
    · rw [← hrest, List.takeWhile_append_dropWhile]
    · intro d hd
      exact List.mem_takeWhile_imp hd
    · exact isWordChar_and_not_isDigit_iff.mp ⟨hc, hstop⟩
  · rintro ⟨digits, c, rest, rfl, hdigits, hc, hrest⟩
    obtain ⟨hword, hstop⟩ := isWordChar_and_not_isDigit_iff.mpr hc
    have hdrop : (digits ++ c :: rest).dropWhile Text.isDigit = c :: rest := by
      rw [List.dropWhile_append_of_pos hdigits, List.dropWhile_cons_of_neg (by simp [hstop])]
    rw [hdrop]
    exact ⟨List.cons_ne_nil c rest, List.forall_mem_cons.mpr ⟨hword, hrest⟩⟩

theorem isPrereleaseIdentifier_iff : isPrereleaseIdentifier s = true ↔ IsPrereleaseWord s := by
  rw [isPrereleaseIdentifier, Bool.or_eq_true, isNumber_iff, isMixedIdentifier_iff,
    IsPrereleaseWord]

theorem isDigit_or_isWordChar_of_mem (hs : IsPrereleaseWord s) (hc : c ∈ s) :
    Text.isDigit c = true ∨ isWordChar c = true := by
  obtain hs | ⟨digits, d, rest, rfl, hdigits, hd, hrest⟩ := hs
  · exact .inl (isDigit_of_mem_of_isNumeral hs hc)
  · obtain hc | hc := List.mem_append.mp hc
    · exact .inl (hdigits c hc)
    · obtain rfl | hc := List.mem_cons.mp hc
      · exact .inr (isWordChar_and_not_isDigit_iff.mpr hd).1
      · exact .inr (hrest c hc)

theorem notMem_of_forall {p : Char → Bool} (hs : ∀ d ∈ s, p d = true) (hc : p c = false) :
    c ∉ s := by
  intro hmem
  rw [hs c hmem] at hc
  contradiction

theorem notMem_of_isNumeral (hs : IsNumeral s) (hc : Text.isDigit c = false) : c ∉ s :=
  notMem_of_forall (fun _ hd => isDigit_of_mem_of_isNumeral hs hd) hc

theorem notMem_of_isPrereleaseWord (hs : IsPrereleaseWord s) (hc : Text.isDigit c = false)
    (hword : isWordChar c = false) : c ∉ s := by
  have hall : ∀ d ∈ s, (Text.isDigit d || isWordChar d) = true := fun d hd => by
    rw [Bool.or_eq_true]
    exact isDigit_or_isWordChar_of_mem hs hd
  exact notMem_of_forall hall (by rw [hc, hword]; rfl)

theorem notMem_of_isBuildWord (hs : IsBuildWord s) (hword : isWordChar c = false) : c ∉ s :=
  notMem_of_forall hs.2 hword

end Words

section Identifiers

/-- The part that holds identifiers, if there are any. -/
def partOf (identifiers : List String) : Option (List Char) :=
  if identifiers.isEmpty then none else some (Text.join '.' (identifiers.map String.toList))

theorem opened_partOf (mark : Char) (identifiers : List String) :
    Text.opened mark (partOf identifiers) = renderPart mark identifiers := by
  cases identifiers <;> rfl

theorem partOf_of_ne_nil {identifiers : List String} (hne : identifiers ≠ []) :
    partOf identifiers = some (Text.join '.' (identifiers.map String.toList)) := by
  rw [partOf, if_neg (by simpa using hne)]

theorem map_toList_map_ofList (fields : List (List Char)) :
    (fields.map String.ofList).map String.toList = fields := by
  simp [List.map_map, Function.comp_def]

theorem map_ofList_map_toList (identifiers : List String) :
    (identifiers.map String.toList).map String.ofList = identifiers := by
  simp [List.map_map, Function.comp_def]

theorem identifiers?_eq_some_iff {accept : List Char → Bool}
    (hdot : ∀ s, accept s = true → '.' ∉ s) {part : Option (List Char)}
    {identifiers : List String} :
    identifiers? accept part = some identifiers ↔
      (∀ i ∈ identifiers, accept i.toList = true) ∧ part = partOf identifiers := by
  cases part with
  | none => cases identifiers <;> simp [identifiers?, partOf]
  | some part =>
      simp only [identifiers?, Option.ite_none_right_eq_some, Option.some.injEq, List.all_eq_true]
      constructor
      · rintro ⟨hall, rfl⟩
        have hne : (Text.split '.' part).map String.ofList ≠ [] := by
          simpa using Text.split_ne_nil '.' part
        refine ⟨?_, ?_⟩
        · intro i hi
          obtain ⟨field, hfield, rfl⟩ := List.mem_map.mp hi
          simpa using hall field hfield
        · rw [partOf_of_ne_nil hne, map_toList_map_ofList, Text.join_split]
      · rintro ⟨hall, hpart⟩
        have hne : identifiers ≠ [] := by
          rintro rfl
          contradiction
        rw [partOf_of_ne_nil hne, Option.some.injEq] at hpart
        have hfields : ∀ field ∈ identifiers.map String.toList, accept field = true := by
          simpa using hall
        have hsplit : Text.split '.' part = identifiers.map String.toList := by
          rw [hpart]
          exact Text.split_join (by simpa using hne) fun field hfield =>
            hdot field (hfields field hfield)
        rw [hsplit, map_ofList_map_toList]
        exact ⟨hfields, rfl⟩

theorem identifiers?_prerelease_iff {part : Option (List Char)} {identifiers : List String} :
    identifiers? isPrereleaseIdentifier part = some identifiers ↔
      (∀ i ∈ identifiers, IsPrereleaseWord i.toList) ∧ part = partOf identifiers := by
  have hdot : ∀ s, isPrereleaseIdentifier s = true → '.' ∉ s := fun s hs =>
    notMem_of_isPrereleaseWord (isPrereleaseIdentifier_iff.mp hs) rfl rfl
  simp only [identifiers?_eq_some_iff hdot, isPrereleaseIdentifier_iff]

theorem identifiers?_build_iff {part : Option (List Char)} {identifiers : List String} :
    identifiers? isBuildIdentifier part = some identifiers ↔
      (∀ i ∈ identifiers, IsBuildWord i.toList) ∧ part = partOf identifiers := by
  have hdot : ∀ s, isBuildIdentifier s = true → '.' ∉ s := fun s hs =>
    notMem_of_isBuildWord (isBuildIdentifier_iff.mp hs) rfl
  simp only [identifiers?_eq_some_iff hdot, isBuildIdentifier_iff]

end Identifiers

namespace Parts

variable {p q : Parts}

/-- The three numbers with the dots between them. -/
def core (p : Parts) : List Char :=
  Text.join '.' [p.major, p.minor, p.patch]

def front (p : Parts) : List Char :=
  p.core ++ Text.opened '-' (partOf p.prerelease)

theorem written_eq (p : Parts) :
    p.written = p.front ++ Text.opened '+' (partOf p.build) := by
  simp [written, front, core, opened_partOf, Text.join]

namespace WellFormed

variable (hp : p.WellFormed)
include hp

theorem forall_mem_core {P : List Char → Prop} (h : ∀ s, IsNumeral s → P s) :
    ∀ s ∈ [p.major, p.minor, p.patch], P s := by
  simp [h _ hp.isNumeral_major, h _ hp.isNumeral_minor, h _ hp.isNumeral_patch]

theorem notMem_core {c : Char} (hdot : c ≠ '.') (hc : Text.isDigit c = false) : c ∉ p.core :=
  Text.notMem_join hdot (hp.forall_mem_core fun _ hs => notMem_of_isNumeral hs hc)

theorem plus_notMem_front : '+' ∉ p.front := by
  rw [front, List.mem_append, not_or]
  refine ⟨hp.notMem_core (by decide) rfl, ?_⟩
  cases hprerelease : p.prerelease with
  | nil => exact List.not_mem_nil
  | cons i rest =>
      rw [partOf_of_ne_nil (List.cons_ne_nil i rest), ← hprerelease, Text.opened_some]
      refine List.not_mem_cons_of_ne_of_not_mem (by decide) (Text.notMem_join (by decide) ?_)
      intro field hfield
      obtain ⟨i, hi, rfl⟩ := List.mem_map.mp hfield
      exact notMem_of_isPrereleaseWord (hp.isPrereleaseWord i hi) rfl rfl

theorem cut_written : Text.cut '+' p.written = (p.front, partOf p.build) := by
  rw [written_eq]
  exact Text.cut_append_opened hp.plus_notMem_front _

theorem cut_front : Text.cut '-' p.front = (p.core, partOf p.prerelease) :=
  Text.cut_append_opened (hp.notMem_core (by decide) rfl) _

theorem split_core : Text.split '.' p.core = [p.major, p.minor, p.patch] :=
  Text.split_join (List.cons_ne_nil _ _)
    (hp.forall_mem_core fun _ hs => notMem_of_isNumeral hs rfl)

/-- The reader finds the parts from which a text is written. -/
theorem parts?_written : parts? p.written = some p := by
  have hnumbers : (isNumber p.major && isNumber p.minor && isNumber p.patch) = true := by
    simp [isNumber_iff, hp.isNumeral_major, hp.isNumeral_minor, hp.isNumeral_patch]
  simp only [parts?, hp.cut_written, hp.cut_front, hp.split_core, hnumbers, if_true,
    identifiers?_prerelease_iff.mpr ⟨hp.isPrereleaseWord, rfl⟩,
    identifiers?_build_iff.mpr ⟨hp.isBuildWord, rfl⟩]

end WellFormed

end Parts

/-- A text in which the reader finds parts is written from them. -/
theorem wellFormed_of_parts? {text : List Char} {p : Parts} (h : parts? text = some p) :
    p.WellFormed ∧ p.written = text := by
  rcases hfront : Text.cut '+' text with ⟨front, buildPart⟩
  rcases hcore : Text.cut '-' front with ⟨core, prereleasePart⟩
  simp only [parts?, hfront, hcore] at h
  split at h
  · next major minor patch hsplit =>
      split at h
      · next hnumbers =>
          split at h
          · next prerelease build hprerelease hbuild =>
              obtain rfl := Option.some.inj h
              obtain ⟨hpre, rfl⟩ := identifiers?_prerelease_iff.mp hprerelease
              obtain ⟨hbld, rfl⟩ := identifiers?_build_iff.mp hbuild
              simp only [Bool.and_eq_true, isNumber_iff, and_assoc] at hnumbers
              obtain ⟨hmajor, hminor, hpatch⟩ := hnumbers
              refine ⟨⟨hmajor, hminor, hpatch, hpre, hbld⟩, ?_⟩
              rw [Parts.written_eq, Parts.front, Parts.core, ← hsplit, Text.join_split,
                ← (Text.cut_eq_iff.mp hcore).2, ← (Text.cut_eq_iff.mp hfront).2]
          · contradiction
      · contradiction
  · contradiction

theorem parts?_eq_some_iff {text : List Char} {p : Parts} :
    parts? text = some p ↔ p.WellFormed ∧ p.written = text := by
  constructor
  · exact wellFormed_of_parts?
  · rintro ⟨hp, rfl⟩
    exact hp.parts?_written

end BuildVersion.Version.SemVer
