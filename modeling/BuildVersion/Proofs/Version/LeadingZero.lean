import BuildVersion.Proofs.Version.TaggedBuild

/-!
Zeros in front of the numbers of a release build. The major and the minor number never have one.
The patch number shows one where the number after the tags and dots, of which there are none,
follows a patch number zero at once: `v1.2.00` is the patch `0` and the number `0`.
-/

namespace BuildVersion.Version.Release

/-- Digits of which the first is a zero and not the last. -/
def HasLeadingZero (digits : List Char) : Prop :=
  1 < digits.length ∧ digits.head? = some '0'

/-- What a run of digits does not go on with. -/
def EndsDigits (rest : List Char) : Prop :=
  ∀ c ∈ rest.head?, Text.isAsciiDigit c = false

section Runs

variable {d e r t : List Char}

theorem endsDigits_cons {c : Char} : EndsDigits (c :: r) ↔ Text.isAsciiDigit c = false := by
  simp [EndsDigits]

theorem takeWhile_of_endsDigits (hr : EndsDigits r) : r.takeWhile Text.isAsciiDigit = [] := by
  cases r with
  | nil => rfl
  | cons c r => rw [List.takeWhile_cons_of_neg (by simp [endsDigits_cons.mp hr])]

/-- A text begins with one run of digits only. -/
theorem digits_unique (hd : ∀ c ∈ d, Text.isAsciiDigit c = true)
    (he : ∀ c ∈ e, Text.isAsciiDigit c = true) (hr : EndsDigits r) (ht : EndsDigits t)
    (h : d ++ r = e ++ t) : d = e ∧ r = t := by
  have hruns := congrArg (List.takeWhile Text.isAsciiDigit) h
  rw [List.takeWhile_append_of_pos hd, List.takeWhile_append_of_pos he, takeWhile_of_endsDigits hr,
    takeWhile_of_endsDigits ht, List.append_nil, List.append_nil] at hruns
  subst hruns
  exact ⟨rfl, List.append_cancel_left h⟩

theorem not_hasLeadingZero_of_isNumber (hd : IsNumber d) : ¬HasLeadingZero d := by
  rintro ⟨hlong, hzero⟩
  rcases hd with rfl | ⟨c, rest, rfl, hc, -⟩
  · simp at hlong
  · rw [List.head?_cons, Option.some.injEq] at hzero
    exact (Text.isLeadingDigit_iff.mp hc).1 hzero

theorem hasLeadingZero_zero_cons {c : Char} : HasLeadingZero ('0' :: c :: r) := by
  simp [HasLeadingZero]

theorem IsNumber.exists_cons (hd : IsNumber d) :
    ∃ c rest, d = c :: rest ∧ Text.isAsciiDigit c = true := by
  obtain ⟨c, rest, rfl⟩ := List.exists_cons_of_ne_nil (isBuildWord_of_isNumber hd).1
  exact ⟨c, rest, rfl, isAsciiDigit_of_mem_of_isNumber hd List.mem_cons_self⟩

end Runs

/-- A text that begins as a version does, with digits up to where they end. -/
structure ShowsNumbers (s major minor patch rest : List Char) : Prop where
  text : s = 'v' :: (major ++ '.' :: (minor ++ '.' :: (patch ++ rest)))
  isDigit_of_mem_major : ∀ c ∈ major, Text.isAsciiDigit c = true
  isDigit_of_mem_minor : ∀ c ∈ minor, Text.isAsciiDigit c = true
  isDigit_of_mem_patch : ∀ c ∈ patch, Text.isAsciiDigit c = true
  endsDigits_rest : EndsDigits rest

/-- The commit description and the mark for local changes. -/
def ending (description : Option Description) (dirty : Bool) : List Char :=
  description.elim [] Description.written ++ if dirty then "-dirty".toList else []

theorem endsDigits_ending (description : Option Description) (dirty : Bool) :
    EndsDigits (ending description dirty) := by
  cases description with
  | some d => exact endsDigits_cons (c := '.').mpr rfl
  | none =>
    cases dirty with
    | true => exact endsDigits_cons (c := '-').mpr rfl
    | false => simp [ending, EndsDigits]

/-- What follows the patch number. -/
def Build.afterPatch (b : Build) : List Char :=
  b.tags.flatMap ('-' :: ·) ++
    (List.replicate b.dots '.' ++ (b.tail ++ ending b.description b.dirty))

/-- Only the number after the tags and dots can go on with the digits of the patch number. -/
theorem Build.afterPatch_eq_of_digit {b : Build} {c : Char} {rest : List Char}
    (hc : Text.isAsciiDigit c = true) (h : b.afterPatch = c :: rest) :
    IsNumber b.tail ∧ b.afterPatch = b.tail ++ ending b.description b.dirty := by
  have hrest : ∀ d s, b.afterPatch = d :: s → Text.isAsciiDigit d = true := by
    intro d s hs
    obtain ⟨rfl, -⟩ := List.cons.inj (h.symm.trans hs)
    exact hc
  have htags : b.tags = [] := by
    cases ht : b.tags with
    | nil => rfl
    | cons tag tags =>
        have hhyphen := hrest '-' _ (by rw [afterPatch, ht, List.flatMap_cons]; rfl)
        contradiction
  have hdots : b.dots = 0 := by
    cases hn : b.dots with
    | zero => rfl
    | succ n =>
        have hdot := hrest '.' _ (by rw [afterPatch, htags, hn, List.replicate_succ]; rfl)
        contradiction
  have hafter : b.afterPatch = b.tail ++ ending b.description b.dirty := by
    rw [afterPatch, htags, hdots]
    rfl
  refine ⟨b.isNumber_tail.resolve_left ?_, hafter⟩
  intro htail
  rw [htail, List.nil_append] at hafter
  have hends := endsDigits_ending b.description b.dirty
  rw [← hafter, h, endsDigits_cons, hc] at hends
  contradiction

namespace ShowsNumbers

variable {s major minor patch rest : List Char}

theorem eq_parts {b : Build} (h : ShowsNumbers b.written major minor patch rest) :
    major = b.major ∧ minor = b.minor ∧ patch ++ rest = b.patch ++ b.afterPatch := by
  have hdot : ∀ s, EndsDigits ('.' :: s) := fun s => endsDigits_cons.mpr rfl
  have htext := (List.cons.inj h.text).2
  obtain ⟨hmajor, htext⟩ := digits_unique
    (fun c hc => isAsciiDigit_of_mem_of_isNumber b.isNumber_major hc) h.isDigit_of_mem_major
    (hdot _) (hdot _) htext
  obtain ⟨hminor, htext⟩ := digits_unique
    (fun c hc => isAsciiDigit_of_mem_of_isNumber b.isNumber_minor hc) h.isDigit_of_mem_minor
    (hdot _) (hdot _) (List.cons.inj htext).2
  exact ⟨hmajor.symm, hminor.symm, (List.cons.inj htext).2.symm⟩

theorem exists_tail {b : Build} (h : ShowsNumbers b.written major minor patch rest)
    (hzero : HasLeadingZero patch) :
    ∃ tail, IsNumber tail ∧ patch = '0' :: tail ∧ rest = ending b.description b.dirty := by
  obtain ⟨-, -, hpatch⟩ := h.eq_parts
  have hdigits := h.isDigit_of_mem_patch
  obtain ⟨hlong, hfirst⟩ := hzero
  match patch with
  | [] => simp at hlong
  | [_] => simp at hlong
  | z :: c :: more =>
      rw [List.head?_cons, Option.some.injEq] at hfirst
      subst hfirst
      have hnumber : b.patch = ['0'] := by
        rcases b.isNumber_patch with hb | ⟨d, digits, hb, hd, -⟩
        · exact hb
        · rw [hb] at hpatch
          exact absurd (List.cons.inj hpatch).1.symm (Text.isLeadingDigit_iff.mp hd).1
      rw [hnumber] at hpatch
      have hafter : (c :: more) ++ rest = b.afterPatch := (List.cons.inj hpatch).2
      have hc : Text.isAsciiDigit c = true := hdigits c (by simp)
      obtain ⟨htail, hsplit⟩ := Build.afterPatch_eq_of_digit hc hafter.symm
      obtain ⟨hmore, hrest⟩ := digits_unique (fun d hd => hdigits d (List.mem_cons_of_mem _ hd))
        (fun d hd => isAsciiDigit_of_mem_of_isNumber htail hd) h.endsDigits_rest
        (endsDigits_ending _ _) (hafter.trans hsplit)
      exact ⟨b.tail, htail, by rw [hmore], hrest⟩

end ShowsNumbers

/-- A release build shows no zero in front of its major and its minor number. Its patch number shows
one if and only if it is a zero and a number without such a zero, before the commit description and
the mark for local changes. -/
theorem patch_hasLeadingZero_iff {build : String} {major minor patch rest : List Char}
    (h : ShowsNumbers build.toList major minor patch rest) :
    (isValid build = true → ¬HasLeadingZero major ∧ ¬HasLeadingZero minor) ∧
      (isValid build = true ∧ HasLeadingZero patch ↔
        IsNumber major ∧ IsNumber minor ∧ (∃ tail, IsNumber tail ∧ patch = '0' :: tail) ∧
          ∃ description dirty, rest = ending description dirty) := by
  refine ⟨?_, ?_, ?_⟩
  · intro hvalid
    obtain ⟨b, hb⟩ := (isValid_iff_exists_build build).mp hvalid
    rw [← hb] at h
    obtain ⟨hmajor, hminor, -⟩ := h.eq_parts
    rw [hmajor, hminor]
    exact ⟨not_hasLeadingZero_of_isNumber b.isNumber_major,
      not_hasLeadingZero_of_isNumber b.isNumber_minor⟩
  · rintro ⟨hvalid, hzero⟩
    obtain ⟨b, hb⟩ := (isValid_iff_exists_build build).mp hvalid
    rw [← hb] at h
    obtain ⟨hmajor, hminor, -⟩ := h.eq_parts
    obtain ⟨tail, htail, hpatch, hrest⟩ := h.exists_tail hzero
    rw [hmajor, hminor]
    exact ⟨b.isNumber_major, b.isNumber_minor, ⟨tail, htail, hpatch⟩, _, _, hrest⟩
  · rintro ⟨hmajor, hminor, ⟨tail, htail, rfl⟩, description, dirty, rfl⟩
    constructor
    · refine (isValid_iff_exists_build build).mpr ⟨⟨major, minor, ['0'], [], 0, tail, description,
        dirty, hmajor, hminor, .inl rfl, by simp, .inr htail⟩, ?_⟩
      rw [h.text]
      rfl
    · obtain ⟨c, digits, rfl, -⟩ := htail.exists_cons
      exact hasLeadingZero_zero_cons

theorem showsNumbers_zero_patch_tail :
    ShowsNumbers "v1.2.00".toList ['1'] ['2'] ['0', '0'] [] where
  text := by decide
  isDigit_of_mem_major := List.all_eq_true.mp (by decide)
  isDigit_of_mem_minor := List.all_eq_true.mp (by decide)
  isDigit_of_mem_patch := List.all_eq_true.mp (by decide)
  endsDigits_rest := by simp [EndsDigits]

/-- The build `v1.2.3` shows its numbers without zeros in front. -/
theorem plain_patch_without_leadingZero :
    isValid "v1.2.3" = true ∧ ShowsNumbers "v1.2.3".toList ['1'] ['2'] ['3'] [] ∧
      ¬HasLeadingZero ['1'] ∧ ¬HasLeadingZero ['2'] := by
  have hvalid : isValid "v1.2.3" = true := by decide +kernel
  have hshows : ShowsNumbers "v1.2.3".toList ['1'] ['2'] ['3'] [] :=
    ⟨by decide, List.all_eq_true.mp (by decide), List.all_eq_true.mp (by decide),
      List.all_eq_true.mp (by decide), by simp [EndsDigits]⟩
  exact ⟨hvalid, hshows, (patch_hasLeadingZero_iff hshows).1 hvalid⟩

/-- The build `v1.2.00` shows a zero in front of its patch number. -/
theorem zero_patch_tail_hasLeadingZero :
    isValid "v1.2.00" = true ∧ ShowsNumbers "v1.2.00".toList ['1'] ['2'] ['0', '0'] [] ∧
      HasLeadingZero ['0', '0'] :=
  ⟨by decide +kernel, showsNumbers_zero_patch_tail, hasLeadingZero_zero_cons⟩

end BuildVersion.Version.Release
