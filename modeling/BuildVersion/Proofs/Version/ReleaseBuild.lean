import BuildVersion.Proofs.Version.ReleaseLanguage

namespace BuildVersion.Version.Release

open scoped Computability

def IsNumber (s : List Char) : Prop :=
  s = ['0'] ∨ ∃ c rest, s = c :: rest ∧ Text.isLeadingDigit c = true ∧
    ∀ d ∈ rest, Text.isAsciiDigit d = true

def IsTag (s : List Char) : Prop :=
  s ≠ [] ∧ ∀ c ∈ s, Text.isAsciiAlphanumeric c = true

/-- How many commits a build lies past its tag, in digits, and the hash of its commit. -/
structure Description where
  count : List Char
  hash : List Char
  count_ne_nil : count ≠ []
  isDigit_of_mem_count : ∀ c ∈ count, Text.isAsciiDigit c = true
  five_le_length_hash : 5 ≤ hash.length
  length_hash_le : hash.length ≤ 40
  isHex_of_mem_hash : ∀ c ∈ hash, Text.isLowerHex c = true

def Description.written (d : Description) : List Char :=
  '.' :: d.count ++ '+' :: d.hash

structure Build where
  major : List Char
  minor : List Char
  patch : List Char
  tags : List (List Char)
  dots : Nat
  /-- The number after the dots, empty if there is none. -/
  tail : List Char
  description : Option Description
  dirty : Bool
  isNumber_major : IsNumber major
  isNumber_minor : IsNumber minor
  isNumber_patch : IsNumber patch
  isTag_of_mem_tags : ∀ t ∈ tags, IsTag t
  isNumber_tail : tail = [] ∨ IsNumber tail

def Build.written (b : Build) : List Char :=
  'v' :: (b.major ++ '.' :: (b.minor ++ '.' :: (b.patch ++
    (b.tags.flatMap ('-' :: ·) ++ (List.replicate b.dots '.' ++ (b.tail ++
      (b.description.elim [] Description.written ++
        (if b.dirty then "-dirty".toList else []))))))))

section Parts

variable {w : List Char}

theorem mem_numbers : w ∈ numbers ↔ IsNumber w := by
  rw [numbers, Language.mem_add, IsNumber]
  refine or_congr Iff.rfl ?_
  constructor
  · rintro ⟨_, ⟨c, rfl, hc⟩, rest, hrest, rfl⟩
    exact ⟨c, rest, rfl, hc, mem_kstar_letter.mp hrest⟩
  · rintro ⟨c, rest, rfl, hc, hrest⟩
    exact cons_mem_letter_mul.mpr ⟨hc, mem_kstar_letter.mpr hrest⟩

theorem mem_tagWords : w ∈ tagWords ↔ ∃ t, IsTag t ∧ '-' :: t = w := by
  rw [tagWords]
  constructor
  · rintro ⟨_, rfl, t, ht, rfl⟩
    exact ⟨t, mem_letter_mul_kstar.mp ht, rfl⟩
  · rintro ⟨t, ht, rfl⟩
    exact cons_mem_singleton_mul.mpr (mem_letter_mul_kstar.mpr ht)

theorem mem_kstar_tagWords :
    w ∈ tagWords∗ ↔
      ∃ ts : List (List Char), (∀ t ∈ ts, IsTag t) ∧ ts.flatMap ('-' :: ·) = w := by
  constructor
  · rintro ⟨ws, rfl, hws⟩
    induction ws with
    | nil => exact ⟨[], by simp, rfl⟩
    | cons w ws ih =>
        obtain ⟨hw, hrest⟩ := List.forall_mem_cons.mp hws
        obtain ⟨t, ht, rfl⟩ := mem_tagWords.mp hw
        obtain ⟨ts, hts, hjoin⟩ := ih hrest
        refine ⟨t :: ts, List.forall_mem_cons.mpr ⟨ht, hts⟩, ?_⟩
        rw [List.flatMap_cons, hjoin, List.flatten_cons]
  · rintro ⟨ts, hts, rfl⟩
    refine ⟨ts.map ('-' :: ·), List.flatMap_def, ?_⟩
    intro y hy
    obtain ⟨t, ht, rfl⟩ := List.mem_map.mp hy
    exact mem_tagWords.mpr ⟨t, hts t ht, rfl⟩

theorem mem_kstar_dots : w ∈ (letter ('.' == ·))∗ ↔ ∃ n, List.replicate n '.' = w := by
  rw [mem_kstar_letter]
  constructor
  · intro h
    refine ⟨w.length, (List.eq_replicate_iff.mpr ⟨rfl, ?_⟩).symm⟩
    intro c hc
    exact (beq_iff_eq.mp (h c hc)).symm
  · rintro ⟨n, rfl⟩ c hc
    rw [List.eq_of_mem_replicate hc]
    rfl

theorem mem_numbers_add_one : w ∈ numbers + 1 ↔ w = [] ∨ IsNumber w := by
  rw [Language.mem_add, mem_numbers, Language.mem_one, or_comm]

theorem mem_descriptions : w ∈ descriptions ↔ ∃ d : Description, d.written = w := by
  rw [descriptions]
  constructor
  · rintro ⟨_, rfl, _, ⟨count, hcount, _, ⟨_, rfl, hash, hhash, rfl⟩, rfl⟩, rfl⟩
    obtain ⟨hne, hdigits⟩ := mem_letter_mul_kstar.mp hcount
    obtain ⟨hlow, hhigh, hhex⟩ := hhash
    exact ⟨⟨count, hash, hne, hdigits, hlow, hhigh, hhex⟩, rfl⟩
  · rintro ⟨d, rfl⟩
    have hcount := mem_letter_mul_kstar.mpr ⟨d.count_ne_nil, d.isDigit_of_mem_count⟩
    have hhash : d.hash ∈ between Text.isLowerHex 5 35 :=
      ⟨d.five_le_length_hash, d.length_hash_le, d.isHex_of_mem_hash⟩
    exact cons_append_mem_singleton_mul hcount (cons_mem_singleton_mul.mpr hhash)

theorem mem_descriptions_add_one :
    w ∈ descriptions + 1 ↔ ∃ d : Option Description, d.elim [] Description.written = w := by
  rw [Language.mem_add, mem_descriptions, Language.mem_one, Option.exists, or_comm, eq_comm]
  rfl

theorem mem_dirtyMark_add_one :
    w ∈ ({dirtyMark} + 1 : Language Char) ↔
      ∃ dirty : Bool, (if dirty then "-dirty".toList else []) = w := by
  rw [Language.mem_add, Language.mem_one, Bool.exists_bool, or_comm, eq_comm]
  exact or_congr Iff.rfl eq_comm

end Parts

theorem exists_build_of_mem_accepted {s : List Char} (h : s ∈ accepted release) :
    ∃ b : Build, b.written = s := by
  rw [accepted_release] at h
  obtain ⟨_, rfl, _, ⟨major, hmajor, _, h, rfl⟩, hs⟩ := h
  obtain ⟨_, rfl, _, ⟨minor, hminor, _, h, rfl⟩, rfl⟩ := h
  obtain ⟨_, rfl, _, ⟨patch, hpatch, _, h, rfl⟩, rfl⟩ := h
  obtain ⟨_, htags, _, ⟨_, hdots, _, ⟨tail, htail, _, h, rfl⟩, rfl⟩, rfl⟩ := h
  obtain ⟨_, hdescription, _, hdirty, rfl⟩ := h
  obtain ⟨tags, htag, rfl⟩ := mem_kstar_tagWords.mp htags
  obtain ⟨dots, rfl⟩ := mem_kstar_dots.mp hdots
  obtain ⟨description, rfl⟩ := mem_descriptions_add_one.mp hdescription
  obtain ⟨dirty, rfl⟩ := mem_dirtyMark_add_one.mp hdirty
  exact ⟨⟨major, minor, patch, tags, dots, tail, description, dirty, mem_numbers.mp hmajor,
    mem_numbers.mp hminor, mem_numbers.mp hpatch, htag, mem_numbers_add_one.mp htail⟩, hs⟩

theorem Build.written_mem_accepted (b : Build) : b.written ∈ accepted release := by
  rw [accepted_release]
  refine cons_append_mem_singleton_mul (mem_numbers.mpr b.isNumber_major) ?_
  refine cons_append_mem_singleton_mul (mem_numbers.mpr b.isNumber_minor) ?_
  refine cons_append_mem_singleton_mul (mem_numbers.mpr b.isNumber_patch) ?_
  refine Language.append_mem_mul (mem_kstar_tagWords.mpr ⟨b.tags, b.isTag_of_mem_tags, rfl⟩) ?_
  refine Language.append_mem_mul (mem_kstar_dots.mpr ⟨b.dots, rfl⟩) ?_
  refine Language.append_mem_mul (mem_numbers_add_one.mpr b.isNumber_tail) ?_
  exact Language.append_mem_mul (mem_descriptions_add_one.mpr ⟨b.description, rfl⟩)
    (mem_dirtyMark_add_one.mpr ⟨b.dirty, rfl⟩)

/-- A text is a release build exactly if it is written from the parts of one. -/
theorem isValid_iff_exists_build (s : String) :
    isValid s = true ↔ ∃ b : Build, b.written = s.toList := by
  rw [isValid, ← mem_accepted]
  constructor
  · exact exists_build_of_mem_accepted
  · rintro ⟨b, hb⟩
    rw [← hb]
    exact b.written_mem_accepted

/-- The zeros after the patch number are its end and a number of their own. -/
example : isValid "v1.2.00" = true ∧ isValid "v1.2.000" = false := by
  decide +kernel

end BuildVersion.Version.Release
