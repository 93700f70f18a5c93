import BuildVersion.Proofs.Text.Occurrence
import BuildVersion.Proofs.Text.Split
import BuildVersion.Proofs.Version.LeadingZero

namespace BuildVersion.Version.Release

def dirtyWord : List Char := "dirty".toList

theorem dirtyWord_eq : dirtyWord = ['d', 'i', 'r', 't', 'y'] := by
  decide

theorem dirtyWord_ne_nil : dirtyWord ≠ [] := by
  decide

theorem dirtyMark_eq : dirtyMark = '-' :: dirtyWord := by
  decide

theorem isDirty_iff {build : String} : isDirty build = true ↔ dirtyWord <:+: build.toList :=
  Text.contains_iff

section Letters

variable {c : Char} {s : List Char}

theorem notMem_dirtyWord_of_isAsciiDigit (hc : Text.isAsciiDigit c = true) : c ∉ dirtyWord := by
  have hletters : ∀ d ∈ dirtyWord, Text.isAsciiDigit d = false := by
    simp only [dirtyWord_eq, List.forall_mem_cons]
    simp [Text.isAsciiDigit]
  intro hmem
  rw [hletters c hmem] at hc
  contradiction

theorem notMem_tail_dirtyWord_of_isLowerHex (hc : Text.isLowerHex c = true) :
    c ∉ ['i', 'r', 't', 'y'] := by
  have hletters : ∀ d ∈ ['i', 'r', 't', 'y'], Text.isLowerHex d = false := by
    simp [Text.isLowerHex, Text.isAsciiDigit]
  intro hmem
  rw [hletters c hmem] at hc
  contradiction

theorem notMem_dirtyWord_of_isNumber (hs : IsNumber s) : ∀ c ∈ s, c ∉ dirtyWord := fun _ hc =>
  notMem_dirtyWord_of_isAsciiDigit (isAsciiDigit_of_mem_of_isNumber hs hc)

end Letters

namespace Description

def front (d : Description) : List Char :=
  '.' :: (d.count ++ ['+'])

theorem written_eq_front_append (d : Description) : d.written = d.front ++ d.hash := by
  simp [written, front]

theorem notMem_dirtyWord_of_mem_front (d : Description) : ∀ c ∈ d.front, c ∉ dirtyWord := by
  rw [front, List.forall_mem_cons, List.forall_mem_append, List.forall_mem_singleton, dirtyWord_eq]
  refine ⟨by decide, fun c hc => ?_, by decide⟩
  rw [← dirtyWord_eq]
  exact notMem_dirtyWord_of_isAsciiDigit (d.isDigit_of_mem_count c hc)

end Description

namespace Build

variable {b : Build} {before after gap : List Char}

/-- The three numbers, with what stands in front of them. -/
def numbers (b : Build) : List Char :=
  'v' :: (b.major ++ '.' :: (b.minor ++ '.' :: b.patch))

/-- What follows the tags. -/
def afterTags (b : Build) : List Char :=
  (List.replicate b.dots '.' ++ b.tail) ++ ending b.description b.dirty

theorem written_eq_numbers_append (b : Build) :
    b.written = b.numbers ++ (b.tags.flatMap ('-' :: ·) ++ b.afterTags) := by
  simp only [written, numbers, afterTags, ending, List.cons_append, List.append_assoc]

theorem notMem_dirtyWord_of_mem_numbers (b : Build) : ∀ c ∈ b.numbers, c ∉ dirtyWord := by
  simp only [numbers, List.forall_mem_cons, List.forall_mem_append]
  have hdot : '.' ∉ dirtyWord := by rw [dirtyWord_eq]; decide
  exact ⟨by rw [dirtyWord_eq]; decide, notMem_dirtyWord_of_isNumber b.isNumber_major, hdot,
    notMem_dirtyWord_of_isNumber b.isNumber_minor, hdot,
    notMem_dirtyWord_of_isNumber b.isNumber_patch⟩

theorem notMem_dirtyWord_of_mem_tail (b : Build) : ∀ c ∈ b.tail, c ∉ dirtyWord := by
  rcases b.isNumber_tail with htail | htail
  · simp [htail]
  · exact notMem_dirtyWord_of_isNumber htail

/-- A hash has of the letters of the word the first one only, and what follows it is no letter. -/
theorem eq_nil_of_hash_append_mark {hash : List Char} {dirty : Bool}
    (hhash : ∀ c ∈ hash, Text.isLowerHex c = true)
    (h : gap ++ (dirtyWord ++ after) = hash ++ if dirty then dirtyMark else []) :
    dirty = true ∧ after = [] := by
  have hsplit : (gap ++ ['d']) ++ (['i', 'r', 't', 'y'] ++ after) =
      hash ++ if dirty then dirtyMark else [] := by
    rw [← h, dirtyWord_eq]
    simp
  obtain ⟨rest, -, hmark⟩ := Text.exists_gap_of_disjoint (by simp)
    (fun c hc => notMem_tail_dirtyWord_of_isLowerHex (hhash c hc)) hsplit
  cases dirty with
  | false => exact absurd (List.append_eq_nil_iff.mp hmark).2 (by simp)
  | true =>
      have hfront : ∀ c ∈ ['-', 'd'], c ∉ ['i', 'r', 't', 'y'] := by simp
      rw [if_pos rfl, dirtyMark_eq, dirtyWord_eq] at hmark
      obtain ⟨last, -, hlast⟩ := Text.exists_gap_of_disjoint (by simp) hfront hmark
      have hlength := congrArg List.length hlast
      simp only [List.length_append, List.length_cons, List.length_nil] at hlength
      exact ⟨rfl, List.eq_nil_of_length_eq_zero (by omega)⟩

theorem notMem_dirtyWord_of_mem_dots_tail (b : Build) :
    ∀ c ∈ List.replicate b.dots '.' ++ b.tail, c ∉ dirtyWord := by
  refine List.forall_mem_append.mpr ⟨?_, b.notMem_dirtyWord_of_mem_tail⟩
  intro c hc
  rw [List.eq_of_mem_replicate hc, dirtyWord_eq]
  decide

theorem eq_nil_of_afterTags (h : before ++ (dirtyWord ++ after) = b.afterTags) :
    b.dirty = true ∧ after = [] := by
  obtain ⟨gap, -, hgap⟩ := Text.exists_gap_of_disjoint dirtyWord_ne_nil
    b.notMem_dirtyWord_of_mem_dots_tail h
  cases hdescription : b.description with
  | none =>
      rw [hdescription, ending, Option.elim_none] at hgap
      exact eq_nil_of_hash_append_mark (by simp) hgap
  | some d =>
      rw [hdescription, ending, Option.elim_some, d.written_eq_front_append,
        List.append_assoc] at hgap
      obtain ⟨rest, -, hrest⟩ := Text.exists_gap_of_disjoint dirtyWord_ne_nil
        d.notMem_dirtyWord_of_mem_front hgap
      exact eq_nil_of_hash_append_mark d.isHex_of_mem_hash hrest

theorem notMem_dirtyWord_of_mem_head?_afterTags (b : Build) :
    ∀ c ∈ b.afterTags.head?, c ∉ dirtyWord := by
  refine Text.forall_mem_head?_append b.notMem_dirtyWord_of_mem_dots_tail ?_
  have hdot : '.' ∉ dirtyWord := by rw [dirtyWord_eq]; decide
  have hhyphen : '-' ∉ dirtyWord := by rw [dirtyWord_eq]; decide
  cases b.description with
  | some d =>
      have hhead : (ending (some d) b.dirty).head? = some '.' := rfl
      rw [hhead]
      simpa using hdot
  | none =>
      cases b.dirty with
      | true =>
          change ∀ c ∈ dirtyMark.head?, c ∉ dirtyWord
          simpa [dirtyMark_eq] using hhyphen
      | false => simp [ending]

/-- Tags are kept apart by hyphens, so the word stands in one of them or behind them all. -/
theorem exists_tag_or_exists_gap {tags : List (List Char)} {rest : List Char}
    (hrest : ∀ c ∈ rest.head?, c ∉ dirtyWord)
    (h : before ++ (dirtyWord ++ after) = tags.flatMap ('-' :: ·) ++ rest) :
    (∃ former left right latter, tags = former ++ (left ++ (dirtyWord ++ right)) :: latter ∧
        before = former.flatMap ('-' :: ·) ++ '-' :: left) ∨
      ∃ gap, gap ++ (dirtyWord ++ after) = rest := by
  induction tags generalizing before with
  | nil => exact .inr ⟨before, h⟩
  | cons tag tags ih =>
      have hhyphen : ∀ c ∈ ['-'], c ∉ dirtyWord := by
        simp [dirtyWord_eq]
      rw [List.flatMap_cons, List.append_assoc] at h
      obtain ⟨inner, rfl, htag⟩ := Text.exists_gap_of_disjoint dirtyWord_ne_nil hhyphen h
      have hnext : ∀ c ∈ (tags.flatMap ('-' :: ·) ++ rest).head?, c ∉ dirtyWord := by
        cases tags with
        | nil => exact hrest
        | cons next tags => simpa using hhyphen
      rcases Text.within_or_exists_gap hnext htag with ⟨right, rfl, -⟩ | ⟨gap, rfl, hgap⟩
      · exact .inl ⟨[], inner, right, tags, rfl, rfl⟩
      · rcases ih hgap with ⟨former, left, right, latter, rfl, rfl⟩ | hbehind
        · exact .inl ⟨tag :: former, left, right, latter, rfl, by simp⟩
        · exact .inr hbehind

/-- A text reaches up to the word within one of the tags. -/
def EntersTag (b : Build) (before : List Char) : Prop :=
  ∃ former left right latter, b.tags = former ++ (left ++ (dirtyWord ++ right)) :: latter ∧
    before = b.numbers ++ (former.flatMap ('-' :: ·) ++ '-' :: left)

/-- Wherever the word stands in a build, it stands within a tag or at the end of the mark. -/
theorem entersTag_or_mark (h : before ++ (dirtyWord ++ after) = b.written) :
    b.EntersTag before ∨ b.dirty = true ∧ after = [] := by
  rw [written_eq_numbers_append] at h
  obtain ⟨gap, rfl, htags⟩ := Text.exists_gap_of_disjoint dirtyWord_ne_nil
    b.notMem_dirtyWord_of_mem_numbers h
  rcases exists_tag_or_exists_gap b.notMem_dirtyWord_of_mem_head?_afterTags htags with
    ⟨former, left, right, latter, hbuild, rfl⟩ | ⟨_, hafter⟩
  · exact .inl ⟨former, left, right, latter, hbuild, rfl⟩
  · exact .inr (eq_nil_of_afterTags hafter)

theorem EntersTag.exists_tag (h : b.EntersTag before) : ∃ tag ∈ b.tags, dirtyWord <:+: tag := by
  obtain ⟨former, left, right, latter, htags, -⟩ := h
  exact ⟨left ++ (dirtyWord ++ right), by simp [htags], left, right, by simp⟩

theorem infix_written_of_mem_tags {tag : List Char} (htag : tag ∈ b.tags) :
    tag <:+: b.written := by
  obtain ⟨former, latter, htags⟩ := List.append_of_mem htag
  refine ⟨b.numbers ++ (former.flatMap ('-' :: ·) ++ ['-']),
    latter.flatMap ('-' :: ·) ++ b.afterTags, ?_⟩
  rw [written_eq_numbers_append, htags]
  simp

theorem ending_true (description : Option Description) :
    ending description true = ending description false ++ dirtyMark := by
  rw [ending, ending, if_pos rfl, if_neg Bool.false_ne_true, List.append_nil]
  rfl

theorem written_of_dirty (hdirty : b.dirty = true) :
    b.written = { b with dirty := false }.written ++ dirtyMark := by
  simp only [written_eq_numbers_append, afterTags, hdirty, ending_true, List.append_assoc]
  rfl

theorem dirtyMark_suffix_of_dirty (hdirty : b.dirty = true) : dirtyMark <:+ b.written := by
  rw [written_of_dirty hdirty]
  exact List.suffix_append _ _

theorem eq_nil_of_append_hyphen {s front left right : List Char}
    (htag : IsTag (left ++ right)) (h : s ++ ['-'] = front ++ '-' :: left) :
    left = [] ∧ s = front := by
  rcases List.eq_nil_or_concat left with rfl | ⟨former, c, rfl⟩
  · exact ⟨rfl, List.append_cancel_right h⟩
  · have hlast : s ++ ['-'] = (front ++ '-' :: former) ++ [c] := by simpa using h
    obtain ⟨-, hc⟩ := List.append_inj' hlast rfl
    have hletter := htag.2 c (by simp)
    rw [← List.singleton_inj.mp hc] at hletter
    contradiction

/-- A build that ends in the mark without having one has the word as its last tag and nothing
behind it, so it is one without that tag too. -/
theorem exists_build_of_last_tag {s : List Char} (hclean : b.dirty = false)
    (h : b.written = s ++ dirtyMark) : ∃ c : Build, c.written = s := by
  have hword : (s ++ ['-']) ++ (dirtyWord ++ []) = b.written := by
    rw [h, dirtyMark_eq]
    simp
  rcases entersTag_or_mark hword with ⟨former, left, right, latter, htags, hbefore⟩ | ⟨hdirty, -⟩
  · have hend : right ++ (latter.flatMap ('-' :: ·) ++ b.afterTags) = [] := by
      rw [hbefore, written_eq_numbers_append, htags] at hword
      simpa using hword
    have htag : IsTag (left ++ (dirtyWord ++ right)) := b.isTag_of_mem_tags _ (by simp [htags])
    rw [← List.append_assoc] at hbefore
    obtain ⟨-, rfl⟩ := eq_nil_of_append_hyphen htag hbefore
    refine ⟨{ b with
      tags := former
      dots := 0
      tail := []
      description := none
      isTag_of_mem_tags := fun t ht => b.isTag_of_mem_tags t (by simp [htags, ht])
      isNumber_tail := .inl rfl }, ?_⟩
    simp only [written, numbers, hclean, Bool.false_eq_true, if_false, List.replicate_zero,
      Option.elim_none, List.append_nil, List.cons_append, List.append_assoc]
  · rw [hclean] at hdirty
    contradiction

end Build

/-- The word that tells of local changes stands in a release build only where it is meant to: within
one of the tags, or in the mark at the end. So a build is told to have local changes exactly if it
ends in the mark or a tag of it holds the word. -/
theorem isDirty_iff_mark_or_tag (build : String) (hvalid : isValid build = true) :
    (∃ b : Build, b.written = build.toList) ∧
      ∀ b : Build, b.written = build.toList →
        (isDirty build = true ↔
          dirtyMark <:+ build.toList ∨ ∃ tag ∈ b.tags, dirtyWord <:+: tag) ∧
        ∀ before after, before ++ (dirtyWord ++ after) = build.toList →
          b.EntersTag before ∨ b.dirty = true ∧ after = [] := by
  refine ⟨(isValid_iff_exists_build build).mp hvalid, ?_⟩
  intro b hb
  rw [isDirty_iff, ← hb]
  refine ⟨⟨?_, ?_⟩, fun before after h => Build.entersTag_or_mark h⟩
  · rintro ⟨before, after, h⟩
    rw [List.append_assoc] at h
    rcases Build.entersTag_or_mark h with hin | ⟨hdirty, -⟩
    · exact .inr hin.exists_tag
    · exact .inl (Build.dirtyMark_suffix_of_dirty hdirty)
  · rintro (hmark | ⟨tag, htag, hword⟩)
    · rw [dirtyMark_eq] at hmark
      exact (List.suffix_cons '-' dirtyWord).isInfix.trans hmark.isInfix
    · exact hword.trans (Build.infix_written_of_mem_tags htag)

theorem isNumber_one : IsNumber ['1'] :=
  .inr ⟨'1', [], rfl, by decide, by simp⟩

/-- A build without local changes. The word is divided between two of its tags, and its hash has the
first letter of the word only. -/
def dividedWordBuild : Build where
  major := ['1']
  minor := ['2']
  patch := ['3']
  tags := [['d', 'i', 'r'], ['t', 'y']]
  dots := 1
  tail := ['1']
  description := some
    { count := ['4']
      hash := "ddddd".toList
      count_ne_nil := by decide
      isDigit_of_mem_count := List.all_eq_true.mp (by decide)
      five_le_length_hash := by decide
      length_hash_le := by decide
      isHex_of_mem_hash := List.all_eq_true.mp (by decide) }
  dirty := false
  isNumber_major := isNumber_one
  isNumber_minor := .inr ⟨'2', [], rfl, by decide, by simp⟩
  isNumber_patch := .inr ⟨'3', [], rfl, by decide, by simp⟩
  isTag_of_mem_tags := List.forall_mem_cons.mpr ⟨⟨by decide, List.all_eq_true.mp (by decide)⟩,
    List.forall_mem_singleton.mpr ⟨by decide, List.all_eq_true.mp (by decide)⟩⟩
  isNumber_tail := .inr isNumber_one

theorem dividedWordBuild_written :
    dividedWordBuild.written = "v1.2.3-dir-ty.1.4+ddddd".toList := by
  decide

theorem dividedWordBuild_isValid : isValid "v1.2.3-dir-ty.1.4+ddddd" = true := by
  rw [isValid, ← dividedWordBuild_written]
  exact dividedWordBuild.written_mem_accepted

theorem dividedWordBuild_unmarked : ¬dirtyMark <:+ "v1.2.3-dir-ty.1.4+ddddd".toList := by
  decide +kernel

theorem dividedWordBuild_not_isDirty :
    isValid "v1.2.3-dir-ty.1.4+ddddd" = true ∧
      dividedWordBuild.written = "v1.2.3-dir-ty.1.4+ddddd".toList ∧
      isDirty "v1.2.3-dir-ty.1.4+ddddd" = false := by
  have hparts := (isDirty_iff_mark_or_tag _ dividedWordBuild_isValid).2 dividedWordBuild
  have hiff := (hparts dividedWordBuild_written).1
  have htags : ¬∃ tag ∈ dividedWordBuild.tags, dirtyWord <:+: tag := by decide
  refine ⟨dividedWordBuild_isValid, dividedWordBuild_written, Bool.eq_false_iff.mpr fun h => ?_⟩
  exact (hiff.mp h).elim dividedWordBuild_unmarked htags

/-- Whether a text is a release build does not hang on the mark at its end. -/
theorem isValid_append_mark (build : String) :
    (isValid (build ++ "-dirty") = true → isValid build = true) ∧
      (isValid build = true → ¬dirtyMark <:+ build.toList →
        isValid (build ++ "-dirty") = true) := by
  rw [isValid_iff_exists_build, isValid_iff_exists_build, String.toList_append]
  constructor
  · rintro ⟨b, hb⟩
    cases hdirty : b.dirty with
    | true =>
        rw [Build.written_of_dirty hdirty] at hb
        exact ⟨_, List.append_cancel_right hb⟩
    | false => exact Build.exists_build_of_last_tag hdirty hb
  · rintro ⟨b, hb⟩ hclean
    have hdirty : b.dirty = false := by
      rw [← hb] at hclean
      exact Bool.eq_false_iff.mpr fun hdirty => hclean (Build.dirtyMark_suffix_of_dirty hdirty)
    have hsame : { b with dirty := false } = b := by rw [← hdirty]
    refine ⟨{ b with dirty := true }, ?_⟩
    rw [Build.written_of_dirty rfl, hsame, hb]
    rfl

/-- A mark is added to a build without one, and taken away from a build that ends in two. -/
theorem dividedWordBuild_append_mark :
    (isValid "v1.2.3-dir-ty.1.4+ddddd" = true ∧
      ¬dirtyMark <:+ "v1.2.3-dir-ty.1.4+ddddd".toList ∧
      isValid ("v1.2.3-dir-ty.1.4+ddddd" ++ "-dirty") = true) ∧
    isValid ("v1.2.3-dirty" ++ "-dirty") = true ∧ isValid "v1.2.3-dirty" = true := by
  have hvalid := dividedWordBuild_isValid
  have htwice : isValid ("v1.2.3-dirty" ++ "-dirty") = true := by
    rw [isValid, String.toList_append]
    decide +kernel
  exact ⟨⟨hvalid, dividedWordBuild_unmarked,
    (isValid_append_mark _).2 hvalid dividedWordBuild_unmarked⟩, htwice,
    (isValid_append_mark _).1 htwice⟩

end BuildVersion.Version.Release
