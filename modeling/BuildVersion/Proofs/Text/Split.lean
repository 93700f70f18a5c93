import Mathlib.Data.List.Basic
import BuildVersion.Text.Split

namespace BuildVersion.Text

theorem split_eq_splitOn (separator : Char) (s : List Char) :
    split separator s = s.splitOn separator := by
  induction s with
  | nil => rfl
  | cons c rest ih =>
      rw [split, List.splitOn_cons_eq_if_modifyHead, ih]
      by_cases hc : c = separator
      · simp [hc]
      · rw [if_neg hc, if_neg (by simpa using hc)]
        cases hfields : rest.splitOn separator with
        | nil => exact absurd hfields (List.splitOn_ne_nil separator rest)
        | cons field fields => rfl

theorem split_ne_nil (separator : Char) (s : List Char) : split separator s ≠ [] := by
  rw [split_eq_splitOn]
  exact List.splitOn_ne_nil separator s

theorem join_singleton (separator : Char) (field : List Char) : join separator [field] = field :=
  List.intercalate_singleton

theorem join_cons_cons (separator : Char) (field next : List Char) (fields : List (List Char)) :
    join separator (field :: next :: fields) =
      field ++ separator :: join separator (next :: fields) := by
  rw [join, List.intercalate_cons_cons, List.append_assoc, List.singleton_append, join]

theorem join_split (separator : Char) (s : List Char) :
    join separator (split separator s) = s := by
  rw [join, split_eq_splitOn, List.intercalate_splitOn]

theorem split_join {separator : Char} {fields : List (List Char)} (hne : fields ≠ [])
    (hfields : ∀ field ∈ fields, separator ∉ field) :
    split separator (join separator fields) = fields := by
  rw [join, split_eq_splitOn, List.splitOn_intercalate separator hfields hne]

theorem split_of_notMem {separator : Char} {s : List Char} (hs : separator ∉ s) :
    split separator s = [s] := by
  have hjoin := split_join (List.cons_ne_nil s []) (by simpa using hs)
  rwa [join_singleton] at hjoin

theorem split_append_cons {separator : Char} {field : List Char} (hfield : separator ∉ field)
    (rest : List Char) :
    split separator (field ++ separator :: rest) = field :: split separator rest := by
  rw [split_eq_splitOn, split_eq_splitOn, List.splitOn_append_cons_self_of_not_mem hfield]

theorem notMem_of_mem_split {separator : Char} {s : List Char} :
    ∀ field ∈ split separator s, separator ∉ field := by
  induction s with
  | nil => simp [split]
  | cons c rest ih =>
      rw [split]
      split
      · exact List.forall_mem_cons.mpr ⟨List.not_mem_nil, ih⟩
      · next hc =>
          cases hfields : split separator rest with
          | nil => exact absurd hfields (split_ne_nil separator rest)
          | cons field fields =>
              rw [hfields] at ih
              obtain ⟨hfield, hrest⟩ := List.forall_mem_cons.mp ih
              exact List.forall_mem_cons.mpr ⟨by simpa [hfield] using Ne.symm hc, hrest⟩

theorem forall_mem_join {P : Char → Prop} {separator : Char} (hseparator : P separator)
    (fields : List (List Char)) :
    (∀ c ∈ join separator fields, P c) ↔ ∀ field ∈ fields, ∀ c ∈ field, P c := by
  induction fields with
  | nil => simp [join]
  | cons field fields ih =>
      cases fields with
      | nil => simp [join_singleton]
      | cons next fields =>
          rw [join_cons_cons]
          simp only [List.forall_mem_append, List.forall_mem_cons, ih, hseparator, true_and]

theorem notMem_join {separator c : Char} {fields : List (List Char)} (hc : c ≠ separator)
    (hfields : ∀ field ∈ fields, c ∉ field) : c ∉ join separator fields := by
  have hne : ∀ d ∈ join separator fields, c ≠ d := by
    refine (forall_mem_join hc fields).mpr ?_
    rintro field hfield d hd rfl
    exact hfields field hfield hd
  exact fun hmem => hne c hmem rfl

theorem flatMap_cons_eq_cons_join (separator : Char) {fields : List (List Char)}
    (hne : fields ≠ []) :
    fields.flatMap (separator :: ·) = separator :: join separator fields := by
  induction fields with
  | nil => exact absurd rfl hne
  | cons field fields ih =>
      cases fields with
      | nil => simp [join_singleton]
      | cons next fields =>
          rw [List.flatMap_cons, ih (List.cons_ne_nil next fields), join_cons_cons, List.cons_append]

theorem flatMap_concat_eq_join_concat (separator : Char) {fields : List (List Char)}
    (hne : fields ≠ []) :
    fields.flatMap (· ++ [separator]) = join separator fields ++ [separator] := by
  induction fields with
  | nil => exact absurd rfl hne
  | cons field fields ih =>
      cases fields with
      | nil => simp [join_singleton]
      | cons next fields =>
          rw [List.flatMap_cons, ih (List.cons_ne_nil next fields), join_cons_cons]
          simp

theorem countP_join {p : Char → Bool} {separator : Char} (hseparator : p separator = false)
    (fields : List (List Char)) :
    (join separator fields).countP p = fields.flatten.countP p := by
  induction fields with
  | nil => rfl
  | cons field fields ih =>
      cases fields with
      | nil => simp [join_singleton]
      | cons next fields =>
          have hskip : ¬p separator = true := by simp [hseparator]
          rw [join_cons_cons, List.countP_append, List.countP_cons_of_neg hskip, ih,
            List.flatten_cons (l := field), List.countP_append]

theorem length_le_length_join (separator : Char) (field : List Char) (fields : List (List Char)) :
    fields.length ≤ (join separator (field :: fields)).length := by
  induction fields generalizing field with
  | nil => exact Nat.zero_le _
  | cons next fields ih =>
      have hrest := ih next
      rw [join_cons_cons, List.length_append, List.length_cons, List.length_cons]
      omega

/-- A part of a text that may be absent, after the mark that opens it. -/
def opened (mark : Char) (part : Option (List Char)) : List Char :=
  part.elim [] (mark :: ·)

@[simp] theorem opened_none (mark : Char) : opened mark none = [] := rfl

@[simp] theorem opened_some (mark : Char) (part : List Char) :
    opened mark (some part) = mark :: part := rfl

theorem cut_append_opened {mark : Char} {front : List Char} (hfront : mark ∉ front)
    (part : Option (List Char)) : cut mark (front ++ opened mark part) = (front, part) := by
  induction front with
  | nil => cases part <;> simp [cut]
  | cons c front ih =>
      obtain ⟨hc, hfront⟩ := List.ne_and_not_mem_of_not_mem_cons hfront
      rw [List.cons_append, cut, if_neg (Ne.symm hc), ih hfront]

theorem eq_append_opened_of_cut {mark : Char} {s front : List Char} {part : Option (List Char)}
    (hcut : cut mark s = (front, part)) : mark ∉ front ∧ s = front ++ opened mark part := by
  induction s generalizing front with
  | nil =>
      obtain ⟨rfl, rfl⟩ := Prod.mk.inj hcut
      exact ⟨List.not_mem_nil, rfl⟩
  | cons c s ih =>
      rw [cut] at hcut
      split at hcut
      · next hc =>
          obtain ⟨rfl, rfl⟩ := Prod.mk.inj hcut
          exact ⟨List.not_mem_nil, by rw [hc]; rfl⟩
      · next hc =>
          obtain ⟨rfl, hpart⟩ := Prod.mk.inj hcut
          obtain ⟨hfront, hs⟩ := ih (Prod.ext rfl hpart)
          exact ⟨List.not_mem_cons_of_ne_of_not_mem (Ne.symm hc) hfront,
            by rw [List.cons_append, ← hs]⟩

theorem cut_eq_iff {mark : Char} {s front : List Char} {part : Option (List Char)} :
    cut mark s = (front, part) ↔ mark ∉ front ∧ s = front ++ opened mark part := by
  constructor
  · exact eq_append_opened_of_cut
  · rintro ⟨hfront, rfl⟩
    exact cut_append_opened hfront part

/-- A text that does not begin with a character is what is left without it of two texts. -/
theorem eq_removeLeading_iff {c : Char} {s t : List Char} (ht : ∀ rest, t ≠ c :: rest) :
    t = removeLeading [c] s ↔ s = t ∨ s = c :: t := by
  cases s with
  | nil => simp [removeLeading, eq_comm]
  | cons d rest =>
      by_cases hd : c = d
      · subst hd
        have hleft : removeLeading [c] (c :: rest) = rest := by simp [removeLeading]
        rw [hleft, List.cons.injEq, eq_comm (a := t), or_iff_right (Ne.symm (ht rest))]
        simp
      · have hleft : removeLeading [c] (d :: rest) = d :: rest := by simp [removeLeading, hd]
        rw [hleft, eq_comm (a := t), List.cons.injEq, or_iff_left]
        exact fun h => hd h.1.symm

theorem removeLeading_append (pattern s : List Char) :
    removeLeading pattern (pattern ++ s) = s := by
  rw [removeLeading, if_pos (List.isPrefixOf_iff_prefix.mpr (List.prefix_append pattern s)),
    List.drop_left]

theorem removeLeading_of_absent {pattern s : List Char} (hs : ¬pattern <+: s) :
    removeLeading pattern s = s := by
  rw [removeLeading, if_neg (mt List.isPrefixOf_iff_prefix.mp hs)]

/-- Two texts are the same without a leading pattern if they are the same, or if the pattern stands
once more in front of one of them than in front of the other, which does not begin with it. -/
theorem removeLeading_eq_removeLeading_iff {pattern s t : List Char} :
    removeLeading pattern s = removeLeading pattern t ↔
      s = t ∨ s = pattern ++ t ∧ ¬pattern <+: t ∨ t = pattern ++ s ∧ ¬pattern <+: s := by
  by_cases hs : pattern <+: s
  · obtain ⟨s, rfl⟩ := hs
    have hbegins : pattern <+: pattern ++ s := List.prefix_append pattern s
    rw [removeLeading_append]
    by_cases ht : pattern <+: t
    · obtain ⟨t, rfl⟩ := ht
      rw [removeLeading_append]
      simp
    · rw [removeLeading_of_absent ht, List.append_cancel_left_eq]
      constructor
      · intro h
        exact .inr (.inl ⟨h, ht⟩)
      · rintro (rfl | ⟨h, -⟩ | ⟨-, h⟩)
        · exact absurd hbegins ht
        · exact h
        · exact absurd hbegins h
  · rw [removeLeading_of_absent hs]
    by_cases ht : pattern <+: t
    · obtain ⟨t, rfl⟩ := ht
      have hbegins : pattern <+: pattern ++ t := List.prefix_append pattern t
      rw [removeLeading_append, List.append_cancel_left_eq]
      constructor
      · intro h
        exact .inr (.inr ⟨h.symm, hs⟩)
      · rintro (rfl | ⟨-, h⟩ | ⟨h, -⟩)
        · exact absurd hbegins hs
        · exact absurd hbegins h
        · exact h.symm
    · rw [removeLeading_of_absent ht]
      refine ⟨.inl, ?_⟩
      rintro (rfl | ⟨rfl, -⟩ | ⟨rfl, -⟩)
      · rfl
      · exact absurd (List.prefix_append pattern t) hs
      · exact absurd (List.prefix_append pattern s) ht

theorem occursIn_iff {pattern s : List Char} : occursIn pattern s = true ↔ pattern <:+: s := by
  induction s with
  | nil => rw [occursIn, List.isEmpty_iff, List.infix_nil]
  | cons c s ih =>
      rw [occursIn, Bool.or_eq_true, List.isPrefixOf_iff_prefix, ih, List.infix_cons_iff]

theorem contains_iff {pattern s : String} :
    contains pattern s = true ↔ pattern.toList <:+: s.toList := occursIn_iff

end BuildVersion.Text
