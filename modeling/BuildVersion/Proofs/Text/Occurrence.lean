import Mathlib.Data.List.Basic

namespace BuildVersion.Text

variable {word before after front rest : List Char}

theorem exists_gap_of_disjoint (hword : word ≠ []) (hfront : ∀ c ∈ front, c ∉ word)
    (h : before ++ (word ++ after) = front ++ rest) :
    ∃ gap, before = front ++ gap ∧ gap ++ (word ++ after) = rest := by
  rcases List.append_eq_append_iff.mp h with ⟨left, hleft, hword'⟩ | ⟨gap, hgap, hrest⟩
  · cases left with
    | nil => exact ⟨[], by simpa using hleft.symm, hword'⟩
    | cons c left =>
        -- the first character of the word would be one of the text in front
        obtain ⟨d, word, rfl⟩ := List.exists_cons_of_ne_nil hword
        obtain rfl : d = c := (List.cons.inj hword').1
        exact absurd List.mem_cons_self (hfront d (by simp [hleft]))
  · exact ⟨gap, hgap, hrest.symm⟩

theorem within_or_exists_gap (hrest : ∀ c ∈ rest.head?, c ∉ word)
    (h : before ++ (word ++ after) = front ++ rest) :
    (∃ right, front = before ++ (word ++ right) ∧ after = right ++ rest) ∨
      ∃ gap, before = front ++ gap ∧ gap ++ (word ++ after) = rest := by
  rcases List.append_eq_append_iff.mp h with ⟨left, hleft, hword⟩ | ⟨gap, hgap, hgaprest⟩
  · rcases List.append_eq_append_iff.mp hword with
      ⟨right, hright, hafter⟩ | ⟨past, hpast, hafter⟩
    · exact .inl ⟨right, by rw [hleft, hright], hafter⟩
    · cases past with
      | nil => exact .inl ⟨[], by simp [hleft, hpast], by simpa using hafter.symm⟩
      | cons c past =>
          -- the text behind would begin with a character of the word
          exact absurd (by simp [hpast]) (hrest c (by simp [hafter]))
  · exact .inr ⟨gap, hgap, hgaprest.symm⟩

theorem forall_mem_head?_append {P : Char → Prop} (hfront : ∀ c ∈ front, P c)
    (hrest : ∀ c ∈ rest.head?, P c) : ∀ c ∈ (front ++ rest).head?, P c := by
  cases front with
  | nil => exact hrest
  | cons c front => simpa using hfront c List.mem_cons_self

end BuildVersion.Text
