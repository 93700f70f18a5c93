import BuildVersion.Proofs.Text.Blank
import BuildVersion.Text.Split

namespace BuildVersion.Text

theorem unifyLineEnds_cons_of_ne {c : Char} (hc : c ≠ '\r') (s : List Char) :
    unifyLineEnds (c :: s) = c :: unifyLineEnds s := by
  rw [unifyLineEnds.eq_def]
  split
  · next h => exact absurd (List.cons.inj h).1 hc
  · next h => exact absurd (List.cons.inj h).1 hc
  · next h =>
      cases h
      rfl
  · contradiction

theorem unifyLineEnds_return {s : List Char} (hs : s.head? ≠ some '\n') :
    unifyLineEnds ('\r' :: s) = '\n' :: unifyLineEnds s := by
  cases s with
  | nil => rfl
  | cons c s =>
      rw [unifyLineEnds]
      rintro rest h
      obtain ⟨rfl, -⟩ := List.cons.inj h
      exact hs rfl

theorem getLast?_cons_of_eq_some {α : Type} {a b : α} {s : List α} (hs : s.getLast? = some b) :
    (a :: s).getLast? = some b := by
  rw [List.getLast?_cons, hs, Option.getD_some]

/-- The line ends of two texts are unified on their own unless a carriage return and a line feed
meet between them. -/
theorem unifyLineEnds_append {s t : List Char}
    (hmeet : s.getLast? = some '\r' → t.head? ≠ some '\n') :
    unifyLineEnds (s ++ t) = unifyLineEnds s ++ unifyLineEnds t := by
  fun_induction unifyLineEnds s with
  | case1 rest ih =>
      rw [List.cons_append, List.cons_append, unifyLineEnds, List.cons_append,
        ih fun hrest => hmeet (getLast?_cons_of_eq_some (getLast?_cons_of_eq_some hrest))]
  | case2 rest hrest ih =>
      have hhead : (rest ++ t).head? ≠ some '\n' := by
        cases rest with
        | nil => exact hmeet rfl
        | cons c rest =>
            intro hc
            exact hrest rest (by rw [Option.some.inj hc])
      rw [List.cons_append, unifyLineEnds_return hhead, List.cons_append,
        ih fun hlast => hmeet (getLast?_cons_of_eq_some hlast)]
  | case3 c rest hcrlf hreturn ih =>
      have hc : c ≠ '\r' := fun hc => hreturn hc
      rw [List.cons_append, unifyLineEnds_cons_of_ne hc, List.cons_append,
        ih fun hlast => hmeet (getLast?_cons_of_eq_some hlast)]
  | case4 => rfl

theorem trimStart_unifyLineEnds (s : List Char) :
    trimStart (unifyLineEnds s) = unifyLineEnds (trimStart s) := by
  fun_induction unifyLineEnds s with
  | case1 rest ih => exact ih
  | case2 rest hrest ih => exact ih
  | case3 c rest hcrlf hreturn ih =>
      by_cases hc : isBlank c = true
      · rw [trimStart, trimStart, List.dropWhile_cons_of_pos hc, List.dropWhile_cons_of_pos hc]
        exact ih
      · rw [trimStart, trimStart, List.dropWhile_cons_of_neg hc, List.dropWhile_cons_of_neg hc,
          unifyLineEnds_cons_of_ne fun h => hreturn h]
  | case4 => rfl

theorem trimEnd_concat_of_isBlank {c : Char} (hc : isBlank c = true) (s : List Char) :
    trimEnd (s ++ [c]) = trimEnd s :=
  List.rdropWhile_concat_pos isBlank s c hc

theorem trimEnd_concat_of_not_isBlank {c : Char} (hc : ¬isBlank c = true) (s : List Char) :
    trimEnd (s ++ [c]) = s ++ [c] :=
  List.rdropWhile_concat_neg isBlank s c hc

/-- A line feed behind a carriage return adds no line end. -/
theorem unifyLineEnds_concat_return_feed (s : List Char) :
    unifyLineEnds (s ++ ['\r'] ++ ['\n']) = unifyLineEnds (s ++ ['\r']) := by
  rw [List.append_assoc, List.singleton_append, unifyLineEnds_append fun _ => by simp,
    unifyLineEnds_append fun _ => by simp]
  rfl

/-- Unifying the line end of a single character gives a single character, blank as before. -/
theorem unifyLineEnds_singleton (c : Char) :
    ∃ d, unifyLineEnds [c] = [d] ∧ (isBlank d = isBlank c) := by
  by_cases hc : c = '\r'
  · subst hc
    exact ⟨'\n', rfl, rfl⟩
  · exact ⟨c, unifyLineEnds_cons_of_ne hc [], rfl⟩

/-- By induction on the text from its end, where a carriage return may be the last but one. -/
theorem trimEnd_unifyLineEnds (s : List Char) :
    trimEnd (unifyLineEnds s) = unifyLineEnds (trimEnd s) := by
  induction s using List.reverseRecOn with
  | nil => rfl
  | append_singleton s c ih =>
      by_cases hmeet : s.getLast? = some '\r' ∧ c = '\n'
      · obtain ⟨hs, rfl⟩ := hmeet
        obtain ⟨start, rfl⟩ := List.getLast?_eq_some_iff.mp hs
        rw [unifyLineEnds_concat_return_feed, ih,
          trimEnd_concat_of_isBlank (c := '\n') (by decide) (start ++ ['\r'])]
      · have hapart : s.getLast? = some '\r' → [c].head? ≠ some '\n' := by
          intro hs hfeed
          exact hmeet ⟨hs, Option.some.inj hfeed⟩
        obtain ⟨d, hd, hblank⟩ := unifyLineEnds_singleton c
        rw [unifyLineEnds_append hapart, hd]
        by_cases hc : isBlank c = true
        · rw [trimEnd_concat_of_isBlank (hblank.trans hc), trimEnd_concat_of_isBlank hc, ih]
        · rw [trimEnd_concat_of_not_isBlank (hblank ▸ hc), trimEnd_concat_of_not_isBlank hc,
            unifyLineEnds_append hapart, hd]

theorem trim_unifyLineEnds (s : List Char) : trim (unifyLineEnds s) = unifyLineEnds (trim s) := by
  rw [trim, trimStart_unifyLineEnds, trimEnd_unifyLineEnds, trim]

end BuildVersion.Text
