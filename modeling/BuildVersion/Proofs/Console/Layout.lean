import BuildVersion.Proofs.Console.Cut
import BuildVersion.Proofs.Text.Split

namespace BuildVersion.Console.Strip

variable {s : Strip} {p : Char → Bool}

section Characters

theorem countP_flatMap_le {α : Type} {f g : α → List Char} (xs : List α)
    (h : ∀ x ∈ xs, (f x).countP p ≤ (g x).countP p) :
    (xs.flatMap f).countP p ≤ (xs.flatMap g).countP p := by
  induction xs with
  | nil => exact Nat.le_refl _
  | cons x xs ih =>
      obtain ⟨hx, hxs⟩ := List.forall_mem_cons.mp h
      rw [List.flatMap_cons, List.flatMap_cons, List.countP_append, List.countP_append]
      exact Nat.add_le_add hx (ih hxs)

theorem text_join (strips : List Strip) : (join strips).text = strips.flatMap text := by
  have hfold : ∀ first : Strip, (strips.foldl append first).text =
      first.text ++ strips.flatMap text := by
    induction strips with
    | nil => simp
    | cons q rest ih =>
        intro first
        rw [List.foldl_cons, ih, List.flatMap_cons, append, List.append_assoc]
  exact hfold ⟨[], []⟩

theorem countP_replicate_blank (hblank : p ' ' = false) (n : Nat) :
    (List.replicate n ' ').countP p = 0 := by
  simp [List.countP_replicate, hblank]

theorem countP_widen (hblank : p ' ' = false) (column : Nat) (s : Strip) :
    (s.widen column).text.countP p = s.text.dropLast.countP p := by
  simp [widen, List.countP_append, countP_replicate_blank hblank, hblank]

theorem countP_widenAll_le (hblank : p ' ' = false) (column : Nat) (strips : List Strip) :
    ((widenAll column strips).flatMap text).countP p ≤ (strips.flatMap text).countP p := by
  induction strips generalizing column with
  | nil => exact Nat.le_refl _
  | cons q rest ih =>
      rw [widenAll, List.flatMap_cons, List.flatMap_cons, List.countP_append, List.countP_append]
      refine Nat.add_le_add ?_ (ih _)
      split
      · rw [countP_widen hblank]
        exact (List.dropLast_sublist _).countP_le
      · exact Nat.le_refl _

theorem countP_withoutTabs_le (hblank : p ' ' = false) (s : Strip) :
    s.withoutTabs.text.countP p ≤ s.text.countP p := by
  unfold withoutTabs
  split
  · have hwidened := countP_widenAll_le hblank 0 (s.cut ((placesOf '\t' s.text).map (· + 1)))
    rwa [(cut_behind_tabs s).1, ← text_join] at hwidened
  · exact Nat.le_refl _

theorem notMem_of_mem_widenAll (column : Nat) {strips : List Strip}
    (hstrips : ∀ piece ∈ strips, '\t' ∉ piece.text.dropLast) :
    ∀ piece ∈ widenAll column strips, '\t' ∉ piece.text := by
  induction strips generalizing column with
  | nil => simp [widenAll]
  | cons q rest ih =>
      obtain ⟨hq, hrest⟩ := List.forall_mem_cons.mp hstrips
      rw [widenAll]
      refine List.forall_mem_cons.mpr ⟨?_, ih _ hrest⟩
      split
      · simpa [widen] using hq
      · next hlast =>
          exact fun hmem => hq (List.mem_dropLast_of_mem_of_ne_getLast? hmem (Ne.symm hlast))

theorem notMem_withoutTabs (s : Strip) : '\t' ∉ s.withoutTabs.text := by
  unfold withoutTabs
  split
  · rw [text_join]
    intro hmem
    obtain ⟨piece, hpiece, htab⟩ := List.mem_flatMap.mp hmem
    exact notMem_of_mem_widenAll 0 (cut_behind_tabs s).2 piece hpiece htab
  · next hcontains => simpa using hcontains

theorem countP_withoutOverhang_le (width : Nat) (s : Strip) :
    (s.withoutOverhang width).text.countP p ≤ s.text.countP p := by
  unfold withoutOverhang
  dsimp only
  split
  · exact (List.take_sublist _ _).countP_le
  · exact Nat.le_refl _

theorem isPrefix_fitting (width : Nat) (s : List Char) : fitting width s <+: s := by
  induction s generalizing width with
  | nil => exact List.prefix_refl _
  | cons c rest ih =>
      rw [fitting]
      split
      · exact List.cons_prefix_cons.mpr ⟨rfl, ih _⟩
      · exact List.nil_prefix

theorem countP_fitted_le (hblank : p ' ' = false) (width : Nat) (s : Strip) :
    (s.fitted width).text.countP p ≤ s.text.countP p := by
  unfold fitted
  split
  · rw [List.countP_append, countP_replicate_blank hblank, Nat.add_zero]
    exact (isPrefix_fitting width s.text).sublist.countP_le
  · exact Nat.le_refl _

end Characters

section Rows

variable {width : Nat}

def rows (width : Nat) (line : Strip) : List Strip :=
  let line := line.withoutTabs
  (line.cut (breaks width 0 0 (wordsIn line.text.length line.text))).map fun row =>
    (row.withoutOverhang width).fitted width

theorem wrapped_eq_flatMap_rows (width : Nat) (s : Strip) :
    s.wrapped width = s.lines.flatMap (rows width) := rfl

theorem countP_rows_le (hblank : p ' ' = false) (width : Nat) (line : Strip) :
    ((rows width line).flatMap text).countP p ≤ line.withoutTabs.text.countP p := by
  have hcut := flatMap_text_cut (s := line.withoutTabs) (ascending_breaks width 0 0
    (wordsIn line.withoutTabs.text.length line.withoutTabs.text))
  rw [rows, List.flatMap_map]
  conv => rhs; rw [← hcut]
  exact countP_flatMap_le _ fun row _ => Nat.le_trans (countP_fitted_le hblank width _)
    (countP_withoutOverhang_le width row)

theorem countP_wrapped_le (hblank : p ' ' = false) (hfeed : p '\n' = false) (width : Nat)
    (s : Strip) : ((s.wrapped width).flatMap text).countP p ≤ s.text.countP p := by
  have hlines : (s.lines.flatMap text).countP p = s.text.countP p := by
    rw [List.flatMap_def, map_text_lines, ← Text.countP_join hfeed, Text.join_split]
  rw [wrapped_eq_flatMap_rows, List.flatMap_assoc, ← hlines]
  exact countP_flatMap_le _ fun line _ => Nat.le_trans (countP_rows_le hblank width line)
    (countP_withoutTabs_le hblank line)

theorem notMem_of_mem_rows {c : Char} (hc : c ≠ ' ') {line : Strip}
    (hline : c ∉ line.withoutTabs.text) : ∀ row ∈ rows width line, c ∉ row.text := by
  have hblank : (' ' == c) = false := by simpa using hc.symm
  have hrows := countP_rows_le (p := (· == c)) hblank width line
  have hcount : line.withoutTabs.text.countP (· == c) = 0 := List.count_eq_zero.mpr hline
  have hnone : c ∉ (rows width line).flatMap text :=
    List.count_eq_zero.mp (Nat.le_zero.mp (hcount ▸ hrows))
  exact fun row hrow hmem => hnone (List.mem_flatMap.mpr ⟨row, hrow, hmem⟩)

theorem rows_ne_nil (width : Nat) (line : Strip) : rows width line ≠ [] := by
  have hcut : ∀ (s : Strip) (places : List Nat), s.cut places ≠ [] := by
    intro s places
    cases places with
    | nil => simp [cut]
    | cons place rest => simp [cut, piecesFrom]
  rw [rows, ne_eq, List.map_eq_nil_iff]
  exact hcut _ _

end Rows

section Fitting

variable {width : Nat}

/-- A line that stays as it is: it takes no more cells than the terminal has, and no blanks at its
end reach beyond as many characters. -/
def Fits (width : Nat) (line : List Char) : Prop :=
  Text.cells line ≤ width ∧ (line.length ≤ width ∨ Text.trimEnd line = line)

instance (width : Nat) (line : List Char) : Decidable (Fits width line) :=
  inferInstanceAs (Decidable (_ ∧ _))

theorem isPrefix_trimEnd (line : List Char) : Text.trimEnd line <+: line := by
  have hsuffix := List.reverse_prefix.mpr (List.dropWhile_suffix Text.isBlank (l := line.reverse))
  rwa [List.reverse_reverse] at hsuffix

theorem cells_le_of_prefix {front line : List Char} (h : front <+: line) :
    Text.cells front ≤ Text.cells line := by
  obtain ⟨rest, rfl⟩ := h
  rw [Text.cells_append]
  exact Nat.le_add_right _ _

theorem eq_append_of_word? {line word rest : List Char} (h : word? line = some (word, rest)) :
    line = word ++ rest := by
  have htake : ∀ (q : Char → Bool) (t : List Char),
      t.takeWhile q ++ t.drop (t.takeWhile q).length = t := fun q t =>
    List.prefix_iff_eq_append.mp (List.takeWhile_prefix q)
  unfold word? at h
  dsimp only at h
  split at h
  · contradiction
  · obtain ⟨rfl, rfl⟩ := Prod.mk.inj (Option.some.inj h)
    rw [List.append_assoc, List.append_assoc, ← List.drop_drop, htake, htake, htake]

theorem isPrefix_flatten_wordsIn (fuel : Nat) (line : List Char) :
    (wordsIn fuel line).flatten <+: line := by
  induction fuel generalizing line with
  | zero => exact List.nil_prefix
  | succ fuel ih =>
      rw [wordsIn]
      split
      · exact List.nil_prefix
      · next word rest hword =>
          rw [eq_append_of_word? hword, List.flatten_cons]
          exact (List.prefix_append_right_inj word).mpr (ih rest)

theorem breaks_eq_nil {start used : Nat} {words : List (List Char)}
    (h : used + Text.cells words.flatten ≤ width) : breaks width start used words = [] := by
  induction words generalizing start used with
  | nil => rfl
  | cons word rest ih =>
      rw [List.flatten_cons, Text.cells_append] at h
      have hneeded := cells_le_of_prefix (isPrefix_trimEnd word)
      rw [breaks, if_pos (by omega)]
      exact ih (by omega)

theorem cells_fitting_le (width : Nat) (line : List Char) :
    Text.cells (fitting width line) ≤ width := by
  induction line generalizing width with
  | nil => exact Nat.zero_le _
  | cons c rest ih =>
      rw [fitting]
      split
      · have hrest := ih (width - Text.cellWidth c)
        rw [Text.cells]
        omega
      · exact Nat.zero_le _

theorem cells_replicate_blank (n : Nat) : Text.cells (List.replicate n ' ') = n := by
  have hwidth : Text.cellWidth ' ' = 1 := by decide
  induction n with
  | zero => rfl
  | succ n ih => rw [List.replicate_succ, Text.cells, ih, hwidth, Nat.add_comm]

theorem withoutOverhang_of_fits {row : Strip} (hrow : Fits width row.text) :
    row.withoutOverhang width = row := by
  have hstop : ¬max width (Text.trimEnd row.text).length < row.text.length := by
    rcases hrow.2 with hlength | htrim
    · omega
    · rw [htrim]
      omega
  rw [withoutOverhang, if_neg hstop]

theorem fitted_of_fits {row : Strip} (hrow : Fits width row.text) : row.fitted width = row := by
  rw [fitted, if_neg (Nat.not_lt.mpr hrow.1)]

theorem isPrefix_text_withoutOverhang (width : Nat) (row : Strip) :
    (row.withoutOverhang width).text <+: row.text := by
  unfold withoutOverhang
  dsimp only
  split
  · exact List.take_prefix _ _
  · exact List.prefix_refl _

theorem cells_fitted_of_lt {row : Strip} (hwide : width < Text.cells row.text) :
    Text.cells (row.fitted width).text = width := by
  have hkept := cells_fitting_le width row.text
  rw [fitted, if_pos hwide, Text.cells_append, cells_replicate_blank]
  omega

theorem fits_of_text_eq {row : Strip}
    (hrow : ((row.withoutOverhang width).fitted width).text = row.text) : Fits width row.text := by
  have hprefix := isPrefix_text_withoutOverhang width row
  -- a row that is cut off takes exactly the width, so it was not wider before
  have hnarrow : ¬width < Text.cells (row.withoutOverhang width).text := by
    intro hwide
    have hcells := cells_fitted_of_lt hwide
    rw [hrow] at hcells
    have hle := cells_le_of_prefix hprefix
    omega
  rw [fitted, if_neg hnarrow] at hrow
  rw [hrow] at hnarrow
  refine ⟨Nat.not_lt.mp hnarrow, ?_⟩
  by_cases hstop : max width (Text.trimEnd row.text).length < row.text.length
  · have hlength : (row.text.take (max width (Text.trimEnd row.text).length)).length =
        row.text.length := by
      rw [withoutOverhang, if_pos hstop] at hrow
      exact congrArg List.length hrow
    rw [List.length_take] at hlength
    omega
  · by_cases hlength : row.text.length ≤ width
    · exact .inl hlength
    · exact .inr ((isPrefix_trimEnd row.text).eq_of_length_le (by omega))

/-- A line without tabs is laid out as itself exactly if it fits. -/
theorem map_text_rows_eq_iff {line : Strip} (hline : '\t' ∉ line.text) :
    (rows width line).map text = [line.text] ↔ Fits width line.text := by
  have htabs : line.withoutTabs = line := by
    rw [withoutTabs, if_neg (by simpa using hline)]
  rw [rows, htabs]
  constructor
  · intro hrows
    rw [List.map_map] at hrows
    obtain ⟨row, hrow, htext⟩ := List.map_eq_singleton_iff.mp hrows
    have hcut := flatMap_text_cut (s := line) (ascending_breaks width 0 0
      (wordsIn line.text.length line.text))
    rw [hrow, List.flatMap_singleton] at hcut
    rw [← hcut] at htext ⊢
    exact fits_of_text_eq htext
  · intro hfits
    have hwords := cells_le_of_prefix (isPrefix_flatten_wordsIn line.text.length line.text)
    have hwidth : Text.cells line.text ≤ width := hfits.1
    have hbreaks : breaks width 0 0 (wordsIn line.text.length line.text) = [] :=
      breaks_eq_nil (by omega)
    rw [hbreaks, cut_nil, List.map_singleton, withoutOverhang_of_fits hfits,
      fitted_of_fits hfits, List.map_singleton]

theorem length_le_length_flatMap {α β : Type} {f : α → List β} {xs : List α}
    (hne : ∀ x ∈ xs, f x ≠ []) : xs.length ≤ (xs.flatMap f).length := by
  induction xs with
  | nil => exact Nat.zero_le _
  | cons x xs ih =>
      obtain ⟨hx, hxs⟩ := List.forall_mem_cons.mp hne
      have hpos := List.length_pos_of_ne_nil hx
      have hrest := ih hxs
      rw [List.flatMap_cons, List.length_append, List.length_cons]
      omega

/-- Parts that are not empty make up as many parts as there are only if each is a single one. -/
theorem flatMap_eq_map_iff {α β : Type} {f : α → List β} {g : α → β} {xs : List α}
    (hne : ∀ x ∈ xs, f x ≠ []) : xs.flatMap f = xs.map g ↔ ∀ x ∈ xs, f x = [g x] := by
  induction xs with
  | nil => simp
  | cons x xs ih =>
      obtain ⟨hx, hxs⟩ := List.forall_mem_cons.mp hne
      rw [List.flatMap_cons, List.map_cons, List.forall_mem_cons, ← ih hxs]
      constructor
      · intro h
        cases hfirst : f x with
        | nil => exact absurd hfirst hx
        | cons y ys =>
            rw [hfirst, List.cons_append] at h
            obtain ⟨rfl, hrest⟩ := List.cons.inj h
            have hlength := congrArg List.length hrest
            have hle := length_le_length_flatMap hxs
            rw [List.length_append, List.length_map] at hlength
            obtain rfl : ys = [] := List.eq_nil_of_length_eq_zero (by omega)
            exact ⟨rfl, hrest⟩
      · rintro ⟨hfirst, hrest⟩
        rw [hfirst, hrest, List.singleton_append]

/-- A text without tabs is laid out in its own lines exactly if all of them fit. -/
theorem map_text_wrapped_eq_iff (hs : '\t' ∉ s.text) :
    (s.wrapped width).map text = Text.split '\n' s.text ↔
      ∀ line ∈ Text.split '\n' s.text, Fits width line := by
  have hlines : ∀ line ∈ s.lines, '\t' ∉ line.text := by
    intro line hline hmem
    have hfeed : '\t' ≠ '\n' := by decide
    have hfields := (Text.forall_mem_join (P := ('\t' ≠ ·)) hfeed (Text.split '\n' s.text)).mp
      (by rw [Text.join_split]; exact fun c hc h => hs (h ▸ hc))
    rw [← map_text_lines] at hfields
    exact hfields line.text (List.mem_map_of_mem hline) '\t' hmem rfl
  rw [wrapped_eq_flatMap_rows, List.map_flatMap, ← map_text_lines, List.forall_mem_map,
    flatMap_eq_map_iff fun line _ => by simpa using rows_ne_nil width line]
  exact forall₂_congr fun line hline => map_text_rows_eq_iff (hlines line hline)

/-- The text of a strip on a terminal, with a line feed behind every row. -/
def printed (width : Nat) (s : Strip) : List Char :=
  (s.wrapped width).flatMap fun row => row.text ++ ['\n']

theorem countP_printed_le (hblank : p ' ' = false) (hfeed : p '\n' = false) (width : Nat)
    (s : Strip) : (s.printed width).countP p ≤ s.text.countP p := by
  refine Nat.le_trans (countP_flatMap_le (g := text) _ fun row _ => ?_)
    (countP_wrapped_le hblank hfeed width s)
  rw [List.countP_append, List.countP_singleton, hfeed]
  exact Nat.le_refl _

theorem notMem_of_mem_wrapped {c : Char} (hc : c ≠ ' ')
    (hlines : ∀ line ∈ s.lines, c ∉ line.withoutTabs.text) :
    ∀ row ∈ (s.wrapped width).map text, c ∉ row := by
  refine List.forall_mem_map.mpr fun row hrow => ?_
  rw [wrapped_eq_flatMap_rows] at hrow
  obtain ⟨line, hline, hrow⟩ := List.mem_flatMap.mp hrow
  exact notMem_of_mem_rows hc (hlines line hline) row hrow

theorem feed_notMem_withoutTabs {line : Strip} (hline : line ∈ s.lines) :
    '\n' ∉ line.withoutTabs.text := by
  have hfield : '\n' ∉ line.text := by
    refine Text.notMem_of_mem_split (s := s.text) line.text ?_
    rw [← map_text_lines]
    exact List.mem_map_of_mem hline
  have hcount : line.withoutTabs.text.count '\n' ≤ line.text.count '\n' :=
    countP_withoutTabs_le (by decide) line
  rw [List.count_eq_zero.mpr hfield] at hcount
  exact List.count_eq_zero.mp (Nat.le_zero.mp hcount)

theorem map_text_wrapped_ne_nil (width : Nat) (s : Strip) : (s.wrapped width).map text ≠ [] := by
  have hlines := List.length_pos_of_ne_nil (Text.split_ne_nil '\n' s.text)
  have hrows := length_le_length_flatMap fun line (_ : line ∈ s.lines) => rows_ne_nil width line
  rw [← map_text_lines, List.length_map] at hlines
  refine List.ne_nil_of_length_pos ?_
  rw [List.length_map, wrapped_eq_flatMap_rows]
  omega

/-- A text is printed as it is exactly if it has no tabs and all of its lines fit. -/
theorem printed_eq_iff :
    s.printed width = s.text ++ ['\n'] ↔
      '\t' ∉ s.text ∧ ∀ line ∈ Text.split '\n' s.text, Fits width line := by
  have hne := map_text_wrapped_ne_nil width s
  have hprinted : s.printed width = Text.join '\n' ((s.wrapped width).map text) ++ ['\n'] := by
    rw [← Text.flatMap_concat_eq_join_concat '\n' hne, List.flatMap_map, printed]
  rw [hprinted, List.append_left_inj]
  constructor
  · intro hjoin
    have htabs : '\t' ∉ s.text := by
      rw [← hjoin]
      exact Text.notMem_join (by decide)
        (notMem_of_mem_wrapped (by decide) fun line _ => notMem_withoutTabs line)
    have hsplit := Text.split_join hne
      (notMem_of_mem_wrapped (by decide) fun _ => feed_notMem_withoutTabs)
    rw [hjoin] at hsplit
    exact ⟨htabs, (map_text_wrapped_eq_iff htabs).mp hsplit.symm⟩
  · rintro ⟨htabs, hfits⟩
    rw [(map_text_wrapped_eq_iff htabs).mpr hfits, Text.join_split]

end Fitting

end BuildVersion.Console.Strip
