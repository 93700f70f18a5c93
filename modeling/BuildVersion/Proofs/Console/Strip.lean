import BuildVersion.Console.Strip

namespace BuildVersion.Console.Strip

variable {s : Strip}

theorem spans_piece (hs : s.spans = []) (start stop : Nat) : (s.piece start stop).spans = [] := by
  rw [piece, hs, List.filterMap_nil]

theorem spans_of_mem_piecesFrom (hs : s.spans = []) {start : Nat} {places : List Nat} :
    ∀ p ∈ s.piecesFrom start places, p.spans = [] := by
  induction places generalizing start with
  | nil =>
      intro p hp
      rw [piecesFrom, List.mem_singleton] at hp
      rw [hp]
      exact spans_piece hs start s.text.length
  | cons stop rest ih =>
      intro p hp
      rw [piecesFrom, List.mem_cons] at hp
      obtain rfl | hp := hp
      · exact spans_piece hs start stop
      · exact ih p hp

theorem spans_of_mem_cut (hs : s.spans = []) {places : List Nat} :
    ∀ p ∈ s.cut places, p.spans = [] := by
  intro p hp
  unfold cut at hp
  split at hp
  · rw [List.mem_singleton.mp hp, hs]
  · exact spans_of_mem_piecesFrom hs p hp

theorem spans_of_mem_lines (hs : s.spans = []) : ∀ line ∈ s.lines, line.spans = [] := by
  intro line hline
  exact spans_of_mem_cut hs line (List.mem_filter.mp hline).1

theorem spans_append {t : Strip} (hs : s.spans = []) (ht : t.spans = []) :
    (s.append t).spans = [] := by
  rw [append, hs, ht]
  rfl

theorem spans_join {strips : List Strip} (hstrips : ∀ p ∈ strips, p.spans = []) :
    (join strips).spans = [] := by
  have hfold : ∀ first : Strip, first.spans = [] → (strips.foldl append first).spans = [] := by
    induction strips with
    | nil => exact fun first hfirst => hfirst
    | cons p rest ih =>
        intro first hfirst
        obtain ⟨hp, hrest⟩ := List.forall_mem_cons.mp hstrips
        exact ih hrest _ (spans_append hfirst hp)
  exact hfold ⟨[], []⟩ rfl

theorem spans_widen (hs : s.spans = []) (column : Nat) : (s.widen column).spans = [] := by
  rw [widen, hs]
  rfl

theorem spans_of_mem_widenAll {column : Nat} {strips : List Strip}
    (hstrips : ∀ p ∈ strips, p.spans = []) : ∀ p ∈ widenAll column strips, p.spans = [] := by
  induction strips generalizing column with
  | nil =>
      intro p hp
      contradiction
  | cons q rest ih =>
      obtain ⟨hq, hrest⟩ := List.forall_mem_cons.mp hstrips
      intro p hp
      rw [widenAll, List.mem_cons] at hp
      rcases hp with rfl | hp
      · split
        · exact spans_widen hq column
        · exact hq
      · exact ih hrest p hp

theorem spans_withoutTabs (hs : s.spans = []) : s.withoutTabs.spans = [] := by
  unfold withoutTabs
  split
  · exact spans_join (spans_of_mem_widenAll (spans_of_mem_cut hs))
  · exact hs

theorem spans_cropped (hs : s.spans = []) (stop : Nat) : (s.cropped stop).spans = [] := by
  rw [cropped, hs]
  rfl

theorem spans_withoutOverhang (hs : s.spans = []) (width : Nat) :
    (s.withoutOverhang width).spans = [] := by
  unfold withoutOverhang
  dsimp only
  split
  · exact spans_cropped hs _
  · exact hs

theorem spans_fitted (hs : s.spans = []) (width : Nat) : (s.fitted width).spans = [] := by
  unfold fitted
  split
  · exact spans_cropped hs _
  · exact hs

theorem spans_of_mem_wrapped (hs : s.spans = []) (width : Nat) :
    ∀ line ∈ s.wrapped width, line.spans = [] := by
  intro line hline
  obtain ⟨whole, hwhole, hline⟩ := List.mem_flatMap.mp hline
  obtain ⟨part, hpart, rfl⟩ := List.mem_map.mp hline
  have htabs : whole.withoutTabs.spans = [] := spans_withoutTabs (spans_of_mem_lines hs whole hwhole)
  exact spans_fitted (spans_withoutOverhang (spans_of_mem_cut htabs part hpart) width) width

end BuildVersion.Console.Strip
