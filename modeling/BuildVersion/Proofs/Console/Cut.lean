import BuildVersion.Console.Strip
import BuildVersion.Proofs.Text.Split

/-!
Pieces of a strip. Cut at places in ascending order, a strip falls into pieces that make up its
text again; its lines are the fields of its text between line feeds, and behind its tabs it falls
into pieces that hold a tab at their end only.
-/

namespace BuildVersion.Console.Strip

variable {s : Strip}

section Pieces

theorem text_piece {before inside after : List Char} (hs : s.text = before ++ (inside ++ after)) :
    (s.piece before.length (before.length + inside.length)).text = inside := by
  simp [piece, hs]

theorem text_piece_end {before inside : List Char} (hs : s.text = before ++ inside) :
    (s.piece before.length s.text.length).text = inside := by
  simp [piece, hs]

theorem map_text_cut (s : Strip) (places : List Nat) :
    (s.cut places).map text = (s.piecesFrom 0 places).map text := by
  cases places with
  | nil => simp [cut, piecesFrom, piece]
  | cons place rest => rfl

theorem cut_nil (s : Strip) : s.cut [] = [s] := rfl

/-- The places where a character stands in a text that begins at a place. -/
def placesFrom (c : Char) (start : Nat) (s : List Char) : List Nat :=
  (s.zipIdx start).filterMap fun (d, place) => if d = c then some place else none

theorem placesFrom_nil (c : Char) (start : Nat) : placesFrom c start [] = [] := rfl

theorem placesFrom_cons_self (c : Char) (start : Nat) (rest : List Char) :
    placesFrom c start (c :: rest) = start :: placesFrom c (start + 1) rest := by
  simp [placesFrom, List.zipIdx_cons]

theorem placesFrom_cons_of_ne {c d : Char} (hd : d ≠ c) (start : Nat) (rest : List Char) :
    placesFrom c start (d :: rest) = placesFrom c (start + 1) rest := by
  simp [placesFrom, List.zipIdx_cons, hd]

/-- Pieces that end behind each of the places of a character hold it at their end only. -/
theorem piecesFrom_behind {c : Char} (before inside after : List Char)
    (hs : s.text = before ++ (inside ++ after)) (hinside : c ∉ inside) :
    let pieces := s.piecesFrom before.length
      ((placesFrom c (before.length + inside.length) after).map (· + 1))
    pieces.flatMap text = inside ++ after ∧ ∀ piece ∈ pieces, c ∉ piece.text.dropLast := by
  induction after generalizing before inside with
  | nil =>
      have hpiece : (s.piece before.length s.text.length).text = inside :=
        text_piece_end (by simpa using hs)
      simp only [placesFrom_nil, List.map_nil, piecesFrom, List.flatMap_singleton, hpiece,
        List.append_nil, List.forall_mem_singleton, true_and]
      exact fun hmem => hinside ((List.dropLast_sublist inside).subset hmem)
  | cons d after ih =>
      by_cases hd : d = c
      · subst hd
        have hpiece : (s.piece before.length (before.length + (inside ++ [d]).length)).text =
            inside ++ [d] := text_piece (by simpa using hs)
        have hrest := ih (before ++ (inside ++ [d])) [] (by simpa using hs) List.not_mem_nil
        rw [placesFrom_cons_self, List.map_cons, piecesFrom]
        simp only [List.length_append, List.length_singleton, List.length_nil, Nat.add_zero,
          ← Nat.add_assoc, List.nil_append] at hpiece hrest
        simp only [List.flatMap_cons, List.forall_mem_cons, hpiece, hrest.1, List.dropLast_concat]
        exact ⟨by simp, hinside, hrest.2⟩
      · have hrest := ih before (inside ++ [d]) (by simpa using hs)
          (by simpa [hinside] using Ne.symm hd)
        rw [placesFrom_cons_of_ne hd]
        simpa [Nat.add_assoc] using hrest

/-- Pieces between line feeds, and the line feeds themselves. -/
theorem piecesFrom_lines (before inside after : List Char)
    (hs : s.text = before ++ (inside ++ after)) (hinside : '\n' ∉ inside) :
    ((s.piecesFrom before.length
      ((placesFrom '\n' (before.length + inside.length) after).flatMap fun place =>
        [place, place + 1])).map text).filter (· ≠ ['\n']) =
      Text.split '\n' (inside ++ after) := by
  induction after generalizing before inside with
  | nil =>
      have hpiece : (s.piece before.length s.text.length).text = inside :=
        text_piece_end (by simpa using hs)
      have hfeed : inside ≠ ['\n'] := fun h => hinside (by simp [h])
      rw [placesFrom_nil, List.flatMap_nil, piecesFrom, List.append_nil,
        Text.split_of_notMem hinside]
      simp [hpiece, hfeed]
  | cons d after ih =>
      by_cases hd : d = '\n'
      · subst hd
        have hpiece : (s.piece before.length (before.length + inside.length)).text = inside :=
          text_piece hs
        have hbreak : (s.piece (before ++ inside).length ((before ++ inside).length + 1)).text =
            ['\n'] := @text_piece s _ ['\n'] after (by simpa using hs)
        have hrest := ih (before ++ inside ++ ['\n']) [] (by simpa using hs) List.not_mem_nil
        have hfeed : inside ≠ ['\n'] := fun h => hinside (by simp [h])
        rw [placesFrom_cons_self, List.flatMap_cons, List.cons_append, List.cons_append,
          List.nil_append, piecesFrom, piecesFrom]
        simp only [List.length_append, List.length_singleton, List.length_nil, Nat.add_zero,
          List.nil_append] at hbreak hrest
        rw [List.map_cons, List.map_cons, hpiece, hbreak, List.filter_cons_of_pos (by simpa),
          List.filter_cons_of_neg (by simp), hrest, Text.split_append_cons hinside]
      · have hrest := ih before (inside ++ [d]) (by simpa using hs)
          (by simpa [hinside] using Ne.symm hd)
        rw [placesFrom_cons_of_ne hd]
        simpa [Nat.add_assoc] using hrest

theorem map_text_lines (s : Strip) : s.lines.map text = Text.split '\n' s.text := by
  have hpieces := piecesFrom_lines (s := s) [] [] s.text rfl List.not_mem_nil
  have hcut := map_text_cut s ((placesFrom '\n' 0 s.text).flatMap fun place => [place, place + 1])
  rw [List.nil_append] at hpieces
  rw [← hpieces, List.length_nil, Nat.add_zero, ← hcut, List.filter_map]
  rfl

/-- The pieces of a strip behind its tabs hold a tab at their end only. -/
theorem cut_behind_tabs (s : Strip) :
    (s.cut ((placesOf '\t' s.text).map (· + 1))).flatMap text = s.text ∧
      ∀ piece ∈ s.cut ((placesOf '\t' s.text).map (· + 1)), '\t' ∉ piece.text.dropLast := by
  have hpieces := piecesFrom_behind (s := s) (c := '\t') [] [] s.text rfl List.not_mem_nil
  have hcut := map_text_cut s ((placesFrom '\t' 0 s.text).map (· + 1))
  simp only [List.length_nil, Nat.add_zero, List.nil_append, List.flatMap_def,
    ← List.forall_mem_map (f := text) (P := ('\t' ∉ ·.dropLast))] at hpieces
  rw [← hcut] at hpieces
  exact ⟨hpieces.1, fun piece hpiece => hpieces.2 _ (List.mem_map_of_mem hpiece)⟩

end Pieces

section Places

variable {start middle stop : Nat} {places : List Nat}

/-- Places in ascending order from one place to another. -/
structure Ascending (start stop : Nat) (places : List Nat) : Prop where
  ordered : places.Pairwise (· ≤ ·)
  within : ∀ place ∈ places, start ≤ place ∧ place ≤ stop

theorem Ascending.nil (start stop : Nat) : Ascending start stop [] where
  ordered := .nil
  within := by simp

theorem Ascending.append {first second : List Nat} (hfirst : Ascending start middle first)
    (hsecond : Ascending middle stop second) (hstart : start ≤ middle) (hstop : middle ≤ stop) :
    Ascending start stop (first ++ second) where
  ordered := List.pairwise_append.mpr ⟨hfirst.ordered, hsecond.ordered, fun a ha b hb =>
    Nat.le_trans (hfirst.within a ha).2 (hsecond.within b hb).1⟩
  within := by
    intro place hplace
    obtain hplace | hplace := List.mem_append.mp hplace
    · have hbounds := hfirst.within place hplace
      omega
    · have hbounds := hsecond.within place hplace
      omega

theorem Ascending.singleton (start stop : Nat) (h : start ≤ stop) :
    Ascending start stop [start] where
  ordered := List.pairwise_singleton _ _
  within := by simpa using h

theorem flatMap_text_piecesFrom (hplaces : Ascending start stop places) :
    (s.piecesFrom start places).flatMap text = s.text.drop start := by
  induction places generalizing start with
  | nil =>
      rw [piecesFrom, List.flatMap_singleton, piece]
      exact List.take_of_length_le (by simp)
  | cons place rest ih =>
      obtain ⟨hfirst, hrest⟩ := List.pairwise_cons.mp hplaces.ordered
      have hstart := (hplaces.within place List.mem_cons_self).1
      have hascending : Ascending place stop rest :=
        ⟨hrest, fun next hnext => ⟨hfirst next hnext,
          (hplaces.within next (List.mem_cons_of_mem _ hnext)).2⟩⟩
      have hdrop : s.text.drop place = (s.text.drop start).drop (place - start) := by
        rw [List.drop_drop, Nat.add_sub_cancel' hstart]
      rw [piecesFrom, List.flatMap_cons, ih hascending, piece, hdrop, List.take_append_drop]

theorem flatMap_text_cut (hplaces : Ascending 0 stop places) :
    (s.cut places).flatMap text = s.text := by
  cases places with
  | nil => exact List.flatMap_singleton _ _
  | cons place rest => exact flatMap_text_piecesFrom hplaces

theorem flatten_chop (width used : Nat) (line word : List Char) :
    (chop width used line word).flatten = line.reverse ++ word := by
  induction word generalizing used line with
  | nil => simp [chop]
  | cons c rest ih =>
      rw [chop]
      split
      · simp [ih]
      · simp [ih]

theorem ascending_chopPlaces (start : Nat) (lines : List (List Char)) :
    Ascending start (start + lines.flatten.length) (chopPlaces start lines) := by
  induction lines generalizing start with
  | nil => exact .nil _ _
  | cons line rest ih =>
      have hrest := ih (start + line.length)
      rw [chopPlaces, List.flatten_cons, List.length_append, ← Nat.add_assoc]
      refine Ascending.append ?_ hrest (by omega) (by omega)
      split
      · exact .nil _ _
      · exact .singleton _ _ (by omega)

theorem ascending_breaks (width start used : Nat) (words : List (List Char)) :
    Ascending start (start + words.flatten.length) (breaks width start used words) := by
  induction words generalizing start used with
  | nil => exact .nil _ _
  | cons word rest ih =>
      rw [breaks, List.flatten_cons, List.length_append, ← Nat.add_assoc]
      have hnil : Ascending start (start + word.length) [] := .nil _ _
      split
      · exact hnil.append (ih _ _) (by omega) (by omega)
      · split
        · have hchop := ascending_chopPlaces start (chop width 0 [] word)
          rw [flatten_chop, List.reverse_nil, List.nil_append] at hchop
          exact hchop.append (ih _ _) (by omega) (by omega)
        · have hstart : Ascending start (start + word.length) [start] := .singleton _ _ (by omega)
          exact hstart.append (ih _ _) (by omega) (by omega)

end Places

end BuildVersion.Console.Strip
