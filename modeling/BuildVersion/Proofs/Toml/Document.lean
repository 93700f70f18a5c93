import BuildVersion.Proofs.Toml.Excess

namespace BuildVersion.Toml

open Settings (Value)

variable {depth : Nat} {s : List Char} {fault : Fault}

theorem addPair_ensures {E : Fault → Prop} (st : State) (names : DottedKey) (v : Value) :
    (st.addPair names v).Ensures (fun _ => True) E := by
  simp only [State.addPair]
  split
  · exact Outcome.ensures_err _
  · split
    · exact Outcome.ensures_err _
    · split
      · exact Outcome.ensures_err _
      · exact Outcome.ensures_ok trivial

theorem openTable_ensures {E : Fault → Prop} (st : State) (names : DottedKey) :
    (st.openTable names).Ensures (fun _ => True) E := by
  simp only [State.openTable]
  split
  · exact Outcome.ensures_err _
  · split
    · exact Outcome.ensures_err _
    · exact Outcome.ensures_ok trivial

theorem appendTable_ensures {E : Fault → Prop} (st : State) (names : DottedKey) :
    (st.appendTable names).Ensures (fun _ => True) E := by
  simp only [State.appendTable]
  split
  · exact Outcome.ensures_err _
  · split
    · exact Outcome.ensures_err _
    · split
      · exact Outcome.ensures_err _
      · exact Outcome.ensures_ok trivial

theorem statement_leaves (st : State) (s : List Char) :
    Leaves s (Excess maxDepth s) (statement st s) := by
  unfold statement
  split
  · next rest =>
      have hblanks : dropBlanks rest <:+ '[' :: '[' :: rest :=
        (dropBlanks_suffix rest).trans
          ((List.suffix_cons '[' rest).trans (List.suffix_cons '[' ('[' :: rest)))
      apply ((key_leaves (dropBlanks rest)).of_suffix hblanks).bind
      intro names after hafter
      apply (appendTable_ensures st names).bind
      intro st _
      split
      · next last =>
          have hlast := (List.suffix_cons ']' last).trans (List.suffix_cons ']' (']' :: last))
          exact leaves_ok (hlast.trans hafter)
      · exact leaves_illformed
  · next rest _ =>
      have hblanks : dropBlanks rest <:+ '[' :: rest :=
        (dropBlanks_suffix rest).trans (List.suffix_cons '[' rest)
      apply ((key_leaves (dropBlanks rest)).of_suffix hblanks).bind
      intro names after hafter
      apply (openTable_ensures st names).bind
      intro st _
      split
      · next last => exact leaves_ok ((List.suffix_cons ']' last).trans hafter)
      · exact leaves_illformed
  · apply (pair_leaves (value_leaves maxDepth) s).bind
    intro entry rest hrest
    exact (addPair_ensures st entry.1 entry.2).map fun _ _ => hrest

theorem lineEnd_ensures {E : Fault → Prop} (s : List Char) :
    (lineEnd s).Ensures (fun next? => ∀ rest, next? = some rest → rest <:+ s) E := by
  apply (skipComment_ensures (dropBlanks s)).bind
  intro rest hrest
  split
  · apply Outcome.ensures_ok
    intro rest hnone
    contradiction
  · next after =>
      apply Outcome.ensures_ok
      rintro _ ⟨⟩
      exact ((List.suffix_cons '\n' after).trans hrest).trans (dropBlanks_suffix s)
  · exact Outcome.ensures_err _

theorem lines_ensures (fuel : Nat) (st : State) (s : List Char) :
    (lines fuel st s).Ensures (fun _ => True) (Excess maxDepth s) := by
  induction fuel generalizing st s with
  | zero => exact Outcome.ensures_err _
  | succ fuel ih =>
      have hnext : ∀ (st : State) {rest : List Char}, rest <:+ s →
          (lines fuel st rest).Ensures (fun _ => True) (Excess maxDepth s) := by
        intro st rest hrest
        exact (ih st rest).imp (fun _ h => h) fun _ hfault => hfault.of_suffix hrest
      have hblanks := dropBlanks_suffix s
      rw [lines]
      split
      · exact Outcome.ensures_ok trivial
      · next rest hrest =>
          rw [hrest] at hblanks
          exact hnext st ((List.suffix_cons '\n' rest).trans hblanks)
      · next c rest _ hrest =>
          rw [hrest] at hblanks
          have hstatement : Leaves s (Excess maxDepth s)
              (if c = '#' then .ok (st, c :: rest) else statement st (c :: rest)) := by
            split
            · exact leaves_ok hblanks
            · exact (statement_leaves st (c :: rest)).of_part hblanks
          apply Outcome.Ensures.bind hstatement
          rintro ⟨st, after⟩ hafter
          apply (lineEnd_ensures after).bind
          intro next? hnext?
          split
          · exact Outcome.ensures_ok trivial
          · next last => exact hnext st ((hnext? last rfl).trans hafter)

theorem unifyNewlines_of_notMem (hs : '\r' ∉ s) : unifyNewlines s = s := by
  fun_induction unifyNewlines s with
  | case1 rest ih => exact absurd List.mem_cons_self hs
  | case2 c rest _ ih => rw [ih (List.not_mem_of_not_mem_cons hs)]
  | case3 => rfl

theorem unifyNewlines_sublist (s : List Char) : (unifyNewlines s).Sublist s := by
  fun_induction unifyNewlines s with
  | case1 rest ih => exact (ih.cons_cons '\n').cons '\r'
  | case2 c rest _ ih => exact ih.cons_cons c
  | case3 => exact List.Sublist.slnil

theorem prefix_of_prefix_unifyNewlines {w : List Char} (hw : '\n' ∉ w)
    (h : w <+: unifyNewlines s) : w <+: s := by
  fun_induction unifyNewlines s generalizing w with
  | case1 rest ih =>
      rcases List.prefix_cons_iff.mp h with rfl | ⟨w, rfl, -⟩
      · exact List.nil_prefix
      · exact absurd List.mem_cons_self hw
  | case2 c rest _ ih =>
      rcases List.prefix_cons_iff.mp h with rfl | ⟨w, rfl, hrest⟩
      · exact List.nil_prefix
      · exact List.prefix_cons_inj c |>.mpr (ih (List.not_mem_of_not_mem_cons hw) hrest)
  | case3 => exact h

theorem infix_of_infix_unifyNewlines {w : List Char} (hw : '\n' ∉ w)
    (h : w <:+: unifyNewlines s) : w <:+: s := by
  fun_induction unifyNewlines s with
  | case1 rest ih =>
      rcases List.infix_cons_iff.mp h with hprefix | hrest
      · have hunified : w <+: unifyNewlines ('\r' :: '\n' :: rest) := hprefix
        exact (prefix_of_prefix_unifyNewlines hw hunified).isInfix
      · exact List.infix_cons (List.infix_cons (ih hrest))
  | case2 c rest hne ih =>
      rcases List.infix_cons_iff.mp h with hprefix | hrest
      · have hunified : w <+: unifyNewlines (c :: rest) := by
          rwa [unifyNewlines.eq_2 c rest hne]
        exact (prefix_of_prefix_unifyNewlines hw hunified).isInfix
      · exact List.infix_cons (ih hrest)
  | case3 => exact h

theorem Excess.of_unifyNewlines (h : Excess depth (unifyNewlines s) fault) :
    Excess depth s fault := by
  cases h with
  | @numeral w hw hgrouped hlong =>
      have hnewline : '\n' ∉ w := by
        intro hmem
        rcases hgrouped '\n' hmem with hdigit | heq
        · exact absurd hdigit (by decide)
        · exact absurd heq (by decide)
      exact numeral (infix_of_infix_unifyNewlines hnewline hw) hgrouped hlong
  | nesting hdeep =>
      exact nesting (Nat.lt_of_lt_of_le hdeep (nestingCost_le_of_sublist (unifyNewlines_sublist s)))

/-- A document whose reading is cut short has an integer of too many digits, or more opening
brackets than the reader descends through. -/
theorem excess_of_parse_eq_aborted {document : String} (h : parse document = .aborted fault) :
    Excess maxDepth document.toList fault := by
  have hlines := lines_ensures ((unifyNewlines document.toList).length + 1) {}
    (unifyNewlines document.toList)
  have hparse : (parse document).Ensures (fun _ => True)
      (Excess maxDepth (unifyNewlines document.toList)) := hlines.map fun _ _ => trivial
  exact (hparse.of_aborted fault h).of_unifyNewlines

end BuildVersion.Toml
