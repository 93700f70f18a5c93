import BuildVersion.Proofs.Toml.Remainder

namespace BuildVersion.Toml

open Settings (Value)

variable {α : Type} {depth : Nat} {s t : List Char} {fault : Fault}

/-- The steps that the brackets of a text cost the reader if all of them nest. -/
def nestingCost (s : List Char) : Nat :=
  2 * s.count '[' + 3 * s.count '{'

/-- What a text exceeds when reading it with so many steps left is cut short. -/
inductive Excess (depth : Nat) (s : List Char) : Fault → Prop
  | numeral {w : List Char} (hw : w <:+: s)
      (hgrouped : ∀ c ∈ w, Text.isAsciiDigit c = true ∨ c = '_')
      (hlong : Numeral.maxDigits < w.countP Text.isAsciiDigit) : Excess depth s .overlongNumeral
  | nesting (hdeep : depth < nestingCost s) : Excess depth s .tooDeep

theorem nestingCost_le_of_sublist (hts : t.Sublist s) : nestingCost t ≤ nestingCost s := by
  have hsquare := hts.count_le '['
  have hcurly := hts.count_le '{'
  simp only [nestingCost]
  omega

theorem nestingCost_array (s : List Char) : nestingCost ('[' :: s) = 2 + nestingCost s := by
  simp only [nestingCost, List.count_cons_self, List.count_cons_of_ne (by decide : '[' ≠ '{')]
  omega

theorem nestingCost_table (s : List Char) : nestingCost ('{' :: s) = 3 + nestingCost s := by
  simp only [nestingCost, List.count_cons_self, List.count_cons_of_ne (by decide : '{' ≠ '[')]
  omega

namespace Excess

theorem of_suffix (h : Excess depth t fault) (hts : t <:+ s) : Excess depth s fault := by
  cases h with
  | numeral hw hgrouped hlong => exact numeral (hw.trans hts.isInfix) hgrouped hlong
  | nesting hdeep => exact nesting (Nat.lt_of_lt_of_le hdeep (nestingCost_le_of_sublist hts.sublist))

/-- What exceeds the steps that are left behind an opening bracket exceeds those before it. -/
theorem of_opening {c : Char} {cost : Nat}
    (hcost : nestingCost (c :: s) = cost + nestingCost s) (h : Excess (depth - cost) s fault) :
    Excess depth (c :: s) fault := by
  cases h with
  | numeral hw hgrouped hlong => exact numeral (List.infix_cons hw) hgrouped hlong
  | nesting hdeep =>
      apply nesting
      rw [hcost]
      omega

end Excess

/-- What a part of a text leaves and exceeds, the text leaves and exceeds. -/
theorem Leaves.of_part {x : Reading α} (hx : Leaves t (Excess depth t) x) (hts : t <:+ s) :
    Leaves s (Excess depth s) x :=
  Outcome.Ensures.imp hx (fun _ hrest => hrest.trans hts) fun _ hfault => hfault.of_suffix hts

section Numbers

variable {rest : List Char}

/-- The digits that are yielded stand in groups in front of what is left. -/
theorem digits_spec (p : Char → Bool) (s : List Char) :
    ∃ w, s = w ++ (digits p s).2 ∧ (∀ c ∈ w, p c = true ∨ c = '_') ∧
      (digits p s).1.length ≤ w.countP p := by
  fun_induction digits p s with
  | case1 c rest hc ih =>
      obtain ⟨w, hs, hw, hlength⟩ := ih
      refine ⟨'_' :: c :: w, ?_, ?_, ?_⟩
      · exact congrArg (fun t => '_' :: c :: t) hs
      · exact List.forall_mem_cons.mpr ⟨.inr rfl, List.forall_mem_cons.mpr ⟨.inl hc, hw⟩⟩
      · rw [List.countP_cons, List.countP_cons_of_pos hc, List.length_cons]
        omega
  | case2 c rest hc => exact ⟨[], rfl, List.forall_mem_nil _, Nat.zero_le _⟩
  | case3 c rest hne hc ih =>
      obtain ⟨w, hs, hw, hlength⟩ := ih
      refine ⟨c :: w, ?_, ?_, ?_⟩
      · exact congrArg (c :: ·) hs
      · exact List.forall_mem_cons.mpr ⟨.inl hc, hw⟩
      · rw [List.countP_cons_of_pos hc, List.length_cons]
        omega
  | case4 c rest hne hc => exact ⟨[], rfl, List.forall_mem_nil _, Nat.zero_le _⟩
  | case5 => exact ⟨[], rfl, List.forall_mem_nil _, Nat.zero_le _⟩

theorem digits_suffix (p : Char → Bool) (s : List Char) : (digits p s).2 <:+ s := by
  obtain ⟨w, hs, -⟩ := digits_spec p s
  exact ⟨w, hs.symm⟩

theorem sign_suffix (s : List Char) : (sign s).2 <:+ s := by
  unfold sign
  split
  · exact List.suffix_cons '-' _
  · exact List.suffix_cons '+' _
  · exact List.suffix_rfl

theorem based?_suffix {n : Nat} (h : based? s = some (n, rest)) : rest <:+ s := by
  unfold based? at h
  split at h
  case h_1 letter after =>
    split at h
    case h_1 => contradiction
    case h_2 base p hbase =>
      simp only at h
      split at h
      · contradiction
      · cases h
        have hletter : after <:+ '0' :: letter :: after :=
          (List.suffix_cons letter after).trans (List.suffix_cons '0' (letter :: after))
        exact (digits_suffix p after).trans hletter
  case h_2 => contradiction

theorem integral?_spec {whole : List Char} (h : integral? s = some (whole, rest)) :
    ∃ w, s = w ++ rest ∧ (∀ c ∈ w, Text.isAsciiDigit c = true ∨ c = '_') ∧
      whole.length ≤ w.countP Text.isAsciiDigit := by
  unfold integral? at h
  split at h
  · cases h
    exact ⟨['0'], rfl, List.forall_mem_singleton.mpr (.inl rfl), Nat.le_refl 1⟩
  · next c after _ =>
      split at h
      · have hdigits := digits_spec Text.isAsciiDigit (c :: after)
        rw [Option.some.inj h] at hdigits
        exact hdigits
      · contradiction
  · contradiction

theorem someDigits?_suffix {ds : List Char} (h : someDigits? s = some (ds, rest)) :
    rest <:+ s := by
  unfold someDigits? at h
  split at h
  · next c after =>
      split at h
      · have hdigits := digits_suffix Text.isAsciiDigit (c :: after)
        rw [Option.some.inj h] at hdigits
        exact hdigits
      · contradiction
  · contradiction

theorem fraction?_suffix (s : List Char) : ((fraction? s).map (·.2)).getD s <:+ s := by
  cases hfraction : fraction? s with
  | none => exact List.suffix_rfl
  | some p =>
      unfold fraction? at hfraction
      split at hfraction
      · next after => exact (someDigits?_suffix hfraction).trans (List.suffix_cons '.' after)
      · contradiction

theorem exponent?_suffix (s : List Char) : ((exponent? s).map (·.2)).getD s <:+ s := by
  cases hexponent : exponent? s with
  | none => exact List.suffix_rfl
  | some p =>
      unfold exponent? at hexponent
      split at hexponent
      · next c after =>
          split at hexponent
          · obtain ⟨q, hdigits, rfl⟩ := Option.map_eq_some_iff.mp hexponent
            have hsign := (someDigits?_suffix hdigits).trans (sign_suffix after)
            exact hsign.trans (List.suffix_cons c after)
          · contradiction
      · contradiction

theorem decimal?_leaves {reading : Reading Value} (h : decimal? s = some reading) :
    Leaves s (Excess depth s) reading := by
  simp only [decimal?] at h
  split at h
  · contradiction
  · next whole after hwhole =>
      obtain ⟨w, hs, hgrouped, hlength⟩ := integral?_spec hwhole
      have hafter : after <:+ s := List.IsSuffix.trans ⟨w, hs.symm⟩ (sign_suffix s)
      have hrest := (exponent?_suffix _).trans ((fraction?_suffix after).trans hafter)
      split at h
      · split at h
        · next hlong =>
            cases h
            have hw : w <:+: (sign s).2 := ⟨[], after, by rw [List.nil_append, ← hs]⟩
            have hlong : Numeral.maxDigits < w.countP Text.isAsciiDigit := by omega
            exact Outcome.ensures_aborted
              (.numeral (hw.trans (sign_suffix s).isInfix) hgrouped hlong)
        · cases h
          exact leaves_ok hrest
      · cases h
        exact leaves_ok hrest

theorem number_leaves (s : List Char) : Leaves s (Excess depth s) (number s) := by
  simp only [number]
  split
  · next n rest hbased => exact leaves_ok (based?_suffix hbased)
  · split
    · next reading hdecimal => exact decimal?_leaves hdecimal
    · split
      · exact leaves_ok (List.drop_suffix _ s)
      · exact leaves_illformed

end Numbers

section Nested

variable {read : Reader Value} (hread : ∀ t, Leaves t (Excess depth t) (read t))

include hread

theorem pair_leaves (s : List Char) : Leaves s (Excess depth s) (pair read s) := by
  apply (key_leaves s).bind
  intro names rest hrest
  dsimp only
  split
  · next after =>
      have hafter : dropBlanks after <:+ s :=
        ((dropBlanks_suffix after).trans (List.suffix_cons '=' after)).trans hrest
      exact ((hread (dropBlanks after)).of_part hafter).map fun _ _ => List.suffix_rfl
  · exact leaves_illformed

theorem items_leaves (fuel : Nat) (s : List Char) :
    Leaves s (Excess depth s) (items read fuel s) := by
  induction fuel generalizing s with
  | zero => exact leaves_illformed
  | succ fuel ih =>
      rw [items]
      apply (skipFiller_ensures s).bind
      intro first hfirst
      split
      · next after => exact leaves_ok ((List.suffix_cons ']' after).trans hfirst)
      · apply ((hread first).of_part hfirst).bind
        intro v rest hrest
        apply (skipFiller_ensures rest).bind
        intro last hlast
        split
        · next after => exact leaves_ok (((List.suffix_cons ']' after).trans hlast).trans hrest)
        · next after =>
            have hnext : after <:+ s := ((List.suffix_cons ',' after).trans hlast).trans hrest
            exact ((ih after).of_part hnext).map fun _ _ => List.suffix_rfl
        · exact leaves_illformed

theorem pairs_leaves (fuel : Nat) (closed : List DottedKey) (entries : Entries) (s : List Char) :
    Leaves s (Excess depth s) (pairs read fuel closed entries s) := by
  induction fuel generalizing closed entries s with
  | zero => exact leaves_illformed
  | succ fuel ih =>
      rw [pairs]
      apply (pair_leaves hread s).bind
      intro entry rest hrest
      have hblanks : dropBlanks rest <:+ s := (dropBlanks_suffix rest).trans hrest
      dsimp only
      split
      · exact leaves_illformed
      · split
        · exact leaves_illformed
        · split
          · next after hafter =>
              rw [hafter] at hblanks
              exact leaves_ok ((List.suffix_cons '}' after).trans hblanks)
          · next after hafter =>
              rw [hafter] at hblanks
              have hnext := (dropBlanks_suffix after).trans (List.suffix_cons ',' after)
              exact (ih _ _ (dropBlanks after)).of_part (hnext.trans hblanks)
          · exact leaves_illformed

end Nested

/-- An array takes two steps and an inline table three, so that what exceeds the steps that are
left inside exceeds those that were there before. -/
theorem value_leaves (depth : Nat) (s : List Char) :
    Leaves s (Excess depth s) (value depth s) := by
  induction depth using Nat.strongRecOn generalizing s with
  | ind depth ih =>
      rw [value.eq_def]
      split
      · next rest =>
          split
          · next hdepth =>
              have hitems := items_leaves (fun t => ih (depth - 2) (by omega) t)
                (rest.length + 1) rest
              have harray := hitems.imp (fun _ hp => hp.trans (List.suffix_cons '[' rest))
                fun _ hfault => hfault.of_opening (nestingCost_array rest)
              exact Leaves.map harray fun _ _ => List.suffix_rfl
          · next hdepth =>
              apply Outcome.ensures_aborted
              apply Excess.nesting
              rw [nestingCost_array]
              omega
      · next rest =>
          have hblanks : dropBlanks rest <:+ '{' :: rest :=
            (dropBlanks_suffix rest).trans (List.suffix_cons '{' rest)
          split
          · next after hafter =>
              rw [hafter] at hblanks
              exact leaves_ok ((List.suffix_cons '}' after).trans hblanks)
          · next hne =>
              split
              · next hdepth =>
                  have hpairs := pairs_leaves (fun t => ih (depth - 3) (by omega) t)
                    ((dropBlanks rest).length + 1) [] [] (dropBlanks rest)
                  have htable := (hpairs.of_part (dropBlanks_suffix rest)).imp
                    (fun _ hp => hp.trans (List.suffix_cons '{' rest))
                    fun _ hfault => hfault.of_opening (nestingCost_table rest)
                  exact Leaves.map htable fun _ _ => List.suffix_rfl
              · next hdepth =>
                  apply Outcome.ensures_aborted
                  apply Excess.nesting
                  rw [nestingCost_table]
                  omega
      · split
        · exact (text_leaves s).map fun _ _ => List.suffix_rfl
        · split
          · exact leaves_ok (List.drop_suffix 4 s)
          · split
            · exact leaves_ok (List.drop_suffix 5 s)
            · split
              · next reading hmoment => exact moment?_leaves hmoment
              · exact number_leaves s

end BuildVersion.Toml
