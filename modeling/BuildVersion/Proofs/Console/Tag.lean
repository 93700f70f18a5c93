import BuildVersion.Console.Markup

namespace BuildVersion.Console.Markup

variable {s before body after : List Char}

section Tags

theorem tag?_of_head_ne {c : Char} (hc : c ≠ '[') (rest : List Char) : tag? (c :: rest) = none := by
  unfold tag?
  split
  · next heq => exact absurd (List.cons.inj heq).1 hc
  · rfl

theorem tagBody?_append {name : List Char} (hname : ∀ c ∈ name, c ≠ '[' ∧ c ≠ ']')
    (rest : List Char) : tagBody? (name ++ ']' :: rest) = some (name, rest) := by
  induction name with
  | nil => rfl
  | cons c name ih =>
      obtain ⟨⟨hopen, hclose⟩, hname⟩ := List.forall_mem_cons.mp hname
      rw [List.cons_append, tagBody?, if_neg hclose, if_neg hopen, ih hname]
      rfl

theorem tag?_append {c : Char} (hc : opensTag c = true) {name : List Char}
    (hname : ∀ d ∈ name, d ≠ '[' ∧ d ≠ ']') (rest : List Char) :
    tag? ('[' :: c :: (name ++ ']' :: rest)) = some (c :: name, rest) := by
  rw [tag?, if_pos hc, tagBody?_append hname]
  rfl

theorem eq_append_of_tagBody? (h : tagBody? s = some (body, after)) :
    s = body ++ ']' :: after ∧ ∀ d ∈ body, d ≠ '[' ∧ d ≠ ']' := by
  induction s generalizing body with
  | nil => contradiction
  | cons c rest ih =>
      rw [tagBody?] at h
      split at h
      · next hc =>
          obtain ⟨rfl, rfl⟩ : [] = body ∧ rest = after := by simpa using h
          rw [hc, List.nil_append]
          exact ⟨rfl, fun _ hd => absurd hd List.not_mem_nil⟩
      · next hclosing =>
          split at h
          · contradiction
          · next hopening =>
              obtain ⟨⟨name, left⟩, hname, hpair⟩ := Option.map_eq_some_iff.mp h
              obtain ⟨rfl, rfl⟩ : c :: name = body ∧ left = after := by simpa using hpair
              obtain ⟨rfl, hbare⟩ := ih hname
              exact ⟨rfl, List.forall_mem_cons.mpr ⟨⟨hopening, hclosing⟩, hbare⟩⟩

theorem eq_append_of_tag? (h : tag? s = some (body, after)) :
    ∃ c name, body = c :: name ∧ opensTag c = true ∧ (∀ d ∈ name, d ≠ '[' ∧ d ≠ ']') ∧
      s = '[' :: c :: (name ++ ']' :: after) := by
  unfold tag? at h
  split at h
  · next c rest =>
      split at h
      · next hc =>
          obtain ⟨⟨name, left⟩, hname, hpair⟩ := Option.map_eq_some_iff.mp h
          obtain ⟨rfl, rfl⟩ : c :: name = body ∧ left = after := by simpa using hpair
          obtain ⟨rfl, hbare⟩ := eq_append_of_tagBody? hname
          exact ⟨c, name, rfl, hc, hbare, rfl⟩
      · contradiction
  · contradiction

/-- Whether no tag stands anywhere in a text, escaped or not. -/
def Tagless (s : List Char) : Prop :=
  ∀ rest, rest <:+ s → tag? rest = none

theorem tagless_of_notMem (hs : '[' ∉ s) : Tagless s := by
  intro rest hrest
  cases rest with
  | nil => rfl
  | cons c rest =>
      refine tag?_of_head_ne (fun hc => hs ?_) rest
      exact hrest.subset (by rw [hc]; exact List.mem_cons_self)

theorem tagless_cons_of_none {c : Char} {rest : List Char} (hrest : Tagless rest)
    (hnone : tag? ((c :: rest).dropWhile (· = '\\')) = none) : Tagless (c :: rest) := by
  intro left hleft
  rcases List.suffix_cons_iff.mp hleft with rfl | hleft
  · by_cases hc : c = '\\'
    · exact tag?_of_head_ne (by rw [hc]; decide) rest
    · rwa [List.dropWhile_cons_of_neg (by simpa using hc)] at hnone
  · exact hrest left hleft

end Tags

section Escapes

theorem unescaped_of_not_infix (hs : ¬['\\', '['] <:+: s) : unescaped s = s := by
  induction s with
  | nil => rfl
  | cons c rest ih =>
      have hhead : ¬(c = '\\' ∧ rest.head? = some '[') := by
        rintro ⟨rfl, hbracket⟩
        obtain ⟨tail, rfl⟩ := List.head?_eq_some_iff.mp hbracket
        exact hs ⟨[], tail, rfl⟩
      rw [unescaped, if_neg hhead, ih fun hrest => hs (List.infix_cons hrest)]

theorem not_escape_infix_of_notMem (hs : '[' ∉ s) : ¬['\\', '['] <:+: s :=
  fun h => hs (h.subset (by simp))

theorem unescaped_of_notMem (hs : '[' ∉ s) : unescaped s = s :=
  unescaped_of_not_infix (not_escape_infix_of_notMem hs)

end Escapes

section Tokens

theorem tokensAfter_nil (before : List Char) :
    tokensAfter before [] = [.text (unescaped before.reverse)] := by
  rw [tokensAfter]

theorem tokensAfter_cons_of_none {c : Char} {rest : List Char}
    (hnone : tag? ((c :: rest).dropWhile (· = '\\')) = none) :
    tokensAfter before (c :: rest) = tokensAfter (c :: before) rest := by
  rw [tokensAfter]
  split
  · next body after htag => rw [hnone] at htag; contradiction
  · rfl

theorem tokensAfter_of_some (htag : tag? (s.dropWhile (· = '\\')) = some (body, after))
    (before : List Char) :
    tokensAfter before s =
      .text (unescaped before.reverse) ::
        (tagTokens (s.takeWhile (· = '\\')).length body ++ tokensAfter [] after) := by
  cases s with
  | nil => contradiction
  | cons c rest =>
      rw [tokensAfter]
      split
      · next found left hfound =>
          obtain ⟨rfl, rfl⟩ : body = found ∧ after = left := by
            simpa using htag.symm.trans hfound
          rfl
      · next hnone =>
          rw [htag] at hnone
          contradiction

theorem tokensAfter_of_tag (htag : tag? s = some (body, after)) (before : List Char) :
    tokensAfter before s =
      .text (unescaped before.reverse) :: (tagTokens 0 body ++ tokensAfter [] after) := by
  obtain ⟨c, name, -, -, -, rfl⟩ := eq_append_of_tag? htag
  exact tokensAfter_of_some (s := '[' :: c :: (name ++ ']' :: after)) htag before

/-- A text up to the end of its first tag: backslashes, and the tag between its brackets. -/
theorem eq_append_of_some (htag : tag? (s.dropWhile (· = '\\')) = some (body, after)) :
    s = s.takeWhile (· = '\\') ++ '[' :: (body ++ ']' :: after) := by
  obtain ⟨c, name, rfl, -, -, hrest⟩ := eq_append_of_tag? htag
  rw [List.cons_append, ← hrest, List.takeWhile_append_dropWhile]

theorem tokensAfter_append_of_plain {word : List Char}
    (hword : ∀ c ∈ word, c ≠ '[' ∧ c ≠ '\\') :
    tokensAfter before (word ++ s) = tokensAfter (word.reverse ++ before) s := by
  induction word generalizing before with
  | nil => rfl
  | cons c rest ih =>
      obtain ⟨⟨hbracket, hslash⟩, hrest⟩ := List.forall_mem_cons.mp hword
      have hnone : tag? ((c :: (rest ++ s)).dropWhile (· = '\\')) = none := by
        rw [List.dropWhile_cons_of_neg (by simpa using hslash)]
        exact tag?_of_head_ne hbracket _
      rw [List.cons_append, tokensAfter_cons_of_none hnone, ih hrest, List.reverse_cons,
        List.append_assoc]
      rfl

theorem tokensAfter_of_tagless (hs : Tagless s) (before : List Char) :
    tokensAfter before s = [.text (unescaped (before.reverse ++ s))] := by
  induction s generalizing before with
  | nil => rw [tokensAfter_nil, List.append_nil]
  | cons c rest ih =>
      have hrest : Tagless rest := fun left hleft =>
        hs left (hleft.trans (List.suffix_cons c rest))
      rw [tokensAfter_cons_of_none (hs _ (List.dropWhile_suffix _)), ih hrest, List.reverse_cons,
        List.append_assoc]
      rfl

theorem tokens_of_tagless (hs : Tagless s) (hescape : ¬['\\', '['] <:+: s) :
    tokens s = [.text s] := by
  rw [tokens, tokensAfter_of_tagless hs, List.reverse_nil, List.nil_append,
    unescaped_of_not_infix hescape]

theorem tokens_of_notMem (hs : '[' ∉ s) : tokens s = [.text s] :=
  tokens_of_tagless (tagless_of_notMem hs) (not_escape_infix_of_notMem hs)

end Tokens

end BuildVersion.Console.Markup
