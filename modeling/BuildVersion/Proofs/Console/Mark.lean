import BuildVersion.Proofs.Console.Tag
import BuildVersion.Proofs.Text.Pictograph

/-!
What tags cost. Brackets and backslashes are the marks of tags. Nothing that is read of a text puts
marks into what it shows; every tag, escaped or not, and every backslash before a bracket takes at
least one away. So a text that shows all its marks has no tags, and then it is a single token.
-/

namespace BuildVersion.Console.Markup

variable {s : List Char} {p : Char → Bool}

/-- Whether a character is a mark of tags: an opening bracket, or the backslash that escapes it. -/
def isMark (c : Char) : Bool :=
  c == '[' || c == '\\'

theorem isReserved_of_isMark (c : Char) (hc : isMark c = true) : Text.isReserved c = true := by
  rcases (Bool.or_eq_true _ _).mp hc with hc | hc
  · simp [Text.isReserved, hc]
  · simp [Text.isReserved, hc]

theorem unescaped_sublist (s : List Char) : (unescaped s).Sublist s := by
  induction s with
  | nil => exact List.Sublist.refl _
  | cons c rest ih =>
      rw [unescaped]
      split
      · exact ih.cons c
      · exact ih.cons_cons c

theorem countP_unescaped_lt (hs : ['\\', '['] <:+: s) :
    (unescaped s).countP isMark < s.countP isMark := by
  induction s with
  | nil => simp at hs
  | cons c rest ih =>
      have hle := (unescaped_sublist rest).countP_le (p := isMark)
      rw [unescaped]
      split
      · next hescape =>
          rw [List.countP_cons_of_pos (by simp [isMark, hescape.1])]
          omega
      · next hescape =>
          have hrest : ['\\', '['] <:+: rest := by
            rcases List.infix_cons_iff.mp hs with hprefix | hrest
            · obtain ⟨tail, htail⟩ := hprefix
              obtain ⟨rfl, rfl⟩ := List.cons.inj htail
              exact absurd ⟨rfl, rfl⟩ hescape
            · exact hrest
          have hlt := ih hrest
          rw [List.countP_cons, List.countP_cons]
          omega

def Token.shows : Token → List Char
  | .text s => shown s
  | .tag _ _ => []

theorem countP_shown_le (hp : ∀ c, p c = true → Text.isReserved c = true) (s : List Char) :
    (shown s).countP p ≤ s.countP p :=
  Nat.le_trans List.filter_sublist.countP_le (Text.countP_withPictographs_le hp s)

theorem countP_tagTokens_le (backslashes : Nat) (body : List Char) :
    ((tagTokens backslashes body).flatMap Token.shows).countP isMark ≤
      backslashes + body.countP isMark := by
  have hslashes := countP_shown_le isReserved_of_isMark (List.replicate (backslashes / 2) '\\')
  have htag := countP_shown_le isReserved_of_isMark ('[' :: body ++ [']'])
  have hbracket : isMark '[' = true := rfl
  have hclosing : isMark ']' = false := rfl
  rw [List.countP_replicate, if_pos (by rfl)] at hslashes
  rw [List.cons_append, List.countP_cons_of_pos hbracket, List.countP_append,
    List.countP_singleton, hclosing] at htag
  rw [tagTokens]
  dsimp only
  split
  · simp only [List.flatMap_cons, List.flatMap_nil, List.countP_append, Token.shows,
      List.countP_nil]
    omega
  · simp only [List.flatMap_cons, List.flatMap_nil, List.countP_append, Token.shows,
      List.countP_nil, List.cons_append, Bool.false_eq_true, if_false] at htag ⊢
    omega

theorem countP_takeWhile_backslash (s : List Char) :
    (s.takeWhile (· = '\\')).countP isMark = (s.takeWhile (· = '\\')).length := by
  refine List.countP_eq_length.mpr fun c hc => ?_
  have hbackslash : c = '\\' := by simpa using List.all_eq_true.mp List.all_takeWhile c hc
  rw [hbackslash]
  rfl

theorem countP_shown_unescaped_le (s : List Char) :
    (shown (unescaped s)).countP isMark ≤ s.countP isMark :=
  Nat.le_trans (countP_shown_le isReserved_of_isMark _) (unescaped_sublist s).countP_le

/-- A text shows no more marks than it has, and fewer if it has tags. -/
theorem countP_tokensAfter (before s : List Char) :
    ((tokensAfter before s).flatMap Token.shows).countP isMark ≤ (before ++ s).countP isMark ∧
      (¬Tagless s →
        ((tokensAfter before s).flatMap Token.shows).countP isMark <
          (before ++ s).countP isMark) := by
  have hbefore (before : List Char) :
      (shown (unescaped before.reverse)).countP isMark ≤ before.countP isMark := by
    simpa using countP_shown_unescaped_le before.reverse
  induction before, s using tokensAfter.induct with
  | case1 before =>
      rw [tokensAfter_nil, List.flatMap_singleton, List.append_nil]
      refine ⟨hbefore before, fun htagless => absurd (fun rest hrest => ?_) htagless⟩
      rw [List.suffix_nil.mp hrest]
      rfl
  | case2 before c rest body after htag ih =>
      -- the bracket of the tag is not shown, or a backslash before it is not
      have htext := congrArg (List.countP isMark) (eq_append_of_some htag)
      have hfirst := hbefore before
      have htokens := countP_tagTokens_le ((c :: rest).takeWhile (· = '\\')).length body
      have hafter := ih.1
      have hbracket : isMark '[' = true := rfl
      have hclosing : ¬isMark ']' = true := by decide
      rw [List.countP_append, countP_takeWhile_backslash, List.countP_cons_of_pos hbracket,
        List.countP_append, List.countP_cons_of_neg hclosing] at htext
      rw [tokensAfter_of_some htag, List.flatMap_cons, List.flatMap_append, List.countP_append,
        List.countP_append, List.countP_append, Token.shows]
      rw [List.nil_append] at hafter
      omega
  | case3 before c rest hnone ih =>
      rw [tokensAfter_cons_of_none hnone]
      have hcount : (c :: before ++ rest).countP isMark = (before ++ c :: rest).countP isMark := by
        simp only [List.cons_append, List.countP_cons, List.countP_append]
        omega
      rw [hcount] at ih
      exact ⟨ih.1, fun htagless => ih.2 fun hrest => htagless (tagless_cons_of_none hrest hnone)⟩

/-- A text that shows all of its marks is a single token, and nothing in it is escaped. -/
theorem tagless_of_countP_le
    (h : s.countP isMark ≤ ((tokens s).flatMap Token.shows).countP isMark) :
    Tagless s ∧ ¬['\\', '['] <:+: s := by
  have hs := countP_tokensAfter [] s
  rw [tokens] at h
  rw [List.nil_append] at hs
  have htagless : Tagless s := by
    refine Classical.byContradiction fun htags => ?_
    have hlt := hs.2 htags
    omega
  refine ⟨htagless, fun hescape => ?_⟩
  have hlt := countP_unescaped_lt hescape
  rw [tokensAfter_of_tagless htagless, List.reverse_nil, List.nil_append, List.flatMap_singleton,
    Token.shows] at h
  have hle := countP_shown_le isReserved_of_isMark (unescaped s)
  omega

end BuildVersion.Console.Markup
