import BuildVersion.Proofs.Outcome
import BuildVersion.Toml.Document

namespace BuildVersion.Toml

variable {α β : Type} {E : Fault → Prop} {s t : List Char}

/-- A reading of a text leaves one of its ends; a fault that cuts it short has `E`. -/
def Leaves (s : List Char) (E : Fault → Prop) (x : Reading α) : Prop :=
  x.Ensures (fun p => p.2 <:+ s) E

theorem leaves_ok {a : α} (hst : t <:+ s) : Leaves s E (.ok (a, t)) :=
  Outcome.ensures_ok hst

theorem leaves_illformed : Leaves s E (illformed : Reading α) :=
  Outcome.ensures_err _

namespace Leaves

variable {x : Reading α}

theorem of_suffix (hx : Leaves t E x) (hts : t <:+ s) : Leaves s E x :=
  hx.mono fun _ hrest => hrest.trans hts

theorem cons (hx : Leaves t E x) (c : Char) : Leaves (c :: t) E x :=
  hx.of_suffix (List.suffix_cons c t)

theorem bind {f : α × List Char → Reading β} (hx : Leaves s E x)
    (hf : ∀ a rest, rest <:+ s → Leaves s E (f (a, rest))) : Leaves s E (x.bind f) :=
  Outcome.Ensures.bind hx fun p hp => hf p.1 p.2 hp

theorem map {f : α × List Char → β × List Char} (hx : Leaves s E x)
    (hf : ∀ a rest, (f (a, rest)).2 <:+ rest) : Leaves s E (x.map f) :=
  Outcome.Ensures.map hx fun p hp => (hf p.1 p.2).trans hp

end Leaves

theorem dropBlanks_suffix (s : List Char) : dropBlanks s <:+ s :=
  List.dropWhile_suffix isBlank

theorem afterComment_ensures (s : List Char) : (afterComment s).Ensures (· <:+ s) E := by
  induction s with
  | nil => exact Outcome.ensures_ok List.suffix_rfl
  | cons c rest ih =>
      rw [afterComment]
      split
      · exact Outcome.ensures_ok List.suffix_rfl
      · split
        · exact Outcome.ensures_err _
        · exact ih.mono fun _ hrest => hrest.trans (List.suffix_cons c rest)

theorem skipComment_ensures (s : List Char) : (skipComment s).Ensures (· <:+ s) E := by
  unfold skipComment
  split
  · next rest =>
      exact (afterComment_ensures rest).mono fun _ hrest => hrest.trans (List.suffix_cons '#' rest)
  · exact Outcome.ensures_ok List.suffix_rfl

theorem skipFiller_ensures (s : List Char) : (skipFiller s).Ensures (· <:+ s) E := by
  fun_induction skipFiller s with
  | case1 s comment hdrop rest hcomment ih =>
      have hrest := (afterComment_ensures (E := E) comment).of_ok rest hcomment
      have hcomment : '#' :: comment <:+ s := by
        rw [← hdrop]
        exact List.dropWhile_suffix isBlankOrNewline
      have hs : rest <:+ s := (hrest.trans (List.suffix_cons '#' comment)).trans hcomment
      exact ih.mono fun _ hrest => hrest.trans hs
  | case2 s comment hdrop e hcomment => exact Outcome.ensures_err e
  | case3 s comment hdrop fault hcomment =>
      exact Outcome.ensures_aborted ((afterComment_ensures comment).of_aborted fault hcomment)
  | case4 s hdrop => exact Outcome.ensures_ok (List.dropWhile_suffix isBlankOrNewline)

theorem codePoint_leaves (width : Nat) (s : List Char) : Leaves s E (codePoint width s) := by
  unfold codePoint
  split
  · split
    · split
      · exact leaves_ok (List.drop_suffix width s)
      · exact leaves_illformed
    · exact leaves_illformed
  · exact leaves_illformed

theorem skipLineEnd_ensures (s : List Char) : (skipLineEnd s).Ensures (· <:+ s) E := by
  unfold skipLineEnd
  have hblanks := dropBlanks_suffix s
  split
  · exact Outcome.ensures_ok (List.nil_suffix)
  · next rest hrest =>
      rw [hrest] at hblanks
      have hdrop : rest.dropWhile isBlankOrNewline <:+ rest :=
        List.dropWhile_suffix isBlankOrNewline
      exact Outcome.ensures_ok ((hdrop.trans (List.suffix_cons '\n' rest)).trans hblanks)
  · exact Outcome.ensures_err _

theorem escape_leaves (multiline : Bool) (s : List Char) : Leaves s E (escape multiline s) := by
  unfold escape
  split
  case h_8 rest => exact ((codePoint_leaves 4 rest).map fun _ _ => List.suffix_rfl).cons 'u'
  case h_9 rest => exact ((codePoint_leaves 8 rest).map fun _ _ => List.suffix_rfl).cons 'U'
  case h_10 c rest _ _ _ _ _ _ _ _ _ =>
    split
    · exact (skipLineEnd_ensures (c :: rest)).map fun _ hrest => hrest
    · exact leaves_illformed
  case h_11 => exact leaves_illformed
  all_goals exact leaves_ok (List.suffix_cons _ _)

theorem quotedChars_leaves (multiline : Bool) (s : List Char) :
    Leaves s E (quotedChars multiline s) := by
  fun_induction quotedChars multiline s with
  | case1 => exact leaves_illformed
  | case2 rest => exact leaves_ok (List.suffix_cons '"' rest)
  | case3 rest => exact leaves_ok ((List.drop_suffix 2 rest).trans (List.suffix_cons '"' rest))
  | case4 rest _ _ ih => exact (ih.map fun _ _ => List.suffix_rfl).cons '"'
  | case5 rest escaped after hescape _ ih =>
      have hafter := (escape_leaves (E := E) multiline rest).of_ok _ hescape
      exact ((ih.map fun _ _ => List.suffix_rfl).of_suffix hafter).cons '\\'
  | case6 => exact Outcome.ensures_err _
  | case7 rest fault hescape =>
      exact Outcome.ensures_aborted ((escape_leaves multiline rest).of_aborted fault hescape)
  | case8 => exact leaves_illformed
  | case9 c rest _ _ _ ih => exact (ih.map fun _ _ => List.suffix_rfl).cons c

theorem literalChars_leaves (multiline : Bool) (s : List Char) :
    Leaves s E (literalChars multiline s) := by
  induction s with
  | nil => exact leaves_illformed
  | cons c rest ih =>
      rw [literalChars]
      split
      · apply leaves_ok
        split
        · exact (List.drop_suffix 2 rest).trans (List.suffix_cons c rest)
        · exact List.suffix_cons c rest
      · split
        · exact leaves_illformed
        · exact (ih.map fun _ _ => List.suffix_rfl).cons c

theorem closingMarks_suffix (mark : Char) (cs rest : List Char) :
    (closingMarks mark (cs, rest)).2 <:+ rest := by
  rcases rest with _ | ⟨a, _ | ⟨b, rest⟩⟩
  · exact List.suffix_rfl
  · rw [closingMarks]
    split
    · exact List.nil_suffix
    · exact List.suffix_rfl
  · rw [closingMarks]
    split
    · split
      · exact (List.suffix_cons b rest).trans (List.suffix_cons a (b :: rest))
      · exact List.suffix_cons a (b :: rest)
    · exact List.suffix_rfl

theorem dropFirstNewline_suffix (s : List Char) : dropFirstNewline s <:+ s := by
  unfold dropFirstNewline
  split
  · exact List.suffix_cons _ _
  · exact List.suffix_rfl

theorem lineText_leaves (s : List Char) : Leaves s E (lineText s) := by
  unfold lineText
  split
  · next rest => exact ((quotedChars_leaves false rest).map fun _ _ => List.suffix_rfl).cons '"'
  · next rest => exact ((literalChars_leaves false rest).map fun _ _ => List.suffix_rfl).cons '\''
  · exact leaves_illformed

theorem text_leaves (s : List Char) : Leaves s E (text s) := by
  unfold text
  split
  case h_1 rest =>
    have hchars := (quotedChars_leaves true (dropFirstNewline rest)).of_suffix (E := E)
      (dropFirstNewline_suffix rest)
    refine (((hchars.map ?_).cons '"').cons '"').cons '"'
    exact fun cs after => closingMarks_suffix '"' cs after
  case h_2 rest =>
    have hchars := (literalChars_leaves true (dropFirstNewline rest)).of_suffix (E := E)
      (dropFirstNewline_suffix rest)
    refine (((hchars.map ?_).cons '\'').cons '\'').cons '\''
    exact fun cs after => closingMarks_suffix '\'' cs after
  case h_3 rest _ =>
    exact ((quotedChars_leaves false rest).map fun _ _ => List.suffix_rfl).cons '"'
  case h_4 rest _ =>
    exact ((literalChars_leaves false rest).map fun _ _ => List.suffix_rfl).cons '\''
  case h_5 => exact leaves_illformed

theorem keyName_leaves (s : List Char) : Leaves s E (keyName s) := by
  simp only [keyName]
  split
  · exact lineText_leaves s
  · exact leaves_ok (List.drop_suffix _ s)

theorem keyNames_leaves (fuel : Nat) (s : List Char) : Leaves s E (keyNames fuel s) := by
  induction fuel generalizing s with
  | zero => exact leaves_illformed
  | succ fuel ih =>
      rw [keyNames]
      apply (keyName_leaves s).bind
      intro name rest hrest
      have hblanks : dropBlanks rest <:+ s := (dropBlanks_suffix rest).trans hrest
      dsimp only
      split
      · next after hafter =>
          rw [hafter] at hblanks
          have hnames := (ih (dropBlanks after)).of_suffix (dropBlanks_suffix after)
          exact ((hnames.map fun _ _ => List.suffix_rfl).cons '.').of_suffix hblanks
      · exact leaves_ok hblanks

theorem key_leaves (s : List Char) : Leaves s E (key s) :=
  keyNames_leaves (s.length + 1) s

section Moments

variable {rest : List Char}

theorem fixed?_suffix {width n : Nat} (h : fixed? width s = some (n, rest)) : rest <:+ s := by
  simp only [fixed?] at h
  split at h
  · cases h
    exact List.drop_suffix width s
  · contradiction

theorem twoDigits?_suffix {low high n : Nat} (h : twoDigits? low high s = some (n, rest)) :
    rest <:+ s :=
  fixed?_suffix (Option.filter_eq_some_iff.mp h).1

theorem after?_suffix {c : Char} (h : after? c s = some rest) : rest <:+ s := by
  cases s with
  | nil => contradiction
  | cons d t =>
      rw [after?] at h
      split at h
      · cases h
        exact List.suffix_cons d rest
      · contradiction

theorem skipSecondFraction_suffix (s : List Char) : skipSecondFraction s <:+ s := by
  unfold skipSecondFraction
  split
  · next c rest =>
      split
      · have hdigits : rest.dropWhile Text.isAsciiDigit <:+ rest := List.dropWhile_suffix _
        exact (hdigits.trans (List.suffix_cons c rest)).trans (List.suffix_cons '.' (c :: rest))
      · exact List.suffix_rfl
  · exact List.suffix_rfl

theorem afterTime?_suffix (h : afterTime? s = some rest) : rest <:+ s := by
  simp only [afterTime?, Option.bind_eq_bind, Option.bind_eq_some_iff, Prod.exists,
    Option.some.injEq] at h
  obtain ⟨_, s₁, hhour, s₂, hcolon, _, s₃, hminute, s₄, hcolon', _, s₅, hsecond, rfl⟩ := h
  have hhours : s₂ <:+ s := (after?_suffix hcolon).trans (twoDigits?_suffix hhour)
  have hminutes : s₄ <:+ s₂ := (after?_suffix hcolon').trans (twoDigits?_suffix hminute)
  have hseconds : skipSecondFraction s₅ <:+ s₄ :=
    (skipSecondFraction_suffix s₅).trans (twoDigits?_suffix hsecond)
  exact (hseconds.trans hminutes).trans hhours

theorem afterOffset?_suffix (h : afterOffset? s = some rest) : rest <:+ s := by
  simp only [afterOffset?, Option.bind_eq_bind, Option.bind_eq_some_iff, Prod.exists,
    Option.some.injEq] at h
  obtain ⟨_, s₁, hhour, s₂, hcolon, _, s₃, hminute, rfl⟩ := h
  exact ((twoDigits?_suffix hminute).trans (after?_suffix hcolon)).trans (twoDigits?_suffix hhour)

theorem skipOffset_suffix (s : List Char) : skipOffset s <:+ s := by
  cases s with
  | nil => exact List.suffix_rfl
  | cons c rest =>
      simp only [skipOffset]
      split
      · exact List.suffix_cons c rest
      · split
        · cases hoffset : afterOffset? rest with
          | none => exact List.suffix_rfl
          | some after => exact (afterOffset?_suffix hoffset).trans (List.suffix_cons c rest)
        · exact List.suffix_rfl

theorem skipTime_suffix (s : List Char) : skipTime s <:+ s := by
  cases s with
  | nil => exact List.suffix_rfl
  | cons c rest =>
      simp only [skipTime]
      split
      · cases htime : afterTime? rest with
        | none => exact List.suffix_rfl
        | some after =>
            have hafter : after <:+ c :: rest :=
              (afterTime?_suffix htime).trans (List.suffix_cons c rest)
            exact (skipOffset_suffix after).trans hafter
      · exact List.suffix_rfl

theorem date?_suffix {date : Nat × Nat × Nat} (h : date? s = some (date, rest)) : rest <:+ s := by
  simp only [date?, Option.bind_eq_bind, Option.bind_eq_some_iff, Prod.exists,
    Option.some.injEq, Prod.mk.injEq] at h
  obtain ⟨_, s₁, hyear, s₂, hhyphen, _, s₃, hmonth, s₄, hhyphen', _, s₅, hday, -, rfl⟩ := h
  have hyears : s₂ <:+ s := (after?_suffix hhyphen).trans (fixed?_suffix hyear)
  have hmonths : s₄ <:+ s₂ := (after?_suffix hhyphen').trans (twoDigits?_suffix hmonth)
  exact ((twoDigits?_suffix hday).trans hmonths).trans hyears

theorem moment?_leaves {reading : Reading Settings.Value} (h : moment? s = some reading) :
    Leaves s E reading := by
  unfold moment? at h
  split at h
  · next year month day rest hdate =>
      split at h
      · cases h
        exact leaves_illformed
      · cases h
        exact leaves_ok ((skipTime_suffix rest).trans (date?_suffix hdate))
  · obtain ⟨rest, htime, rfl⟩ := Option.map_eq_some_iff.mp h
    exact leaves_ok (afterTime?_suffix htime)

end Moments

end BuildVersion.Toml
