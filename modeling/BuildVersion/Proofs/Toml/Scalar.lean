import BuildVersion.Proofs.Number.Numeral
import BuildVersion.Proofs.Toml.Spelling
import BuildVersion.Toml.Value

namespace BuildVersion

theorem Numeral.isAsciiDigit_of_mem_digits (n : Nat) :
    ∀ c ∈ digits n, Text.isAsciiDigit c = true := by
  have hdigit : ∀ d < 10, Text.isAsciiDigit (Nat.digitChar d) = true := by decide
  induction n using Nat.strongRecOn with
  | ind n ih =>
      intro c hc
      by_cases hn : n < 10
      · rw [digits_of_lt hn, List.mem_singleton] at hc
        rw [hc]
        exact hdigit n hn
      · rw [digits_of_le (by omega), List.mem_append, List.mem_singleton] at hc
        obtain hc | rfl := hc
        · exact ih (n / 10) (by omega) c hc
        · exact hdigit (n % 10) (by omega)

theorem Numeral.exists_digits_eq_cons (n : Nat) :
    ∃ c s, digits n = c :: s ∧ Text.isAsciiDigit c = true := by
  have hall := isAsciiDigit_of_mem_digits n
  obtain hzero | ⟨c, s, hdigits, -, -⟩ := digits_eq_cons n
  · exact ⟨'0', [], hzero, rfl⟩
  · exact ⟨c, s, hdigits, hall c (hdigits ▸ List.mem_cons_self)⟩

namespace Toml

open Settings (Value)

/-- What can follow a value on its line, with the lines after it. -/
def EndsLine (rest : List Char) : Prop :=
  rest = [] ∨ ∃ next, rest = '\n' :: next

variable {s rest : List Char}

theorem EndsLine.head?_ne (hrest : EndsLine rest) {c : Char} (hc : c ≠ '\n') :
    rest.head? ≠ some c := by
  obtain rfl | ⟨next, rfl⟩ := hrest
  · simp
  · rintro ⟨⟩
    contradiction

/-- A numeral of fixed width ends before the line does. -/
theorem exists_of_fixed?_append {width : Nat} {p : Nat × List Char}
    (hrest : EndsLine rest) (h : fixed? width (s ++ rest) = some p) :
    ∃ t, t <:+ s ∧ p.2 = t ++ rest := by
  simp only [fixed?, Option.ite_none_right_eq_some, Option.some.injEq] at h
  obtain ⟨⟨hlength, hdigits⟩, rfl⟩ := h
  by_cases hwidth : width ≤ s.length
  · exact ⟨s.drop width, List.drop_suffix width s, List.drop_append_of_le_length hwidth⟩
  · -- The line end would be one of the digits.
    obtain ⟨k, rfl⟩ : ∃ k, width = s.length + (k + 1) := ⟨width - s.length - 1, by omega⟩
    rw [List.take_length_add_append] at hlength hdigits
    obtain rfl | ⟨next, rfl⟩ := hrest
    · simp at hlength
    · simp [Text.isAsciiDigit] at hdigits

section Digits

variable (hs : ∀ c ∈ s, Text.isAsciiDigit c = true) (hrest : EndsLine rest)

include hs hrest

theorem digits_append : digits Text.isAsciiDigit (s ++ rest) = (s, rest) := by
  induction s with
  | nil => obtain rfl | ⟨next, rfl⟩ := hrest <;> rfl
  | cons c s ih =>
      obtain ⟨hc, hs⟩ := List.forall_mem_cons.mp hs
      have hne : c ≠ '_' := by
        rintro rfl
        contradiction
      rw [List.cons_append, digits.eq_2]
      · rw [if_pos hc, ih hs]
      · intro d t hunderscore
        exact absurd hunderscore hne

theorem after?_append {c : Char} (hc : Text.isAsciiDigit c = false) (hnewline : c ≠ '\n') :
    after? c (s ++ rest) = none := by
  have hhead : (s ++ rest).head? ≠ some c := by
    cases s with
    | nil => exact hrest.head?_ne hnewline
    | cons d s =>
        rintro ⟨⟩
        rw [hs c List.mem_cons_self] at hc
        contradiction
  cases hall : s ++ rest with
  | nil => rfl
  | cons d t =>
      rw [after?, if_neg]
      rintro rfl
      rw [hall] at hhead
      exact hhead rfl

theorem date?_append : date? (s ++ rest) = none := by
  unfold date?
  cases hyear : fixed? 4 (s ++ rest) with
  | none => rfl
  | some p =>
      obtain ⟨t, ht, hp⟩ := exists_of_fixed?_append hrest hyear
      have hafter : after? '-' p.2 = none := by
        rw [hp]
        exact after?_append (fun c hc => hs c (ht.subset hc)) hrest (by decide) (by decide)
      simp [hafter]

theorem afterTime?_append : afterTime? (s ++ rest) = none := by
  unfold afterTime?
  cases hhour : twoDigits? 0 23 (s ++ rest) with
  | none => rfl
  | some p =>
      obtain ⟨t, ht, hp⟩ :=
        exists_of_fixed?_append hrest (Option.filter_eq_some_iff.mp hhour).1
      have hafter : after? ':' p.2 = none := by
        rw [hp]
        exact after?_append (fun c hc => hs c (ht.subset hc)) hrest (by decide) (by decide)
      simp [hafter]

/-- No moment is written with digits alone. -/
theorem moment?_append : moment? (s ++ rest) = none := by
  rw [moment?, date?_append hs hrest, afterTime?_append hs hrest]
  rfl

end Digits

theorem value_of_isAsciiDigit {c : Char} (hc : Text.isAsciiDigit c = true)
    (hmoment : moment? (c :: s) = none) (depth : Nat) : value depth (c :: s) = number (c :: s) := by
  have hne : ∀ {d : Char}, Text.isAsciiDigit d = false → c ≠ d := by
    rintro d hd rfl
    rw [hc] at hd
    contradiction
  rw [value.eq_def]
  split
  · next h => exact absurd (List.cons.inj h).1 (hne (by decide))
  · next h => exact absurd (List.cons.inj h).1 (hne (by decide))
  · have hquote : c ≠ '"' := hne (by decide)
    have happostrophe : c ≠ '\'' := hne (by decide)
    have ht : c ≠ 't' := hne (by decide)
    have hf : c ≠ 'f' := hne (by decide)
    simp [hquote, happostrophe, ht.symm, hf.symm, hmoment]

theorem fraction?_of_endsLine (hrest : EndsLine rest) : fraction? rest = none := by
  obtain rfl | ⟨next, rfl⟩ := hrest <;> rfl

theorem exponent?_of_endsLine (hrest : EndsLine rest) : exponent? rest = none := by
  obtain rfl | ⟨next, rfl⟩ := hrest <;> rfl

theorem based?_digits (n : Nat) (hrest : EndsLine rest) :
    based? (Numeral.digits n ++ rest) = none := by
  obtain hzero | ⟨c, s, hdigits, hc, -⟩ := Numeral.digits_eq_cons n
  · rw [hzero]
    obtain rfl | ⟨next, rfl⟩ := hrest <;> rfl
  · rw [hdigits, List.cons_append, based?]
    intro letter t hcons
    rw [(List.cons.inj hcons).1] at hc
    contradiction

theorem integral?_digits (n : Nat) (hrest : EndsLine rest) :
    integral? (Numeral.digits n ++ rest) = some (Numeral.digits n, rest) := by
  have hall := digits_append (Numeral.isAsciiDigit_of_mem_digits n) hrest
  obtain hzero | ⟨c, s, hdigits, hc, -⟩ := Numeral.digits_eq_cons n
  · rw [hzero]
    rfl
  · obtain ⟨hzero, hascii⟩ := Text.isLeadingDigit_iff.mp hc
    rw [hdigits, List.cons_append] at hall ⊢
    rw [integral?, if_pos hascii, hall]
    exact hzero

theorem sign_digits (n : Nat) (rest : List Char) :
    sign (Numeral.digits n ++ rest) = (false, Numeral.digits n ++ rest) := by
  obtain ⟨c, s, hdigits, hc⟩ := Numeral.exists_digits_eq_cons n
  rw [hdigits, List.cons_append]
  unfold sign
  split
  · next h =>
      rw [(List.cons.inj h).1] at hc
      contradiction
  · next h =>
      rw [(List.cons.inj h).1] at hc
      contradiction
  · rfl

theorem number_digits {n : Nat} (hn : (Numeral.digits n).length ≤ Numeral.maxDigits)
    (hrest : EndsLine rest) :
    number (Numeral.digits n ++ rest) = .ok (.integer n, rest) := by
  have hdecimal : decimal? (Numeral.digits n ++ rest) = some (.ok (.integer n, rest)) := by
    simp only [decimal?, sign_digits, integral?_digits n hrest, fraction?_of_endsLine hrest,
      exponent?_of_endsLine hrest, Option.map_none, Option.getD_none, Option.isNone_none,
      Bool.and_self, if_true, if_neg (Nat.not_lt.mpr hn), Numeral.value_digits]
    rfl
  rw [number, based?_digits n hrest, hdecimal]

/-- How texts and integers are written. -/
inductive Writes : (w : List Char) → Value → Prop
  | text {w : List Char} {t : String} (hw : Spells w t.toList) :
      Writes ('"' :: (w ++ ['"'])) (.text t)
  | integer {n : Nat} (hn : (Numeral.digits n).length ≤ Numeral.maxDigits) :
      Writes (Numeral.digits n) (.integer n)

theorem Writes.le_toNat_of_mem {w : List Char} {v : Value} (hw : Writes w v) :
    ∀ c ∈ w, 0x20 ≤ c.toNat := by
  cases hw with
  | text hw =>
      refine List.forall_mem_cons.mpr ⟨by decide, List.forall_mem_append.mpr ⟨?_, ?_⟩⟩
      · exact hw.le_toNat_of_mem
      · exact List.forall_mem_singleton.mpr (by decide)
  | @integer n _ =>
      intro c hc
      have hdigit := Numeral.isAsciiDigit_of_mem_digits n c hc
      simp only [Text.isAsciiDigit, Bool.and_eq_true, decide_eq_true_eq, Text.char_le_iff,
        Char.reduceToNat] at hdigit
      omega

theorem value_of_writes {w : List Char} {v : Value} (hw : Writes w v) (hrest : EndsLine rest)
    (depth : Nat) : value depth (w ++ rest) = .ok (v, rest) := by
  cases hw with
  | @text w t hw =>
      have htext := text_spells hw (hrest.head?_ne (by decide))
      rw [String.ofList_toList] at htext
      rw [value.eq_def]
      simp [htext]
  | @integer n hn =>
      have hmoment := moment?_append (Numeral.isAsciiDigit_of_mem_digits n) hrest
      rw [← number_digits hn hrest]
      obtain ⟨c, s, hdigits, hc⟩ := Numeral.exists_digits_eq_cons n
      rw [hdigits] at hmoment ⊢
      exact value_of_isAsciiDigit hc hmoment depth

end Toml

end BuildVersion
