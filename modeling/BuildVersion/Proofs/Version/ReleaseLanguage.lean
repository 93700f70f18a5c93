import Mathlib.Computability.Language
import BuildVersion.Proofs.Text.Digit
import BuildVersion.Version.Release

/-!
The language of release builds. A matcher puts a language of its own in front of the texts that
its continuation accepts, so the recogniser accepts a product of languages. Matchers that go
through the text in a loop satisfy a linear equation of languages, which Arden's lemma solves.
-/

namespace BuildVersion.Version.Release

open scoped Computability

def accepted (k : Accepts) : Language Char := {s | k s = true}

theorem mem_accepted {k : Accepts} {s : List Char} : s ∈ accepted k ↔ k s = true := Iff.rfl

/-- The words of one character of a class. -/
def letter (p : Char → Bool) : Language Char := {w | ∃ c, w = [c] ∧ p c = true}

/-- The words of at least `low` and at most `low + extra` characters of a class. -/
def between (p : Char → Bool) (low extra : Nat) : Language Char :=
  {w | low ≤ w.length ∧ w.length ≤ low + extra ∧ ∀ c ∈ w, p c = true}

theorem mem_between {p : Char → Bool} {low extra : Nat} {w : List Char} :
    w ∈ between p low extra ↔
      low ≤ w.length ∧ w.length ≤ low + extra ∧ ∀ c ∈ w, p c = true := Iff.rfl

theorem ext_cons {L M : Language Char} (hnil : [] ∈ L ↔ [] ∈ M)
    (hcons : ∀ c s, c :: s ∈ L ↔ c :: s ∈ M) : L = M := by
  ext w
  cases w with
  | nil => exact hnil
  | cons c s => exact hcons c s

section Letter

variable {p : Char → Bool} {L M : Language Char} {c : Char} {s w : List Char}

theorem nil_notMem_letter : [] ∉ letter p := by
  rintro ⟨c, hc, -⟩
  exact List.cons_ne_nil c [] hc.symm

theorem nil_notMem_letter_mul : [] ∉ letter p * L := by
  rintro ⟨a, ⟨c, rfl, -⟩, b, -, hab⟩
  exact List.cons_ne_nil c b hab

theorem cons_mem_letter_mul : c :: s ∈ letter p * L ↔ p c = true ∧ s ∈ L := by
  constructor
  · rintro ⟨a, ⟨d, rfl, hd⟩, b, hb, hab⟩
    obtain ⟨rfl, rfl⟩ := List.cons.inj hab
    exact ⟨hd, hb⟩
  · rintro ⟨hc, hs⟩
    exact ⟨[c], ⟨c, rfl, hc⟩, s, hs, rfl⟩

theorem nil_mem_letter_mul_add : [] ∈ letter p * L + M ↔ [] ∈ M := by
  rw [Language.mem_add]
  exact or_iff_right nil_notMem_letter_mul

theorem cons_mem_letter_mul_add :
    c :: s ∈ letter p * L + M ↔ (p c = true ∧ s ∈ L) ∨ c :: s ∈ M := by
  rw [Language.mem_add, cons_mem_letter_mul]

theorem mem_kstar_letter : w ∈ (letter p)∗ ↔ ∀ c ∈ w, p c = true := by
  induction w with
  | nil => simp [Language.nil_mem_kstar]
  | cons c w ih =>
      rw [← Language.one_add_self_mul_kstar_eq_kstar, add_comm, cons_mem_letter_mul_add, ih]
      simp

theorem mem_letter_mul_kstar : w ∈ letter p * (letter p)∗ ↔ w ≠ [] ∧ ∀ c ∈ w, p c = true := by
  cases w with
  | nil => simp [nil_notMem_letter_mul]
  | cons c w => simp [cons_mem_letter_mul, mem_kstar_letter]

theorem letter_beq (c : Char) : letter (c == ·) = {[c]} := by
  ext w
  constructor
  · rintro ⟨d, rfl, hd⟩
    rw [beq_iff_eq.mp hd]
    rfl
  · rintro rfl
    exact ⟨c, rfl, beq_self_eq_true c⟩

theorem cons_mem_singleton_mul : c :: s ∈ ({[c]} * L : Language Char) ↔ s ∈ L := by
  rw [← letter_beq, cons_mem_letter_mul]
  exact and_iff_right (beq_self_eq_true c)

theorem cons_append_mem_singleton_mul (hw : w ∈ L) (hs : s ∈ M) :
    c :: (w ++ s) ∈ ({[c]} * (L * M) : Language Char) :=
  cons_mem_singleton_mul.mpr (Language.append_mem_mul hw hs)

theorem between_zero_zero : between p 0 0 = 1 := by
  refine ext_cons ?_ ?_
  · simp [mem_between]
  · intro c s
    simp [mem_between]

theorem between_zero_succ (extra : Nat) :
    between p 0 (extra + 1) = letter p * between p 0 extra + 1 := by
  refine ext_cons ?_ ?_
  · rw [nil_mem_letter_mul_add]
    simp [mem_between]
  · intro c s
    rw [cons_mem_letter_mul_add]
    simp [mem_between, and_left_comm]

theorem between_succ (low extra : Nat) :
    between p (low + 1) extra = letter p * between p low extra := by
  refine ext_cons ?_ ?_
  · exact iff_of_false (by simp [mem_between]) nil_notMem_letter_mul
  · intro c s
    rw [cons_mem_letter_mul, mem_between, mem_between, List.length_cons, List.forall_mem_cons,
      Nat.add_right_comm, Nat.add_le_add_iff_right, Nat.add_le_add_iff_right]
    tauto

end Letter

section Matchers

variable (k : Accepts)

theorem accepted_character (c : Char) :
    accepted (character c k) = {[c]} * accepted k := by
  rw [← letter_beq]
  refine ext_cons ?_ ?_
  · exact iff_of_false (by simp [mem_accepted, character]) nil_notMem_letter_mul
  · intro d s
    rw [cons_mem_letter_mul, mem_accepted, mem_accepted, character, Bool.and_eq_true]

theorem accepted_literal (pattern : List Char) :
    accepted (literal pattern k) = {pattern} * accepted k := by
  induction pattern with
  | nil => exact (one_mul (accepted k)).symm
  | cons c pattern ih =>
      have hpattern : ({[c]} * {pattern} : Language Char) = {c :: pattern} :=
        Set.image2_singleton
      rw [literal, accepted_character, ih, ← mul_assoc, hpattern]

theorem accepted_optional {m : Accepts → Accepts} {L : Language Char}
    (hm : accepted (m k) = L * accepted k) :
    accepted (optional m k) = (L + 1) * accepted k := by
  rw [add_mul, one_mul, ← hm]
  ext s
  rw [Language.mem_add, mem_accepted, mem_accepted, mem_accepted, optional, Bool.or_eq_true]

theorem accepted_digits : accepted (digits k) = (letter Text.isAsciiDigit)∗ * accepted k := by
  refine (Language.self_eq_mul_add_iff nil_notMem_letter).mp (ext_cons ?_ ?_)
  · rw [nil_mem_letter_mul_add, mem_accepted, mem_accepted, digits]
  · intro c s
    rw [cons_mem_letter_mul_add, mem_accepted, mem_accepted, mem_accepted, digits, Bool.or_eq_true,
      Bool.and_eq_true, or_comm]

theorem accepted_someDigits :
    accepted (someDigits k) =
      letter Text.isAsciiDigit * (letter Text.isAsciiDigit)∗ * accepted k := by
  rw [mul_assoc, ← accepted_digits]
  refine ext_cons ?_ ?_
  · exact iff_of_false (by simp [mem_accepted, someDigits]) nil_notMem_letter_mul
  · intro c s
    rw [cons_mem_letter_mul, mem_accepted, mem_accepted, someDigits, Bool.and_eq_true]

theorem accepted_dots : accepted (dots k) = (letter ('.' == ·))∗ * accepted k := by
  refine (Language.self_eq_mul_add_iff nil_notMem_letter).mp (ext_cons ?_ ?_)
  · rw [nil_mem_letter_mul_add, mem_accepted, mem_accepted, dots]
  · intro c s
    rw [cons_mem_letter_mul_add, mem_accepted, mem_accepted, mem_accepted, dots, Bool.or_eq_true,
      Bool.and_eq_true, or_comm, Bool.beq_comm]

def numbers : Language Char :=
  {['0']} + letter Text.isLeadingDigit * (letter Text.isAsciiDigit)∗

theorem accepted_number : accepted (number k) = numbers * accepted k := by
  rw [numbers, ← letter_beq, add_mul, mul_assoc, ← accepted_digits]
  refine ext_cons ?_ ?_
  · rw [nil_mem_letter_mul_add]
    exact iff_of_false (by simp [mem_accepted, number]) nil_notMem_letter_mul
  · intro c s
    rw [cons_mem_letter_mul_add, cons_mem_letter_mul, mem_accepted, mem_accepted, mem_accepted,
      number]
    by_cases hc : c = '0'
    · simp [hc, Text.isLeadingDigit]
    · simp [hc, Ne.symm hc, Text.isLeadingDigit_iff]

theorem tagRest_cons (c : Char) (s : List Char) :
    tagRest k (c :: s) = ((Text.isAsciiAlphanumeric c && tagRest k s) || tags k (c :: s)) := by
  cases s with
  | nil => simp [tagRest, tags, Bool.or_comm]
  | cons d s => simp only [tagRest, tags, Bool.or_assoc, Bool.or_left_comm]

theorem accepted_tagRest :
    accepted (tagRest k) = (letter Text.isAsciiAlphanumeric)∗ * accepted (tags k) := by
  refine (Language.self_eq_mul_add_iff nil_notMem_letter).mp (ext_cons ?_ ?_)
  · rw [nil_mem_letter_mul_add, mem_accepted, mem_accepted, tagRest, tags]
    simp
  · intro c s
    rw [cons_mem_letter_mul_add, mem_accepted, mem_accepted, mem_accepted, tagRest_cons,
      Bool.or_eq_true, Bool.and_eq_true]

/-- Tags, each with the hyphen in front of it. -/
def tagWords : Language Char :=
  {['-']} * (letter Text.isAsciiAlphanumeric * (letter Text.isAsciiAlphanumeric)∗)

theorem accepted_tags : accepted (tags k) = tagWords∗ * accepted k := by
  have hstep : accepted (tags k) = tagWords * accepted (tags k) + accepted k := by
    rw [tagWords, ← letter_beq, mul_assoc, mul_assoc, ← accepted_tagRest]
    refine ext_cons ?_ ?_
    · rw [nil_mem_letter_mul_add, mem_accepted, mem_accepted, tags]
      simp
    · intro c s
      rw [cons_mem_letter_mul_add, mem_accepted, mem_accepted, Bool.beq_comm]
      cases s with
      | nil => simp [tags, nil_notMem_letter_mul]
      | cons d s =>
          rw [cons_mem_letter_mul, mem_accepted, tags, Bool.or_eq_true, Bool.and_eq_true,
            Bool.and_eq_true, or_comm, and_assoc]
  refine (Language.self_eq_mul_add_iff ?_).mp hstep
  rw [tagWords, ← letter_beq]
  exact nil_notMem_letter_mul

theorem accepted_hash (low extra : Nat) :
    accepted (hash low extra k) = between Text.isLowerHex low extra * accepted k := by
  induction low with
  | zero =>
      induction extra with
      | zero => rw [between_zero_zero, one_mul, hash]
      | succ extra ih =>
          rw [between_zero_succ, add_mul, one_mul, mul_assoc, ← ih]
          refine ext_cons ?_ ?_
          · rw [nil_mem_letter_mul_add, mem_accepted, mem_accepted, hash]
          · intro c s
            rw [cons_mem_letter_mul_add, mem_accepted, mem_accepted, mem_accepted, hash,
              Bool.or_eq_true, Bool.and_eq_true, or_comm]
  | succ low ih =>
      rw [between_succ, mul_assoc, ← ih]
      refine ext_cons ?_ ?_
      · exact iff_of_false (by simp [mem_accepted, hash]) nil_notMem_letter_mul
      · intro c s
        rw [cons_mem_letter_mul, mem_accepted, mem_accepted, hash, Bool.and_eq_true]

/-- Descriptions of commits, with the dot in front. -/
def descriptions : Language Char :=
  {['.']} * (letter Text.isAsciiDigit * (letter Text.isAsciiDigit)∗ *
    ({['+']} * between Text.isLowerHex 5 35))

theorem accepted_description : accepted (description k) = descriptions * accepted k := by
  rw [description, accepted_character, accepted_someDigits, accepted_character, accepted_hash,
    descriptions]
  simp only [mul_assoc]

end Matchers

theorem accepted_isEmpty : accepted List.isEmpty = 1 := by
  ext s
  rw [mem_accepted, List.isEmpty_iff, Language.mem_one]

theorem accepted_release :
    accepted release =
      {['v']} * (numbers * ({['.']} * (numbers * ({['.']} * (numbers * (tagWords∗ *
        ((letter ('.' == ·))∗ * ((numbers + 1) * ((descriptions + 1) *
          ({dirtyMark} + 1)))))))))) := by
  rw [release, accepted_character, accepted_number, accepted_character, accepted_number,
    accepted_character, accepted_number, accepted_tags, accepted_dots,
    accepted_optional _ (accepted_number _), accepted_optional _ (accepted_description _),
    accepted_optional _ (accepted_literal _ _), accepted_isEmpty, mul_one]

end BuildVersion.Version.Release
