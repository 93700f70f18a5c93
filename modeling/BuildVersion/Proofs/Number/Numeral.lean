import Mathlib.Algebra.Group.Nat.Defs
import BuildVersion.Number.Numeral
import BuildVersion.Proofs.Text.Digit

namespace BuildVersion.Numeral

open Text (digitValue? isLeadingDigit toAsciiDigit)

theorem value_append_singleton {c : Char} {d : Nat} (s : List Char) (hc : digitValue? c = some d) :
    value (s ++ [c]) = value s * 10 + d := by
  simp [value, hc]

@[simp] theorem value_map_toAsciiDigit (s : List Char) : value (s.map toAsciiDigit) = value s := by
  simp [value, List.foldl_map]

theorem digits_of_lt {n : Nat} (hn : n < 10) : digits n = [Nat.digitChar n] :=
  Nat.toDigits_of_lt_base hn

theorem digits_of_le {n : Nat} (hn : 10 ≤ n) :
    digits n = digits (n / 10) ++ [Nat.digitChar (n % 10)] :=
  Nat.toDigits_of_base_le (by decide) hn

/-- A digit written behind a number other than zero. -/
theorem digits_mul_add {n d : Nat} (hn : 0 < n) (hd : d < 10) :
    digits (n * 10 + d) = digits n ++ [Nat.digitChar d] := by
  rw [digits, Nat.mul_comm, ← Nat.toDigits_append_toDigits (by decide) hn hd,
    Nat.toDigits_of_lt_base hd, digits]

theorem length_digits_le_iff {n k : Nat} (hk : 0 < k) : (digits n).length ≤ k ↔ n < 10 ^ k :=
  Nat.length_toDigits_le_iff (by decide) hk

theorem value_digits (n : Nat) : value (digits n) = n := by
  induction n using Nat.strongRecOn with
  | ind n ih =>
      by_cases hn : n < 10
      · rw [digits_of_lt hn, ← List.nil_append [Nat.digitChar n],
          value_append_singleton [] (Text.digitValue?_digitChar n hn), value, List.foldl_nil]
        omega
      · have hlast := Text.digitValue?_digitChar (n % 10) (Nat.mod_lt n (by decide))
        rw [digits_of_le (by omega), value_append_singleton _ hlast, ih (n / 10) (by omega)]
        omega

/-- Digits behind those of a number other than zero are the digits of the number that they all
make. -/
theorem digits_append_map {n : Nat} (hn : 0 < n) {s : List Char}
    (hs : ∀ c ∈ s, Text.isDigit c = true) :
    digits n ++ s.map toAsciiDigit =
      digits (s.foldl (fun n c => n * 10 + (digitValue? c).getD 0) n) := by
  induction s generalizing n with
  | nil => simp
  | cons c s ih =>
      obtain ⟨hc, hs⟩ := List.forall_mem_cons.mp hs
      obtain ⟨d, hd⟩ := Text.isDigit_iff.mp hc
      have hlt := Text.lt_ten_of_digitValue? hd
      have hnext := ih (n := n * 10 + d) (by omega) hs
      rw [digits_mul_add hn hlt, List.append_assoc] at hnext
      rw [List.map_cons, Text.toAsciiDigit_of_digitValue? hd, List.foldl_cons, hd, Option.getD_some]
      exact hnext

theorem digits_value_of_isLeadingDigit {c : Char} {s : List Char} (hc : isLeadingDigit c = true)
    (hs : ∀ d ∈ s, Text.isDigit d = true) :
    digits (value (c :: s)) = (c :: s).map toAsciiDigit := by
  obtain ⟨hzero, hascii⟩ := Text.isLeadingDigit_iff.mp hc
  obtain ⟨d, hd⟩ := Text.isDigit_iff.mp (Text.isDigit_of_isAsciiDigit hascii)
  have hwritten := Text.toAsciiDigit_of_digitValue? hd
  rw [Text.toAsciiDigit_of_lt (Text.toNat_lt_of_isAsciiDigit hascii)] at hwritten
  have hpos : 0 < d := by
    rw [Nat.pos_iff_ne_zero]
    rintro rfl
    exact hzero hwritten
  have hall := digits_append_map hpos hs
  rw [digits_of_lt (Text.lt_ten_of_digitValue? hd)] at hall
  rw [List.map_cons, Text.toAsciiDigit_of_digitValue? hd, value, List.foldl_cons, hd,
    Option.getD_some, Nat.zero_mul, Nat.zero_add, ← hall, List.singleton_append]

/-- The digits of a number begin with a zero only if there is no other digit. -/
theorem digits_eq_cons (n : Nat) :
    digits n = ['0'] ∨ ∃ c s, digits n = c :: s ∧ isLeadingDigit c = true ∧
      ∀ d ∈ s, Text.isDigit d = true := by
  induction n using Nat.strongRecOn with
  | ind n ih =>
      by_cases hn : n < 10
      · rw [digits_of_lt hn]
        by_cases hzero : n = 0
        · exact .inl (by rw [hzero]; rfl)
        · exact .inr ⟨_, _, rfl, Text.isLeadingDigit_digitChar n hn hzero, List.forall_mem_nil _⟩
      · rw [digits_of_le (by omega)]
        have hlast := Text.isDigit_digitChar (Nat.mod_lt n (show 10 > 0 by decide))
        obtain hzero | ⟨c, s, hdigits, hc, hs⟩ := ih (n / 10) (by omega)
        · -- The front is the number without its last digit, which is not zero.
          have hvalue := value_digits (n / 10)
          rw [hzero] at hvalue
          have hfront : n / 10 = 0 := hvalue.symm
          omega
        · refine .inr ⟨c, s ++ [Nat.digitChar (n % 10)], ?_, hc, ?_⟩
          · rw [hdigits, List.cons_append]
          · rw [List.forall_mem_append]
            exact ⟨hs, List.forall_mem_singleton.mpr hlast⟩

end BuildVersion.Numeral
