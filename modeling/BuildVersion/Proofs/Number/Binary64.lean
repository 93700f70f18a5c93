import Mathlib.Algebra.Group.Nat.Defs
import BuildVersion.Number.Binary64

namespace BuildVersion.Binary64

variable {num den : Nat}

/-- The least natural number that is rounded to an infinity. The greatest binary64 number is
`(2 ^ 53 - 1) * 2 ^ 971`, and the next one would be `2 ^ 53 * 2 ^ 971`. It stays folded, so that no
step computes the powers. -/
@[irreducible]
def overflowBound : Nat := (2 ^ 54 - 1) * 2 ^ 970

theorem overflowBound_pos : 0 < overflowBound := by
  have hpos : ∀ k, 0 < (2 ^ 54 - 1) * 2 ^ k := fun k => Nat.mul_pos (by decide) (Nat.two_pow_pos k)
  unfold overflowBound
  exact hpos 970

/-- The quotient reaches an even number that it stays below if it is at least half way there. -/
theorem roundQuotient_eq_iff {k : Nat} (hlt : num < k * den) (heven : k % 2 = 0) :
    roundQuotient num den = k ↔ 2 * (k * den) ≤ 2 * num + den := by
  obtain ⟨j, rfl⟩ : ∃ j, k = j + 1 := by
    cases k with
    | zero => omega
    | succ j => exact ⟨j, rfl⟩
  have hden : 0 < den := by
    rw [Nat.pos_iff_ne_zero]
    rintro rfl
    omega
  have hdiv := Nat.div_add_mod num den
  have hmod := Nat.mod_lt num hden
  have hquotient : num / den < j + 1 := (Nat.div_lt_iff_lt_mul hden).mpr hlt
  rw [Nat.add_mul, Nat.one_mul]
  by_cases hlast : num / den = j
  · rw [hlast, Nat.mul_comm] at hdiv
    simp only [roundQuotient, hlast]
    split
    · omega
    · split
      · omega
      · omega
  · have hle : den * (num / den + 1) ≤ den * j := Nat.mul_le_mul_left den (by omega)
    rw [Nat.mul_add, Nat.mul_one, Nat.mul_comm den j] at hle
    have hne : roundQuotient num den ≠ j + 1 := by
      simp only [roundQuotient]
      split
      · omega
      · split
        · omega
        · omega
    simp only [hne, false_iff]
    omega

theorem scaleDown_natCast (num den n : Nat) : scaleDown num den n = (num, den * 2 ^ n) := rfl

/-- A number in parts of a power of two that is scaled to one bit more than a mantissa has. -/
theorem le_scaleDown_div (hnum : num ≠ 0) (p : Nat) :
    2 ^ 53 ≤ (scaleDown num (2 ^ p) ((Nat.log2 num : Int) - p - 53)).1 /
      (scaleDown num (2 ^ p) ((Nat.log2 num : Int) - p - 53)).2 := by
  have hlow := Nat.log2_self_le hnum
  by_cases hlarge : p + 53 ≤ Nat.log2 num
  · obtain ⟨n, hn⟩ := Nat.exists_eq_add_of_le hlarge
    have hexponent : (Nat.log2 num : Int) - p - 53 = n := by omega
    rw [hn, Nat.add_right_comm, Nat.pow_add, Nat.pow_add, Nat.mul_comm] at hlow
    simp only [hexponent, scaleDown_natCast]
    exact (Nat.le_div_iff_mul_le (Nat.mul_pos (Nat.two_pow_pos p) (Nat.two_pow_pos n))).mpr hlow
  · obtain ⟨n, hn⟩ := Nat.exists_eq_add_of_lt (Nat.lt_of_not_le hlarge)
    have hexponent : (Nat.log2 num : Int) - p - 53 = .negSucc n := by omega
    simp only [hexponent, scaleDown, Nat.pow_eq]
    refine (Nat.le_div_iff_mul_le (Nat.two_pow_pos p)).mpr ?_
    calc
      2 ^ 53 * 2 ^ p = 2 ^ Nat.log2 num * 2 ^ (n + 1) := by
        rw [← Nat.pow_add, ← Nat.pow_add, Nat.add_comm 53 p, hn, Nat.add_assoc]
      _ ≤ num * 2 ^ (n + 1) := Nat.mul_le_mul_right _ hlow

theorem exponentOf_two_pow (hnum : num ≠ 0) (p : Nat) :
    exponentOf num (2 ^ p) = max ((Nat.log2 num : Int) - p - 52) minExponent := by
  have hbits := le_scaleDown_div hnum p
  simp only [exponentOf, Nat.log2_two_pow, Nat.pow_eq, if_neg (Nat.not_lt.mpr hbits)]
  omega

theorem exponentOf_one (hnum : num ≠ 0) : exponentOf num 1 = (Nat.log2 num : Int) - 52 := by
  have hexponent := exponentOf_two_pow hnum 0
  rw [Nat.pow_zero] at hexponent
  rw [hexponent, minExponent]
  omega

/-- A mantissa that is rounded up to one bit more is a larger exponent. -/
theorem ofRatio_eq_infinite_iff (negative : Bool) (hnum : num ≠ 0) :
    (∃ sign, ofRatio negative num den = infinite sign) ↔ maxExponent < exponentOf num den ∨
      exponentOf num den = maxExponent ∧
        roundQuotient (scaleDown num den (exponentOf num den)).1
          (scaleDown num den (exponentOf num den)).2 = 2 ^ 53 := by
  simp only [ofRatio, if_neg hnum, Nat.pow_eq]
  generalize hm : roundQuotient _ _ = m
  have hinfinite : ∃ sign, infinite negative = infinite sign := ⟨negative, rfl⟩
  by_cases hup : m = 2 ^ 53
  · simp only [hup, if_true, and_true]
    split
    · simp only [hinfinite, true_iff]
      omega
    · simp only [reduceCtorEq, exists_false, false_iff]
      omega
  · simp only [hup, if_false, and_false, or_false]
    split
    · next hlarge => simp only [hinfinite, hlarge]
    · next hlarge => simp only [reduceCtorEq, exists_false, hlarge]

/-- The greatest exponent is `k + 1`, so that the last numbers lie between `2 ^ (k + 53)` and
`2 ^ (k + 54)`, in steps of `2 ^ (k + 1)`. -/
theorem ofRatio_one_eq_infinite_iff_of_maxExponent {k : Nat} (hmax : maxExponent = (k + 1 : Nat))
    (negative : Bool) (num : Nat) :
    (∃ sign, ofRatio negative num 1 = infinite sign) ↔ (2 ^ 54 - 1) * 2 ^ k ≤ num := by
  have hpos := Nat.two_pow_pos k
  have hstep : 2 ^ (k + 1) = 2 * 2 ^ k := Nat.pow_succ'
  have hlast : 2 ^ (k + 53) = 2 ^ 53 * 2 ^ k := by rw [Nat.pow_add, Nat.mul_comm]
  have hend : 2 ^ (k + 53 + 1) = 2 ^ 54 * 2 ^ k := by rw [Nat.pow_succ', hlast]; omega
  by_cases hnum : num = 0
  · simp only [hnum, ofRatio, if_true, reduceCtorEq, exists_false, false_iff]
    omega
  · have hlow := Nat.log2_self_le hnum
    have hhigh := Nat.lt_log2_self (n := num)
    rw [ofRatio_eq_infinite_iff negative hnum, exponentOf_one hnum, hmax]
    rcases Nat.lt_trichotomy (Nat.log2 num) (k + 53) with hless | hequal | hgreater
    · have hpow : 2 ^ (Nat.log2 num + 1) ≤ 2 ^ (k + 53) :=
        Nat.pow_le_pow_right (by decide) hless
      omega
    · have hexponent : ((k + 53 : Nat) : Int) - 52 = (k + 1 : Nat) := by omega
      have hbelow : num < 2 ^ 53 * 2 ^ (k + 1) := by
        rw [hequal] at hhigh
        omega
      rw [hequal] at hlow
      rw [hequal, hexponent]
      simp only [scaleDown_natCast, Nat.one_mul, roundQuotient_eq_iff hbelow (by decide),
        Int.lt_irrefl, false_or, true_and]
      omega
    · have hpow : 2 ^ (k + 53 + 1) ≤ 2 ^ Nat.log2 num := Nat.pow_le_pow_right (by decide) hgreater
      omega

/-- An integer is rounded to an infinity from the bound on, on both sides. -/
theorem ofInt_eq_infinite_iff (n : Int) :
    (∃ sign, ofInt n = infinite sign) ↔ overflowBound ≤ n.natAbs := by
  unfold overflowBound
  exact ofRatio_one_eq_infinite_iff_of_maxExponent rfl (decide (n < 0)) n.natAbs

end BuildVersion.Binary64
