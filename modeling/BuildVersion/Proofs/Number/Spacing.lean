import BuildVersion.Proofs.Number.Units

/-!
How close binary64 numbers lie. Rounding moves a number by half a step at most, so that integers
more than a step apart are rounded to different ones, and a number is written with one sign, one
mantissa and one exponent, so that of two different ones one is the less.
-/

namespace BuildVersion.Binary64

section Step

variable {n den k : Nat}

theorem roundQuotient_mul_le (hden : 0 < den) :
    2 * (roundQuotient n den * den) ≤ 2 * n + den := by
  have hdiv := Nat.div_add_mod n den
  have hmod := Nat.mod_lt n hden
  rw [Nat.mul_comm] at hdiv
  simp only [roundQuotient]
  split
  · omega
  · split
    · rw [Nat.add_mul]
      omega
    · rw [Nat.add_mul]
      rcases Nat.mod_two_eq_zero_or_one (n / den) with heven | hodd
      · rw [heven]
        omega
      · rw [hodd]
        omega

theorem le_roundQuotient_mul (hden : 0 < den) :
    2 * n ≤ 2 * (roundQuotient n den * den) + den := by
  have hdiv := Nat.div_add_mod n den
  have hmod := Nat.mod_lt n hden
  rw [Nat.mul_comm] at hdiv
  simp only [roundQuotient]
  split
  · omega
  · split
    · rw [Nat.add_mul]
      omega
    · rw [Nat.add_mul]
      omega

theorem spareBits_le_or_eq (h : n ≤ 2 ^ 53 * 2 ^ k) : spareBits n ≤ k ∨ keepBits n = n := by
  rcases Nat.eq_or_lt_of_le h with rfl | hless
  · exact .inr (keepBits_mul_two_pow (Nat.le_refl _) k)
  · exact .inl (spareBits_le_of_lt hless)

theorem keepBits_le_add (h : n ≤ 2 ^ 53 * 2 ^ k) : 2 * keepBits n ≤ 2 * n + 2 ^ k := by
  rcases spareBits_le_or_eq h with hspare | hkeep
  · calc
      2 * keepBits n ≤ 2 * n + 2 ^ spareBits n := roundQuotient_mul_le (Nat.two_pow_pos _)
      _ ≤ 2 * n + 2 ^ k := Nat.add_le_add_left (Nat.pow_le_pow_right (by decide) hspare) _
  · omega

theorem le_keepBits_add (h : n ≤ 2 ^ 53 * 2 ^ k) : 2 * n ≤ 2 * keepBits n + 2 ^ k := by
  rcases spareBits_le_or_eq h with hspare | hkeep
  · calc
      2 * n ≤ 2 * keepBits n + 2 ^ spareBits n := le_roundQuotient_mul (Nat.two_pow_pos _)
      _ ≤ 2 * keepBits n + 2 ^ k := Nat.add_le_add_left (Nat.pow_le_pow_right (by decide) hspare) _
  · omega

theorem rounded_le_add {a : Int} (h : a.natAbs ≤ 2 ^ 53 * 2 ^ k) :
    2 * rounded a ≤ 2 * a + (2 ^ k : Nat) := by
  have hbelow := keepBits_le_add h
  have habove := le_keepBits_add h
  obtain ⟨m, rfl | rfl⟩ := a.eq_nat_or_neg
  · rw [Int.natAbs_natCast] at hbelow
    rw [rounded_natCast]
    omega
  · rw [Int.natAbs_neg, Int.natAbs_natCast] at habove
    rw [rounded_neg_natCast]
    omega

theorem le_rounded_add {a : Int} (h : a.natAbs ≤ 2 ^ 53 * 2 ^ k) :
    2 * a ≤ 2 * rounded a + (2 ^ k : Nat) := by
  have hneg := rounded_le_add (a := -a) (k := k) (by rwa [Int.natAbs_neg])
  rw [rounded_neg] at hneg
  omega

/-- Integers that lie more than a step apart are rounded to different numbers. -/
theorem rounded_lt_rounded {a b : Int} (ha : a.natAbs ≤ 2 ^ 53 * 2 ^ k)
    (hb : b.natAbs ≤ 2 ^ 53 * 2 ^ k) (h : a + (2 ^ k : Nat) < b) : rounded a < rounded b := by
  have hbelow := rounded_le_add ha
  have habove := le_rounded_add hb
  omega

end Step

/-- A number as rounding writes it: with a mantissa of 53 bits, or of fewer with the least exponent,
and a zero without sign. -/
inductive IsCanonical : Binary64 → Prop
  | infinite (negative : Bool) : IsCanonical (infinite negative)
  | finite {negative : Bool} {m k : Nat} (hhigh : m < 2 ^ 53) (hlow : k ≠ 0 → 2 ^ 52 ≤ m)
      (hzero : m = 0 → negative = false) :
      IsCanonical (finite negative m ((k : Int) - unitBits))

theorem isCanonical_ofUnits (n : Int) : IsCanonical (ofUnits n) := by
  rw [ofUnits_eq]
  have hsign : n.natAbs = 0 → decide (n < 0) = false := by
    intro hn
    rw [Int.natAbs_eq_zero.mp hn]
    rfl
  generalize decide (n < 0) = negative at hsign ⊢
  generalize n.natAbs = m at hsign ⊢
  by_cases hm : m = 0
  · have hleast : minExponent = ((0 : Nat) : Int) - unitBits := by
      rw [minExponent_eq]
      omega
    rw [ofRatio, if_pos hm, hsign hm, hleast]
    exact .finite (by decide) (by simp) fun _ => rfl
  · have hhigh := roundQuotient_spareBits_le m
    have hlow : spareBits m ≠ 0 → 2 ^ 52 ≤ roundQuotient m (2 ^ spareBits m) := fun hspare =>
      le_roundQuotient (Nat.two_pow_pos _) (two_pow_spareBits_le hspare)
    have hpos : 1 ≤ roundQuotient m (2 ^ spareBits m) := by
      by_cases hspare : spareBits m = 0
      · rw [hspare]
        exact le_roundQuotient (by decide) (by omega)
      · have hmany := hlow hspare
        omega
    simp only [ofRatio, if_neg hm, exponentOf_unitBits hm, roundQuotient_unitBits, Nat.pow_eq]
    generalize roundQuotient m (2 ^ spareBits m) = q at hhigh hlow hpos ⊢
    generalize spareBits m = k at hlow ⊢
    by_cases hup : q = 2 ^ 53
    · have hexponent : (k : Int) - unitBits + 1 = ((k + 1 : Nat) : Int) - unitBits := by omega
      simp only [hup, if_true, hexponent]
      split
      · exact .infinite negative
      · exact .finite (by decide) (fun _ => Nat.le_refl _) (by simp)
    · simp only [hup, if_false]
      split
      · exact .infinite negative
      · exact .finite (by omega) hlow (by omega)

theorem mantissa_unique {m n k j : Nat} (hm : m < 2 ^ 53) (hj : j ≠ 0 → 2 ^ 52 ≤ n) (hle : k ≤ j)
    (h : m * 2 ^ k = n * 2 ^ j) : m = n ∧ k = j := by
  obtain ⟨i, rfl⟩ := Nat.exists_eq_add_of_le hle
  rw [Nat.pow_add, Nat.mul_comm (2 ^ k), ← Nat.mul_assoc] at h
  have hmantissa := Nat.eq_of_mul_eq_mul_right (Nat.two_pow_pos k) h
  rcases Nat.eq_zero_or_pos i with rfl | hpos
  · exact ⟨by simpa using hmantissa, rfl⟩
  · have hlarge : 2 ^ 52 * 2 ≤ n * 2 ^ i := by
      refine Nat.mul_le_mul (hj (by omega)) ?_
      calc
        2 = 2 ^ 1 := rfl
        _ ≤ 2 ^ i := Nat.pow_le_pow_right (by decide) hpos
    omega

namespace IsCanonical

variable {x y : Binary64}

/-- Of numbers that are written canonically one is the less, or they are the same. -/
theorem lt_trichotomy (hx : IsCanonical x) (hy : IsCanonical y) :
    x.lt y = true ∨ x = y ∨ y.lt x = true := by
  cases hx with
  | infinite s =>
      cases hy with
      | infinite t => cases s <;> cases t <;> simp [lt]
      | finite => cases s <;> simp [lt]
  | @finite s m k hm hlowm hzerom =>
      cases hy with
      | infinite t => cases t <;> simp [lt]
      | @finite t n j hn hlown hzeron =>
          simp only [lt, units_sub_unitBits, decide_eq_true_eq]
          rcases Int.lt_trichotomy (signed s (m * 2 ^ k)) (signed t (n * 2 ^ j)) with h | h | h
          · exact .inl h
          · refine .inr (.inl ?_)
            have habs := congrArg Int.natAbs h
            rw [natAbs_signed, natAbs_signed] at habs
            obtain ⟨rfl, rfl⟩ : m = n ∧ k = j := by
              rcases Nat.le_total k j with hle | hle
              · exact mantissa_unique hm hlown hle habs
              · have hswap := mantissa_unique hn hlowm hle habs.symm
                exact ⟨hswap.1.symm, hswap.2.symm⟩
            have hsign : s = t := by
              by_cases hm0 : m = 0
              · rw [hzerom hm0, hzeron hm0]
              · have hpos : 0 < m * 2 ^ k :=
                  Nat.mul_pos (Nat.pos_of_ne_zero hm0) (Nat.two_pow_pos k)
                generalize m * 2 ^ k = p at h hpos
                cases s <;> cases t <;> simp [signed] at h ⊢ <;> omega
            rw [hsign]
          · exact .inr (.inr h)

end IsCanonical

theorem lt_irrefl (x : Binary64) : x.lt x = false := by
  cases x with
  | nan => rfl
  | infinite negative => cases negative <;> rfl
  | finite negative m e => simp [lt]

theorem lt_asymm (x y : Binary64) (h : x.lt y = true) : ¬y.lt x = true := by
  cases x with
  | nan => simp [lt] at h
  | infinite s =>
      cases y with
      | nan => simp [lt] at h
      | infinite t =>
          simp only [lt, Bool.and_eq_true, Bool.not_eq_true'] at h
          simp [lt, h.2]
      | finite t n f =>
          simp only [lt] at h
          simp [lt, h]
  | finite s m e =>
      cases y with
      | nan => simp [lt] at h
      | infinite t =>
          simp only [lt, Bool.not_eq_true'] at h
          simp [lt, h]
      | finite t n f =>
          simp only [lt, decide_eq_true_eq] at h ⊢
          omega

/-- A finite number that is added leaves a number canonical. -/
theorem IsCanonical.add {x : Binary64} (hx : IsCanonical x) (negative : Bool) (m : Nat) (e : Int) :
    IsCanonical (x.add (.finite negative m e)) := by
  cases hx with
  | infinite s => exact .infinite s
  | finite hhigh hlow hzero => exact isCanonical_ofUnits _

end BuildVersion.Binary64
