import BuildVersion.Proofs.Number.Rounding

namespace BuildVersion.Binary64

/-- How many bits of a number in units lie behind the point. It stays folded, so that no step
computes the powers. -/
@[irreducible]
def unitBits : Nat := 1074

theorem minExponent_eq : minExponent = -(unitBits : Int) := by
  unfold unitBits
  rfl

theorem ofUnits_eq (n : Int) : ofUnits n = ofRatio (n < 0) n.natAbs (2 ^ unitBits) := by
  have hbits : (-minExponent).toNat = unitBits := by
    rw [minExponent_eq]
    omega
  rw [ofUnits, hbits, Nat.pow_eq]

/-- A natural number or its opposite. -/
def signed (negative : Bool) (n : Nat) : Int :=
  if negative then -n else n

theorem natAbs_signed (negative : Bool) (n : Nat) : (signed negative n).natAbs = n := by
  cases negative <;> simp [signed]

theorem rounded_eq_signed (n : Int) : rounded n = signed (n < 0) (keepBits n.natAbs) := by
  obtain ⟨m, rfl | rfl⟩ := n.eq_nat_or_neg
  · have hsign : ¬ (m : Int) < 0 := by omega
    simp [signed, hsign]
  · rcases Nat.eq_zero_or_pos m with rfl | hpos
    · rfl
    · have hsign : -(m : Int) < 0 := by omega
      rw [rounded_neg_natCast, Int.natAbs_neg, Int.natAbs_natCast, decide_eq_true hsign]
      rfl

theorem units_eq_signed (negative : Bool) (m : Nat) (e : Int) :
    units negative m e = signed negative (m * 2 ^ (e - minExponent).toNat) := rfl

theorem units_pos_iff {negative : Bool} {m : Nat} {e : Int} :
    0 < units negative m e ↔ negative = false ∧ m ≠ 0 := by
  have hpow := Nat.two_pow_pos (e - minExponent).toNat
  have hzero : m * 2 ^ (e - minExponent).toNat ≠ 0 ↔ m ≠ 0 := by
    rw [Ne, Nat.mul_eq_zero]
    omega
  rw [units_eq_signed, ← hzero]
  cases negative
  · simp only [signed, Bool.false_eq_true, reduceIte, true_and]
    omega
  · simp only [signed, reduceIte, Bool.true_eq_false, false_and, iff_false]
    omega

theorem isNonpositive_eq_false_iff {x : Binary64} :
    x.isNonpositive = false ↔ x = .nan ∨ zero.lt x = true := by
  cases x with
  | nan => simp [isNonpositive]
  | infinite negative => cases negative <;> simp [isNonpositive, lt, zero]
  | finite negative m e =>
      have hzero : units false 0 minExponent = 0 := by simp [units]
      have hpos := @units_pos_iff negative m e
      simp only [isNonpositive, lt, zero, hzero, hpos]
      cases negative <;> simp

/-- The least number of units that is an infinity. -/
def limit : Nat :=
  2 ^ 53 * 2 ^ (maxExponent.toNat + unitBits)

theorem limit_pos : 0 < limit :=
  Nat.mul_pos (Nat.two_pow_pos _) (Nat.two_pow_pos _)

/-- A number of so many units, or from the limit on an infinity. -/
inductive Measures : Binary64 → Int → Prop
  | finite {negative : Bool} {m : Nat} {e : Int}
      (hlimit : (units negative m e).natAbs < limit) :
      Measures (finite negative m e) (units negative m e)
  | above {n : Int} (hlimit : limit ≤ n) : Measures (infinite false) n
  | below {n : Int} (hlimit : n ≤ -limit) : Measures (infinite true) n

namespace Measures

variable {x y : Binary64} {a b : Int}

theorem lt_of_lt (hx : Measures x a) (hy : Measures y b) (h : x.lt y = true) : a < b := by
  have hpos := limit_pos
  rcases hx with hx | hx | hx
  · rcases hy with hy | hy | hy
    · simpa [lt] using h
    · omega
    · simp [lt] at h
  · rcases hy with hy | hy | hy <;> simp [lt] at h
  · rcases hy with hy | hy | hy
    · omega
    · omega
    · simp [lt] at h

/-- Numbers beyond the limit on one side are one infinity. -/
theorem lt_iff (hx : Measures x a) (hy : Measures y b) (ha : a.natAbs < limit) :
    x.lt y = true ↔ a < b := by
  refine ⟨hx.lt_of_lt hy, ?_⟩
  intro h
  rcases hx with hx | hx | hx
  · rcases hy with hy | hy | hy
    · simpa [lt] using h
    · rfl
    · omega
  · omega
  · omega

end Measures

theorem scaleDown_sub (n p k : Nat) :
    ∃ c, 0 < c ∧ scaleDown n (2 ^ p) ((k : Int) - p) = (n * c, 2 ^ k * c) := by
  rcases Nat.lt_or_ge k p with hless | hmore
  · obtain ⟨j, rfl⟩ := Nat.exists_eq_add_of_lt hless
    have hexponent : (k : Int) - (k + j + 1 : Nat) = .negSucc j := by omega
    refine ⟨2 ^ (j + 1), Nat.two_pow_pos _, ?_⟩
    rw [hexponent, Nat.add_assoc, Nat.pow_add]
    rfl
  · obtain ⟨j, rfl⟩ := Nat.exists_eq_add_of_le hmore
    have hexponent : ((p + j : Nat) : Int) - p = j := by omega
    refine ⟨1, Nat.one_pos, ?_⟩
    rw [hexponent, scaleDown_natCast, Nat.pow_add, Nat.mul_one, Nat.mul_one]

section Ratio

variable {n : Nat}

theorem exponentOf_unitBits (hn : n ≠ 0) :
    exponentOf n (2 ^ unitBits) = (spareBits n : Int) - unitBits := by
  rw [exponentOf_two_pow hn, minExponent_eq, spareBits]
  omega

theorem roundQuotient_unitBits (n : Nat) :
    roundQuotient (scaleDown n (2 ^ unitBits) ((spareBits n : Int) - unitBits)).1
      (scaleDown n (2 ^ unitBits) ((spareBits n : Int) - unitBits)).2 =
        roundQuotient n (2 ^ spareBits n) := by
  obtain ⟨c, hc, hscale⟩ := scaleDown_sub n unitBits (spareBits n)
  rw [hscale, roundQuotient_mul_right hc]

theorem units_sub_unitBits (negative : Bool) (m k : Nat) :
    units negative m ((k : Int) - unitBits) = signed negative (m * 2 ^ k) := by
  have hexponent : ((k : Int) - unitBits - minExponent).toNat = k := by
    rw [minExponent_eq]
    omega
  rw [units_eq_signed, hexponent]

/-- A mantissa of 53 bits, or of fewer with the least exponent. -/
theorem measures_of_mantissa (negative : Bool) {m k : Nat} (hlow : k ≠ 0 → 2 ^ 52 ≤ m)
    (hhigh : m < 2 ^ 53) :
    Measures
      (if maxExponent < (k : Int) - unitBits then infinite negative
        else finite negative m ((k : Int) - unitBits))
      (signed negative (m * 2 ^ k)) := by
  have hmax : (maxExponent.toNat : Int) = maxExponent := rfl
  split
  · next hlarge =>
      have hlimit : limit ≤ m * 2 ^ k := by
        calc
          limit = 2 ^ 52 * 2 ^ (maxExponent.toNat + unitBits + 1) := by
            rw [limit, Nat.pow_succ 2 (_ + _)]
            omega
          _ ≤ 2 ^ 52 * 2 ^ k :=
            Nat.mul_le_mul_left _ (Nat.pow_le_pow_right (by decide) (by omega))
          _ ≤ m * 2 ^ k := Nat.mul_le_mul_right _ (hlow (by omega))
      generalize m * 2 ^ k = n at hlimit ⊢
      cases negative
      · exact .above (Int.ofNat_le.mpr hlimit)
      · exact .below (Int.neg_le_neg (Int.ofNat_le.mpr hlimit))
  · next hsmall =>
      have hlimit : m * 2 ^ k < limit := by
        calc
          m * 2 ^ k < 2 ^ 53 * 2 ^ k := Nat.mul_lt_mul_of_pos_right hhigh (Nat.two_pow_pos k)
          _ ≤ limit := Nat.mul_le_mul_left _ (Nat.pow_le_pow_right (by decide) (by omega))
      rw [← units_sub_unitBits]
      refine .finite ?_
      rw [units_sub_unitBits, natAbs_signed]
      exact hlimit

theorem ofRatio_measures (negative : Bool) (n : Nat) :
    Measures (ofRatio negative n (2 ^ unitBits)) (signed negative (keepBits n)) := by
  by_cases hn : n = 0
  · subst hn
    have hunits : units negative 0 minExponent = signed negative (keepBits 0) := rfl
    rw [← hunits]
    refine .finite ?_
    rw [hunits, natAbs_signed]
    exact limit_pos
  · have hhigh := roundQuotient_spareBits_le n
    have hlow : spareBits n ≠ 0 → 2 ^ 52 ≤ roundQuotient n (2 ^ spareBits n) := fun hspare =>
      le_roundQuotient (Nat.two_pow_pos _) (two_pow_spareBits_le hspare)
    simp only [ofRatio, if_neg hn, exponentOf_unitBits hn, roundQuotient_unitBits, keepBits,
      Nat.pow_eq]
    generalize roundQuotient n (2 ^ spareBits n) = m at hhigh hlow ⊢
    generalize spareBits n = k at hlow ⊢
    by_cases hup : m = 2 ^ 53
    · -- A mantissa that is rounded up to one bit more is a larger exponent.
      have hnext := @measures_of_mantissa negative (2 ^ 52) (k + 1) (by simp) (by decide)
      have hexponent : ((k + 1 : Nat) : Int) - unitBits = (k : Int) - unitBits + 1 := by omega
      have hpower : 2 ^ 52 * 2 ^ (k + 1) = 2 ^ 53 * 2 ^ k := by rw [Nat.pow_succ]; omega
      rw [hexponent, hpower] at hnext
      simpa only [hup, if_true] using hnext
    · simpa only [hup, if_false] using measures_of_mantissa negative hlow (by omega)

end Ratio

theorem ofUnits_measures (n : Int) : Measures (ofUnits n) (rounded n) := by
  rw [ofUnits_eq, rounded_eq_signed]
  exact ofRatio_measures _ _

theorem log2_mul_two_pow {n : Nat} (hn : n ≠ 0) (i : Nat) :
    (n * 2 ^ i).log2 = n.log2 + i := by
  have hpos := Nat.two_pow_pos i
  have hne : n * 2 ^ i ≠ 0 := Nat.mul_ne_zero hn (by omega)
  refine (Nat.log2_eq_iff hne).mpr ⟨?_, ?_⟩
  · rw [Nat.pow_add]
    exact Nat.mul_le_mul_right _ (Nat.log2_self_le hn)
  · rw [Nat.add_right_comm, Nat.pow_add]
    exact Nat.mul_lt_mul_of_pos_right Nat.lt_log2_self hpos

theorem scaleDown_mul_right (num den c : Nat) (e : Int) :
    scaleDown (num * c) (den * c) e =
      ((scaleDown num den e).1 * c, (scaleDown num den e).2 * c) := by
  cases e with
  | ofNat n => rw [scaleDown, scaleDown, Nat.mul_right_comm]
  | negSucc n => rw [scaleDown, scaleDown, Nat.mul_right_comm]

theorem ofRatio_mul_two_pow (negative : Bool) (n p i : Nat) :
    ofRatio negative (n * 2 ^ i) (2 ^ (p + i)) = ofRatio negative n (2 ^ p) := by
  by_cases hn : n = 0
  · subst hn
    rw [Nat.zero_mul]
    rfl
  · have hpos := Nat.two_pow_pos i
    have hne : n * 2 ^ i ≠ 0 := Nat.mul_ne_zero hn (by omega)
    have hexponent : exponentOf (n * 2 ^ i) (2 ^ (p + i)) = exponentOf n (2 ^ p) := by
      rw [exponentOf_two_pow hne, exponentOf_two_pow hn, log2_mul_two_pow hn]
      omega
    simp only [ofRatio, if_neg hn, if_neg hne, hexponent]
    rw [Nat.pow_add, scaleDown_mul_right, roundQuotient_mul_right hpos]

theorem ofInt_eq_ofUnits (n : Int) : ofInt n = ofUnits (n * (2 ^ unitBits : Nat)) := by
  have hpos : (0 : Int) < (2 ^ unitBits : Nat) := Int.natCast_pos.mpr (Nat.two_pow_pos unitBits)
  have hsign : n * (2 ^ unitBits : Nat) < 0 ↔ n < 0 := by
    have hcancel := Int.mul_lt_mul_right (b := n) (c := 0) hpos
    rw [Int.zero_mul] at hcancel
    exact hcancel
  have hratio := ofRatio_mul_two_pow (n < 0) n.natAbs 0 unitBits
  rw [Nat.zero_add, Nat.pow_zero] at hratio
  rw [ofUnits_eq, Int.natAbs_mul, Int.natAbs_natCast, ofInt, ← hratio]
  simp only [hsign]

theorem Measures.add {x y : Binary64} {a b : Int} (hx : Measures x a) (hy : Measures y b)
    (ha : a.natAbs < limit) (hb : b.natAbs < limit) : Measures (x.add y) (rounded (a + b)) := by
  rcases hx with hx | hx | hx
  · rcases hy with hy | hy | hy
    · exact ofUnits_measures _
    · omega
    · omega
  · omega
  · omega

/-- An infinity stays one whatever number is added to it. -/
theorem Measures.add_of_limit_le {x y : Binary64} {a b : Int} (hx : Measures x a)
    (hy : Measures y b) (ha : limit ≤ a.natAbs) (hb : b.natAbs < limit) : x.add y = x := by
  rcases hx with hx | hx | hx
  · omega
  · rcases hy with hy | hy | hy
    · rfl
    · omega
    · omega
  · rcases hy with hy | hy | hy
    · rfl
    · omega
    · omega

theorem scale_eq_ofRatio (negative : Bool) (m k : Nat) {e : Int} (he : minExponent ≤ e) :
    (finite negative m e).scale k =
      ofRatio negative (k * (m * 2 ^ (e - minExponent).toNat)) (2 ^ unitBits) := by
  rw [minExponent_eq] at he ⊢
  cases e with
  | ofNat n =>
      have hexponent : (Int.ofNat n - -(unitBits : Int)).toNat = n + unitBits := by
        rw [Int.ofNat_eq_natCast]
        omega
      have hratio := ofRatio_mul_two_pow negative (k * m * 2 ^ n) 0 unitBits
      rw [Nat.zero_add, Nat.mul_assoc, ← Nat.pow_add, Nat.mul_assoc] at hratio
      rw [hexponent, hratio]
      rfl
  | negSucc n =>
      have hexponent : (Int.negSucc n - -(unitBits : Int)).toNat = unitBits - (n + 1) := by omega
      have hratio := ofRatio_mul_two_pow negative (k * m) (n + 1) (unitBits - (n + 1))
      rw [Nat.add_sub_of_le (by omega), Nat.mul_assoc] at hratio
      rw [hexponent, hratio]
      rfl

theorem ofInt_measures (n : Int) : Measures (ofInt n) (rounded (n * (2 ^ unitBits : Nat))) := by
  rw [ofInt_eq_ofUnits]
  exact ofUnits_measures _

end BuildVersion.Binary64
