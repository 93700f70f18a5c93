import BuildVersion.Proofs.Number.Units

namespace BuildVersion.Binary64

/-- An integer that a mantissa holds has nothing to round. -/
theorem rounded_mul_two_pow {n : Int} (hn : n.natAbs ≤ 2 ^ 53) (k : Nat) :
    rounded (n * (2 ^ k : Nat)) = n * (2 ^ k : Nat) := by
  have hkeep : keepBits (n.natAbs * 2 ^ k) = n.natAbs * 2 ^ k := keepBits_mul_two_pow hn k
  obtain ⟨m, rfl | rfl⟩ := n.eq_nat_or_neg
  · rw [Int.natAbs_natCast] at hkeep
    rw [← Int.natCast_mul, rounded_natCast, hkeep]
  · rw [Int.natAbs_neg, Int.natAbs_natCast] at hkeep
    rw [Int.neg_mul, ← Int.natCast_mul, rounded_neg_natCast, hkeep]

theorem mantissa_lt_limit : 2 ^ 53 * 2 ^ unitBits < limit :=
  Nat.mul_lt_mul_of_pos_left (Nat.pow_lt_pow_right (by decide)
    (Nat.lt_add_of_pos_left (by decide))) (Nat.two_pow_pos 53)

theorem zero_measures : Measures zero 0 := by
  have hunits : units false 0 minExponent = 0 := by simp [units]
  rw [← hunits]
  apply Measures.finite
  rw [hunits]
  exact limit_pos

theorem zero_lt_ofInt {n : Int} (hn : 0 < n) : zero.lt (ofInt n) = true := by
  apply (zero_measures.lt_iff (ofInt_measures n) limit_pos).mpr
  have hunit : (0 : Int) < (2 ^ unitBits : Nat) := Int.natCast_pos.mpr (Nat.two_pow_pos unitBits)
  calc
    0 < 1 * ((2 ^ unitBits : Nat) : Int) := by omega
    _ = rounded (1 * (2 ^ unitBits : Nat)) := (rounded_mul_two_pow (by decide) unitBits).symm
    _ ≤ rounded (n * (2 ^ unitBits : Nat)) :=
      rounded_mono (Int.mul_le_mul_of_nonneg_right hn (Int.le_of_lt hunit))

/-- A number is exactly the natural number `n`. -/
def Counts (x : Binary64) (n : Nat) : Prop :=
  ∃ m e, x = finite false m e ∧ units false m e = (n * 2 ^ unitBits : Nat)

theorem Measures.counts {x : Binary64} {n : Nat} (hx : Measures x (n * 2 ^ unitBits : Nat))
    (hpos : 0 < n) (hn : n ≤ 2 ^ 53) : x.Counts n := by
  have hlimit := mantissa_lt_limit
  have hunits : 0 < n * 2 ^ unitBits := Nat.mul_pos hpos (Nat.two_pow_pos unitBits)
  have hbound : n * 2 ^ unitBits ≤ 2 ^ 53 * 2 ^ unitBits := Nat.mul_le_mul_right _ hn
  generalize hvalue : ((n * 2 ^ unitBits : Nat) : Int) = value at hx
  rcases hx with @⟨negative, m, e, -⟩ | hlarge | hlarge
  · have hsign : 0 < units negative m e := by omega
    obtain ⟨rfl, -⟩ := units_pos_iff.mp hsign
    exact ⟨m, e, rfl, hvalue.symm⟩
  · omega
  · omega

theorem ofInt_counts {n : Nat} (hpos : 0 < n) (hn : n ≤ 2 ^ 53) : (ofInt n).Counts n := by
  have hmeasures := ofInt_measures n
  rw [rounded_mul_two_pow (by simpa using hn), ← Int.natCast_mul] at hmeasures
  exact hmeasures.counts hpos hn

end BuildVersion.Binary64
