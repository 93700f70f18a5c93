import BuildVersion.Proofs.Number.Binary64

namespace BuildVersion.Binary64

section Quotient

variable {m n den : Nat}

theorem le_roundQuotient {a : Nat} (hden : 0 < den) (h : a * den ≤ n) :
    a ≤ roundQuotient n den := by
  have hquotient : a ≤ n / den := (Nat.le_div_iff_mul_le hden).mpr h
  simp only [roundQuotient]
  split
  · exact hquotient
  · split
    · omega
    · omega

theorem roundQuotient_le {b : Nat} (hden : 0 < den) (h : n ≤ b * den) :
    roundQuotient n den ≤ b := by
  have hdiv := Nat.div_add_mod n den
  rcases Nat.lt_or_ge (n / den) b with hless | hmore
  · simp only [roundQuotient]
    split
    · omega
    · split
      · omega
      · omega
  · have hexact : b * den ≤ den * (n / den) := by
      rw [Nat.mul_comm b den]
      exact Nat.mul_le_mul_left den hmore
    have hrest : n % den = 0 := by omega
    have hquotient : n / den ≤ b := by
      rw [← Nat.mul_div_cancel b hden]
      exact Nat.div_le_div_right h
    simp only [roundQuotient, hrest]
    rw [if_pos (by omega)]
    exact hquotient

theorem roundQuotient_mono (hden : 0 < den) (h : m ≤ n) :
    roundQuotient m den ≤ roundQuotient n den := by
  rcases Nat.lt_or_ge (m / den) (n / den) with hless | hmore
  · -- Both lie on different sides of a multiple.
    calc
      roundQuotient m den ≤ n / den := by
        refine roundQuotient_le hden ?_
        have hbelow := Nat.lt_mul_div_succ m hden
        have hstep : den * (m / den + 1) ≤ den * (n / den) := Nat.mul_le_mul_left den hless
        rw [Nat.mul_comm (n / den)]
        omega
      _ ≤ roundQuotient n den := le_roundQuotient hden (Nat.div_mul_le_self n den)
  · have hquotient : m / den = n / den := Nat.le_antisymm (Nat.div_le_div_right h) hmore
    have hm := Nat.div_add_mod m den
    have hn := Nat.div_add_mod n den
    rw [hquotient] at hm
    simp only [roundQuotient, hquotient]
    repeat' split
    all_goals omega

theorem roundQuotient_mul_right {c : Nat} (hc : 0 < c) (n den : Nat) :
    roundQuotient (n * c) (den * c) = roundQuotient n den := by
  have hrest : 2 * (n % den * c) = 2 * (n % den) * c := (Nat.mul_assoc ..).symm
  simp only [roundQuotient, Nat.mul_div_mul_right n den hc, Nat.mul_mod_mul_right c n den, hrest,
    Nat.mul_lt_mul_right hc]

theorem roundQuotient_mul_add {a r : Nat} (hr : 2 * r < den) :
    roundQuotient (a * den + r) den = a := by
  have hden : 0 < den := by omega
  have hquotient : (a * den + r) / den = a := by
    rw [Nat.add_comm, Nat.add_mul_div_right r a hden, Nat.div_eq_of_lt (by omega), Nat.zero_add]
  have hrest : (a * den + r) % den = r := by
    rw [Nat.add_comm, Nat.add_mul_mod_self_right, Nat.mod_eq_of_lt (by omega)]
  simp only [roundQuotient, hquotient, hrest, if_pos hr]

theorem roundQuotient_mul_sub {a r : Nat} (ha : 0 < a) (hr : 2 * r < den) :
    roundQuotient (a * den - r) den = a := by
  rcases Nat.eq_zero_or_pos r with rfl | hpos
  · rw [Nat.sub_zero]
    exact roundQuotient_mul_add (r := 0) hr
  · obtain ⟨b, rfl⟩ : ∃ b, a = b + 1 := ⟨a - 1, by omega⟩
    have hsplit : (b + 1) * den - r = b * den + (den - r) := by
      rw [Nat.add_mul, Nat.one_mul, Nat.add_sub_assoc (by omega)]
    have hquotient : (b * den + (den - r)) / den = b := by
      rw [Nat.add_comm, Nat.add_mul_div_right _ b (by omega), Nat.div_eq_of_lt (by omega),
        Nat.zero_add]
    have hrest : (b * den + (den - r)) % den = den - r := by
      rw [Nat.add_comm, Nat.add_mul_mod_self_right, Nat.mod_eq_of_lt (by omega)]
    rw [hsplit]
    simp only [roundQuotient, hquotient, hrest]
    rw [if_neg (by omega), if_pos (by omega)]

end Quotient

/-- How many bits a number has behind its first 53. -/
def spareBits (n : Nat) : Nat :=
  n.log2 - 52

/-- The nearest number that has zeros behind its first 53 bits. -/
def keepBits (n : Nat) : Nat :=
  roundQuotient n (2 ^ spareBits n) * 2 ^ spareBits n

theorem lt_two_pow_spareBits (n : Nat) : n < 2 ^ 53 * 2 ^ spareBits n := by
  have hlog := Nat.lt_log2_self (n := n)
  have hpow : 2 ^ (n.log2 + 1) ≤ 2 ^ (53 + spareBits n) :=
    Nat.pow_le_pow_right (by decide) (by rw [spareBits]; omega)
  rw [← Nat.pow_add]
  omega

theorem two_pow_spareBits_le {n : Nat} (hn : spareBits n ≠ 0) : 2 ^ 52 * 2 ^ spareBits n ≤ n := by
  have hlog : 52 + spareBits n = n.log2 := by
    rw [spareBits] at hn ⊢
    omega
  have hne : n ≠ 0 := by
    rintro rfl
    exact hn rfl
  rw [← Nat.pow_add, hlog]
  exact Nat.log2_self_le hne

theorem spareBits_le_of_lt {n k : Nat} (h : n < 2 ^ 53 * 2 ^ k) : spareBits n ≤ k := by
  rcases Nat.eq_zero_or_pos (spareBits n) with hzero | hpos
  · omega
  · have hlow := two_pow_spareBits_le (Nat.ne_of_gt hpos)
    have hpow : 2 ^ (52 + spareBits n) < 2 ^ (52 + (k + 1)) := by
      calc
        2 ^ (52 + spareBits n) = 2 ^ 52 * 2 ^ spareBits n := Nat.pow_add ..
        _ ≤ n := hlow
        _ < 2 ^ 53 * 2 ^ k := h
        _ = 2 ^ (52 + (k + 1)) := by rw [← Nat.pow_add]; congr 1; omega
    have hless := (Nat.pow_lt_pow_iff_right (by decide)).mp hpow
    omega

theorem lt_spareBits {n k : Nat} (h : 2 ^ 53 * 2 ^ k ≤ n) : k < spareBits n := by
  have hpow := Nat.lt_of_le_of_lt h (lt_two_pow_spareBits n)
  exact (Nat.pow_lt_pow_iff_right (by decide)).mp (Nat.lt_of_mul_lt_mul_left hpow)

theorem spareBits_mono {m n : Nat} (h : m ≤ n) : spareBits m ≤ spareBits n :=
  spareBits_le_of_lt (Nat.lt_of_le_of_lt h (lt_two_pow_spareBits n))

theorem spareBits_eq {n k : Nat} (hlow : 2 ^ 52 * 2 ^ k ≤ n) (hhigh : n < 2 ^ 53 * 2 ^ k) :
    spareBits n = k := by
  have hpos := Nat.two_pow_pos (52 + k)
  rw [← Nat.pow_add] at hlow hhigh
  have hlog : n.log2 = 52 + k := by
    refine (Nat.log2_eq_iff (by omega)).mpr ⟨hlow, ?_⟩
    rw [show 52 + k + 1 = 53 + k by omega]
    exact hhigh
  rw [spareBits, hlog, Nat.add_sub_cancel_left]

theorem roundQuotient_spareBits_le (n : Nat) : roundQuotient n (2 ^ spareBits n) ≤ 2 ^ 53 :=
  roundQuotient_le (Nat.two_pow_pos _) (Nat.le_of_lt (lt_two_pow_spareBits n))

theorem keepBits_mono {m n : Nat} (h : m ≤ n) : keepBits m ≤ keepBits n := by
  rcases Nat.eq_or_lt_of_le (spareBits_mono h) with hequal | hless
  · rw [keepBits, keepBits, hequal]
    exact Nat.mul_le_mul_right _ (roundQuotient_mono (Nat.two_pow_pos _) h)
  · -- A power of two lies between numbers of different lengths.
    have hlow := two_pow_spareBits_le (n := n) (by omega)
    calc
      keepBits m ≤ 2 ^ 53 * 2 ^ spareBits m := Nat.mul_le_mul_right _ (roundQuotient_spareBits_le m)
      _ = 2 ^ 52 * 2 ^ (spareBits m + 1) := by rw [Nat.pow_succ]; omega
      _ ≤ 2 ^ 52 * 2 ^ spareBits n :=
        Nat.mul_le_mul_left _ (Nat.pow_le_pow_right (by decide) hless)
      _ ≤ keepBits n := Nat.mul_le_mul_right _ (le_roundQuotient (Nat.two_pow_pos _) hlow)

theorem keepBits_of_dvd {n : Nat} (h : 2 ^ spareBits n ∣ n) : keepBits n = n := by
  rw [keepBits]
  generalize spareBits n = k at h ⊢
  obtain ⟨q, rfl⟩ := h
  have hround : roundQuotient (q * 2 ^ k + 0) (2 ^ k) = q :=
    roundQuotient_mul_add (Nat.two_pow_pos k)
  rw [Nat.mul_comm (2 ^ k) q, ← Nat.add_zero (q * 2 ^ k), hround, Nat.add_zero]

theorem keepBits_mul_two_pow {q : Nat} (hq : q ≤ 2 ^ 53) (k : Nat) :
    keepBits (q * 2 ^ k) = q * 2 ^ k := by
  refine keepBits_of_dvd ?_
  rcases Nat.eq_or_lt_of_le hq with rfl | hless
  · have hnext : 2 ^ 53 * 2 ^ k = 2 ^ 52 * 2 ^ (k + 1) := by rw [Nat.pow_succ]; omega
    have hpos := Nat.two_pow_pos (k + 1)
    rw [hnext, spareBits_eq (Nat.le_refl _) (by omega)]
    exact Nat.dvd_mul_left _ _
  · have hspare : spareBits (q * 2 ^ k) ≤ k :=
      spareBits_le_of_lt (Nat.mul_lt_mul_of_pos_right hless (Nat.two_pow_pos k))
    exact Nat.dvd_trans (Nat.pow_dvd_pow 2 hspare) (Nat.dvd_mul_left _ _)

theorem keepBits_keepBits (n : Nat) : keepBits (keepBits n) = keepBits n :=
  keepBits_mul_two_pow (roundQuotient_spareBits_le n) (spareBits n)

theorem keepBits_mul_add {q k r : Nat} (hlow : 2 ^ 52 ≤ q) (hhigh : q < 2 ^ 53)
    (hr : 2 * r < 2 ^ k) : keepBits (q * 2 ^ k + r) = q * 2 ^ k := by
  have hbelow : 2 ^ 52 * 2 ^ k ≤ q * 2 ^ k := Nat.mul_le_mul_right _ hlow
  have habove : (q + 1) * 2 ^ k ≤ 2 ^ 53 * 2 ^ k := Nat.mul_le_mul_right _ hhigh
  rw [Nat.add_mul] at habove
  rw [keepBits, spareBits_eq (k := k) (by omega) (by omega), roundQuotient_mul_add hr]

theorem keepBits_mul_sub {q k r : Nat} (hlow : 2 ^ 52 < q) (hhigh : q ≤ 2 ^ 53)
    (hr : 2 * r < 2 ^ k) : keepBits (q * 2 ^ k - r) = q * 2 ^ k := by
  rcases Nat.eq_zero_or_pos r with rfl | hpos
  · exact keepBits_mul_two_pow hhigh k
  · have hbelow : (2 ^ 52 + 1) * 2 ^ k ≤ q * 2 ^ k := Nat.mul_le_mul_right _ hlow
    have habove : q * 2 ^ k ≤ 2 ^ 53 * 2 ^ k := Nat.mul_le_mul_right _ hhigh
    rw [Nat.add_mul] at hbelow
    rw [keepBits, spareBits_eq (k := k) (by omega) (by omega), roundQuotient_mul_sub (by omega) hr]

/-- Beyond `2 ^ 53` steps, a number with zeros behind its first 53 bits is in steps of at least two,
so that less than one step is rounded off. -/
theorem keepBits_add {n p r : Nat} (hn : keepBits n = n) (hlarge : 2 ^ 53 * 2 ^ p ≤ n)
    (hr : r < 2 ^ p) : keepBits (n + r) = n := by
  have hhigh := lt_two_pow_spareBits n
  have hspare : p < spareBits n := lt_spareBits hlarge
  have hstep : 2 * 2 ^ p ≤ 2 ^ spareBits n := by
    rw [← Nat.pow_succ']
    exact Nat.pow_le_pow_right (by decide) hspare
  have hlow := le_roundQuotient (Nat.two_pow_pos _) (two_pow_spareBits_le (n := n) (by omega))
  rw [keepBits] at hn
  generalize roundQuotient n (2 ^ spareBits n) = q at hn hlow
  generalize spareBits n = k at hn hhigh hstep
  subst hn
  exact keepBits_mul_add hlow (Nat.lt_of_mul_lt_mul_right hhigh) (by omega)

/-- The steps below a power of two are half of those above it. -/
theorem keepBits_sub {n p r : Nat} (hn : keepBits n = n) (hlarge : 2 ^ 53 * 2 ^ p < n)
    (hr : r < 2 ^ p) : keepBits (n - r) = n := by
  have hhigh := lt_two_pow_spareBits n
  have hspare : p < spareBits n := lt_spareBits (Nat.le_of_lt hlarge)
  have hstep : 2 ^ (p + 1) ≤ 2 ^ spareBits n := Nat.pow_le_pow_right (by decide) hspare
  have hlow := le_roundQuotient (Nat.two_pow_pos _) (two_pow_spareBits_le (n := n) (by omega))
  have hbound := roundQuotient_spareBits_le n
  rw [keepBits] at hn
  generalize roundQuotient n (2 ^ spareBits n) = q at hn hlow hbound
  generalize spareBits n = k at hn hspare hstep
  subst hn
  rw [Nat.pow_succ'] at hstep
  rcases Nat.eq_or_lt_of_le hlow with rfl | hless
  · obtain ⟨j, rfl⟩ : ∃ j, k = j + 1 := ⟨k - 1, by omega⟩
    have hpower : 2 ^ 52 * 2 ^ (j + 1) = 2 ^ 53 * 2 ^ j := by rw [Nat.pow_succ]; omega
    rw [hpower] at hlarge ⊢
    have hj : p < j :=
      (Nat.pow_lt_pow_iff_right (by decide)).mp (Nat.lt_of_mul_lt_mul_left hlarge)
    have hhalf : 2 ^ (p + 1) ≤ 2 ^ j := Nat.pow_le_pow_right (by decide) hj
    rw [Nat.pow_succ'] at hhalf
    exact keepBits_mul_sub (by decide) (Nat.le_refl _) (by omega)
  · exact keepBits_mul_sub hless hbound (by omega)

/-- The nearest integer that has zeros behind its first 53 bits. -/
def rounded (n : Int) : Int :=
  n.sign * keepBits n.natAbs

@[simp] theorem rounded_natCast (n : Nat) : rounded n = keepBits n := by
  rcases Nat.eq_zero_or_pos n with rfl | hpos
  · rfl
  · rw [rounded, Int.sign_natCast_of_ne_zero (Nat.ne_of_gt hpos), Int.natAbs_natCast, Int.one_mul]

theorem rounded_neg (n : Int) : rounded (-n) = -rounded n := by
  rw [rounded, rounded, Int.sign_neg, Int.natAbs_neg, Int.neg_mul]

theorem rounded_neg_natCast (n : Nat) : rounded (-(n : Int)) = -(keepBits n : Int) := by
  rw [rounded_neg, rounded_natCast]

theorem rounded_mono {a b : Int} (h : a ≤ b) : rounded a ≤ rounded b := by
  obtain ⟨m, rfl | rfl⟩ := a.eq_nat_or_neg
  · obtain ⟨n, rfl | rfl⟩ := b.eq_nat_or_neg
    · have hkeep : keepBits m ≤ keepBits n := keepBits_mono (by omega)
      rw [rounded_natCast, rounded_natCast]
      omega
    · obtain ⟨rfl, rfl⟩ : m = 0 ∧ n = 0 := by omega
      exact Int.le_refl _
  · obtain ⟨n, rfl | rfl⟩ := b.eq_nat_or_neg
    · rw [rounded_neg_natCast, rounded_natCast]
      omega
    · have hkeep : keepBits n ≤ keepBits m := keepBits_mono (by omega)
      rw [rounded_neg_natCast, rounded_neg_natCast]
      omega

theorem rounded_rounded (n : Int) : rounded (rounded n) = rounded n := by
  obtain ⟨m, rfl | rfl⟩ := n.eq_nat_or_neg
  · rw [rounded_natCast, rounded_natCast, keepBits_keepBits]
  · rw [rounded_neg_natCast, rounded_neg_natCast, keepBits_keepBits]

theorem rounded_add_of_ge {a : Int} {p r : Nat} (ha : rounded a = a)
    (hlarge : (2 ^ 53 * 2 ^ p : Nat) ≤ a) (hr : r < 2 ^ p) : rounded (a + r) = a := by
  obtain ⟨n, rfl⟩ := Int.eq_ofNat_of_zero_le (Int.le_trans (Int.natCast_nonneg _) hlarge)
  rw [rounded_natCast, Int.ofNat_inj] at ha
  rw [← Int.natCast_add, rounded_natCast, keepBits_add ha (Int.ofNat_le.mp hlarge) hr]

theorem rounded_add_of_lt {a : Int} {p r : Nat} (ha : rounded a = a)
    (hlarge : a < -(2 ^ 53 * 2 ^ p : Nat)) (hr : r < 2 ^ p) : rounded (a + r) = a := by
  obtain ⟨n, rfl⟩ : ∃ n : Nat, a = -n := ⟨a.natAbs, by omega⟩
  have hn : 2 ^ 53 * 2 ^ p < n := by omega
  have hdifference : -(n : Int) + r = -((n - r : Nat) : Int) := by omega
  rw [rounded_neg_natCast, Int.neg_inj, Int.ofNat_inj] at ha
  rw [hdifference, rounded_neg_natCast, keepBits_sub ha hn hr]

end BuildVersion.Binary64
