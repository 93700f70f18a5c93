import Mathlib.Algebra.Group.Int.Defs
import BuildVersion.Build.Detection
import BuildVersion.Proofs.Number.Integer

/-!
Times as binary64 numbers of seconds. The whole seconds are rounded, the fraction is rounded, and
their sum is rounded again. A later time is not less than an earlier one, with one exception: the
second before `-2 ^ 53` is rounded to `-2 ^ 53`, but its fraction is added all the same.
-/

namespace BuildVersion.Build

open Binary64 (Measures unitBits limit keepBits rounded)

def secondUnits : Nat := 2 ^ unitBits

/-- The whole seconds of a time, in units. -/
def wholeUnits (s : Int) : Int :=
  rounded (s * secondUnits)

/-- A fraction of a second, in units. -/
def fractionUnits (n : Nat) : Nat :=
  keepBits (n * (4835703278458517 * 2 ^ (unitBits - 82)))

def timeUnits (s : Int) (n : Nat) : Int :=
  rounded (wholeUnits s + fractionUnits n)

theorem secondUnits_pos : 0 < secondUnits := Nat.two_pow_pos unitBits

theorem nanosecond_eq : nanosecond = .finite false 4835703278458517 (-82) := by
  decide +kernel

theorem nanosecond_measures (n : Nat) : Measures (nanosecond.scale n) (fractionUnits n) := by
  have hexponent : ((-82 : Int) - Binary64.minExponent).toNat = unitBits - 82 := by
    rw [Binary64.minExponent_eq]
    omega
  rw [nanosecond_eq, Binary64.scale_eq_ofRatio false _ n (by decide), hexponent]
  exact Binary64.ofRatio_measures false _

theorem fractionUnits_mono {m n : Nat} (h : m ≤ n) : fractionUnits m ≤ fractionUnits n :=
  Binary64.keepBits_mono (Nat.mul_le_mul_right _ h)

theorem fractionUnits_lt {n : Nat} (hn : n < nanosecondsPerSecond) :
    fractionUnits n < secondUnits := by
  have hlast : fractionUnits (nanosecondsPerSecond - 1) < secondUnits := by decide +kernel
  exact Nat.lt_of_le_of_lt (fractionUnits_mono (by omega)) hlast

theorem wholeUnits_mono {s t : Int} (h : s ≤ t) : wholeUnits s ≤ wholeUnits t :=
  Binary64.rounded_mono (Int.mul_le_mul_of_nonneg_right h (Int.natCast_nonneg _))

theorem rounded_wholeUnits (s : Int) : rounded (wholeUnits s) = wholeUnits s :=
  Binary64.rounded_rounded _

/-- As many seconds as a mantissa counts are exact. -/
theorem wholeUnits_eq {s : Int} (hs : s.natAbs ≤ 2 ^ 53) : wholeUnits s = s * secondUnits :=
  Binary64.rounded_mul_two_pow hs unitBits

section Order

variable {s : Int} {m n : Nat}

theorem timeUnits_mono (s : Int) (h : m ≤ n) : timeUnits s m ≤ timeUnits s n := by
  have hfraction := fractionUnits_mono h
  exact Binary64.rounded_mono (by omega)

theorem wholeUnits_le_timeUnits (s : Int) (n : Nat) : wholeUnits s ≤ timeUnits s n := by
  calc
    wholeUnits s = rounded (wholeUnits s) := (rounded_wholeUnits s).symm
    _ ≤ timeUnits s n := Binary64.rounded_mono (by omega)

/-- Far from zero the steps are longer than a second. -/
theorem timeUnits_eq_wholeUnits (hs : 2 ^ 53 ≤ s ∨ s ≤ -(2 ^ 53 + 2))
    (hn : n < nanosecondsPerSecond) : timeUnits s n = wholeUnits s := by
  rcases hs with hs | hs
  · refine Binary64.rounded_add_of_ge (rounded_wholeUnits s) ?_ (fractionUnits_lt hn)
    have hbound := wholeUnits_mono hs
    rw [wholeUnits_eq (by decide)] at hbound
    exact hbound
  · refine Binary64.rounded_add_of_lt (rounded_wholeUnits s) ?_ (fractionUnits_lt hn)
    have hpos := secondUnits_pos
    have hbound : wholeUnits s ≤ -(2 ^ 53 + 2) * secondUnits := by
      calc
        wholeUnits s ≤ wholeUnits (-(2 ^ 53 + 2)) := wholeUnits_mono hs
        _ = -(2 ^ 53 + 2) * secondUnits := by decide +kernel
    show wholeUnits s < -((2 ^ 53 * secondUnits : Nat) : Int)
    omega

/-- Nothing of a second is rounded beyond the next one, but for one second. -/
theorem timeUnits_le_next (hs : s ≠ -(2 ^ 53 + 1)) (hn : n < nanosecondsPerSecond) :
    timeUnits s n ≤ wholeUnits (s + 1) := by
  have hfraction := fractionUnits_lt hn
  rcases Int.lt_or_le s (-2 ^ 53) with hlow | hlow
  · rw [timeUnits_eq_wholeUnits (.inr (by omega)) hn]
    exact wholeUnits_mono (by omega)
  · rcases Int.lt_or_le s (2 ^ 53) with hhigh | hhigh
    · rw [timeUnits, wholeUnits_eq (by omega)]
      refine Binary64.rounded_mono ?_
      rw [Int.add_mul]
      omega
    · rw [timeUnits_eq_wholeUnits (.inl hhigh) hn]
      exact wholeUnits_mono (by omega)

/-- The exceptional second and the one after it begin at one number, and half a second after it
another one begins. -/
theorem timeUnits_of_first_half (hs : s = -(2 ^ 53 + 1) ∨ s = -2 ^ 53) (hn : n ≤ 500000000) :
    timeUnits s n = -2 ^ 53 * secondUnits := by
  have hlow := wholeUnits_le_timeUnits s n
  have hhigh := timeUnits_mono s hn
  have hbegin : wholeUnits s = -2 ^ 53 * secondUnits := by
    rcases hs with rfl | rfl <;> decide +kernel
  have hend : timeUnits s 500000000 = -2 ^ 53 * secondUnits := by
    rcases hs with rfl | rfl <;> decide +kernel
  omega

theorem timeUnits_of_second_half (hs : s = -(2 ^ 53 + 1) ∨ s = -2 ^ 53) (hhalf : 500000000 < n)
    (hn : n < nanosecondsPerSecond) : timeUnits s n = -(2 ^ 53 - 1) * secondUnits := by
  have hlow := timeUnits_mono s hhalf
  have hhigh := timeUnits_mono s (Nat.le_sub_one_of_lt hn)
  have hbegin : timeUnits s (500000000 + 1) = -(2 ^ 53 - 1) * secondUnits := by
    rcases hs with rfl | rfl <;> decide +kernel
  have hend : timeUnits s (nanosecondsPerSecond - 1) = -(2 ^ 53 - 1) * secondUnits := by
    rcases hs with rfl | rfl <;> decide +kernel
  simp only [Nat.succ_eq_add_one] at hlow
  omega

end Order

theorem timeUnits_le_of_lt {s t : Int} {m : Nat} (hs : s ≠ -(2 ^ 53 + 1))
    (hm : m < nanosecondsPerSecond) (h : s < t) (n : Nat) : timeUnits s m ≤ timeUnits t n := by
  calc
    timeUnits s m ≤ wholeUnits (s + 1) := timeUnits_le_next hs hm
    _ ≤ wholeUnits t := wholeUnits_mono h
    _ ≤ timeUnits t n := wholeUnits_le_timeUnits t n

/-- The exceptional second is never beyond the second after the next one. -/
theorem timeUnits_le_of_early {t : Int} {m : Nat} (hm : m < nanosecondsPerSecond)
    (h : -2 ^ 53 < t) (n : Nat) : timeUnits (-(2 ^ 53 + 1)) m ≤ timeUnits t n := by
  calc
    timeUnits (-(2 ^ 53 + 1)) m ≤ timeUnits (-(2 ^ 53 + 1)) (nanosecondsPerSecond - 1) :=
      timeUnits_mono _ (Nat.le_sub_one_of_lt hm)
    _ = -(2 ^ 53 - 1) * secondUnits := timeUnits_of_second_half (.inl rfl) (by decide) (by decide)
    _ = wholeUnits (-(2 ^ 53 - 1)) := (wholeUnits_eq (by decide)).symm
    _ ≤ wholeUnits t := wholeUnits_mono (by omega)
    _ ≤ timeUnits t n := wholeUnits_le_timeUnits t n

theorem timeUnits_lt_iff {s t : Int} {m n : Nat} (hm : m < nanosecondsPerSecond)
    (hn : n < nanosecondsPerSecond) (h : s < t ∨ s = t ∧ m ≤ n) :
    timeUnits t n < timeUnits s m ↔
      s = -(2 ^ 53 + 1) ∧ 500000000 < m ∧ t = -2 ^ 53 ∧ n ≤ 500000000 := by
  have hpos := secondUnits_pos
  constructor
  · intro hlt
    rcases h with hless | ⟨rfl, hle⟩
    · by_cases hs : s = -(2 ^ 53 + 1)
      · subst hs
        have hnext : t = -2 ^ 53 := by
          rcases Int.lt_or_le (-2 ^ 53) t with hlater | hlater
          · have hle := timeUnits_le_of_early hm hlater n
            omega
          · omega
        subst hnext
        have hbegin := wholeUnits_le_timeUnits (-2 ^ 53) n
        rw [wholeUnits_eq (by decide)] at hbegin
        have hsecond : 500000000 < m := by
          rcases Nat.lt_or_ge 500000000 m with hm | hm
          · exact hm
          · rw [timeUnits_of_first_half (.inl rfl) hm] at hlt
            omega
        refine ⟨rfl, hsecond, rfl, ?_⟩
        rcases Nat.lt_or_ge 500000000 n with hhalf | hhalf
        · rw [timeUnits_of_second_half (.inl rfl) hsecond hm,
            timeUnits_of_second_half (.inr rfl) hhalf hn] at hlt
          omega
        · exact hhalf
      · have hle := timeUnits_le_of_lt hs hm hless n
        omega
    · have hmono := timeUnits_mono s hle
      omega
  · rintro ⟨rfl, hsecond, rfl, hfirst⟩
    rw [timeUnits_of_second_half (.inl rfl) hsecond hm, timeUnits_of_first_half (.inr rfl) hfirst]
    omega

theorem secondUnits_lt_limit : 2 ^ 53 * secondUnits < limit := Binary64.mantissa_lt_limit

theorem natAbs_wholeUnits_lt {s : Int} (hlow : -(2 ^ 53 + 1) ≤ s) (hhigh : s ≤ 2 ^ 53) :
    (wholeUnits s).natAbs < limit := by
  have hlimit := secondUnits_lt_limit
  have hbelow := wholeUnits_mono hlow
  have habove := wholeUnits_mono hhigh
  have hfirst : wholeUnits (-(2 ^ 53 + 1)) = -2 ^ 53 * secondUnits := by decide +kernel
  have hlast : wholeUnits (2 ^ 53) = 2 ^ 53 * secondUnits := wholeUnits_eq (by decide)
  omega

theorem fraction_lt (time : Int) :
    (time % nanosecondsPerSecond).toNat < nanosecondsPerSecond := by
  simp only [nanosecondsPerSecond]
  omega

theorem seconds_measures (time : Int) :
    Measures (seconds time) (timeUnits (time / nanosecondsPerSecond)
      (time % nanosecondsPerSecond).toNat) := by
  have hlimit := secondUnits_lt_limit
  generalize hs : time / nanosecondsPerSecond = s
  have hfraction := fraction_lt time
  generalize hn : (time % nanosecondsPerSecond).toNat = n at hfraction ⊢
  have hsmall := fractionUnits_lt hfraction
  have hwhole : Measures (Binary64.ofInt s) (wholeUnits s) := Binary64.ofInt_measures s
  rw [seconds, hs, hn]
  by_cases hfinite : (wholeUnits s).natAbs < limit
  · exact hwhole.add (nanosecond_measures n) hfinite (by omega)
  · have hfar : 2 ^ 53 ≤ s ∨ s ≤ -(2 ^ 53 + 2) := by
      rcases Int.lt_or_le s (2 ^ 53) with hhigh | hhigh
      · rcases Int.lt_or_le s (-(2 ^ 53 + 1)) with hlow | hlow
        · omega
        · exact absurd (natAbs_wholeUnits_lt hlow (by omega)) hfinite
      · exact .inl hhigh
    rw [hwhole.add_of_limit_le (nanosecond_measures n) (by omega) (by omega),
      timeUnits_eq_wholeUnits hfar hfraction]
    exact hwhole

/-- Times of which the earlier one is the greater number: the one after the middle of the second
that is rounded up, the other before the middle of the next second. -/
structure Reversed (t u : Int) : Prop where
  early : t / nanosecondsPerSecond = -(2 ^ 53 + 1)
  second_half : 500000000 < t % nanosecondsPerSecond
  next : u / nanosecondsPerSecond = -2 ^ 53
  first_half : u % nanosecondsPerSecond ≤ 500000000

theorem reversed_iff {t u : Int} :
    Reversed t u ↔
      t / nanosecondsPerSecond = -(2 ^ 53 + 1) ∧
        500000000 < (t % nanosecondsPerSecond).toNat ∧
        u / nanosecondsPerSecond = -2 ^ 53 ∧
        (u % nanosecondsPerSecond).toNat ≤ 500000000 := by
  constructor
  · rintro ⟨hearly, hsecond, hnext, hfirst⟩
    exact ⟨hearly, by omega, hnext, by omega⟩
  · rintro ⟨hearly, hsecond, hnext, hfirst⟩
    exact ⟨hearly, by omega, hnext, by omega⟩

/-- A later time is the lesser number in the one case only. -/
theorem seconds_lt_iff {t u : Int} (h : t ≤ u) :
    (seconds u).lt (seconds t) = true ↔ Reversed t u := by
  have hlimit := secondUnits_lt_limit
  have horder : t / nanosecondsPerSecond < u / nanosecondsPerSecond ∨
      t / nanosecondsPerSecond = u / nanosecondsPerSecond ∧
        (t % nanosecondsPerSecond).toNat ≤ (u % nanosecondsPerSecond).toNat := by
    simp only [nanosecondsPerSecond]
    omega
  have hunits := timeUnits_lt_iff (fraction_lt t) (fraction_lt u) horder
  rw [reversed_iff, ← hunits]
  refine ⟨(seconds_measures u).lt_of_lt (seconds_measures t), ?_⟩
  intro hlt
  obtain ⟨-, -, hnext, hfirst⟩ := hunits.mp hlt
  have hearly : (timeUnits (u / nanosecondsPerSecond)
      (u % nanosecondsPerSecond).toNat).natAbs < limit := by
    rw [timeUnits_of_first_half (.inr hnext) hfirst]
    omega
  exact ((seconds_measures u).lt_iff (seconds_measures t) hearly).mpr hlt

end BuildVersion.Build
