import Mathlib.Tactic.Linarith
import BuildVersion.Proofs.Build.Detection
import BuildVersion.Proofs.Number.Spacing

namespace BuildVersion.Build

open Binary64 (Measures IsCanonical unitBits limit keepBits rounded)

section Fractions

/-- What the fraction of a second is counted in, before it is rounded. -/
def fractionStep : Nat := 2 ^ (unitBits - 82)

theorem secondUnits_eq : secondUnits = 2 ^ 82 * fractionStep := by
  rw [secondUnits, fractionStep, ← Nat.pow_add]
  congr 1
  unfold unitBits
  rfl

theorem step_eq (k : Nat) : 2 ^ (k + (unitBits - 53)) = 2 ^ k * (2 ^ 29 * fractionStep) := by
  have hbits : unitBits - 53 = 29 + (unitBits - 82) := by
    unfold unitBits
    rfl
  rw [hbits, Nat.pow_add, Nat.pow_add, fractionStep]

variable {n : Nat}

theorem fractionUnits_error (hn : n < nanosecondsPerSecond) :
    2 * fractionUnits n ≤ 2 * (n * (4835703278458517 * fractionStep)) + 2 ^ 29 * fractionStep ∧
      2 * (n * (4835703278458517 * fractionStep)) ≤
        2 * fractionUnits n + 2 ^ 29 * fractionStep := by
  have hstep := step_eq 0
  simp only [Nat.zero_add, Nat.pow_zero, Nat.one_mul] at hstep
  have hsize : n * (4835703278458517 * fractionStep) ≤ 2 ^ 53 * 2 ^ (unitBits - 53) := by
    rw [hstep]
    calc
      n * (4835703278458517 * fractionStep) = n * 4835703278458517 * fractionStep :=
        (Nat.mul_assoc ..).symm
      _ ≤ 2 ^ 53 * 2 ^ 29 * fractionStep := by
        refine Nat.mul_le_mul_right _ ?_
        simp only [nanosecondsPerSecond] at hn
        omega
      _ = 2 ^ 53 * (2 ^ 29 * fractionStep) := Nat.mul_assoc ..
  have hlow := Binary64.le_keepBits_add hsize
  have hhigh := Binary64.keepBits_le_add hsize
  rw [hstep] at hlow hhigh
  exact ⟨hhigh, hlow⟩

end Fractions

/-- Less than `2 ^ k` seconds from the beginning of the count. -/
def Within (k : Nat) (time : Int) : Prop :=
  -2 ^ k * nanosecondsPerSecond ≤ time ∧ time < 2 ^ k * nanosecondsPerSecond

section Gap

variable {k : Nat} {t u : Int}

theorem natAbs_exactUnits_le {s : Int} {n : Nat} (hlow : -2 ^ k ≤ s) (hhigh : s < 2 ^ k)
    (hn : n < nanosecondsPerSecond) :
    (s * secondUnits + fractionUnits n).natAbs ≤ 2 ^ 53 * 2 ^ (k + (unitBits - 53)) := by
  have hfraction := fractionUnits_lt hn
  have hbound : 2 ^ 53 * 2 ^ (k + (unitBits - 53)) = 2 ^ k * secondUnits := by
    rw [step_eq, secondUnits_eq, Nat.mul_left_comm, ← Nat.mul_assoc (2 ^ 53) (2 ^ 29)]
    rfl
  rw [hbound]
  have hbelow : -2 ^ k * (secondUnits : Int) ≤ s * secondUnits :=
    Int.mul_le_mul_of_nonneg_right hlow (Int.natCast_nonneg _)
  have habove : (s + 1) * (secondUnits : Int) ≤ 2 ^ k * secondUnits :=
    Int.mul_le_mul_of_nonneg_right hhigh (Int.natCast_nonneg _)
  have hcast : ((2 ^ k * secondUnits : Nat) : Int) = 2 ^ k * (secondUnits : Int) := by
    rw [Int.natCast_mul, Int.natCast_pow]
    rfl
  rw [Int.add_mul] at habove
  rw [Int.neg_mul] at hbelow
  omega

/-- Times that are further apart than the numbers of their size have different numbers. -/
theorem timeUnits_lt_of_gap (hk : k ≤ 53) (ht : Within k t) (hu : Within k u)
    (hgap : (2 ^ k + 2) * nanosecondsPerSecond ≤ (u - t) * 2 ^ 53) :
    timeUnits (t / nanosecondsPerSecond) (t % nanosecondsPerSecond).toNat <
      timeUnits (u / nanosecondsPerSecond) (u % nanosecondsPerSecond).toNat := by
  have hpow : (2 : Int) ^ k ≤ 2 ^ 53 := pow_le_pow_right₀ (by decide) hk
  have hm := fraction_lt t
  have hn := fraction_lt u
  obtain ⟨htlow, hthigh⟩ := ht
  obtain ⟨hulow, huhigh⟩ := hu
  have htime : t = t / nanosecondsPerSecond * nanosecondsPerSecond +
      (t % nanosecondsPerSecond).toNat := by
    simp only [nanosecondsPerSecond]
    omega
  have hother : u = u / nanosecondsPerSecond * nanosecondsPerSecond +
      (u % nanosecondsPerSecond).toNat := by
    simp only [nanosecondsPerSecond]
    omega
  generalize t / nanosecondsPerSecond = s at htime ⊢
  generalize u / nanosecondsPerSecond = s' at hother ⊢
  generalize (t % nanosecondsPerSecond).toNat = m at hm htime ⊢
  generalize (u % nanosecondsPerSecond).toNat = n at hn hother ⊢
  have hlow := (fractionUnits_error hm).1
  have hhigh := (fractionUnits_error hn).2
  simp only [nanosecondsPerSecond] at hm hn htlow hthigh hulow huhigh htime hother hgap
  have hs : -2 ^ k ≤ s ∧ s < 2 ^ k := by omega
  have hs' : -2 ^ k ≤ s' ∧ s' < 2 ^ k := by omega
  rw [timeUnits, timeUnits, wholeUnits_eq (by omega), wholeUnits_eq (by omega)]
  refine Binary64.rounded_lt_rounded (natAbs_exactUnits_le hs.1 hs.2 hm)
    (natAbs_exactUnits_le hs'.1 hs'.2 hn) ?_
  have hpositive : 0 < fractionStep := Nat.two_pow_pos _
  rw [step_eq, secondUnits_eq]
  generalize fractionStep = q at hlow hhigh hpositive ⊢
  -- Everything is linear in the products of the times with the step.
  have hscaled : ((2 : Int) ^ k * q + 2 * q) * (1000000000 * 2 ^ 29) ≤
      (s' * q * 1000000000 + n * q - (s * q * 1000000000 + m * q)) * 2 ^ 82 := by
    have hproduct := Int.mul_le_mul_of_nonneg_right hgap (Int.natCast_nonneg (q * 2 ^ 29))
    rw [htime, hother] at hproduct
    push_cast at hproduct
    linarith
  have hfew : m * q ≤ 1000000000 * q := Nat.mul_le_mul_right q (Nat.le_of_lt hm)
  rw [Nat.mul_left_comm] at hlow hhigh
  push_cast
  zify at hlow hhigh hfew hpositive
  have hnonneg : (0 : Int) ≤ n * q := Int.natCast_nonneg (n * q)
  linarith

theorem natAbs_timeUnits_lt (hk : k ≤ 53) (ht : Within k t) :
    (timeUnits (t / nanosecondsPerSecond) (t % nanosecondsPerSecond).toNat).natAbs < limit := by
  have hpow : (2 : Int) ^ k ≤ 2 ^ 53 := pow_le_pow_right₀ (by decide) hk
  have hlimit := secondUnits_lt_limit
  obtain ⟨hlow, hhigh⟩ := ht
  simp only [nanosecondsPerSecond] at hlow hhigh
  have hs : -2 ^ 53 ≤ t / nanosecondsPerSecond ∧ t / nanosecondsPerSecond < 2 ^ 53 := by
    simp only [nanosecondsPerSecond]
    omega
  have hbelow : -2 ^ 53 * (secondUnits : Int) ≤
      timeUnits (t / nanosecondsPerSecond) (t % nanosecondsPerSecond).toNat := by
    calc
      -2 ^ 53 * (secondUnits : Int) = wholeUnits (-2 ^ 53) := (wholeUnits_eq (by decide)).symm
      _ ≤ wholeUnits (t / nanosecondsPerSecond) := wholeUnits_mono hs.1
      _ ≤ _ := wholeUnits_le_timeUnits _ _
  have habove : timeUnits (t / nanosecondsPerSecond) (t % nanosecondsPerSecond).toNat ≤
      2 ^ 53 * (secondUnits : Int) := by
    calc
      _ ≤ wholeUnits (t / nanosecondsPerSecond + 1) :=
        timeUnits_le_next (by omega) (fraction_lt t)
      _ ≤ wholeUnits (2 ^ 53) := wholeUnits_mono (by omega)
      _ = 2 ^ 53 * (secondUnits : Int) := wholeUnits_eq (by decide)
  omega

theorem seconds_lt_of_gap (hk : k ≤ 53) (ht : Within k t) (hu : Within k u)
    (hgap : (2 ^ k + 2) * nanosecondsPerSecond ≤ (u - t) * 2 ^ 53) :
    (seconds t).lt (seconds u) = true :=
  ((seconds_measures t).lt_iff (seconds_measures u) (natAbs_timeUnits_lt hk ht)).mpr
    (timeUnits_lt_of_gap hk ht hu hgap)

end Gap

section Order

variable {t u : Int}

theorem isCanonical_seconds (t : Int) : IsCanonical (seconds t) := by
  have hfraction := fractionUnits_lt (fraction_lt t)
  have hsecond := secondUnits_lt_limit
  have hwhole : IsCanonical (Binary64.ofInt (t / nanosecondsPerSecond)) := by
    rw [Binary64.ofInt_eq_ofUnits]
    exact Binary64.isCanonical_ofUnits _
  have hmeasures := nanosecond_measures (t % nanosecondsPerSecond).toNat
  rw [seconds]
  generalize nanosecond.scale (t % nanosecondsPerSecond).toNat = x at hmeasures ⊢
  generalize ha : (fractionUnits (t % nanosecondsPerSecond).toNat : Int) = a at hmeasures
  cases hmeasures with
  | finite => exact hwhole.add _ _ _
  | above hlarge => omega
  | below hlarge => omega

/-- A later time has the greater number unless the two times have one number or are reversed. -/
theorem seconds_lt_of_lt_iff (h : t < u) :
    (seconds t).lt (seconds u) = true ↔ seconds t ≠ seconds u ∧ ¬Reversed t u := by
  rw [← seconds_lt_iff (Int.le_of_lt h)]
  have hlt := Binary64.lt_asymm (seconds t) (seconds u)
  constructor
  · intro hless
    refine ⟨?_, hlt hless⟩
    intro hequal
    rw [hequal, Binary64.lt_irrefl] at hless
    contradiction
  · rintro ⟨hne, hnot⟩
    rcases (isCanonical_seconds t).lt_trichotomy (isCanonical_seconds u) with hless | hequal | hmore
    · exact hless
    · exact absurd hequal hne
    · exact absurd hmore hnot

theorem detect_eq_docker_iff {files : Files.Tree} {checkout : Files.Path}
    {words : Words} {bazel docker : Files.Node}
    (hbazel : files.stat (Builder.bazel.tarball checkout) = .ok bazel)
    (hdocker : files.stat (Builder.docker.tarball checkout) = .ok docker) :
    detect files checkout words = .ok .docker ↔
      ¬(seconds docker.mtime).lt (seconds bazel.mtime) = true := by
  rw [detect, modified?_eq_some_iff.mpr ⟨bazel, hbazel, rfl⟩,
    modified?_eq_some_iff.mpr ⟨docker, hdocker, rfl⟩]
  simp [newer]

end Order

/-- Of two tarballs that are there the newer one of Bazel is taken unless the two times are one
number, or are reversed. Times less than `2 ^ k` seconds from the beginning of the count are
different numbers, in the right order, if they are further apart than the numbers are there, which
is `2 ^ (k - 53)` seconds and two parts of `2 ^ 53` of a second for the rounding of fractions. -/
theorem detect_newer_unless_one_number {files : Files.Tree} {checkout : Files.Path}
    {bazel docker : Files.Node} (words : Words)
    (hbazel : files.stat (Builder.bazel.tarball checkout) = .ok bazel)
    (hdocker : files.stat (Builder.docker.tarball checkout) = .ok docker)
    (hnewer : docker.mtime < bazel.mtime) :
    (detect files checkout words = .ok .bazel ↔
        seconds docker.mtime ≠ seconds bazel.mtime ∧ ¬Reversed docker.mtime bazel.mtime) ∧
      (detect files checkout words = .ok .docker ↔
        seconds docker.mtime = seconds bazel.mtime ∨ Reversed docker.mtime bazel.mtime) ∧
      ∀ k ≤ 53, Within k docker.mtime → Within k bazel.mtime →
        (2 ^ k + 2) * nanosecondsPerSecond ≤ (bazel.mtime - docker.mtime) * 2 ^ 53 →
        detect files checkout words = .ok .bazel := by
  have htaken : detect files checkout words = .ok .bazel ↔ _ := detect_eq_bazel_iff hbazel hdocker
  refine ⟨htaken.trans (seconds_lt_of_lt_iff hnewer), ?_, ?_⟩
  · rw [detect_eq_docker_iff hbazel hdocker, seconds_lt_of_lt_iff hnewer]
    tauto
  · intro k hk hearlier hlater hgap
    exact htaken.mpr (seconds_lt_of_gap hk hearlier hlater hgap)

/-- In 2020 a tarball that is newer by 239 nanoseconds is taken. -/
theorem detect_checkoutTree_newer :
    detect (checkoutTree 1600000000000000239 1600000000000000000) workingDirectory =
      .ok .bazel := by
  obtain ⟨-, -, hgap⟩ := detect_newer_unless_one_number {}
    (stat_bazel_checkoutTree 1600000000000000239 1600000000000000000)
    (stat_docker_checkoutTree 1600000000000000239 1600000000000000000) (by decide)
  refine hgap 31 (by decide) ?_ ?_ ?_
  · exact ⟨by decide, by decide⟩
  · exact ⟨by decide, by decide⟩
  · decide

/-- In 2020 a tarball that is newer by a nanosecond is not taken. -/
theorem detect_checkoutTree_one_number :
    let tree := checkoutTree 1600000000000000001 1600000000000000000
    detect tree workingDirectory = .ok .docker ∧
      ∃ bazel docker, tree.stat (Builder.bazel.tarball workingDirectory) = .ok bazel ∧
        tree.stat (Builder.docker.tarball workingDirectory) = .ok docker ∧
        docker.mtime < bazel.mtime := by
  have hbazel := stat_bazel_checkoutTree 1600000000000000001 1600000000000000000
  have hdocker := stat_docker_checkoutTree 1600000000000000001 1600000000000000000
  refine ⟨?_, _, _, hbazel, hdocker, by decide⟩
  rw [detect_eq_docker_iff hbazel hdocker]
  decide +kernel

end BuildVersion.Build
