import BuildVersion.Text.Digit

namespace BuildVersion.Text

/-- The digits `1` to `9`, with which a number other than zero begins. -/
def isLeadingDigit (c : Char) : Bool :=
  '1' ≤ c && c ≤ '9'

theorem char_le_iff {c d : Char} : c ≤ d ↔ c.toNat ≤ d.toNat := Iff.rfl

theorem isLeadingDigit_iff {c : Char} :
    isLeadingDigit c = true ↔ c ≠ '0' ∧ isAsciiDigit c = true := by
  have hzero : c = '0' ↔ c.toNat = 48 := by
    rw [← Char.toNat_inj]
    rfl
  simp only [isLeadingDigit, isAsciiDigit, Bool.and_eq_true, decide_eq_true_eq, char_le_iff, Ne,
    hzero, Char.reduceToNat]
  omega

theorem toNat_lt_of_isAsciiDigit {c : Char} (hc : isAsciiDigit c = true) : c.toNat < 128 := by
  simp only [isAsciiDigit, Bool.and_eq_true, decide_eq_true_eq, char_le_iff,
    Char.reduceToNat] at hc
  omega

theorem toNat_lt_of_isAsciiLetter {c : Char} (hc : isAsciiLetter c = true) : c.toNat < 128 := by
  simp only [isAsciiLetter, Bool.or_eq_true, Bool.and_eq_true, decide_eq_true_eq, char_le_iff,
    Char.reduceToNat] at hc
  omega

theorem isAsciiDigit_of_isAsciiLetter {c : Char} (hc : isAsciiLetter c = true) :
    isAsciiDigit c = false := by
  rw [Bool.eq_false_iff]
  intro hdigit
  simp only [isAsciiLetter, isAsciiDigit, Bool.or_eq_true, Bool.and_eq_true, decide_eq_true_eq,
    char_le_iff, Char.reduceToNat] at hc hdigit
  omega

theorem isDigit_eq_of_lt {c : Char} (hc : c.toNat < 128) : isDigit c = isAsciiDigit c := by
  have htable : ∀ n < 128, isDigit (Char.ofNat n) = isAsciiDigit (Char.ofNat n) := by decide
  simpa using htable c.toNat hc

theorem isDigit_of_isAsciiDigit {c : Char} (hc : isAsciiDigit c = true) : isDigit c = true := by
  rw [isDigit_eq_of_lt (toNat_lt_of_isAsciiDigit hc), hc]

theorem isDigit_of_isAsciiLetter {c : Char} (hc : isAsciiLetter c = true) : isDigit c = false := by
  rw [isDigit_eq_of_lt (toNat_lt_of_isAsciiLetter hc), isAsciiDigit_of_isAsciiLetter hc]

theorem lt_ten_of_digitValue? {c : Char} {d : Nat} (hc : digitValue? c = some d) : d < 10 := by
  obtain ⟨first, hfirst, rfl⟩ := Option.map_eq_some_iff.mp hc
  have hrange := List.find?_some hfirst
  rw [Bool.and_eq_true, decide_eq_true_eq, decide_eq_true_eq] at hrange
  omega

theorem digitValue?_digitChar : ∀ d < 10, digitValue? (Nat.digitChar d) = some d := by decide

theorem isLeadingDigit_digitChar :
    ∀ d < 10, d ≠ 0 → isLeadingDigit (Nat.digitChar d) = true := by decide

theorem isDigit_iff {c : Char} : isDigit c = true ↔ ∃ d, digitValue? c = some d :=
  Option.isSome_iff_exists

theorem isDigit_digitChar {d : Nat} (hd : d < 10) : isDigit (Nat.digitChar d) = true :=
  isDigit_iff.mpr ⟨d, digitValue?_digitChar d hd⟩

/-- The digit of ASCII with the value of a digit of any script; other characters stay. -/
def toAsciiDigit (c : Char) : Char :=
  (digitValue? c).elim c Nat.digitChar

theorem toAsciiDigit_of_digitValue? {c : Char} {d : Nat} (hc : digitValue? c = some d) :
    toAsciiDigit c = Nat.digitChar d := by
  rw [toAsciiDigit, hc, Option.elim_some]

@[simp] theorem digitValue?_toAsciiDigit (c : Char) :
    digitValue? (toAsciiDigit c) = digitValue? c := by
  cases hc : digitValue? c with
  | none => rw [toAsciiDigit, hc, Option.elim_none, hc]
  | some d =>
      rw [toAsciiDigit_of_digitValue? hc, digitValue?_digitChar d (lt_ten_of_digitValue? hc)]

@[simp] theorem toAsciiDigit_toAsciiDigit (c : Char) :
    toAsciiDigit (toAsciiDigit c) = toAsciiDigit c := by
  cases hc : digitValue? c with
  | none => rw [toAsciiDigit, digitValue?_toAsciiDigit, hc, Option.elim_none]
  | some d =>
      rw [toAsciiDigit, digitValue?_toAsciiDigit, hc, Option.elim_some,
        toAsciiDigit_of_digitValue? hc]

theorem toAsciiDigit_of_lt {c : Char} (hc : c.toNat < 128) : toAsciiDigit c = c := by
  have htable : ∀ n < 128, toAsciiDigit (Char.ofNat n) = Char.ofNat n := by decide
  simpa using htable c.toNat hc

theorem map_toAsciiDigit_of_lt {s : List Char} (hs : ∀ c ∈ s, c.toNat < 128) :
    s.map toAsciiDigit = s := by
  have hid : s.map toAsciiDigit = s.map id :=
    List.map_congr_left fun c hc => toAsciiDigit_of_lt (hs c hc)
  rw [hid, List.map_id]

end BuildVersion.Text
