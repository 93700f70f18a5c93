import Mathlib.Algebra.Group.Nat.Defs
import Mathlib.Data.List.Basic
import Mathlib.Tactic.MkIffOfInductiveProp
import BuildVersion.Text.Utf8

namespace BuildVersion.Text.Utf8

theorem toNat_toUInt8 {n : Nat} (hn : n < 256) : n.toUInt8.toNat = n := by
  rw [Nat.toUInt8_eq, UInt8.toNat_ofNat', Nat.mod_eq_of_lt hn]

theorem toUInt8_toNat (b : UInt8) : b.toNat.toUInt8 = b := by
  rw [Nat.toUInt8_eq, UInt8.ofNat_toNat]

theorem toNat_ofNat {n : Nat} (hn : n.isValidChar) : (Char.ofNat n).toNat = n := by
  rw [Char.ofNat, dif_pos hn]
  rfl

/-- The last groups of six bits of a number, as bytes that continue a character. -/
def continuation : Nat → Nat → List UInt8
  | 0, _ => []
  | k + 1, n => (0x80 + n / 64 ^ k % 64).toUInt8 :: continuation k n

theorem toNat_continuationByte (n : Nat) : (0x80 + n % 64).toUInt8.toNat = 0x80 + n % 64 :=
  toNat_toUInt8 (by omega)

/-- A byte is owed, and only bytes that continue a character may come. -/
structure Partial.Continues (p : Partial) : Prop where
  owed_pos : 0 < p.owed
  le_low : 0x80 ≤ p.low.toNat
  high_le : p.high.toNat ≤ 0xBF

/-- The code points that a partial character may become. -/
@[mk_iff]
structure Partial.Allows (p : Partial) (n : Nat) : Prop where
  bits_eq : n / 64 ^ p.owed = p.bits
  low_le : p.low.toNat ≤ 0x80 + n / 64 ^ (p.owed - 1) % 64
  le_high : 0x80 + n / 64 ^ (p.owed - 1) % 64 ≤ p.high.toNat

section Partial

variable {p : Partial} {b : UInt8} {k n position : Nat} {done : List Char} {rest : List UInt8}

theorem Partial.Continues.push (howed : p.owed = k + 2) : (p.push b).Continues where
  owed_pos := by simp [Partial.push, howed]
  le_low := Nat.le_refl _
  high_le := Nat.le_refl _

/-- The last byte of a character decides which one it is. -/
theorem Partial.bits_push_iff (hp : p.Continues) (howed : p.owed = 1) (hlow : p.low ≤ b)
    (hhigh : b ≤ p.high) :
    (p.push b).bits = n ↔ p.Allows n ∧ b = (0x80 + n % 64).toUInt8 := by
  have hle := hp.le_low
  have hge := hp.high_le
  rw [UInt8.le_iff_toNat_le] at hlow hhigh
  rw [← UInt8.toNat_inj, toNat_continuationByte]
  constructor
  · rintro rfl
    simp only [Partial.push]
    refine ⟨⟨?_, ?_, ?_⟩, ?_⟩
    · rw [howed, Nat.pow_one]
      omega
    · rw [howed, Nat.sub_self, Nat.pow_zero, Nat.div_one]
      omega
    · rw [howed, Nat.sub_self, Nat.pow_zero, Nat.div_one]
      omega
    · omega
  · rintro ⟨hn, hb⟩
    have hbits := hn.bits_eq
    rw [howed, Nat.pow_one] at hbits
    simp only [Partial.push]
    omega

/-- Of the characters that a partial one may become, a byte that is not the last leaves those that
have it. -/
theorem Partial.allows_push_iff (hp : p.Continues) (howed : p.owed = k + 2) (hlow : p.low ≤ b)
    (hhigh : b ≤ p.high) :
    (p.push b).Allows n ↔ p.Allows n ∧ b = (0x80 + n / 64 ^ (k + 1) % 64).toUInt8 := by
  have hle := hp.le_low
  have hge := hp.high_le
  have hquotient : n / 64 ^ (k + 2) = n / 64 ^ (k + 1) / 64 := by
    rw [Nat.div_div_eq_div_mul, ← Nat.pow_succ]
  have hpred : k + 2 - 1 = k + 1 := rfl
  rw [UInt8.le_iff_toNat_le] at hlow hhigh
  rw [← UInt8.toNat_inj, toNat_continuationByte]
  constructor
  · rintro ⟨hbits, -, -⟩
    simp only [Partial.push, howed, hpred] at hbits
    refine ⟨⟨?_, ?_, ?_⟩, ?_⟩
    · rw [howed, hquotient]
      omega
    · rw [howed, hpred]
      omega
    · rw [howed, hpred]
      omega
    · omega
  · rintro ⟨⟨hbits, -, -⟩, hb⟩
    rw [howed, hquotient] at hbits
    have hlast := Nat.mod_lt (n / 64 ^ k) (show 0 < 64 by decide)
    refine ⟨?_, ?_, ?_⟩
    · simp only [Partial.push, howed, hpred]
      omega
    · simp [Partial.push]
    · simp only [Partial.push, howed, hpred, Nat.add_sub_cancel]
      change _ ≤ 0xBF
      omega

theorem decodeFrom_push_last (howed : p.owed = 1) (hlow : p.low ≤ b) (hhigh : b ≤ p.high) :
    decodeFrom position (some p) done (b :: rest) =
      decodeFrom (position + 1) none (Char.ofNat (p.push b).bits :: done) rest := by
  rw [decodeFrom, if_pos ⟨hlow, hhigh⟩, if_pos howed]

theorem decodeFrom_push (howed : p.owed ≠ 1) (hlow : p.low ≤ b) (hhigh : b ≤ p.high) :
    decodeFrom position (some p) done (b :: rest) =
      decodeFrom (position + 1) (some (p.push b)) done rest := by
  rw [decodeFrom, if_pos ⟨hlow, hhigh⟩, if_neg howed]

theorem Partial.Allows.between (hn : p.Allows n) (howed : p.owed = k + 1) :
    p.low ≤ (0x80 + n / 64 ^ k % 64).toUInt8 ∧ (0x80 + n / 64 ^ k % 64).toUInt8 ≤ p.high := by
  have hlow := hn.low_le
  have hhigh := hn.le_high
  rw [howed, Nat.add_sub_cancel] at hlow hhigh
  rw [UInt8.le_iff_toNat_le, UInt8.le_iff_toNat_le, toNat_continuationByte]
  exact ⟨hlow, hhigh⟩

/-- By induction on the bytes that are owed. -/
theorem decodeFrom_continuation (hp : p.Continues) (howed : p.owed = k + 1) (hn : p.Allows n) :
    decodeFrom position (some p) done (continuation (k + 1) n ++ rest) =
      decodeFrom (position + (k + 1)) none (Char.ofNat n :: done) rest := by
  obtain ⟨hlow, hhigh⟩ := hn.between howed
  rw [continuation, List.cons_append]
  induction k generalizing p position with
  | zero =>
      have hbits := (Partial.bits_push_iff hp howed hlow hhigh (n := n)).mpr
        ⟨hn, by rw [Nat.pow_zero, Nat.div_one]⟩
      rw [decodeFrom_push_last howed hlow hhigh, hbits]
      rfl
  | succ k ih =>
      have howed' : (p.push (0x80 + n / 64 ^ (k + 1) % 64).toUInt8).owed = k + 1 := by
        rw [Partial.push, howed]
        rfl
      have hnext := (Partial.allows_push_iff hp howed hlow hhigh).mpr ⟨hn, rfl⟩
      obtain ⟨hlow', hhigh'⟩ := hnext.between howed'
      rw [decodeFrom_push (by omega) hlow hhigh, continuation, List.cons_append,
        ih (.push howed) howed' hnext hlow' hhigh', Nat.add_assoc, Nat.add_comm 1]

/-- The bytes are no continuation of a partial character, and the error begins where it began. -/
structure Partial.BreaksOff (p : Partial) (bytes : List UInt8) (m : Malformed) : Prop where
  never_begins : ∀ n, p.Allows n → ¬continuation p.owed n <+: bytes
  start_eq : m.start = p.start
  first_eq : m.first = p.first
  le_length : p.length ≤ m.length
  length_le : m.length ≤ p.length + bytes.length

theorem Partial.breaksOff_nil (hp : p.Continues) :
    p.BreaksOff [] ⟨p.start, p.first, p.length, .endOfData⟩ where
  never_begins n _ := by
    obtain ⟨k, hk⟩ := Nat.exists_eq_add_of_lt hp.owed_pos
    rw [List.prefix_nil, hk, continuation]
    exact List.cons_ne_nil _ _
  start_eq := rfl
  first_eq := rfl
  le_length := Nat.le_refl _
  length_le := Nat.le_refl _

theorem Partial.breaksOff_cons (howed : p.owed = k + 1) (hb : ¬(p.low ≤ b ∧ b ≤ p.high)) :
    p.BreaksOff (b :: rest) ⟨p.start, p.first, p.length, .continuationByte⟩ where
  never_begins n hn := by
    rw [howed, continuation, List.cons_prefix_cons]
    rintro ⟨rfl, -⟩
    exact hb (hn.between howed)
  start_eq := rfl
  first_eq := rfl
  le_length := Nat.le_refl _
  length_le := Nat.le_add_right _ _

theorem Partial.BreaksOff.of_push {m : Malformed} (hp : p.Continues) (howed : p.owed = k + 2)
    (hlow : p.low ≤ b) (hhigh : b ≤ p.high) (h : (p.push b).BreaksOff rest m) :
    p.BreaksOff (b :: rest) m where
  never_begins n hn := by
    rw [howed, continuation, List.cons_prefix_cons]
    rintro ⟨rfl, hrest⟩
    refine h.never_begins n ((Partial.allows_push_iff hp howed hlow hhigh).mpr ⟨hn, rfl⟩) ?_
    rw [Partial.push, howed]
    exact hrest
  start_eq := h.start_eq
  first_eq := h.first_eq
  le_length := Nat.le_of_succ_le h.le_length
  length_le := by
    have hlength := h.length_le
    simp only [Partial.push] at hlength
    rw [List.length_cons]
    omega

/-- A partial character is continued up to a character, or the bytes break it off. -/
theorem continued_or_breaksOff (hp : p.Continues) (howed : p.owed = k + 1) (bytes : List UInt8)
    (position : Nat) (done : List Char) :
    (∃ n rest, p.Allows n ∧ bytes = continuation (k + 1) n ++ rest) ∨
      ∃ m, decodeFrom position (some p) done bytes = .error m ∧ p.BreaksOff bytes m := by
  induction bytes generalizing p k position with
  | nil => exact .inr ⟨_, rfl, Partial.breaksOff_nil hp⟩
  | cons b rest ih =>
      by_cases hb : p.low ≤ b ∧ b ≤ p.high
      · obtain ⟨hlow, hhigh⟩ := hb
        cases k with
        | zero =>
            obtain ⟨hn, hlast⟩ := (Partial.bits_push_iff hp howed hlow hhigh).mp rfl
            refine .inl ⟨_, rest, hn, ?_⟩
            rw [continuation, Nat.pow_zero, Nat.div_one, ← hlast]
            rfl
        | succ k =>
            have howed' : (p.push b).owed = k + 1 := by
              rw [Partial.push, howed]
              rfl
            rw [decodeFrom_push (by omega) hlow hhigh]
            rcases ih (.push howed) howed' (position + 1) with ⟨n, rest, hn, rfl⟩ | ⟨m, hm, hbreaks⟩
            · obtain ⟨hn, hnext⟩ := (Partial.allows_push_iff hp howed hlow hhigh).mp hn
              refine .inl ⟨n, rest, hn, ?_⟩
              rw [hnext]
              rfl
            · exact .inr ⟨m, hm, hbreaks.of_push hp howed hlow hhigh⟩
      · refine .inr ⟨_, ?_, Partial.breaksOff_cons howed hb⟩
        rw [decodeFrom, if_neg hb]

end Partial

/-- The first byte of a character that has more, and their number. -/
inductive Opens (b : UInt8) : Nat → Nat → Prop
  | two {n : Nat} (hlow : 0x80 ≤ n) (hhigh : n < 0x800) (hb : b.toNat = 0xC0 + n / 64) :
      Opens b 1 n
  | three {n : Nat} (hlow : 0x800 ≤ n) (hhigh : n < 0x10000) (hb : b.toNat = 0xE0 + n / 4096) :
      Opens b 2 n
  | four {n : Nat} (hlow : 0x10000 ≤ n) (hhigh : n < 0x110000) (hb : b.toNat = 0xF0 + n / 262144) :
      Opens b 3 n

theorem toNat_lt (c : Char) : c.toNat < 0x110000 := by
  have hvalid : c.toNat < 0xD800 ∨ 0xDFFF < c.toNat ∧ c.toNat < 0x110000 := c.valid
  omega

theorem encodeChar_of_lt {c : Char} (hc : c.toNat < 0x80) : encodeChar c = [c.toNat.toUInt8] := by
  simp only [encodeChar, if_pos hc]

theorem exists_opens {c : Char} (hc : 0x80 ≤ c.toNat) :
    ∃ b k, Opens b k c.toNat ∧ encodeChar c = b :: continuation k c.toNat := by
  have hmost := toNat_lt c
  simp only [encodeChar, if_neg (Nat.not_lt.mpr hc)]
  by_cases htwo : c.toNat < 0x800
  · refine ⟨_, 1, .two hc htwo (toNat_toUInt8 (by omega)), ?_⟩
    simp only [if_pos htwo, continuation, Nat.pow_zero, Nat.div_one]
  · by_cases hthree : c.toNat < 0x10000
    · refine ⟨_, 2, .three (by omega) hthree (toNat_toUInt8 (by omega)), ?_⟩
      simp only [if_neg htwo, if_pos hthree, continuation, Nat.pow_zero, Nat.pow_one, Nat.div_one]
    · refine ⟨_, 3, .four (by omega) hmost (toNat_toUInt8 (by omega)), ?_⟩
      simp only [if_neg htwo, if_neg hthree, continuation, Nat.pow_zero, Nat.pow_one, Nat.div_one,
        Nat.reducePow]

theorem Opens.not_lt {b : UInt8} {k n : Nat} (h : Opens b k n) : ¬b < 0x80 := by
  rw [UInt8.lt_iff_toNat_lt]
  change ¬b.toNat < 0x80
  cases h <;> omega

theorem Opens.unique {b b' : UInt8} {k k' n : Nat} (h : Opens b k n) (h' : Opens b' k' n) :
    b = b' ∧ k = k' := by
  rw [← UInt8.toNat_inj]
  cases h <;> cases h' <;> omega

theorem Opens.encodeChar_eq {b : UInt8} {k : Nat} {c : Char} (h : Opens b k c.toNat) :
    encodeChar c = b :: continuation k c.toNat := by
  have hc : 0x80 ≤ c.toNat := by
    cases h <;> omega
  obtain ⟨b', k', h', hencode⟩ := exists_opens hc
  obtain ⟨rfl, rfl⟩ := h.unique h'
  exact hencode

section Lead

variable {b : UInt8} {p : Partial} {start k n : Nat}

theorem allows_of_one {first low high : UInt8} {length bits : Nat} :
    Partial.Allows ⟨start, first, length, 1, low, high, bits⟩ n ↔
      n / 64 = bits ∧ low.toNat ≤ 0x80 + n % 64 ∧ 0x80 + n % 64 ≤ high.toNat := by
  rw [Partial.allows_iff]
  simp only [Nat.pow_one, Nat.sub_self, Nat.pow_zero, Nat.div_one]

theorem allows_of_two {first low high : UInt8} {length bits : Nat} :
    Partial.Allows ⟨start, first, length, 2, low, high, bits⟩ n ↔
      n / 4096 = bits ∧ low.toNat ≤ 0x80 + n / 64 % 64 ∧ 0x80 + n / 64 % 64 ≤ high.toNat := by
  rw [Partial.allows_iff]
  simp only [Nat.reducePow, Nat.reduceSub]

theorem allows_of_three {first low high : UInt8} {length bits : Nat} :
    Partial.Allows ⟨start, first, length, 3, low, high, bits⟩ n ↔
      n / 262144 = bits ∧ low.toNat ≤ 0x80 + n / 4096 % 64 ∧ 0x80 + n / 4096 % 64 ≤ high.toNat := by
  rw [Partial.allows_iff]
  simp only [Nat.reducePow, Nat.reduceSub]

theorem continues_of_lead (h : lead start b = some p) : p.Continues := by
  simp only [lead] at h
  split_ifs at h <;> cases h <;> exact ⟨by simp, by simp, by simp⟩

theorem lead_fields (h : lead start b = some p) :
    p.start = start ∧ p.first = b ∧ p.length = 1 := by
  simp only [lead] at h
  split_ifs at h <;> cases h <;> exact ⟨rfl, rfl, rfl⟩

/-- What a first byte allows is neither too small for so many bytes, nor a surrogate, nor too
great. -/
theorem opens_of_lead (h : lead start b = some p) (hn : p.Allows n) :
    Opens b p.owed n ∧ n.isValidChar := by
  simp only [lead] at h
  split_ifs at h <;> cases h <;>
    simp only [allows_of_one, allows_of_two, allows_of_three, UInt8.reduceToNat] at hn
  · exact ⟨.two (by omega) (by omega) (by omega), .inl (by omega)⟩
  · exact ⟨.three (by omega) (by omega) (by omega), .inl (by omega)⟩
  · exact ⟨.three (by omega) (by omega) (by omega), .inl (by omega)⟩
  · exact ⟨.three (by omega) (by omega) (by omega), by simp only [Nat.isValidChar]; omega⟩
  · exact ⟨.four (by omega) (by omega) (by omega), .inr (by omega)⟩
  · exact ⟨.four (by omega) (by omega) (by omega), .inr (by omega)⟩
  · exact ⟨.four (by omega) (by omega) (by omega), .inr (by omega)⟩

theorem exists_lead_of_opens (start : Nat) (h : Opens b k n) (hn : n.isValidChar) :
    ∃ p, lead start b = some p ∧ p.owed = k ∧ p.Allows n := by
  simp only [Nat.isValidChar] at hn
  simp only [lead]
  cases h with
  | two hlow hhigh hb =>
      rw [if_pos (by omega)]
      exact ⟨_, rfl, rfl, by rw [allows_of_one]; simp only [UInt8.reduceToNat]; omega⟩
  | three hlow hhigh hb =>
      rw [if_neg (by omega)]
      by_cases hfirst : b.toNat = 0xE0
      · rw [if_pos hfirst]
        exact ⟨_, rfl, rfl, by rw [allows_of_two]; simp only [UInt8.reduceToNat]; omega⟩
      · rw [if_neg hfirst]
        by_cases hsurrogate : b.toNat = 0xED
        · rw [if_pos hsurrogate]
          exact ⟨_, rfl, rfl, by rw [allows_of_two]; simp only [UInt8.reduceToNat]; omega⟩
        · rw [if_neg hsurrogate, if_pos (by omega)]
          exact ⟨_, rfl, rfl, by rw [allows_of_two]; simp only [UInt8.reduceToNat]; omega⟩
  | four hlow hhigh hb =>
      rw [if_neg (by omega), if_neg (by omega), if_neg (by omega), if_neg (by omega)]
      by_cases hfirst : b.toNat = 0xF0
      · rw [if_pos hfirst]
        exact ⟨_, rfl, rfl, by rw [allows_of_three]; simp only [UInt8.reduceToNat]; omega⟩
      · rw [if_neg hfirst]
        by_cases hlast : b.toNat = 0xF4
        · rw [if_neg (by omega), if_pos hlast]
          exact ⟨_, rfl, rfl, by rw [allows_of_three]; simp only [UInt8.reduceToNat]; omega⟩
        · rw [if_pos (by omega)]
          exact ⟨_, rfl, rfl, by rw [allows_of_three]; simp only [UInt8.reduceToNat]; omega⟩

end Lead

@[simp] theorem length_continuation (k n : Nat) : (continuation k n).length = k := by
  induction k with
  | zero => rfl
  | succ k ih => rw [continuation, List.length_cons, ih]

/-- A character is decoded from its bytes, whatever follows them. -/
theorem decodeFrom_encodeChar (c : Char) (position : Nat) (done : List Char) (rest : List UInt8) :
    decodeFrom position none done (encodeChar c ++ rest) =
      decodeFrom (position + (encodeChar c).length) none (c :: done) rest := by
  by_cases hc : c.toNat < 0x80
  · have hb : c.toNat.toUInt8 < 0x80 := by
      rw [UInt8.lt_iff_toNat_lt, toNat_toUInt8 (by omega)]
      exact hc
    rw [encodeChar_of_lt hc, List.singleton_append, decodeFrom]
    simp only [if_pos hb, toNat_toUInt8 (by omega : c.toNat < 256), Char.ofNat_toNat]
    rfl
  · obtain ⟨b, k, hopens, hencode⟩ := exists_opens (Nat.not_lt.mp hc)
    obtain ⟨p, hlead, howed, hallows⟩ := exists_lead_of_opens position hopens c.valid
    have hp := continues_of_lead hlead
    obtain ⟨k, rfl⟩ := Nat.exists_eq_add_of_le' (howed ▸ hp.owed_pos)
    rw [hencode, List.cons_append, decodeFrom]
    simp only [if_neg hopens.not_lt, hlead]
    rw [decodeFrom_continuation hp howed hallows, Char.ofNat_toNat, List.length_cons,
      length_continuation, Nat.add_assoc, Nat.add_comm 1]

theorem decodeFrom_flatMap_encodeChar (chars : List Char) (position : Nat) (done : List Char)
    (rest : List UInt8) :
    decodeFrom position none done (chars.flatMap encodeChar ++ rest) =
      decodeFrom (position + (chars.flatMap encodeChar).length) none (chars.reverse ++ done)
        rest := by
  induction chars generalizing position done with
  | nil => rfl
  | cons c chars ih =>
      rw [List.flatMap_cons, List.append_assoc, decodeFrom_encodeChar, ih, List.length_append,
        List.reverse_cons, List.append_assoc, Nat.add_assoc]
      rfl

/-- A character in front that is not ASCII is one that its first byte starts. -/
theorem exists_lead_of_begins {b : UInt8} {rest : List UInt8} {c : Char} (start : Nat)
    (hb : ¬b < 0x80) (hbegins : encodeChar c <+: b :: rest) :
    ∃ p, lead start b = some p ∧ p.Allows c.toNat ∧ continuation p.owed c.toNat <+: rest := by
  by_cases hc : c.toNat < 0x80
  · rw [encodeChar_of_lt hc, List.cons_prefix_cons] at hbegins
    rw [← hbegins.1, UInt8.lt_iff_toNat_lt, toNat_toUInt8 (by omega)] at hb
    exact absurd hc hb
  · obtain ⟨b', k, hopens, hencode⟩ := exists_opens (Nat.not_lt.mp hc)
    rw [hencode, List.cons_prefix_cons] at hbegins
    obtain ⟨rfl, hbegins⟩ := hbegins
    obtain ⟨p, hlead, rfl, hallows⟩ := exists_lead_of_opens start hopens c.valid
    exact ⟨p, hlead, hallows, hbegins⟩

/-- The error is about the bytes in front, and no character begins there. -/
structure Malformed.Heads (m : Malformed) (bytes : List UInt8) : Prop where
  head?_eq : bytes.head? = some m.first
  length_pos : 0 < m.length
  length_le : m.length ≤ bytes.length
  never_begins : ∀ c, ¬encodeChar c <+: bytes

/-- Bytes begin with a character, or they begin with what is wrong with them. -/
theorem character_or_heads {b : UInt8} {rest : List UInt8} (position : Nat) (done : List Char) :
    (∃ c rest', b :: rest = encodeChar c ++ rest') ∨
      ∃ m, decodeFrom position none done (b :: rest) = .error m ∧ m.start = position ∧
        m.Heads (b :: rest) := by
  by_cases hb : b < 0x80
  · have hb : b.toNat < 0x80 := UInt8.lt_iff_toNat_lt.mp hb
    have hvalue : (Char.ofNat b.toNat).toNat = b.toNat := toNat_ofNat (.inl (by omega))
    refine .inl ⟨Char.ofNat b.toNat, rest, ?_⟩
    rw [encodeChar_of_lt (hvalue.symm ▸ hb), hvalue, toUInt8_toNat]
    rfl
  · cases hlead : lead position b with
    | none =>
        refine .inr ⟨⟨position, b, 1, .startByte⟩, ?_, rfl, rfl, Nat.one_pos, by simp, ?_⟩
        · rw [decodeFrom]
          simp only [if_neg hb, hlead]
        · intro c hbegins
          obtain ⟨p, hsome, -⟩ := exists_lead_of_begins position hb hbegins
          rw [hlead] at hsome
          contradiction
    | some p =>
        have hp := continues_of_lead hlead
        obtain ⟨hstart, hfirst, hlength⟩ := lead_fields hlead
        obtain ⟨k, howed⟩ := Nat.exists_eq_add_of_le' hp.owed_pos
        rcases continued_or_breaksOff hp howed rest (position + 1) done with
          ⟨n, rest', hn, rfl⟩ | ⟨m, hm, hbreaks⟩
        · obtain ⟨hopens, hvalid⟩ := opens_of_lead hlead hn
          have hvalue : (Char.ofNat n).toNat = n := toNat_ofNat hvalid
          rw [← hvalue] at hopens
          refine .inl ⟨Char.ofNat n, rest', ?_⟩
          rw [hopens.encodeChar_eq, hvalue, howed]
          rfl
        · refine .inr ⟨m, ?_, hbreaks.start_eq.trans hstart, ?_, ?_, ?_, ?_⟩
          · rw [decodeFrom]
            simp only [if_neg hb, hlead, hm]
          · rw [List.head?_cons, hbreaks.first_eq, hfirst]
          · exact Nat.lt_of_lt_of_le (by rw [hlength]; decide) hbreaks.le_length
          · rw [List.length_cons, Nat.add_comm, ← hlength]
            exact hbreaks.length_le
          · intro c hbegins
            obtain ⟨p', hsome, hallows, hbegins⟩ := exists_lead_of_begins position hb hbegins
            obtain rfl : p = p' := Option.some.inj (hlead.symm.trans hsome)
            exact hbreaks.never_begins _ hallows hbegins

theorem encodeChar_ne_nil (c : Char) : encodeChar c ≠ [] := by
  by_cases hc : c.toNat < 0x80
  · rw [encodeChar_of_lt hc]
    exact List.cons_ne_nil _ _
  · obtain ⟨b, k, -, hencode⟩ := exists_opens (Nat.not_lt.mp hc)
    rw [hencode]
    exact List.cons_ne_nil _ _

/-- The characters in front of bytes, as many as there are. -/
theorem exists_characters (bytes : List UInt8) :
    ∃ (chars : List Char) (rest : List UInt8), bytes = chars.flatMap encodeChar ++ rest ∧
      ∀ c, ¬encodeChar c <+: rest := by
  induction hn : bytes.length using Nat.strongRecOn generalizing bytes with
  | ind n ih =>
      by_cases hbegins : ∃ c, encodeChar c <+: bytes
      · obtain ⟨c, rest, rfl⟩ := hbegins
        have hpositive := List.length_pos_of_ne_nil (encodeChar_ne_nil c)
        rw [List.length_append] at hn
        obtain ⟨chars, last, rfl, hlast⟩ := ih rest.length (by omega) rest rfl
        exact ⟨c :: chars, last, by rw [List.flatMap_cons, List.append_assoc], hlast⟩
      · exact ⟨[], bytes, rfl, not_exists.mp hbegins⟩

theorem utf8EncodeChar_eq (c : Char) : String.utf8EncodeChar c = encodeChar c := by
  have hmost := toNat_lt c
  have hvalue : c.val.toNat = c.toNat := rfl
  have hlast : c.toNat % 64 + 128 = 0x80 + c.toNat % 64 := Nat.add_comm _ _
  simp only [String.utf8EncodeChar, encodeChar, hvalue, hlast, Nat.toUInt8_eq]
  by_cases hone : c.toNat < 0x80
  · rw [if_pos (by omega), if_pos hone]
  · rw [if_neg (by omega), if_neg hone]
    by_cases htwo : c.toNat < 0x800
    · have hfirst : c.toNat / 64 % 32 + 192 = 0xC0 + c.toNat / 64 := by omega
      rw [if_pos (by omega), if_pos htwo, hfirst]
    · have hsecond : c.toNat / 64 % 64 + 128 = 0x80 + c.toNat / 64 % 64 := Nat.add_comm _ _
      rw [if_neg (by omega), if_neg htwo, hsecond]
      by_cases hthree : c.toNat < 0x10000
      · have hfirst : c.toNat / 4096 % 16 + 224 = 0xE0 + c.toNat / 4096 := by omega
        rw [if_pos (by omega), if_pos hthree, hfirst]
      · have hfirst : c.toNat / 262144 % 8 + 240 = 0xF0 + c.toNat / 262144 := by omega
        have hthird : c.toNat / 4096 % 64 + 128 = 0x80 + c.toNat / 4096 % 64 := Nat.add_comm _ _
        rw [if_neg (by omega), if_neg hthree, hfirst, hthird]

theorem toUTF8_eq (text : String) :
    text.toUTF8.data.toList = text.toList.flatMap encodeChar := by
  rw [String.toUTF8_eq_toByteArray, ← String.utf8Encode_toList, List.utf8Encode,
    List.data_toByteArray, funext utf8EncodeChar_eq]

structure Malformed.Marks (m : Malformed) (bytes : List UInt8) : Prop where
  exists_text : ∃ text : String, bytes.take m.start = text.toUTF8.data.toList
  heads : m.Heads (bytes.drop m.start)

theorem decode_toUTF8 (text : String) : decode text.toUTF8.data.toList = .ok text := by
  have hdecode := decodeFrom_flatMap_encodeChar text.toList 0 [] []
  rw [List.append_nil] at hdecode
  rw [decode, toUTF8_eq, hdecode, decodeFrom, List.append_nil, List.reverse_reverse, Except.map,
    String.ofList_toList]

/-- Bytes are a text, or the first place is found where they are none. -/
theorem decode_spec (bytes : List UInt8) :
    (∃ text : String, bytes = text.toUTF8.data.toList ∧ decode bytes = .ok text) ∨
      (∀ text : String, bytes ≠ text.toUTF8.data.toList) ∧
        ∃ m, decode bytes = .error m ∧ m.Marks bytes := by
  obtain ⟨chars, rest, hbytes, hrest⟩ := exists_characters bytes
  have htext : chars.flatMap encodeChar = (String.ofList chars).toUTF8.data.toList := by
    rw [toUTF8_eq, String.toList_ofList]
  cases rest with
  | nil =>
      rw [List.append_nil, htext] at hbytes
      exact .inl ⟨String.ofList chars, hbytes, hbytes ▸ decode_toUTF8 _⟩
  | cons b rest =>
      obtain ⟨m, hm, hstart, hheads⟩ := (character_or_heads (chars.flatMap encodeChar).length
        chars.reverse).resolve_left fun ⟨c, rest', h⟩ => hrest c ⟨rest', h.symm⟩
      have hdecode : decode bytes = .error m := by
        have hfrom := decodeFrom_flatMap_encodeChar chars 0 [] (b :: rest)
        rw [Nat.zero_add, List.append_nil, hm] at hfrom
        rw [decode, hbytes, hfrom, Except.map]
      refine .inr ⟨?_, m, hdecode, ⟨String.ofList chars, ?_⟩, ?_⟩
      · rintro text rfl
        rw [decode_toUTF8] at hdecode
        contradiction
      · rw [hstart, hbytes, List.take_left, htext]
      · rw [hstart, hbytes, List.drop_left]
        exact hheads

theorem decode_eq_ok_iff {bytes : List UInt8} {text : String} :
    decode bytes = .ok text ↔ bytes = text.toUTF8.data.toList := by
  constructor
  · intro h
    rcases decode_spec bytes with ⟨found, rfl, hfound⟩ | ⟨-, m, hm, -⟩
    · rw [Except.ok.inj (hfound.symm.trans h)]
    · rw [hm] at h
      contradiction
  · rintro rfl
    exact decode_toUTF8 text

end BuildVersion.Text.Utf8
